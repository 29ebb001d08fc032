namespace CompilerSession.Json.StringLiteral

/-!
# String literals

A string literal is read in two steps.  `read?` takes its pieces from the text:
plain characters, which every escape but one stands for, and code units of
sixteen bits.  `text?` joins the code units to characters, which fails when a
surrogate lacks its partner.  `encode` writes a text so that both steps give it
back, with an escape only where a plain character may not stand.
-/

/-- What one character or one escape of a literal contributes. -/
inductive Piece where
  | plain (character : Char)
  | unit (value : Nat)
  deriving Repr, DecidableEq

/-- The value of a hexadecimal digit of either case. -/
def hexValue? (digit : Char) : Option Nat :=
  if digit.isDigit then some (digit.toNat - '0'.toNat)
  else if 'a' ≤ digit ∧ digit ≤ 'f' then some (digit.toNat - 'a'.toNat + 10)
  else if 'A' ≤ digit ∧ digit ≤ 'F' then some (digit.toNat - 'A'.toNat + 10)
  else none

/-- The value of four hexadecimal digits. -/
def unit? (first second third fourth : Char) : Option Nat := do
  let a ← hexValue? first
  let b ← hexValue? second
  let c ← hexValue? third
  let d ← hexValue? fourth
  return ((a * 16 + b) * 16 + c) * 16 + d

/-- The character that a one-letter escape stands for. -/
def escaped? (letter : Char) : Option Char :=
  if letter = '"' then some '"'
  else if letter = '\\' then some '\\'
  else if letter = '/' then some '/'
  else if letter = 'b' then some '\x08'
  else if letter = 'f' then some '\x0c'
  else if letter = 'n' then some '\n'
  else if letter = 'r' then some '\r'
  else if letter = 't' then some '\t'
  else none

/-- The pieces up to the closing quote and the text after it. -/
def read? : List Char → Option (List Piece × List Char)
  | [] => none
  | '"' :: rest => some ([], rest)
  | '\\' :: 'u' :: first :: second :: third :: fourth :: rest =>
    match unit? first second third fourth, read? rest with
    | some value, some (pieces, after) => some (.unit value :: pieces, after)
    | _, _ => none
  | '\\' :: letter :: rest =>
    match escaped? letter, read? rest with
    | some character, some (pieces, after) =>
        some (.plain character :: pieces, after)
    | _, _ => none
  | character :: rest =>
    if character < ' ' ∨ character = '\\' then none
    else (read? rest).map fun (pieces, after) =>
      (.plain character :: pieces, after)

/-- Whether a code unit opens a pair of surrogates. -/
def isHigh (value : Nat) : Bool := 0xD800 ≤ value && value ≤ 0xDBFF

/-- Whether a code unit closes a pair of surrogates. -/
def isLow (value : Nat) : Bool := 0xDC00 ≤ value && value ≤ 0xDFFF

/-- The characters of a literal; none if a surrogate stands alone. -/
def characters? : List Piece → Option (List Char)
  | [] => some []
  | .plain character :: rest => (characters? rest).map (character :: ·)
  | .unit high :: .unit low :: rest =>
    if isHigh high then
      if isLow low then
        (characters? rest).map
          (Char.ofNat (0x10000 + (high - 0xD800) * 0x400 + (low - 0xDC00)) :: ·)
      else none
    else if isLow high then none
    else (characters? (.unit low :: rest)).map (Char.ofNat high :: ·)
  | .unit value :: rest =>
    if isHigh value || isLow value then none
    else (characters? rest).map (Char.ofNat value :: ·)

/-- The text of a literal; none if a surrogate stands alone. -/
def text?
    (pieces : List Piece) :
    Option String :=
  (characters? pieces).map String.ofList

/-- A character as it is written inside a literal. -/
def encodeChar (character : Char) : List Char :=
  if character = '"' then ['\\', '"']
  else if character = '\\' then ['\\', '\\']
  else if character = '\x08' then ['\\', 'b']
  else if character = '\x0c' then ['\\', 'f']
  else if character = '\n' then ['\\', 'n']
  else if character = '\r' then ['\\', 'r']
  else if character = '\t' then ['\\', 't']
  else if character < ' ' then
    ['\\', 'u', '0', '0', Nat.digitChar (character.toNat / 16),
      Nat.digitChar (character.toNat % 16)]
  else [character]

/-- A text as a literal, between its quotes. -/
def encode (text : String) : List Char :=
  '"' :: (text.toList.flatMap encodeChar ++ ['"'])

/-- What follows a literal is shorter than the literal with it. -/
theorem read?_length
    {text after : List Char}
    {pieces : List Piece}
    (found : read? text = some (pieces, after)) :
    after.length < text.length := by
  fun_induction read? text generalizing pieces after with
  | case1 | case4 | case6 | case7 =>
      cases found
  | case2 =>
      cases found; simp
  | case3 _ _ _ _ _ _ _ _ read _ inductionHypothesis =>
      cases found
      have shorter := inductionHypothesis read
      simp only [List.length_cons]
      omega
  | case5 _ _ _ _ _ _ read _ inductionHypothesis =>
      cases found
      have shorter := inductionHypothesis read
      simp only [List.length_cons]
      omega
  | case8 _ _ _ _ _ _ inductionHypothesis =>
      obtain ⟨inner, read, same⟩ := Option.map_eq_some_iff.mp found
      cases same
      have shorter := inductionHypothesis read
      simp only [List.length_cons]
      omega

end CompilerSession.Json.StringLiteral
