import CompilerSession.Backend.Basic
import CompilerSession.Report.Payload
import Mathlib.Data.Char

namespace CompilerSession

/-!
# Payloads of failures

A call that is refused or crashes is answered with a payload that reports it.
What a reader makes of that payload is the one fatal error with the message of
the failure, whatever characters the message has: a text that is written as a
literal is read back as it was, and so are the tokens around it.
-/

namespace Json.StringLiteral

/-- The control characters that have an escape of one letter. -/
def lettered : List Char :=
  ['\x08', '\x0c', '\n', '\r', '\t']

/-- What the written form of a character contributes. -/
def pieceOf (character : Char) : Piece :=
  if character < ' ' ∧ character ∉ lettered then .unit character.toNat
  else .plain character

/-- The hexadecimal digit of a value is read back as that value. -/
private theorem hexValue?_digitChar :
    ∀ value < 16, hexValue? (Nat.digitChar value) = some value := by
  decide

/-- A character that is written as a code unit is read back as its number. -/
private theorem read?_unit
    (character : Char)
    (rest : List Char)
    (control : character < ' ') :
    read?
        ('\\' :: 'u' :: '0' :: '0' :: Nat.digitChar (character.toNat / 16) ::
          Nat.digitChar (character.toNat % 16) :: rest) =
      (read? rest).map fun (pieces, after) =>
        (.unit character.toNat :: pieces, after) := by
  have below : character.toNat < 32 := control
  have zero : hexValue? '0' = some 0 := by
    decide
  have value :
      unit? '0' '0' (Nat.digitChar (character.toNat / 16))
        (Nat.digitChar (character.toNat % 16)) = some character.toNat := by
    simp only [unit?, zero,
      hexValue?_digitChar _ (by omega : character.toNat / 16 < 16),
      hexValue?_digitChar _ (by omega : character.toNat % 16 < 16),
      Option.bind_eq_bind, Option.bind_some, Option.pure_def, Option.some.injEq]
    omega
  rw [read?, value]
  cases read? rest with
  | none =>
      rfl
  | some found =>
      rfl

/-- An escape of one letter is read back as the character that it stands for. -/
private theorem read?_letter
    {letter character : Char}
    (rest : List Char)
    (other : letter ≠ 'u')
    (escape : escaped? letter = some character) :
    read? ('\\' :: letter :: rest) =
      (read? rest).map fun (pieces, after) =>
        (.plain character :: pieces, after) := by
  rw [read?]
  · rw [escape]
    cases read? rest with
    | none =>
        rfl
    | some found =>
        rfl
  · intro first second third fourth later isUnit
    exact absurd isUnit other

/-- The written form of a character is read back as its piece. -/
private theorem read?_encodeChar
    (character : Char)
    (rest : List Char) :
    read? (encodeChar character ++ rest) =
      (read? rest).map fun (pieces, after) =>
        (pieceOf character :: pieces, after) := by
  by_cases escaped : character ∈ '"' :: '\\' :: lettered
  · simp only [lettered, List.mem_cons, List.not_mem_nil, or_false] at escaped
    rcases escaped with rfl | rfl | rfl | rfl | rfl | rfl | rfl
    all_goals
      exact read?_letter rest (by decide) (by decide)
  · simp only [List.mem_cons, not_or] at escaped
    obtain ⟨notQuote, notBackslash, unlettered⟩ := escaped
    have others := unlettered
    simp only [lettered, List.mem_cons, List.not_mem_nil, or_false,
      not_or] at others
    simp only [encodeChar, notQuote, notBackslash, others, ↓reduceIte]
    by_cases control : character < ' '
    · simp only [pieceOf, control, unlettered, not_false_eq_true, and_self,
        ↓reduceIte]
      exact read?_unit character rest control
    · simp only [pieceOf, control, false_and, ↓reduceIte, List.singleton_append]
      rw [read?]
      · simp [control, notBackslash]
      · exact notQuote
      · intro first second third fourth later isBackslash
        exact absurd isBackslash notBackslash
      · intro letter later isBackslash
        exact absurd isBackslash notBackslash

/-- A written character stands for itself, whatever follows. -/
private theorem characters?_pieceOf
    (character : Char)
    (rest : List Piece) :
    characters? (pieceOf character :: rest) =
      (characters? rest).map (character :: ·) := by
  unfold pieceOf
  split
  · rename_i control
    have below : character.toNat < 32 := control.1
    have notHigh : isHigh character.toNat = false := by
      simp [isHigh]
      omega
    have notLow : isLow character.toNat = false := by
      simp [isLow]
      omega
    cases rest with
    | nil =>
        simp [characters?, notHigh, notLow, Char.ofNat_toNat]
    | cons next later =>
        cases next <;> simp [characters?, notHigh, notLow, Char.ofNat_toNat]
  · rfl

/-- A written text is read back, up to its closing quote. -/
theorem read?_encode
    (characters rest : List Char) :
    read? (characters.flatMap encodeChar ++ '"' :: rest) =
      some (characters.map pieceOf, rest) := by
  induction characters with
  | nil =>
      rfl
  | cons first others inductionHypothesis =>
      rw [List.flatMap_cons, List.append_assoc, read?_encodeChar,
        inductionHypothesis]
      rfl

/-- The pieces of an encoded text make up that text. -/
theorem text?_encode (text : String) :
    text? (text.toList.map pieceOf) = some text := by
  have characters :
      ∀ others : List Char,
        characters? (others.map pieceOf) = some others := by
    intro others
    induction others with
    | nil =>
        rfl
    | cons first others inductionHypothesis =>
        rw [List.map_cons, characters?_pieceOf, inductionHypothesis]
        rfl
  rw [text?, characters, Option.map_some, String.ofList_toList]

end Json.StringLiteral

namespace Json.Token

/-- A token at the front of a text is the first of its tokens. -/
theorem scan_cons
    {text rest : List Char}
    {token : Token}
    (visible : text.dropWhile isBlank = text)
    (found : next? text = some (token, rest)) :
    scan text = token :: scan rest := by
  rw [scan.eq_def]
  split
  · rename_i other later same
    rw [visible, found] at same
    cases same
    rfl
  · rename_i none
    rw [visible, found] at none
    cases none

@[simp] theorem scan_nil : scan [] = [] := by
  rw [scan.eq_def]
  rfl

@[simp] theorem scan_openObject (rest : List Char) :
    scan ('{' :: rest) = .openObject :: scan rest :=
  scan_cons rfl rfl

@[simp] theorem scan_closeObject (rest : List Char) :
    scan ('}' :: rest) = .closeObject :: scan rest :=
  scan_cons rfl rfl

@[simp] theorem scan_comma (rest : List Char) :
    scan (',' :: rest) = .comma :: scan rest :=
  scan_cons rfl rfl

@[simp] theorem scan_colon (rest : List Char) :
    scan (':' :: rest) = .colon :: scan rest :=
  scan_cons rfl rfl

/-- An encoded text is scanned as one literal of that text. -/
@[simp] theorem scan_encode
    (text : String)
    (rest : List Char) :
    scan (StringLiteral.encode text ++ rest) =
      .string (some text) :: scan rest := by
  refine scan_cons rfl ?_
  have read := StringLiteral.read?_encode text.toList rest
  have shape :
      StringLiteral.encode text ++ rest =
        '"' ::
          (text.toList.flatMap StringLiteral.encodeChar ++ '"' :: rest) := by
    simp [StringLiteral.encode]
  rw [shape]
  show (StringLiteral.read? _).map _ = _
  rw [read, ← StringLiteral.text?_encode text]
  rfl

end Json.Token

/-- The members of the diagnostic in the payload of a failure. -/
private def failureMembers
    (message : String) : List (Option String × Json.Tree) :=
  [(some "formattedMessage", .string (some message)),
    (some "message", .string (some message)),
    (some "severity", .string (some "error"))]

/-- The tree of the payload of a failure. -/
private def failureTree (message : String) : Json.Tree :=
  .object [(some "error", .object (failureMembers message) true)] true

/-- The payload of a failure is read as the tree of its one diagnostic. -/
private theorem ofText_failurePayload (message : String) :
    Json.Document.ofText (Answer.failurePayload message) =
      ⟨some (failureTree message), true⟩ := by
  simp [Json.Document.ofText, Answer.failurePayload, Json.text, Json.render,
    Json.renderMembers, Json.Document.build, Json.Tree.step,
    Json.Tree.takeValue, Json.Tree.takeKey, Json.Tree.takeEnd,
    Json.Tree.takeComma, Json.Tree.place, failureTree, failureMembers]

/-- A computation that succeeded goes on with its value. -/
theorem ok_bind
    {ε α β : Type}
    (value : α)
    (next : α → Except ε β) :
    (Except.ok value >>= next) = next value :=
  rfl

/--
The diagnostic of a failure payload is decoded as an error with its message.
-/
private theorem ofTree_failure
    (room : Nat)
    (message : String) :
    Diagnostic.ofTree (room + 1) (.object (failureMembers message) true) =
      .ok (.error message) := by
  have value :
      Json.Tree.value (room + 1) (.object (failureMembers message) true) =
        .ok (.object
          [("formattedMessage", .string message), ("message", .string message),
            ("severity", .string "error")]) :=
    rfl
  have once : Diagnostic.repeatsField (failureMembers message) = false := by
    simp [Diagnostic.repeatsField, Diagnostic.fieldNames, failureMembers]
  have severity : Severity.ofText (some "error") = .error := by
    decide +kernel
  unfold Diagnostic.ofTree
  rw [value, ok_bind]
  simp only [once, Bool.false_eq_true, ↓reduceIte]
  simp [Diagnostic.ofFields, Diagnostic.textField, Diagnostic.presentValue?,
    Entries.find?, ok_bind, severity]
  rfl

/-- The payload of a failure is read as the one error with its message. -/
theorem Report.ofPayload_failurePayload (message : String) :
    Report.ofPayload (Answer.failurePayload message) =
      .ofError (.error message) := by
  have tree :
      Report.ofTree Json.roomiest (failureTree message) =
        .ok (.ofError (.error message)) := by
    have diagnostic := ofTree_failure 125 message
    simp [Report.ofTree, failureTree, Json.roomiest, Json.Tree.enter,
      Json.Tree.keep, Report.Fields.read, Report.Fields.topError, diagnostic,
      ok_bind]
    rfl
  unfold Report.ofPayload Json.decodeText
  rw [ofText_failurePayload]
  dsimp only
  rw [tree]
  rfl

/-- The payload of a failure is always fatal. -/
theorem Answer.isFatal_failurePayload (message : String) :
    (Report.ofPayload (failurePayload message)).verdict.isFatal = true := by
  rw [Report.ofPayload_failurePayload]
  rfl

/-- Whoever asks for something misses something. -/
theorem Answer.distinct_ne_nil
    (first : String)
    (rest : List String) :
    distinct (first :: rest) ≠ [] := by
  have kept :
      ∀ (values known : List String),
        known ≠ [] →
        values.foldl
          (fun known value => if value ∈ known then known else known ++ [value])
          known ≠ [] := by
    intro values
    induction values with
    | nil =>
        exact fun _ some => some
    | cons value others inductionHypothesis =>
        intro known some
        apply inductionHypothesis
        dsimp only
        split
        · exact some
        · simp
  exact kept rest _ (by simp)

/-- A complete answer that is not fatal is that of a call that returned. -/
theorem Answer.returned_of_sound
    {call : Call}
    (complete : (ofCall call).missing = [])
    (sound :
      ¬ (Report.ofPayload (ofCall call).payload).verdict.isFatal = true) :
    call = ⟨[], .returned (ofCall call).payload⟩ := by
  rcases call with ⟨requested, outcome⟩
  cases requested with
  | cons first rest =>
      exact absurd complete (distinct_ne_nil first rest)
  | nil =>
      cases outcome with
      | returned payload =>
          rfl
      | refused error =>
          exact absurd
            (isFatal_failurePayload ("Uncaught exception:\n" ++ error)) sound
      | crashed text? =>
          exact
            absurd
              (isFatal_failurePayload
                ("Uncaught exception:\n" ++ text?.getD "backend panicked"))
              sound

end CompilerSession
