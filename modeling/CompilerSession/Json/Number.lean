import CompilerSession.Json.Double
import CompilerSession.Text.Digit

namespace CompilerSession.Json

/-!
# Numbers

A number is an integer of at most 64 bits, signed or unsigned, or a double.  So
no integer lies below minus `2 ^ 63`, and all lie below `2 ^ 64`.

What a text spells is a `NumberLiteral`: `read?` takes one from the front of a
text, and `value?` says which number it stands for.  Only a literal without
fraction and exponent stands for an integer, and only if it fits; minus zero
does not.
-/

/-- A number as the program holds it. -/
inductive Number where
  | integer (value : Int)
      (fits : -0x8000000000000000 ≤ value ∧ value < 0x10000000000000000)
  | double (value : Double)
  deriving Repr, DecidableEq

namespace Number

/-- A natural number of at most 64 bits. -/
def ofUInt64 (value : UInt64) : Number :=
  .integer value.toNat ⟨by omega, by have bound := value.toNat_lt; omega⟩

/-- The value of an integer that is not negative. -/
def natural? : Number → Option Nat
  | .integer value _ => if 0 ≤ value then some value.toNat else none
  | .double _ => none

/-- The text of a number. -/
def render : Number → List Char
  | .integer (.ofNat value) _ => Nat.toDigits 10 value
  | .integer (.negSucc value) _ => '-' :: Nat.toDigits 10 (value + 1)
  | .double value => value.render

end Number

/-- The parts of a number as it is spelled. -/
structure NumberLiteral where
  negative : Bool
  integer : List Char
  fraction : List Char
  exponent? : Option Int
  deriving Repr, DecidableEq

namespace NumberLiteral

/--
The digits at the front of a text, of which there has to be one, and the rest.
-/
def digits? (text : List Char) : Option (List Char × List Char) :=
  match text.takeWhile Char.isDigit with
  | [] => none
  | digits => some (digits, text.dropWhile Char.isDigit)

/-- The sign at the front of a text, if any. -/
def sign (text : List Char) : Bool × List Char :=
  match text with
  | '-' :: rest => (true, rest)
  | _ => (false, text)

/--
The integer part: a zero on its own, or digits that start with another one.
-/
def integer? (text : List Char) : Option (List Char × List Char) :=
  match digits? text with
  | some ('0' :: _ :: _, _) => none
  | read => read

/-- The digits after the point, if there is a point. -/
def fraction? (text : List Char) : Option (List Char × List Char) :=
  match text with
  | '.' :: rest => digits? rest
  | _ => some ([], text)

/-- The value of the exponent after its letter. -/
def exponentValue? (text : List Char) : Option (Int × List Char) :=
  match text with
  | '-' :: rest => (digits? rest).map fun read =>
      (-(Text.numeral read.1 : Int), read.2)
  | '+' :: rest => (digits? rest).map fun read =>
      ((Text.numeral read.1 : Int), read.2)
  | _ => (digits? text).map fun read => ((Text.numeral read.1 : Int), read.2)

/-- The exponent, if there is one. -/
def exponentPart? (text : List Char) : Option (Option Int × List Char) :=
  match text with
  | 'e' :: rest => (exponentValue? rest).map fun read => (some read.1, read.2)
  | 'E' :: rest => (exponentValue? rest).map fun read => (some read.1, read.2)
  | _ => some (none, text)

/-- The literal at the front of a text and the text after it. -/
def read? (text : List Char) : Option (NumberLiteral × List Char) := do
  let (negative, unsigned) := sign text
  let (integer, afterInteger) ← integer? unsigned
  let (fraction, afterFraction) ← fraction? afterInteger
  let (exponent?, rest) ← exponentPart? afterFraction
  return (⟨negative, integer, fraction, exponent?⟩, rest)

/-- Digits are taken from the front. -/
theorem digits?_length
    {text digits rest : List Char}
    (found : digits? text = some (digits, rest)) :
    rest.length < text.length := by
  unfold digits? at found
  split at found
  · cases found
  · rename_i nonempty
    cases found
    have parts := congrArg List.length
      (List.takeWhile_append_dropWhile (p := Char.isDigit) (l := text))
    rw [List.length_append] at parts
    have positive : 0 < (text.takeWhile Char.isDigit).length :=
      List.length_pos_iff.mpr (by simpa using nonempty)
    omega

/-- A sign that is read off leaves no more text than there was. -/
private theorem sign_length
    (text : List Char) :
    (sign text).2.length ≤ text.length := by
  unfold sign
  split <;> simp

/-- An integer part that is read off leaves less text than there was. -/
private theorem integer?_length
    {text digits rest : List Char}
    (found : integer? text = some (digits, rest)) :
    rest.length < text.length := by
  unfold integer? at found
  split at found
  · cases found
  · exact digits?_length found

/-- A fraction, which may be empty, leaves no more text than there was. -/
private theorem fraction?_length
    {text digits rest : List Char}
    (found : fraction? text = some (digits, rest)) :
    rest.length ≤ text.length := by
  unfold fraction? at found
  split at found
  · have shorter := digits?_length found
    simp only [List.length_cons]
    omega
  · cases found
    exact Nat.le_refl _

/-- The value of an exponent is read off a shorter text than was given. -/
private theorem exponentValue?_length
    {text rest : List Char}
    {value : Int}
    (found : exponentValue? text = some (value, rest)) :
    rest.length ≤ text.length := by
  unfold exponentValue? at found
  split at found
  · obtain ⟨read, digits, same⟩ := Option.map_eq_some_iff.mp found
    cases same
    exact Nat.le_succ_of_le (Nat.le_of_lt (digits?_length digits))
  · obtain ⟨read, digits, same⟩ := Option.map_eq_some_iff.mp found
    cases same
    exact Nat.le_succ_of_le (Nat.le_of_lt (digits?_length digits))
  · obtain ⟨read, digits, same⟩ := Option.map_eq_some_iff.mp found
    cases same
    exact Nat.le_of_lt (digits?_length digits)

private theorem exponentPart?_length
    {text rest : List Char}
    {value : Option Int}
    (found : exponentPart? text = some (value, rest)) :
    rest.length ≤ text.length := by
  unfold exponentPart? at found
  split at found
  · obtain ⟨read, inner, same⟩ := Option.map_eq_some_iff.mp found
    cases same
    have shorter := exponentValue?_length inner
    simp only [List.length_cons]
    omega
  · obtain ⟨read, inner, same⟩ := Option.map_eq_some_iff.mp found
    cases same
    have shorter := exponentValue?_length inner
    simp only [List.length_cons]
    omega
  · cases found
    exact Nat.le_refl _

/-- A literal is taken from the front. -/
theorem read?_length
    {text rest : List Char}
    {literal : NumberLiteral}
    (found : read? text = some (literal, rest)) :
    rest.length < text.length := by
  simp only [read?, Option.bind_eq_bind, Option.bind_eq_some_iff] at found
  obtain ⟨⟨integer, afterInteger⟩, readInteger, ⟨fraction, afterFraction⟩,
    readFraction, ⟨exponent, afterExponent⟩, readExponent, same⟩ := found
  cases same
  have one := sign_length text
  have two := integer?_length readInteger
  have three := fraction?_length readFraction
  have four := exponentPart?_length readExponent
  dsimp only at two three four ⊢
  omega

/--
Take digits into a value as long as it stays below `2 ^ 64`, and return those
left.
-/
def accumulate (value : Nat) : List Char → Nat × List Char
  | [] => (value, [])
  | digit :: rest =>
    let next := value * 10 + Text.digitValue digit
    if next < 0x10000000000000000 then accumulate next rest else
      (value, digit :: rest)

/--
The double of a literal.  Digits of the integer part that do not fit any more
only raise the exponent, those of the fraction are dropped.
-/
def double? (literal : NumberLiteral) : Option Double :=
  let (integer, integerLeft) := accumulate 0 literal.integer
  let (significand, fractionLeft) := accumulate integer literal.fraction
  let taken := literal.fraction.length - fractionLeft.length
  let shift : Int := integerLeft.length - taken
  Double.ofDecimal? literal.negative significand
    (shift + literal.exponent?.getD 0)

/-- The integer of a literal, if it spells one that fits. -/
def integerValue? (literal : NumberLiteral) : Option Number :=
  let magnitude := Text.numeral literal.integer
  if literal.fraction ≠ [] ∨ literal.exponent?.isSome then none
  else if literal.negative then
    if fits : 0 < magnitude ∧ magnitude ≤ 0x8000000000000000 then
      some (.integer (-(magnitude : Int)) (by omega))
    else none
  else
    if fits : magnitude < 0x10000000000000000 then
      some (.integer magnitude (by omega)) else none

/-- The number that a literal stands for; none if it is beyond every double. -/
def value? (literal : NumberLiteral) : Option Number :=
  match literal.integerValue? with
  | some number => some number
  | none => literal.double?.map Number.double

end NumberLiteral

end CompilerSession.Json
