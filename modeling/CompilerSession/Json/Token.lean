import CompilerSession.Json.Number
import CompilerSession.Json.StringLiteral

namespace CompilerSession.Json

/-!
# Tokens of a JSON text

`Token.scan` cuts a text into marks, words, numbers and strings and drops the
blanks between them.  At the first place where no token starts it ends with a
fault, so the tokens before that place can still be looked at.
-/

/-- A token; a string whose surrogates do not pair has no text. -/
inductive Token where
  | openArray
  | closeArray
  | openObject
  | closeObject
  | comma
  | colon
  | null
  | bool (value : Bool)
  | number (literal : NumberLiteral)
  | string (text? : Option String)
  | fault
  deriving Repr, DecidableEq

namespace Token

/-- The four characters that may stand between tokens. -/
def isBlank (character : Char) : Bool :=
  character == ' ' || character == '\t' || character == '\n' ||
    character == '\r'

/-- The token at the front of a text and the text after it. -/
def next? (text : List Char) : Option (Token × List Char) :=
  match text with
  | '[' :: rest => some (.openArray, rest)
  | ']' :: rest => some (.closeArray, rest)
  | '{' :: rest => some (.openObject, rest)
  | '}' :: rest => some (.closeObject, rest)
  | ',' :: rest => some (.comma, rest)
  | ':' :: rest => some (.colon, rest)
  | 'n' :: 'u' :: 'l' :: 'l' :: rest => some (.null, rest)
  | 't' :: 'r' :: 'u' :: 'e' :: rest => some (.bool true, rest)
  | 'f' :: 'a' :: 'l' :: 's' :: 'e' :: rest => some (.bool false, rest)
  | '"' :: rest =>
    (StringLiteral.read? rest).map fun (pieces, after) =>
      (.string (StringLiteral.text? pieces), after)
  | _ =>
    (NumberLiteral.read? text).map fun (literal, after) =>
      (.number literal, after)

/-- A token is taken from the front. -/
theorem next?_length
    {text rest : List Char}
    {token : Token}
    (found : next? text = some (token, rest)) :
    rest.length < text.length := by
  unfold next? at found
  split at found
  case h_10 =>
    obtain ⟨read, literal, same⟩ := Option.map_eq_some_iff.mp found
    cases same
    have shorter := StringLiteral.read?_length literal
    simp only [List.length_cons]
    omega
  case h_11 =>
    obtain ⟨read, literal, same⟩ := Option.map_eq_some_iff.mp found
    cases same
    exact NumberLiteral.read?_length literal
  all_goals
    cases found
    simp only [List.length_cons]
    omega

/-- The tokens of a text, up to the first place where none starts. -/
def scan (text : List Char) : List Token :=
  match found : next? (text.dropWhile isBlank) with
  | some (token, rest) =>
    have _shorter : rest.length < text.length :=
      Nat.lt_of_lt_of_le (next?_length found)
        (List.dropWhile_suffix isBlank).length_le
    token :: scan rest
  | none => if (text.dropWhile isBlank).isEmpty then [] else [.fault]
termination_by text.length

end Token

end CompilerSession.Json
