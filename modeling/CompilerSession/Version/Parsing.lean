import CompilerSession.Failure
import CompilerSession.Text.Blank
import CompilerSession.Text.Digit
import CompilerSession.Text.Quoted
import CompilerSession.Version.Basic

namespace CompilerSession.Version

/-!
# Reading versions

A compiler names its version with decoration: white space around it, letters `v`
before it, build metadata after it.  `truncate` keeps the three numbers if the
text has them, in the digits of any script, and `parse` then takes ASCII numbers
alone, without leading zeros and below `2 ^ 64`.
-/

/--
A number at the front of a text, in the digits of any script, and the rest.
-/
def digits? (text : List Char) : Option (List Char × List Char) :=
  match text.takeWhile Text.isDecimalDigit with
  | [] => none
  | digits => some (digits, text.dropWhile Text.isDecimalDigit)

/-- The text after a dot at its front. -/
def afterDot? (text : List Char) : Option (List Char) :=
  match text with
  | '.' :: rest => some rest
  | _ => none

/-- The three numbers at the front of a text, with the dots between them. -/
def leadingRelease? (text : List Char) : Option (List Char) := do
  let (major, afterMajor) ← digits? text
  let minorOn ← afterDot? afterMajor
  let (minor, afterMinor) ← digits? minorOn
  let patchOn ← afterDot? afterMinor
  let (patch, _) ← digits? patchOn
  return major ++ '.' :: (minor ++ '.' :: patch)

/-- The text without white space around it and letters `v` before it. -/
def undecorated
    (text : List Char) : List Char :=
  (Text.trim text).dropWhile (· == 'v')

/-- The three numbers that a text starts with, or the whole text. -/
def truncate (text : String) : String :=
  match leadingRelease? (undecorated text.toList) with
  | some release => String.ofList release
  | none => text

/-- The three numbers by their places. -/
inductive Part where
  | major
  | minor
  | patch
  deriving Repr, DecidableEq

/-- What a message calls a part. -/
def Part.name : Part → String
  | .major => "major version number"
  | .minor => "minor version number"
  | .patch => "patch version number"

/-- Why a text is no release. -/
inductive ParsingError where
  | empty
  | unexpectedEnd (part : Part)
  | unexpectedCharacter (character : Char) (part : Part)
  | unexpectedCharacterAfter (character : Char) (part : Part)
  | leadingZero (part : Part)
  | tooLarge (part : Part)
  deriving Repr, DecidableEq

/-- The wording of an error. -/
def ParsingError.message : ParsingError → String
  | .empty => "empty string, expected a semver version"
  | .unexpectedEnd part => "unexpected end of input while parsing " ++ part.name
  | .unexpectedCharacter character part =>
    "unexpected character " ++ Text.quoted character ++ " while parsing " ++
      part.name
  | .unexpectedCharacterAfter character part =>
    "unexpected character " ++ Text.quoted character ++ " after " ++ part.name
  | .leadingZero part => "invalid leading zero in " ++ part.name
  | .tooLarge part => "value of " ++ part.name ++ " exceeds u64::MAX"

/-- The number at the front of a text and the rest. -/
def number
    (part : Part)
    (text : List Char) : Except ParsingError (Nat × List Char) :=
  match text.takeWhile Char.isDigit with
  | [] =>
    match text with
    | [] => .error (.unexpectedEnd part)
    | character :: _ => .error (.unexpectedCharacter character part)
  | '0' :: _ :: _ => .error (.leadingZero part)
  | digits =>
    if Text.numeral digits < UInt64.size then
      .ok (Text.numeral digits, text.dropWhile Char.isDigit)
    else .error (.tooLarge part)

/-- The text after the dot that has to follow a part. -/
def dotAfter
    (part : Part)
    (text : List Char) : Except ParsingError (List Char) :=
  match text with
  | [] => .error (.unexpectedEnd part)
  | character :: rest =>
    if character = '.' then .ok rest else
      .error (.unexpectedCharacterAfter character part)

/-- The release that a text is. -/
def ofRelease (text : List Char) : Except ParsingError Version :=
  if text.isEmpty then .error .empty
  else do
    let (major, afterMajor) ← number .major text
    let minorOn ← dotAfter .major afterMajor
    let (minor, afterMinor) ← number .minor minorOn
    let patchOn ← dotAfter .minor afterMinor
    let (patch, rest) ← number .patch patchOn
    match rest with
    | [] => .ok (release major minor patch)
    | character :: _ => .error (.unexpectedCharacterAfter character .patch)

/-- The version that a compiler names, without its decoration. -/
def parse (text : String) : Except Failure Version :=
  (ofRelease (truncate text).toList).mapError fun error =>
    .whileDoing "Failed to parse compiler version" error.message

end CompilerSession.Version
