namespace CompilerSession

/-!
# Versions

A version has three numbers and may be a pre-release.  Versions are ordered by
their numbers; of two versions with the same numbers a pre-release comes before
the release, and two pre-releases are ordered identifier by identifier: numbers
by value and before words, words by their characters, and a shorter row before
its extensions.
-/

/-- One part of a pre-release tag. -/
inductive Identifier where
  | numeric (value : Nat)
  | word (text : String)
  deriving Repr, DecidableEq

namespace Identifier

/-- Read an identifier; one that consists of digits is a number. -/
def ofText (text : List Char) : Identifier :=
  if text.all Char.isDigit && !text.isEmpty then
    .numeric (Nat.ofDigitChars 10 text 0)
  else .word (String.ofList text)

/-- The order of identifiers. -/
def compare : Identifier → Identifier → Ordering
  | .numeric left, .numeric right => Ord.compare left right
  | .numeric _, .word _ => .lt
  | .word _, .numeric _ => .gt
  | .word left, .word right => Ord.compare left right

end Identifier

/-- A version; an empty pre-release tag marks a release. -/
structure Version where
  major : Nat
  minor : Nat
  patch : Nat
  prerelease : List Identifier
  deriving Repr, DecidableEq

namespace Version

/-- The release with three numbers. -/
def release (major minor patch : Nat) : Version := ⟨major, minor, patch, []⟩

/-- Cut a text at every dot. -/
def splitDots : List Char → List (List Char)
  | [] => [[]]
  | character :: rest =>
    if character = '.' then [] :: splitDots rest
    else
      match splitDots rest with
      | [] => [[character]]
      | first :: others => (character :: first) :: others

/-- The identifiers of a pre-release tag. -/
def tag (text : String) : List Identifier :=
  if text.isEmpty then [] else (splitDots text.toList).map Identifier.ofText

/-- The order of the identifiers of two pre-release tags. -/
def compareIdentifiers : List Identifier → List Identifier → Ordering
  | [], [] => .eq
  | [], _ :: _ => .lt
  | _ :: _, [] => .gt
  | left :: lefts, right :: rights =>
    (left.compare right).then (compareIdentifiers lefts rights)

/-- The order of two tags, where having none comes last. -/
def compareTags : List Identifier → List Identifier → Ordering
  | [], [] => .eq
  | [], _ :: _ => .gt
  | _ :: _, [] => .lt
  | left, right => compareIdentifiers left right

/-- The order of versions. -/
def compare (left right : Version) : Ordering :=
  (Ord.compare left.major right.major).then
    ((Ord.compare left.minor right.minor).then
      ((Ord.compare left.patch right.patch).then
        (compareTags left.prerelease right.prerelease)))

/-- Whether a version comes before the release with three numbers. -/
def precedes
    (version : Version)
    (major minor patch : Nat) : Bool :=
  version.compare (release major minor patch) == .lt

/-- The numbers of a version, with dots between them. -/
def text (version : Version) : String :=
  toString version.major ++ "." ++ toString version.minor ++ "." ++
    toString version.patch

end Version

end CompilerSession
