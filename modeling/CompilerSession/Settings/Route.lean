namespace CompilerSession

/-!
# Routes

A path is the row of names from the top of a file system to a node.  A route is
what a text says of the way to one, step by step: down to a name, or up again.
Empty names and single dots stay where they are, except that a text may end with
them, which asks for a directory.
-/

/-- The names on the way from the top to a node. -/
abbrev FilePath := List String

/-- One step on the way to a node. -/
inductive Step where
  | up
  | down (name : String)
  deriving Repr, DecidableEq

/--
How the text of a route ends: with a name, with a separator after a name, or
with a single dot, which may have separators after it.
-/
inductive Ending where
  | name
  | separator
  | dot
  deriving Repr, DecidableEq

/--
The steps from the top to a node, and how long the text is that spells them.
-/
structure Route where
  steps : List Step
  ending : Ending
  bytes : Nat
  deriving Repr, DecidableEq

namespace Route

/-- The step of one component, if it leads anywhere. -/
def stepOf? (component : List Char) : Option Step :=
  match component with
  | [] => none
  | ['.'] => none
  | ['.', '.'] => some .up
  | _ => some (.down (String.ofList component))

/-- How a text ends whose components are given from the last to the first. -/
def endingOf : List (List Char) → Ending
  | [] => .separator
  | ['.'] :: _ => .dot
  | [] :: earlier => if endingOf earlier = .dot then .dot else .separator
  | _ :: _ => .name

/-- The number of bytes that spell a path. -/
def spelledBytes (path : FilePath) : Nat :=
  path.foldl (fun bytes name => bytes + 1 + name.utf8ByteSize) 0

/-- The route to a path. -/
def ofPath
    (path : FilePath) : Route :=
  ⟨path.map .down, .name, spelledBytes path⟩

/--
The route of a text, seen from a directory; a separator at the front leads to
the top.
-/
def ofText
    (directory : FilePath)
    (text : String) : Route :=
  let parts := text.toList.splitOn '/'
  let steps := parts.filterMap stepOf?
  let ending := endingOf parts.reverse
  if text.toList.head? = some '/' then ⟨steps, ending, text.utf8ByteSize⟩
  else
    ⟨directory.map .down ++ steps, ending,
      spelledBytes directory + 1 + text.utf8ByteSize⟩

/-- The route without its last step. -/
def parent? (route : Route) : Option Route :=
  match route.steps with
  | [] => none
  | first :: rest => some ⟨(first :: rest).dropLast, .name, route.bytes⟩

/-- A route to the parent has fewer steps. -/
theorem length_of_parent?
    {route parent : Route}
    (found : route.parent? = some parent) :
    parent.steps.length < route.steps.length := by
  unfold parent? at found
  split at found
  · cases found
  · rename_i shape
    cases found
    simp [shape]

end Route

end CompilerSession
