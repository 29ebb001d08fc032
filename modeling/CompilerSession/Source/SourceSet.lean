import CompilerSession.OrderedMap

namespace CompilerSession

/-!
# Source files by path

A source set only grows: a path that is present keeps its content, so every
later pass over a request sees the files of the earlier ones.  The main
statements say what `insert` does to `content?` and to `contains`, and that
`ofList` keeps the first content given for a path.
-/

/-- A source unit, given by the caller or fetched. -/
structure SourceUnit where
  path : String
  content : String
  deriving Repr, DecidableEq

/-- Contents by path, listed in ascending order of the paths. -/
structure SourceSet where
  contents : OrderedMap String
  deriving DecidableEq

namespace SourceSet

/-- The set without files. -/
def empty : SourceSet := ⟨OrderedMap.empty⟩

instance : Inhabited SourceSet := ⟨empty⟩

/-- The content of the file at a path. -/
def content?
    (files : SourceSet)
    (path : String) : Option String :=
  files.contents.find? path

/-- Whether a file stands at a path. -/
def contains
    (files : SourceSet)
    (path : String) : Bool :=
  (files.content? path).isSome

/-- The file at a path. -/
def get?
    (files : SourceSet)
    (path : String) : Option SourceUnit :=
  (files.content? path).map fun content => ⟨path, content⟩

/-- Add a file, unless its path is taken. -/
def insert
    (files : SourceSet)
    (path content : String) : SourceSet :=
  if files.contains path then files else ⟨files.contents.insert path content⟩

/-- Add a file and tell whether the set grew. -/
def add
    (files : SourceSet)
    (path content : String) : Bool × SourceSet :=
  (!files.contains path, files.insert path content)

/-- Add files one after the other, so that the first content of a path stays. -/
def insertAll
    (files : SourceSet)
    (pairs : List (String × String)) : SourceSet :=
  pairs.foldl (fun known pair => known.insert pair.1 pair.2) files

/-- The set of the files given, where the first content of a path stays. -/
def ofList (pairs : List (String × String)) : SourceSet := empty.insertAll pairs

/-- The files in ascending order of their paths. -/
def toList (files : SourceSet) : List SourceUnit :=
  files.contents.entries.map fun entry => ⟨entry.1, entry.2⟩

/-- The paths in ascending order. -/
def paths (files : SourceSet) : List String := files.contents.keys

/-- The number of files. -/
def size (files : SourceSet) : Nat := files.contents.size

/-- Whether there is no file. -/
def isEmpty (files : SourceSet) : Bool := files.contents.isEmpty

/-- No path has content in an empty set. -/
@[simp] theorem content?_empty
    (path : String) :
    empty.content? path = none :=
  rfl

/--
An insertion gives a content to its own path, and only if that path had none.
-/
theorem content?_insert
    (files : SourceSet)
    (path content wanted : String) :
    (files.insert path content).content? wanted =
      if wanted = path ∧ files.contains path = false then some content
      else files.content? wanted := by
  unfold insert
  cases taken : files.contains path with
  | true =>
      simp
  | false =>
      by_cases same : wanted = path <;> simp [content?, same]

/-- After an insertion its path is present, and so is every path that was. -/
@[simp] theorem contains_insert
    (files : SourceSet)
    (path content wanted : String) :
    (files.insert path content).contains wanted =
      (decide (wanted = path) || files.contains wanted) := by
  show ((files.insert path content).content? wanted).isSome = _
  rw [content?_insert]
  split
  · rename_i fresh
    simp [fresh.1]
  · rename_i kept
    by_cases same : wanted = path
    · have present : files.contains path = true := by
        simpa [same] using kept
      simpa [same, contains] using present
    · simp [same, contains]

end SourceSet

end CompilerSession
