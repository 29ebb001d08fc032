import CompilerSession.Settings.Route

namespace CompilerSession

/-!
# A file system

Nodes by path.  The top is a directory that is always there.  A route is
followed through directories only, a directory has no content, and a name is
refused if it is too long.  A route cannot even be asked for if its whole text
is too long or holds the character that ends texts.

Making directories makes all that are missing on the way, from the top down, and
those that were made stay when a later one cannot be.
-/

/-- What can stand at a path. -/
inductive Node where
  | file (content : ByteArray)
  | directory

/-- Nodes by path; the first one listed for a path counts. -/
structure FileSystem where
  nodes : List (FilePath × Node)

namespace FileSystem

/-- Why a node could not be read or written. -/
inductive AccessError where
  | notFound
  | notADirectory
  | isADirectory
  | alreadyExists
  | nameRefused
  | notText
  deriving Repr, DecidableEq

/--
The wording of an error.  It is that of this library: a host has its own words
for the same causes, and may add its number of the error.  Only texts shown to a
reader hold it.
-/
def AccessError.message : AccessError → String
  | .notFound => "No such file or directory"
  | .notADirectory => "Not a directory"
  | .isADirectory => "Is a directory"
  | .alreadyExists => "File exists"
  | .nameRefused => "Invalid file name"
  | .notText => "stream did not contain valid UTF-8"

/-- The file system with nothing but its top. -/
def empty : FileSystem := ⟨[]⟩

/-- The node at a path. -/
def node?
    (system : FileSystem)
    (path : FilePath) : Option Node :=
  if path = [] then some .directory
  else (system.nodes.find? fun entry => entry.1 == path).map Prod.snd

/-- The file system with a node put at a path. -/
def put
    (system : FileSystem)
    (path : FilePath)
    (node : Node) : FileSystem :=
  ⟨(path, node) :: system.nodes.filter fun entry => entry.1 != path⟩

/-- The names in a directory. -/
def names
    (system : FileSystem)
    (directory : FilePath) : List String :=
  system.nodes.filterMap fun entry =>
    match entry.1.getLast? with
    | some name => if entry.1 = directory ++ [name] then some name else none
    | none => none

/-- The largest number of bytes of a name. -/
def longestName : Nat := 255

/-- The largest number of bytes that may spell a route. -/
def longestRoute : Nat := 4095

/-- Whether a step has no character that ends texts. -/
def isSpellable : Step → Bool
  | .up => true
  | .down name => !name.toList.contains '\x00'

/-- Whether a route can be asked for at all. -/
def accepts (route : Route) : Bool :=
  route.bytes ≤ longestRoute && route.steps.all isSpellable

/--
The path that steps lead to; every place on the way has to be a directory.
-/
def follow
    (system : FileSystem)
    (place : FilePath) : List Step → Except AccessError FilePath
  | [] => .ok place
  | step :: rest =>
    match system.node? place with
    | none => .error .notFound
    | some (.file _) => .error .notADirectory
    | some .directory =>
      match step with
      | .up => system.follow place.dropLast rest
      | .down name =>
        if name.utf8ByteSize ≤ longestName then
          system.follow (place ++ [name]) rest
        else .error .nameRefused

/-- The path that a route leads to; there need not be a node. -/
def locate
    (system : FileSystem)
    (route : Route) : Except AccessError FilePath :=
  if accepts route then system.follow [] route.steps else .error .nameRefused

/-- Whether a route leads to a directory. -/
def hasDirectory
    (system : FileSystem)
    (route : Route) : Bool :=
  match system.locate route with
  | .error _ => false
  | .ok path =>
    match system.node? path with
    | some .directory => true
    | _ => false

/-- The content of the file that a route leads to. -/
def read
    (system : FileSystem)
    (route : Route) : Except AccessError ByteArray :=
  match system.locate route with
  | .error error => .error error
  | .ok path =>
    match system.node? path with
    | none => .error .notFound
    | some .directory => .error .isADirectory
    | some (.file content) =>
      if route.ending = .name then .ok content else .error .notADirectory

/--
The file system with a file where a route leads, in place of its earlier
content.
-/
def write
    (system : FileSystem)
    (route : Route)
    (content : ByteArray) :
    Except AccessError FileSystem :=
  match system.locate route with
  | .error error => .error error
  | .ok path =>
    match system.node? path with
    | some .directory => .error .isADirectory
    | _ =>
      if route.ending = .name then .ok (system.put path (.file content))
      else .error .notADirectory

/-- Make the directory that a route leads to, which may not be there yet. -/
def makeDirectory
    (system : FileSystem)
    (route : Route) : Except AccessError FileSystem :=
  match system.locate route with
  | .error error => .error error
  | .ok path =>
    match system.node? path with
    | some _ => .error .alreadyExists
    | none =>
      if route.ending = .dot then .error .notFound else
        .ok (system.put path .directory)

/-- Make the directory of a route, if it is not there. -/
def ensureDirectory
    (system : FileSystem)
    (route : Route) :
    Except AccessError Unit × FileSystem :=
  match system.makeDirectory route with
  | .ok made => (.ok (), made)
  | .error error =>
      (if system.hasDirectory route then .ok () else .error error, system)

/-- Make the directory of a route and all that are missing on the way. -/
def makeDirectories
    (system : FileSystem)
    (route : Route) :
    Except AccessError Unit × FileSystem :=
  match system.ensureDirectory route with
  | (.error .notFound, _) =>
    match found : route.parent? with
    | none => (.error .notFound, system)
    | some parent =>
      have _shorter := Route.length_of_parent? found
      match system.makeDirectories parent with
      | (.ok _, made) => made.ensureDirectory route
      | (.error error, made) => (.error error, made)
  | settled => settled
termination_by route.steps.length

end FileSystem

end CompilerSession
