import CompilerSession.Settings.FileSystem
import CompilerSession.Settings.Storage

namespace CompilerSession

/-!
# Storage in files

One file for each key inside a root directory.  A key has to be a name of its
own: one that is empty, holds a separator or means a directory is refused before
anything is touched.  The root is made by the first write.
-/

/-- A file system with the directory whose files are the texts. -/
structure DirectoryStorage where
  system : FileSystem
  root : FilePath

namespace DirectoryStorage

/-- Whether a key names a file of the root. -/
def validKey (key : String) : Bool :=
  key != "" && !key.toList.contains '/' && !key.toList.contains '\\' && key !=
    "." && key != ".."

/-- The failure of a key that names no file of the root. -/
def invalidKey (key : String) : Failure :=
  .storageRefused ("invalid storage key \"" ++ key ++ "\"")

/-- The route to the file of a key. -/
def routeOf
    (storage : DirectoryStorage)
    (key : String) : Route :=
  Route.ofText storage.root key

/-- The text under a key; a file that is not there has none. -/
def get
    (storage : DirectoryStorage)
    (key : String) : Except Failure (Option String) :=
  if validKey key then
    match storage.system.read (storage.routeOf key) with
    | .ok content =>
      match String.fromUTF8? content with
      | some text => .ok (some text)
      | none => .error (.fileAccess FileSystem.AccessError.notText.message)
    | .error .notFound => .ok none
    | .error error => .error (.fileAccess error.message)
  else .error (invalidKey key)

/-- Put a text under a key, making the root if it is not there. -/
def set
    (storage : DirectoryStorage)
    (key text : String) : Except Failure Unit × DirectoryStorage :=
  if validKey key then
    match storage.system.makeDirectories (.ofPath storage.root) with
    | (.error error, made) =>
      (.error (.whileDoing "Failed to create storage root" error.message),
        { storage with system := made })
    | (.ok _, made) =>
      match made.write (storage.routeOf key) text.toUTF8 with
      | .error error =>
        (.error (.whileDoing "Failed to write storage entry" error.message),
          { storage with system := made })
      | .ok written => (.ok (), { storage with system := written })
  else (.error (invalidKey key), storage)

instance : Storage DirectoryStorage where
  read := get
  write := set

end DirectoryStorage

end CompilerSession
