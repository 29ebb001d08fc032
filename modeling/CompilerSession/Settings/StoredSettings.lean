import CompilerSession.Json.Decoding
import CompilerSession.Settings.Configuration
import CompilerSession.Settings.Storage
import CompilerSession.Text.Search

namespace CompilerSession

/-!
# Stored settings

The settings of an editor are items by name, kept in memory and written as one
JSON object under one key of the storage.  Opening the store reads them once;
what cannot be read as an object counts as no settings.

Sessions of an earlier time stored the current file without its provider.  Such
a path gets one when it is looked up, and from then on the item in memory has
it.
-/

/-- The key under which a storage has the items. -/
def settingsKey : String := ".compiler.config"

/-- Items with the storage that they are written to. -/
structure StoredSettings (σ : Type) where
  storage : σ
  items : OrderedMap Json

namespace StoredSettings

variable {σ : Type} [Storage σ]

/-- The items that a text holds, which has to be one object. -/
def itemsOf (text : String) : OrderedMap Json :=
  match
    Json.decodeText (Json.Tree.mapOf fun room tree => tree.value room) text with
  | .ok items => items
  | .error _ => .empty

/-- Open the store with the items that the storage has. -/
def openOn (storage : σ) : StoredSettings σ :=
  match Storage.read storage settingsKey with
  | .ok (some text) => ⟨storage, itemsOf text⟩
  | _ => ⟨storage, .empty⟩

/-- Whether an item is there. -/
def contains
    (store : StoredSettings σ)
    (key : String) : Bool :=
  store.items.contains key

/-- The path of the current file with its provider. -/
def withProvider (path : String) : String :=
  if path = "" ∨ Text.startsWith path "browser/" ∨
    Text.startsWith path "localhost/" then path
  else "browser/" ++ path

/-- The items after a look-up of a key. -/
def migrated
    (items : OrderedMap Json)
    (key : String) : OrderedMap Json :=
  match key, items.find? key with
  | "currentFile", some (.string path) =>
      items.insert key (.string (withProvider path))
  | _, _ => items

/-- Look an item up. -/
def get
    (store : StoredSettings σ)
    (key : String) : Option Json × StoredSettings σ :=
  let items := migrated store.items key
  (items.find? key, { store with items })

/--
Put an item and write all of them; the item stays in memory if that fails.
-/
def set
    (store : StoredSettings σ)
    (key : String)
    (value : Json) :
    Except Failure Unit × StoredSettings σ :=
  let items := store.items.insert key value
  let (outcome, storage) :=
    Storage.write store.storage settingsKey (Json.ofMap id items).text
  (outcome, ⟨storage, items⟩)

/--
The truth value of an item; a natural number other than zero counts as true.
-/
def truth? : Json → Option Bool
  | .bool value => some value
  | value => value.natural?.map (· != 0)

/-- The number of runs of an item, if it fits. -/
def runs? (value : Json) : Option UInt32 :=
  match value.natural? with
  | some runs => if runs < UInt32.size then some (UInt32.ofNat runs) else none
  | none => none

/-- The compiler settings among the items. -/
def overrides (store : StoredSettings σ) : Overrides × StoredSettings σ :=
  let (optimize?, afterFirst) := store.get "optimize"
  let (runsItem?, afterSecond) := afterFirst.get "optimizerRuns"
  (⟨optimize?.bind truth?, runsItem?.bind runs?, none⟩, afterSecond)

end StoredSettings

end CompilerSession
