import CompilerSession.Failure
import CompilerSession.OrderedMap

namespace CompilerSession

/-!
# Storages

A storage keeps texts under keys for its host.  Reading leaves it as it is;
writing may change it even when it fails.  `MapStorage` never fails,
`SwitchedStorage` refuses reads or writes while it is told to.
-/

/-- What a persistent store of texts offers. -/
class Storage (σ : Type) where
  read : σ → String → Except Failure (Option String)
  write : σ → String → String → Except Failure Unit × σ

/-- A storage that keeps its texts in memory. -/
structure MapStorage where
  entries : OrderedMap String
  deriving DecidableEq

namespace MapStorage

/-- The storage without texts. -/
def empty : MapStorage := ⟨.empty⟩

/-- The text under a key. -/
def get?
    (storage : MapStorage)
    (key : String) : Option String :=
  storage.entries.find? key

/-- The storage with a text put under a key. -/
def set
    (storage : MapStorage)
    (key text : String) : MapStorage :=
  ⟨storage.entries.insert key text⟩

instance : Storage MapStorage where
  read storage key := .ok (storage.get? key)
  write storage key text := (.ok (), storage.set key text)

end MapStorage

/-- A storage in memory whose reads and writes can be switched off. -/
structure SwitchedStorage where
  memory : MapStorage
  refusesReads : Bool
  refusesWrites : Bool
  deriving DecidableEq

namespace SwitchedStorage

instance : Storage SwitchedStorage where
  read storage key :=
    if storage.refusesReads then .error (.storageRefused "read refused")
    else .ok (storage.memory.get? key)
  write storage key text :=
    if storage.refusesWrites then
      (.error (.storageRefused "write refused"), storage)
    else (.ok (), { storage with memory := storage.memory.set key text })

end SwitchedStorage

end CompilerSession
