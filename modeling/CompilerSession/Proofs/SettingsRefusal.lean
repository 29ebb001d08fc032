import CompilerSession.Proofs.SettingsReading

namespace CompilerSession

/-!
# Settings that are refused

A writing that fails does nothing to the host, and nothing to the other items.
But its own item is put in memory before it is written, and nothing takes it out
again: until the item is put anew or the store is opened anew, every look-up
shows it, and each later writing that succeeds takes it to the host, under
whatever key that writing is.

What is said here holds of any store, however it has come about, over any host
that leaves its texts alone when it refuses a writing.  `Passing` says what may
happen to the store afterwards; its host may do as it likes meanwhile.
-/

namespace Storage

/-- What has been written with success is read again, if reading succeeds. -/
def Faithful
    (σ : Type)
    [Storage σ] : Prop :=
  ∀ (storage : σ) (key text : String) (found? : Option String),
    (write storage key text).1 = .ok () →
      read (write storage key text).2 key = .ok found? →
        found? = some text

end Storage

namespace SwitchedStorage

theorem faithful : Storage.Faithful SwitchedStorage := by
  intro storage key text found? written isRead
  rw [write_eq] at written isRead
  split at written
  · cases written
  · rename_i accepts
    rw [if_neg accepts, read_eq] at isRead
    split at isRead
    · cases isRead
    · have found : (storage.memory.set key text).get? key = found? :=
        Except.ok.inj isRead
      rw [← found, MapStorage.get?, MapStorage.set, OrderedMap.find?_insert,
        if_pos rfl]

end SwitchedStorage

namespace StoredSettings

variable
  {σ : Type}
  [Storage σ]

/--
What may happen to a store while nothing is put under a key and it is not opened
anew.
-/
inductive Passing
    (key : String)
    (start : StoredSettings σ) : StoredSettings σ → Prop
  | start : Passing key start start
  | get {store : StoredSettings σ} (asked : String) :
      Passing key start store →
      Passing key start (store.get asked).2
  | set {store : StoredSettings σ} {other : String} (value : Json) :
      other ≠ key →
      Passing key start store →
      Passing key start (store.set other value).2
  | host {store : StoredSettings σ} (storage : σ) :
      Passing key start store →
      Passing key start { store with storage }

/-- While nothing is put under a key the same is shown there. -/
theorem Passing.view
    {key : String}
    {start store : StoredSettings σ}
    (passing : Passing key start store) :
    view store.items key = StoredSettings.view start.items key := by
  induction passing with
  | start =>
      rfl
  | get asked _ inductionHypothesis =>
      exact (congrFun (view_migrated _ asked) key).trans inductionHypothesis
  | set value differs _ inductionHypothesis =>
      refine Eq.trans ?_ inductionHypothesis
      exact (view_insert _ _ key value).trans (if_neg (Ne.symm differs))
  | host storage _ inductionHypothesis =>
      exact inductionHypothesis

end StoredSettings

end CompilerSession
