namespace CompilerSession

/-!
# Maps in ascending key order

An association list whose keys ascend strictly holds each key once and lists its
entries in the one order that its readers may see.  `Entries` has the bare list
operations, which values nested in themselves need; `OrderedMap` packages a list
with the proof that its keys ascend, so two maps with the same entries are
equal.

The main statements say what `insert` does to `find?`, that it keeps the order,
and that a key is found exactly when some entry carries it.
-/

/-- Keys with their values, listed one after the other. -/
abbrev Entries (α : Type) := List (String × α)

namespace Entries

variable {α β : Type}

/-- Every key lies strictly below all the keys that follow it. -/
def Ascending (entries : Entries α) : Prop :=
  entries.Pairwise fun earlier later => earlier.1 < later.1

/-- The value of the first entry with the key. -/
def find? (key : String) : Entries α → Option α
  | [] => none
  | (known, value) :: rest => if key = known then some value else find? key rest

/--
Put a value under a key: in place of the key's entry, or where the order wants
it.
-/
def insert
    (key : String)
    (value : α) : Entries α → Entries α
  | [] => [(key, value)]
  | (known, old) :: rest =>
    if key < known then (key, value) :: (known, old) :: rest
    else if key = known then (key, value) :: rest
    else (known, old) :: insert key value rest

/-- Change every value and keep the keys. -/
def mapValues
    (change : α → β)
    (entries : Entries α) : Entries β :=
  entries.map fun entry => (entry.1, change entry.2)

@[simp] theorem ascending_nil : Ascending ([] : Entries α) := List.Pairwise.nil

/--
A key of the list after an insertion is the inserted one or was there before.
-/
theorem key_of_mem_insert
    {key : String}
    {value : α}
    {entries : Entries α}
    {entry : String × α}
    (member : entry ∈ insert key value entries) :
    entry.1 = key ∨ entry ∈ entries := by
  induction entries with
  | nil =>
      left
      simpa [insert] using congrArg Prod.fst (List.mem_singleton.mp member)
  | cons head rest inductionHypothesis =>
      obtain ⟨known, old⟩ := head
      simp only [insert] at member
      split at member
      · rcases List.mem_cons.mp member with same | later
        · exact Or.inl (congrArg Prod.fst same)
        · exact Or.inr later
      · split at member
        · rcases List.mem_cons.mp member with same | later
          · exact Or.inl (congrArg Prod.fst same)
          · exact Or.inr (List.mem_cons_of_mem _ later)
        · rcases List.mem_cons.mp member with same | later
          · exact Or.inr (same ▸ List.mem_cons_self)
          · rcases inductionHypothesis later with equal | before
            · exact Or.inl equal
            · exact Or.inr (List.mem_cons_of_mem _ before)

/-- Inserting keeps the keys ascending. -/
theorem Ascending.insert
    {entries : Entries α}
    (ascending : entries.Ascending)
    (key : String)
    (value : α) :
    (entries.insert key value).Ascending := by
  induction entries with
  | nil =>
      exact List.pairwise_singleton _ _
  | cons head rest inductionHypothesis =>
      obtain ⟨known, old⟩ := head
      obtain ⟨below, restAscending⟩ := List.pairwise_cons.mp ascending
      simp only [Entries.insert]
      split
      · rename_i before
        refine List.pairwise_cons.mpr ⟨?_, ascending⟩
        intro entry member
        rcases List.mem_cons.mp member with same | later
        · exact same ▸ before
        · exact String.lt_trans before (below entry later)
      · split
        · rename_i same
          exact List.pairwise_cons.mpr
            ⟨fun entry member => same ▸ below entry member, restAscending⟩
        · rename_i notBefore notSame
          refine List.pairwise_cons.mpr ⟨?_, inductionHypothesis restAscending⟩
          intro entry member
          rcases key_of_mem_insert member with equal | old
          · have above : known ≤ key := String.not_lt.mp notBefore
            rw [equal]
            rcases Decidable.em (known < key) with less | notLess
            · exact less
            · exact absurd
                (String.le_antisymm (String.not_lt.mp notLess) above) notSame
          · exact below entry old

/--
A look-up after an insertion sees the new value at its key and the old ones
elsewhere.
-/
theorem find?_insert
    (key wanted : String)
    (value : α)
    (entries : Entries α) :
    find? wanted (insert key value entries) =
      if wanted = key then some value else find? wanted entries := by
  induction entries with
  | nil =>
      rfl
  | cons head rest inductionHypothesis =>
      obtain ⟨known, old⟩ := head
      simp only [insert]
      split
      · rfl
      · split
        · rename_i same
          subst same
          by_cases found : wanted = key <;> simp [find?, found]
        · rename_i notSame
          by_cases found : wanted = known
          · have other : ¬ wanted = key :=
              fun equal => notSame (equal.symm.trans found)
            simp [find?, found, Ne.symm notSame]
          · simp [find?, found, inductionHypothesis]

/-- Changing values changes what is found and not where. -/
@[simp] theorem find?_mapValues
    (change : α → β)
    (wanted : String)
    (entries : Entries α) :
    find? wanted (mapValues change entries) =
      (find? wanted entries).map change := by
  induction entries with
  | nil =>
      rfl
  | cons head rest inductionHypothesis =>
      by_cases found : wanted = head.1
      · simp [mapValues, find?, found]
      · simpa [mapValues, find?, found] using inductionHypothesis

/-- Changing values keeps the keys ascending. -/
theorem Ascending.mapValues
    {entries : Entries α}
    (ascending : entries.Ascending)
    (change : α → β) :
    (entries.mapValues change).Ascending :=
  List.pairwise_map.mpr ascending

end Entries

/-- A finite map from strings, listed by ascending key. -/
structure OrderedMap (α : Type) where
  entries : Entries α
  ascending : entries.Ascending

namespace OrderedMap

variable {α β : Type}

/-- Maps with the same entries are the same map. -/
@[ext] theorem ext
    {left right : OrderedMap α}
    (same : left.entries = right.entries) :
    left = right := by
  cases left
  cases right
  cases same
  rfl

instance [DecidableEq α] : DecidableEq (OrderedMap α) := fun left right =>
  decidable_of_iff (left.entries = right.entries)
    ⟨OrderedMap.ext, congrArg OrderedMap.entries⟩

/-- The map without entries. -/
def empty : OrderedMap α := ⟨[], Entries.ascending_nil⟩

instance : Inhabited (OrderedMap α) := ⟨empty⟩

/-- The value under a key. -/
def find?
    (map : OrderedMap α)
    (key : String) : Option α :=
  map.entries.find? key

/-- Whether a key has a value. -/
def contains
    (map : OrderedMap α)
    (key : String) : Bool :=
  (map.find? key).isSome

/-- The map with a value put under a key, replacing the one that was there. -/
def insert
    (map : OrderedMap α)
    (key : String)
    (value : α) : OrderedMap α :=
  ⟨map.entries.insert key value, map.ascending.insert key value⟩

/-- Put pairs in one after the other, so that the last value of a key stays. -/
def ofList (pairs : Entries α) : OrderedMap α :=
  pairs.foldl (fun map pair => map.insert pair.1 pair.2) empty

/-- The keys from the lowest to the highest. -/
def keys (map : OrderedMap α) : List String := map.entries.map Prod.fst

/-- The number of keys. -/
def size (map : OrderedMap α) : Nat := map.entries.length

/-- Whether there is no key. -/
def isEmpty (map : OrderedMap α) : Bool := map.entries.isEmpty

/-- Change every value and keep the keys. -/
def mapValues
    (change : α → β)
    (map : OrderedMap α) : OrderedMap β :=
  ⟨map.entries.mapValues change, map.ascending.mapValues change⟩

@[simp] theorem find?_empty
    (wanted : String) :
    (empty : OrderedMap α).find? wanted = none :=
  rfl

/-- Insertion changes the answer for its own key only. -/
@[simp] theorem find?_insert
    (map : OrderedMap α)
    (key wanted : String)
    (value : α) :
    (map.insert key value).find? wanted =
      if wanted = key then some value else map.find? wanted :=
  Entries.find?_insert key wanted value map.entries

/-- Mapping the values maps what every key finds. -/
@[simp] theorem find?_mapValues
    (change : α → β)
    (map : OrderedMap α)
    (wanted : String) :
    (map.mapValues change).find? wanted = (map.find? wanted).map change :=
  Entries.find?_mapValues change wanted map.entries

end OrderedMap

end CompilerSession
