import CompilerSession.Proofs.Resolution
import CompilerSession.Proofs.SettingsReopening

namespace CompilerSession

/-!
# Looking settings up

A look-up of the current file may put its provider before it, in memory only;
the next writing takes that along.  So the items of two stores that differ by
look-ups are not the same, and neither are the texts that they leave with their
host.  What they show is: `view` is what a look-up answers, and a look-up does
not change it.

Stores that show the same go on showing the same, whatever is done with both of
them.  The step that needs an argument is a writing followed by a reopening,
where the texts differ and items may be lost: an item that cannot be read again
loses all of them, and that is never the current file with or without its
provider.
-/

/--
What is asked of a store whose host can refuse to be read and to be written.
-/
inductive SettingsCall where
  | reopen
  | refuse (reads writes : Bool)
  | set (key : String) (value : Json)
  | get (key : String)
  | contains (key : String)
  | overrides

/-- What a store answers to a call. -/
inductive SettingsAnswer where
  | nothing
  | outcome (outcome : Except Failure Unit)
  | item (item? : Option Json)
  | presence (present : Bool)
  | overrides (overrides : Overrides)

namespace SwitchedStorage

/-- A switch decides whether reading is refused. -/
theorem read_eq
    (storage : SwitchedStorage)
    (key : String) :
    Storage.read storage key =
      if storage.refusesReads then .error (.storageRefused "read refused")
      else .ok (storage.memory.get? key) :=
  rfl

/-- A switch decides whether writing is refused, which then changes nothing. -/
theorem write_eq
    (storage : SwitchedStorage)
    (key text : String) :
    Storage.write storage key text =
      if storage.refusesWrites then
        (.error (.storageRefused "write refused"), storage)
      else (.ok (), { storage with memory := storage.memory.set key text }) :=
  rfl

end SwitchedStorage

namespace StoredSettings

/-- The answer to a call, and the store after it. -/
def call (store : StoredSettings SwitchedStorage) :
    SettingsCall → SettingsAnswer × StoredSettings SwitchedStorage
  | .reopen => (.nothing, openOn store.storage)
  | .refuse reads writes =>
    (.nothing,
      { store with
        storage :=
          { store.storage with
            refusesReads := reads
            refusesWrites := writes } })
  | .set key value =>
    let (outcome, after) := store.set key value
    (.outcome outcome, after)
  | .get key =>
    let (item?, after) := store.get key
    (.item item?, after)
  | .contains key => (.presence (store.contains key), store)
  | .overrides =>
    let (overrides, after) := store.overrides
    (.overrides overrides, after)

/-- The store after look-ups one after the other. -/
def peek
    (store : StoredSettings SwitchedStorage)
    (keys : List String) :
    StoredSettings SwitchedStorage :=
  keys.foldl (fun store key => (store.get key).2) store

/--
The answers to calls, where before each of them some keys are looked up on the
side.
-/
def answersAmid (store : StoredSettings SwitchedStorage) :
    List (List String × SettingsCall) → List SettingsAnswer
  | [] => []
  | (keys, call) :: rest =>
    let (answer, after) := (store.peek keys).call call
    answer :: after.answersAmid rest

/-! ## What is shown of the items -/

/-- What is shown of an item that may be there. -/
def shown
    (key : String)
    (item? : Option Json) : Option Json :=
  match key, item? with
  | "currentFile", some (.string path) => some (.string (withProvider path))
  | _, _ => item?

/-- What is shown under a key. -/
def view
    (items : OrderedMap Json)
    (key : String) : Option Json :=
  shown key (items.find? key)

@[simp] theorem shown_none (key : String) : shown key none = none := by
  unfold shown
  split <;> simp_all

@[simp] theorem shown_currentFile (path : String) :
    shown "currentFile" (some (.string path)) =
      some (.string (withProvider path)) :=
  rfl

/-- An item is shown as it is, or it is a path that gets its provider. -/
theorem shown_cases
    (key : String)
    (item? : Option Json) :
    shown key item? = item? ∨
      ∃ path,
        key = "currentFile" ∧ item? = some (.string path) ∧
          shown key item? = some (.string (withProvider path)) := by
  unfold shown
  split
  · rename_i path
    exact Or.inr ⟨path, rfl, rfl, rfl⟩
  · exact Or.inl rfl

/-- A text starts with what it was appended to. -/
theorem startsWith_append (start text : String) :
    Text.startsWith (start ++ text) start = true := by
  simp [Text.startsWith]

/-- What is shown of a path is empty or has a provider. -/
theorem withProvider_provided (path : String) :
    withProvider path = "" ∨
      Text.startsWith (withProvider path) "browser/" = true ∨
      Text.startsWith (withProvider path) "localhost/" = true := by
  unfold withProvider
  split
  · assumption
  · exact Or.inr (Or.inl (startsWith_append _ _))

/-- A path is left as it is or has the provider put before it. -/
theorem withProvider_eq_or (path : String) :
    withProvider path = path ∨ withProvider path = "browser/" ++ path := by
  unfold withProvider
  split
  · exact Or.inl rfl
  · exact Or.inr rfl

@[simp] theorem withProvider_idem (path : String) :
    withProvider (withProvider path) = withProvider path :=
  if_pos (withProvider_provided path)

@[simp] theorem shown_shown
    (key : String)
    (item? : Option Json) :
    shown key (shown key item?) = shown key item? := by
  rcases shown_cases key item? with same | ⟨path, rfl, rfl, -⟩
  · rw [same, same]
  · simp

@[simp] theorem isSome_shown
    (key : String)
    (item? : Option Json) :
    (shown key item?).isSome = item?.isSome := by
  rcases shown_cases key item? with same | ⟨path, rfl, rfl, -⟩
  · rw [same]
  · rfl

/-- A path is shown of a path that is stored, which may get its provider. -/
theorem exists_of_shown
    {item? : Option Json}
    {path : String}
    (isShown : shown "currentFile" item? = some (.string path)) :
    ∃ stored, item? = some (.string stored) ∧ path = withProvider stored := by
  rcases shown_cases "currentFile" item? with
    same | ⟨stored, -, isStored, becomes⟩
  · rw [same] at isShown
    rw [isShown, shown_currentFile] at same
    exact ⟨path, isShown, Json.string.inj (Option.some.inj same.symm)⟩
  · rw [becomes] at isShown
    cases isShown
    exact ⟨stored, isStored, rfl⟩

/-- A look-up changes one item to what is shown of it. -/
theorem find?_migrated
    (items : OrderedMap Json)
    (key asked : String) :
    (migrated items key).find? asked =
      if asked = key then shown key (items.find? key) else
        items.find? asked := by
  unfold migrated
  split
  · rename_i path found
    rw [OrderedMap.find?_insert, found, shown_currentFile]
  · rename_i key _ _ other
    have same : shown key (items.find? key) = items.find? key := by
      rcases shown_cases key (items.find? key) with
        same | ⟨path, isFile, found, -⟩
      · exact same
      · exact absurd found (other path isFile)
    split
    · rename_i isKey
      rw [same, isKey]
    · rfl

@[simp] theorem view_migrated
    (items : OrderedMap Json)
    (key : String) :
    view (migrated items key) = view items := by
  funext asked
  rw [view, find?_migrated]
  split
  · rename_i same
    rw [same, shown_shown, view]
  · rfl

/-- An item that is put is seen under its own key only. -/
theorem view_insert
    (items : OrderedMap Json)
    (key asked : String)
    (value : Json) :
    view (items.insert key value) asked =
      if asked = key then shown asked (some value) else view items asked := by
  rw [view, OrderedMap.find?_insert]
  split <;> rfl

/-- A look-up answers what is shown. -/
theorem get_fst
    {σ : Type}
    (store : StoredSettings σ)
    (key : String) :
    (store.get key).1 = view store.items key := by
  show (migrated store.items key).find? key = _
  rw [find?_migrated, if_pos rfl, view]

/-- A key is contained if something is seen under it. -/
theorem contains_eq
    {σ : Type}
    (store : StoredSettings σ)
    (key : String) :
    store.contains key = (view store.items key).isSome := by
  rw [view, isSome_shown]
  rfl

/-- The compiler gets the settings that are shown. -/
theorem overrides_fst
    {σ : Type}
    (store : StoredSettings σ) :
    store.overrides.1 =
      ⟨(view store.items "optimize").bind truth?,
        (view store.items "optimizerRuns").bind runs?, none⟩ := by
  show Overrides.mk ((store.get "optimize").1.bind truth?)
    (((store.get "optimize").2.get "optimizerRuns").1.bind runs?) none = _
  rw [get_fst, get_fst]
  show
    Overrides.mk _
      ((view (migrated store.items "optimize") "optimizerRuns").bind runs?)
      none = _
  rw [view_migrated]

/-! ## What is shown after a reopening -/

/-- Every item can be read again from inside the object of all items. -/
def Readable (items : OrderedMap Json) : Prop :=
  ∀ item ∈ items.entries, ∃ value, item.2.tree.value itemRoom = .ok value

/-- What is read again of an item. -/
def reread (item : Json) : Json :=
  match item.tree.value itemRoom with
  | .ok value => value
  | .error _ => item

/-- A text is read again as it was written. -/
theorem reread_string (text : String) : reread (.string text) = .string text :=
  rfl

/-- Whether items can be read again shows, since a path can be in any case. -/
theorem readable_iff_view {items : OrderedMap Json} :
    Readable items ↔
      ∀ key item, view items key = some item →
        ∃ value, item.tree.value itemRoom = .ok value := by
  constructor
  · intro readable key item isShown
    rcases shown_cases key (items.find? key) with same | ⟨path, -, -, same⟩
    · rw [view, same] at isShown
      exact readable (key, item) (items.ascending.find?_eq_some_iff.mp isShown)
    · rw [view, same] at isShown
      cases isShown
      exact ⟨_, rfl⟩
  · intro readable item member
    have found : items.find? item.1 = some item.2 :=
      items.ascending.find?_eq_some_iff.mpr member
    rcases shown_cases item.1 (items.find? item.1) with
      same | ⟨path, -, isPath, -⟩
    · exact readable item.1 item.2 (same.trans found)
    · rw [found] at isPath
      rw [Option.some.inj isPath]
      exact ⟨_, rfl⟩

/-- Items that can be read again are, each on its own. -/
theorem itemsOf_text_of_readable
    {items : OrderedMap Json}
    (readable : Readable items) :
    itemsOf (Json.ofMap id items).text = items.mapValues reread := by
  have back :
      ∀ item ∈ items.entries,
        (id item.2 : Json).tree.value itemRoom = .ok (reread item.2) := by
    intro item member
    obtain ⟨value, isValue⟩ := readable item member
    rw [reread, id, isValue]
  have decoded :
      Json.Tree.mapOf (fun room tree => tree.value room) Json.roomiest
        (Json.ofMap id items).tree = .ok (items.mapValues reread) :=
    Json.Tree.mapOf_tree_mapValues back
  rw [itemsOf, Json.decodeText_eq, decoded]

/-- One item that cannot be read again loses all of them. -/
theorem itemsOf_text_of_not_readable
    {items : OrderedMap Json}
    (unreadable : ¬ Readable items) :
    itemsOf (Json.ofMap id items).text = .empty := by
  rw [itemsOf, Json.decodeText_eq]
  split
  · rename_i decoded succeeds
    have whole := Json.Tree.value_of_mapOf succeeds
    rw [Json.ofMap, Json.tree, Json.Tree.value] at whole
    obtain ⟨inner, entered, whole⟩ := bind_eq_ok.mp whole
    obtain ⟨values, members, -⟩ := bind_eq_ok.mp whole
    cases Json.Tree.enter_eq_ok.mp entered
    have each := Json.Tree.decoded_of_memberValues members
    refine absurd (fun item member => ?_) unreadable
    exact each (item.1, id item.2) (List.mem_map_of_mem member)
  · rfl

/--
What is read again of a path is shown as if it had been read with its provider.
-/
theorem shown_map_reread
    (key : String)
    (item? : Option Json) :
    shown key ((shown key item?).map reread) =
      shown key (item?.map reread) := by
  rcases shown_cases key item? with same | ⟨path, rfl, rfl, isShown⟩
  · rw [same]
  · rw [isShown, Option.map_some, Option.map_some, reread_string, reread_string,
      ← isShown, shown_shown]

/--
Items that show the same show the same when they are read again from their
texts.
-/
theorem view_itemsOf_text
    {left right : OrderedMap Json}
    (alike : view left = view right) :
    view (itemsOf (Json.ofMap id left).text) =
      view (itemsOf (Json.ofMap id right).text) := by
  have both : Readable left ↔ Readable right := by
    rw [readable_iff_view, readable_iff_view, alike]
  by_cases readable : Readable left
  · rw [itemsOf_text_of_readable readable,
      itemsOf_text_of_readable (both.mp readable)]
    funext key
    have same : shown key (left.find? key) = shown key (right.find? key) :=
      congrFun alike key
    rw [view, view, OrderedMap.find?_mapValues, OrderedMap.find?_mapValues,
      ← shown_map_reread, same, shown_map_reread]
  · rw [itemsOf_text_of_not_readable readable,
      itemsOf_text_of_not_readable (mt both.mpr readable)]

/-! ## Stores that show the same -/

/-- The items that a host has, whether or not it can be read. -/
def hosted (storage : SwitchedStorage) : OrderedMap Json :=
  match storage.memory.get? settingsKey with
  | some text => itemsOf text
  | none => .empty

/-- A store opens on what its host has, or on nothing if its host refuses. -/
theorem openOn_eq (storage : SwitchedStorage) :
    openOn storage =
      ⟨storage, if storage.refusesReads then .empty else hosted storage⟩ := by
  unfold openOn hosted
  rw [SwitchedStorage.read_eq]
  cases storage.refusesReads <;> cases storage.memory.get? settingsKey <;> rfl

/-- A writing that is refused still puts the item into the store. -/
theorem set_of_refusing
    {store : StoredSettings SwitchedStorage}
    (refuses : store.storage.refusesWrites = true)
    (key : String)
    (value : Json) :
    store.set key value =
      (.error (.storageRefused "write refused"),
        { store with items := store.items.insert key value }) := by
  simp only [set, SwitchedStorage.write_eq, refuses, if_true]

/-- A writing that is accepted puts the item into the store and to the host. -/
theorem set_of_accepting
    {store : StoredSettings SwitchedStorage}
    (accepts : store.storage.refusesWrites = false)
    (key : String)
    (value : Json) :
    store.set key value =
      (.ok (),
        ⟨{ store.storage with
            memory :=
              store.storage.memory.set settingsKey
                (Json.ofMap id (store.items.insert key value)).text },
          store.items.insert key value⟩) := by
  simp only [set, SwitchedStorage.write_eq, accepts, Bool.false_eq_true,
    if_false]

/-- What the host has is what was last written under the key of the settings. -/
theorem hosted_set
    (storage : SwitchedStorage)
    (text : String) :
    hosted { storage with memory := storage.memory.set settingsKey text } =
      itemsOf text := by
  have found :
      (storage.memory.set settingsKey text).get? settingsKey = some text := by
    rw [MapStorage.get?, MapStorage.set, OrderedMap.find?_insert, if_pos rfl]
  rw [hosted, found]

/-- Stores that show the same, and whose hosts have the same to show. -/
structure Alike (left right : StoredSettings SwitchedStorage) : Prop where
  items : view left.items = view right.items
  hosted : view (hosted left.storage) = view (hosted right.storage)
  reads : left.storage.refusesReads = right.storage.refusesReads
  writes : left.storage.refusesWrites = right.storage.refusesWrites

namespace Alike

theorem refl (store : StoredSettings SwitchedStorage) : Alike store store :=
  ⟨rfl, rfl, rfl, rfl⟩

variable {left right : StoredSettings SwitchedStorage}

theorem symm (alike : Alike left right) : Alike right left :=
  ⟨alike.items.symm, alike.hosted.symm, alike.reads.symm, alike.writes.symm⟩

/-- Look-ups in one of the stores keep them alike. -/
theorem peek
    (alike : Alike left right)
    (keys : List String) :
    Alike (left.peek keys) right := by
  induction keys generalizing left with
  | nil =>
      exact alike
  | cons key others inductionHypothesis =>
      have first : Alike (left.get key).2 right :=
        { alike with items := (view_migrated left.items key).trans alike.items }
      exact inductionHypothesis first

/-- So do look-ups in both of them, of whatever keys. -/
theorem peeks
    (alike : Alike left right)
    (keys otherKeys : List String) :
    Alike (left.peek keys) (right.peek otherKeys) :=
  ((alike.peek keys).symm.peek otherKeys).symm

/-- Stores that are alike open on what is alike. -/
theorem reopen (alike : Alike left right) :
    Alike (openOn left.storage) (openOn right.storage) := by
  rw [openOn_eq, openOn_eq, ← alike.reads]
  refine ⟨?_, alike.hosted, alike.reads, alike.writes⟩
  cases left.storage.refusesReads with
  | true =>
      rfl
  | false =>
      exact alike.hosted

/--
A writing leaves the stores alike, though their hosts may get different texts.
-/
theorem set
    (alike : Alike left right)
    (key : String)
    (value : Json) :
    (left.set key value).1 = (right.set key value).1 ∧
      Alike (left.set key value).2 (right.set key value).2 := by
  have items : view (left.items.insert key value) =
    view (right.items.insert key value) := by
    funext asked
    rw [view_insert, view_insert, alike.items]
  cases refuses : left.storage.refusesWrites with
  | true =>
      rw [set_of_refusing refuses,
        set_of_refusing (alike.writes.symm.trans refuses)]
      exact ⟨rfl, items, alike.hosted, alike.reads, alike.writes⟩
  | false =>
      rw [set_of_accepting refuses,
        set_of_accepting (alike.writes.symm.trans refuses)]
      refine ⟨rfl, items, ?_, alike.reads, alike.writes⟩
      rw [hosted_set, hosted_set]
      exact view_itemsOf_text items

/-- Stores that show the same answer the same and go on showing the same. -/
theorem call
    (alike : Alike left right)
    (call : SettingsCall) :
    (left.call call).1 = (right.call call).1 ∧
      Alike (left.call call).2 (right.call call).2 := by
  cases call with
  | reopen =>
      exact ⟨rfl, alike.reopen⟩
  | refuse reads writes =>
      exact ⟨rfl, alike.items, alike.hosted, rfl, rfl⟩
  | set key value =>
      obtain ⟨outcome, after⟩ := alike.set key value
      exact ⟨congrArg SettingsAnswer.outcome outcome, after⟩
  | get key =>
      have item : (left.get key).1 = (right.get key).1 := by
        rw [get_fst, get_fst, alike.items]
      exact ⟨congrArg SettingsAnswer.item item, alike.peeks [key] [key]⟩
  | contains key =>
      have present : left.contains key = right.contains key := by
        rw [contains_eq, contains_eq, alike.items]
      exact ⟨congrArg SettingsAnswer.presence present, alike⟩
  | overrides =>
      have settings : left.overrides.1 = right.overrides.1 := by
        rw [overrides_fst, overrides_fst, alike.items]
      exact
        ⟨congrArg SettingsAnswer.overrides settings,
          alike.peeks ["optimize", "optimizerRuns"]
            ["optimize", "optimizerRuns"]⟩

/-- Whatever is looked up on the side, the answers to the calls are the same. -/
theorem answersAmid
    (alike : Alike left right)
    {script other : List (List String × SettingsCall)}
    (same : script.map Prod.snd = other.map Prod.snd) :
    left.answersAmid script = right.answersAmid other := by
  induction script generalizing other left right with
  | nil =>
      cases other with
      | nil =>
          rfl
      | cons second later =>
          cases same
  | cons first rest inductionHypothesis =>
      cases other with
      | nil =>
          cases same
      | cons second later =>
          obtain ⟨keys, call⟩ := first
          obtain ⟨otherKeys, otherCall⟩ := second
          obtain ⟨rfl, sameLater⟩ := List.cons.inj same
          obtain ⟨answer, after⟩ := (alike.peeks keys otherKeys).call call
          exact congrArg₂ List.cons answer (inductionHypothesis after sameLater)

end Alike

/-! ## The current file -/

/-- The store after calls one after the other. -/
def callAll
    (store : StoredSettings SwitchedStorage)
    (calls : List SettingsCall) :
    StoredSettings SwitchedStorage :=
  calls.foldl (fun store call => (store.call call).2) store

/-- The item of the current file. -/
def currentFile?
    {σ : Type}
    (store : StoredSettings σ) : Option Json :=
  store.items.find? "currentFile"

/--
What a call gives a store for the current file, which had been given another
item before.
-/
def given?
    (store : StoredSettings SwitchedStorage)
    (before? : Option Json) :
    SettingsCall → Option Json
  | .reopen => (openOn store.storage).currentFile?
  | .set key value => if key = "currentFile" then some value else before?
  | _ => before?

/--
The item that was put last for the current file, or read when the store was
opened last.
-/
def lastGiven?
    (store : StoredSettings SwitchedStorage)
    (before? : Option Json) :
    List SettingsCall → Option Json
  | [] => before?
  | call :: rest =>
      (store.call call).2.lastGiven? (store.given? before? call) rest

/--
What is shown of the current file is what is shown of the item that a call gave
for it.
-/
theorem view_call
    {store : StoredSettings SwitchedStorage}
    {before? : Option Json}
    (call : SettingsCall)
    (known : view store.items "currentFile" = shown "currentFile" before?) :
    view (store.call call).2.items "currentFile" =
      shown "currentFile" (store.given? before? call) := by
  cases call with
  | reopen =>
      rfl
  | refuse reads writes =>
      exact known
  | set key value =>
      show view (store.items.insert key value) "currentFile" = _
      rw [view_insert, given?]
      by_cases same : key = "currentFile"
      · rw [if_pos same.symm, if_pos same]
      · rw [if_neg (Ne.symm same), if_neg same, known]
  | get key =>
      exact (congrFun (view_migrated store.items key) _).trans known
  | contains key =>
      exact known
  | overrides =>
      show view (migrated (migrated store.items "optimize") "optimizerRuns")
        "currentFile" = _
      rw [view_migrated, view_migrated]
      exact known

/-- The current file is seen as it was last given. -/
theorem view_callAll
    {store : StoredSettings SwitchedStorage}
    {before? : Option Json}
    (calls : List SettingsCall)
    (known : view store.items "currentFile" = shown "currentFile" before?) :
    view (store.callAll calls).items "currentFile" =
      shown "currentFile" (store.lastGiven? before? calls) := by
  induction calls generalizing store before? with
  | nil =>
      exact known
  | cons call rest inductionHypothesis =>
      exact inductionHypothesis (view_call call known)

/-- A path is what was stored, or that with the provider before it. -/
def Shows (shown stored : String) : Prop :=
  shown = stored ∨ shown = "browser/" ++ stored

/--
Looking settings up cannot be told from the outside.  Whatever the host has in
the beginning, whatever is put, and whenever it refuses to be read or written:
calls are answered the same, whichever keys are looked up on the side between
them.

And the current file is coherent.  After any calls, if it is shown as a path,
the path is empty or has a provider; and it is the path that the store holds,
and the one that it was last given by a call or by its host, as it is or with
the provider before it.
-/
theorem looking_up_unseen (storage : SwitchedStorage) :
    (∀ script other : List (List String × SettingsCall),
      script.map Prod.snd = other.map Prod.snd →
        (openOn storage).answersAmid script =
          (openOn storage).answersAmid other) ∧
      ∀ (calls : List SettingsCall) (path : String),
        (((openOn storage).callAll calls).get "currentFile").1 =
          some (.string path) →
          (path = "" ∨ Text.startsWith path "browser/" = true ∨
            Text.startsWith path "localhost/" = true) ∧
          (∃ held,
            ((openOn storage).callAll calls).currentFile? =
              some (.string held) ∧
              Shows path held) ∧
          ∃ stored,
            (openOn storage).lastGiven? (openOn storage).currentFile? calls =
              some (.string stored) ∧
              Shows path stored := by
  refine ⟨fun script other same => (Alike.refl _).answersAmid same, ?_⟩
  intro calls path isPath
  rw [get_fst] at isPath
  have isGiven := (view_callAll calls rfl).symm.trans isPath
  obtain ⟨held, isHeld, pathOfHeld⟩ := exists_of_shown isPath
  obtain ⟨stored, isStored, pathOfStored⟩ := exists_of_shown isGiven
  refine ⟨?_, ⟨held, isHeld, ?_⟩, ⟨stored, isStored, ?_⟩⟩
  · rw [pathOfHeld]
    exact withProvider_provided held
  · rw [pathOfHeld]
    exact withProvider_eq_or held
  · rw [pathOfStored]
    exact withProvider_eq_or stored

end StoredSettings

end CompilerSession
