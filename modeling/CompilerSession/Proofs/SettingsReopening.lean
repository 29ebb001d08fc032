import CompilerSession.Proofs.JsonDecoding
import CompilerSession.Settings.StoredSettings

namespace CompilerSession

/-!
# Settings that are opened again

A store that has written its items finds the same items when it is opened again
on its storage.  What stands against it is the nesting of the items alone: they
are written inside one more object, and the reader opens no more containers than
`Json.roomiest`.  A deeper item is written all the same, and then no item at all
is found again, since a text that cannot be read as a whole counts as no
settings.
-/

/-- What is done with the settings of an editor. -/
inductive SettingsUse where
  | reopen
  | set (key : String) (value : Json)
  | get (key : String)

/-- A value that is put has a property. -/
def SettingsUse.Puts (holds : Json → Prop) : SettingsUse → Prop
  | .set _ value => holds value
  | _ => True

/-- What has been written with success is read again. -/
def Storage.Retentive
    (σ : Type)
    [Storage σ] : Prop :=
  ∀ (storage : σ) (key text : String),
    (Storage.write storage key text).1 = .ok () →
      Storage.read (Storage.write storage key text).2 key = .ok (some text)

theorem MapStorage.retentive : Storage.Retentive MapStorage := by
  intro storage key text _
  show Except.ok ((storage.entries.insert key text).find? key) = _
  rw [OrderedMap.find?_insert, if_pos rfl]

namespace StoredSettings

variable
  {σ : Type}
  [Storage σ]

/-- The store after one use of it. -/
def use (store : StoredSettings σ) : SettingsUse → StoredSettings σ
  | .reopen => openOn store.storage
  | .set key value => (store.set key value).2
  | .get key => (store.get key).2

/-- The store after uses one after the other. -/
def useAll
    (store : StoredSettings σ)
    (uses : List SettingsUse) : StoredSettings σ :=
  uses.foldl use store

/-- The room that an item has inside the object of all items. -/
def itemRoom : Nat := 126

/-- Every item is ordered and no deeper than there is room for it. -/
def Shallow (items : OrderedMap Json) : Prop :=
  ∀ item ∈ items.entries, item.2.Kept itemRoom

/-- No item has a double in it. -/
def Integral (items : OrderedMap Json) : Prop :=
  ∀ item ∈ items.entries, item.2.Integral

instance : DecidablePred Integral := fun items =>
  inferInstanceAs (Decidable (∀ item ∈ items.entries, item.2.Integral))

omit [Storage σ] in
/-- Items stay shallow when a shallow one is set. -/
theorem shallow_insert
    {items : OrderedMap Json}
    {key : String}
    {value : Json}
    (shallow : Shallow items)
    (kept : value.Kept itemRoom) :
    Shallow (items.insert key value) := by
  intro item member
  rcases Entries.mem_of_mem_insert member with rfl | before
  · exact kept
  · exact shallow item before

/-- What is read has been read inside the object of all items. -/
theorem shallow_itemsOf (text : String) : Shallow (itemsOf text) := by
  unfold itemsOf
  split
  · rename_i items decoded
    rw [Json.decodeText] at decoded
    split at decoded
    · cases decoded
    · obtain ⟨result, read, finished⟩ := bind_eq_ok.mp decoded
      cases (Json.Tree.finish_eq_ok.mp finished).2
      obtain ⟨inner, isInner, values⟩ := Json.Tree.decoded_of_mapOf read
      cases isInner
      intro item member
      obtain ⟨tree, isItem⟩ := values item member
      exact Json.Tree.kept_of_value tree isItem
  · exact List.forall_mem_nil _

/-- Whatever the storage has, a store opens on shallow items. -/
theorem shallow_openOn (storage : σ) : Shallow (openOn storage).items := by
  unfold openOn
  split
  · exact shallow_itemsOf _
  · exact List.forall_mem_nil _

/-- A look-up only puts a text in place of another one. -/
theorem shallow_migrated
    {items : OrderedMap Json}
    (key : String)
    (shallow : Shallow items) :
    Shallow (migrated items key) := by
  unfold migrated
  split
  · exact shallow_insert shallow (Json.kept_string _ _)
  · exact shallow

/-- A use that puts nothing deep leaves the items shallow. -/
theorem shallow_use
    {store : StoredSettings σ}
    {use : SettingsUse}
    (modest : use.Puts (Json.Kept itemRoom))
    (shallow : Shallow store.items) :
    Shallow (store.use use).items := by
  cases use with
  | reopen =>
      exact shallow_openOn store.storage
  | set key value =>
      exact shallow_insert shallow modest
  | get key =>
      exact shallow_migrated key shallow

/-- Uses that put nothing deep leave the items shallow. -/
theorem shallow_useAll
    {store : StoredSettings σ}
    {uses : List SettingsUse}
    (modest : ∀ use ∈ uses, use.Puts (Json.Kept itemRoom))
    (shallow : Shallow store.items) :
    Shallow (store.useAll uses).items := by
  induction uses generalizing store with
  | nil =>
      exact shallow
  | cons first others inductionHypothesis =>
      have ⟨modestFirst, modestOthers⟩ := List.forall_mem_cons.mp modest
      exact inductionHypothesis modestOthers (shallow_use modestFirst shallow)

/-- Items are read back from the text of all of them. -/
theorem itemsOf_text
    {items : OrderedMap Json}
    (shallow : Shallow items)
    (integral : Integral items) :
    itemsOf (Json.ofMap id items).text = items := by
  have decoded :
      Json.Tree.mapOf (fun room tree => tree.value room) Json.roomiest
        (Json.ofMap id items).tree = .ok items :=
    Json.Tree.mapOf_tree fun item member =>
      Json.Tree.value_tree item.2 (integral item member) (shallow item member)
  rw [itemsOf, Json.decodeText_eq, decoded]

/-- One item that is too deep loses all of them. -/
theorem itemsOf_text_of_deep
    {items : OrderedMap Json}
    {item : String × Json}
    (member : item ∈ items.entries)
    (deep : itemRoom < item.2.depth) :
    itemsOf (Json.ofMap id items).text = .empty := by
  rw [itemsOf, Json.decodeText_eq]
  split
  · rename_i decoded succeeds
    have shallow :=
      Json.Tree.depth_le_of_value_tree (Json.ofMap id items)
        (Json.Tree.value_of_mapOf succeeds)
    have below := Json.membersDepth_le.mp (Nat.le_of_succ_le_succ shallow)
    have inside : (item.1, id item.2) ∈ (items.mapValues id).entries :=
      List.mem_map_of_mem member
    exact absurd (below _ inside) (Nat.not_le.mpr deep)
  · rfl

theorem integral_insert
    {items : OrderedMap Json}
    {key : String}
    {value : Json}
    (integral : Integral items)
    (own : value.Integral) :
    Integral (items.insert key value) := by
  intro item member
  rcases Entries.mem_of_mem_insert member with rfl | before
  · exact own
  · exact integral item before

/--
A storage that is opened again after a writing has the items that were written.
-/
theorem openOn_set
    {store : StoredSettings σ}
    {key : String}
    {value : Json}
    (retentive : Storage.Retentive σ)
    (succeeds : (store.set key value).1 = .ok ()) :
    openOn (store.set key value).2.storage =
      ⟨(store.set key value).2.storage,
        itemsOf (Json.ofMap id (store.set key value).2.items).text⟩ := by
  have read :
      Storage.read (store.set key value).2.storage settingsKey =
        .ok (some (Json.ofMap id (store.set key value).2.items).text) :=
    retentive store.storage settingsKey
      (Json.ofMap id (store.set key value).2.items).text succeeds
  rw [openOn, read]

/-- An item that is too deep is written, and then no item is found again. -/
theorem empty_of_deep
    {store : StoredSettings σ}
    {key : String}
    {value : Json}
    {item : String × Json}
    (retentive : Storage.Retentive σ)
    (succeeds : (store.set key value).1 = .ok ())
    (member : item ∈ (store.set key value).2.items.entries)
    (deep : itemRoom < item.2.depth) :
    (openOn (store.set key value).2.storage).items = .empty := by
  rw [openOn_set retentive succeeds]
  exact itemsOf_text_of_deep member deep

/-- Arrays that lie inside each other, one in each. -/
def nested : Nat → Json
  | 0 => .array []
  | inner + 1 => .array [nested inner]

theorem ordered_nested (inner : Nat) : (nested inner).Ordered := by
  induction inner with
  | zero =>
      trivial
  | succ inner inductionHypothesis =>
      exact ⟨inductionHypothesis, trivial⟩

/--
Settings survive a reopening.  Over any storage that keeps what it is given,
whatever was opened, put and looked up before: once an item has been put and all
have been written, opening the storage again gives the items of the store that
wrote them.  Neither the item nor those put before may be nested more than 126
deep, and there may be no double among them.  One item that is nested deeper
loses all of them.
-/
theorem settings_survive_reopening
    (retentive : Storage.Retentive σ)
    (storage : σ)
    (uses : List SettingsUse)
    (key : String)
    (value : Json)
    (succeeds : (((openOn storage).useAll uses).set key value).1 = .ok ()) :
    let before := (openOn storage).useAll uses
    let after := (before.set key value).2
    let reopened := openOn after.storage
    ((∀ use ∈ uses, use.Puts (Json.Kept itemRoom)) →
      value.Kept itemRoom →
      Integral before.items →
      value.Integral →
      reopened.items = after.items ∧
        reopened.overrides.1 = after.overrides.1 ∧
          ∀ asked,
            reopened.contains asked = after.contains asked ∧
              (reopened.get asked).1 = (after.get asked).1) ∧
      ((∃ item ∈ after.items.entries, itemRoom < item.2.depth) →
        reopened.items = .empty) := by
  intro before after reopened
  refine ⟨fun modest kept integers integral => ?_, ?_⟩
  · have shallow : Shallow after.items :=
      shallow_insert (shallow_useAll modest (shallow_openOn storage)) kept
    have same : reopened = after := by
      rw [show reopened = _ from openOn_set retentive succeeds,
        itemsOf_text shallow (integral_insert integers integral)]
    rw [same]
    exact ⟨rfl, rfl, fun asked => ⟨rfl, rfl⟩⟩
  · rintro ⟨item, member, deep⟩
    exact empty_of_deep retentive succeeds member deep

/--
A shallow setting is found again, and one that is nested too deep loses it.
-/
theorem settings_survive_reopening_migrated :
    let uses := [.set "currentFile" (.string "a.sol"), .get "currentFile"]
    let after :=
      (((openOn MapStorage.empty).useAll uses).set "runs" (.natural 7)).2
    let lost :=
      (((openOn MapStorage.empty).useAll uses).set "deep" (nested 126)).2
    ((openOn after.storage).items = after.items ∧
      (openOn after.storage).overrides.1 = after.overrides.1 ∧
        ∀ asked,
          (openOn after.storage).contains asked = after.contains asked ∧
            ((openOn after.storage).get asked).1 = (after.get asked).1) ∧
      lost.contains "currentFile" = true ∧
      (openOn lost.storage).items = .empty := by
  intro uses after lost
  have reopens := settings_survive_reopening MapStorage.retentive .empty uses
  refine ⟨?_, by decide +kernel, ?_⟩
  · exact
      (reopens "runs" (.natural 7) rfl).1
        (by simp [uses, SettingsUse.Puts, Json.kept_string])
        (Json.kept_number _ _) (by decide +kernel) trivial
  · refine (reopens "deep" (nested 126) rfl).2 ?_
    exact
      ⟨("deep", nested 126), List.mem_cons_of_mem _ List.mem_cons_self,
        by decide +kernel⟩

/--
A setting that is nested 127 deep is written with success and loses the others.
-/
theorem settings_lost_of_nested :
    ¬ ∀ (uses : List SettingsUse) (key : String) (value : Json),
        (∀ use ∈ uses, use.Puts fun value => value.Ordered ∧ value.Integral) →
        value.Ordered →
        value.Integral →
        let before := (openOn MapStorage.empty).useAll uses
        let after := (before.set key value).2
        (before.set key value).1 = .ok () →
        ∀ asked,
          (openOn after.storage).contains asked = after.contains asked := by
  intro always
  have kept :=
    always [.set "keep" (.natural 1)] "deep" (nested 126)
      (List.forall_mem_singleton.mpr ⟨trivial, trivial⟩)
      (ordered_nested 126) (by decide +kernel) rfl "keep"
  have lost :
      (openOn
        (((openOn MapStorage.empty).useAll [.set "keep" (.natural 1)]).set
          "deep" (nested 126)).2.storage).items = .empty :=
    empty_of_deep MapStorage.retentive rfl List.mem_cons_self
      (by decide +kernel)
  rw [contains, lost] at kept
  revert kept
  decide +kernel

end StoredSettings

end CompilerSession
