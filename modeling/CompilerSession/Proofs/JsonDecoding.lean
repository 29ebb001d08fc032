import CompilerSession.Proofs.JsonText

namespace CompilerSession

/-!
# Written values and their decoders

A decoder gives back what was written, as long as there is room for the
containers and the members of objects ascend.  Both are so of everything that a
decoder has kept, so what has been read once may be written and read again.

The room is what the writer does not know of: it writes any depth, and a value
that lies inside other containers has less of it.
-/

/-! ## Steps that may fail -/

/-- A computation in two steps succeeds if both do. -/
theorem bind_eq_ok
    {ε α β : Type}
    {first : Except ε α}
    {next : α → Except ε β}
    {result : β} :
    first >>= next = .ok result ↔
      ∃ value, first = .ok value ∧ next value = .ok result := by
  cases first with
  | error error =>
      exact ⟨nofun, nofun⟩
  | ok value =>
      simp [ok_bind]

/--
What holds at first and is kept by every step holds of the result of a fold.
-/
theorem foldlM_induction
    {ε α β : Type}
    {step : β → α → Except ε β}
    (motive : β → Prop)
    {items : List α}
    {known result : β}
    (start : motive known)
    (keeps :
      ∀ known item next,
        item ∈ items → motive known → step known item = .ok next → motive next)
    (succeeds : items.foldlM step known = .ok result) :
    motive result := by
  induction items generalizing known with
  | nil =>
      cases succeeds
      exact start
  | cons item others inductionHypothesis =>
      rw [List.foldlM_cons, bind_eq_ok] at succeeds
      obtain ⟨next, first, later⟩ := succeeds
      exact
        inductionHypothesis
          (keeps known item next List.mem_cons_self start first)
          (fun known other next member =>
            keeps known other next (List.mem_cons_of_mem _ member))
          later

/-- Every result of steps taken side by side is that of one of them. -/
theorem forall_mem_of_mapM
    {ε α β : Type}
    {step : α → Except ε β}
    {items : List α}
    {results : List β}
    (succeeds : items.mapM step = .ok results) :
    ∀ result ∈ results, ∃ item, step item = .ok result := by
  induction items generalizing results with
  | nil =>
      cases succeeds
      exact List.forall_mem_nil _
  | cons first others inductionHypothesis =>
      rw [List.mapM_cons] at succeeds
      obtain ⟨result, head, succeeds⟩ := bind_eq_ok.mp succeeds
      obtain ⟨later, tail, same⟩ := bind_eq_ok.mp succeeds
      cases same
      exact List.forall_mem_cons.mpr ⟨⟨first, head⟩, inductionHypothesis tail⟩

namespace Entries

variable {α : Type}

/-- An entry after an insertion is the inserted one or was there before. -/
theorem mem_of_mem_insert
    {key : String}
    {value : α}
    {entries : Entries α}
    {entry : String × α}
    (member : entry ∈ insert key value entries) :
    entry = (key, value) ∨ entry ∈ entries := by
  induction entries with
  | nil =>
      exact Or.inl (List.mem_singleton.mp member)
  | cons head rest inductionHypothesis =>
      obtain ⟨known, old⟩ := head
      simp only [insert] at member
      split at member
      · simpa using member
      · split at member
        · rcases List.mem_cons.mp member with same | later
          · exact Or.inl same
          · exact Or.inr (List.mem_cons_of_mem _ later)
        · rcases List.mem_cons.mp member with same | later
          · exact Or.inr (same ▸ List.mem_cons_self)
          · exact (inductionHypothesis later).imp_right (List.mem_cons_of_mem _)

/-- A key above all others goes to the end. -/
theorem insert_of_above
    {key : String}
    {entries : Entries α}
    (value : α)
    (above : ∀ entry ∈ entries, entry.1 < key) :
    insert key value entries = entries ++ [(key, value)] := by
  induction entries with
  | nil =>
      rfl
  | cons head rest inductionHypothesis =>
      have below : head.1 < key := above head List.mem_cons_self
      have other : key ≠ head.1 := fun same => String.lt_irrefl _ (same ▸ below)
      rw [insert, if_neg (String.lt_asymm below), if_neg other,
        inductionHypothesis fun entry member =>
          above entry (List.mem_cons_of_mem _ member), List.cons_append]

/-- Put entries in one after the other. -/
def insertAll (known added : Entries α) : Entries α :=
  added.foldl (fun known entry => known.insert entry.1 entry.2) known

/-- Entries that ascend are put one behind the other. -/
theorem insertAll_of_ascending
    (known added : Entries α)
    (ascending : Ascending (known ++ added)) :
    insertAll known added = known ++ added := by
  induction added generalizing known with
  | nil =>
      simp [insertAll]
  | cons entry others inductionHypothesis =>
      have above : ∀ earlier ∈ known, earlier.1 < entry.1 :=
        fun earlier member =>
          (List.pairwise_append.mp ascending).2.2 earlier member entry
            List.mem_cons_self
      rw [List.append_cons] at ascending ⊢
      rw [← inductionHypothesis _ ascending, ← insert_of_above entry.2 above]
      rfl

/-- A name that no entry has finds nothing. -/
theorem find?_eq_none
    {wanted : String}
    {entries : Entries α}
    (absent : wanted ∉ entries.map Prod.fst) :
    find? wanted entries = none := by
  induction entries with
  | nil =>
      rfl
  | cons entry others inductionHypothesis =>
      rw [List.map_cons, List.mem_cons, not_or] at absent
      rw [find?, if_neg absent.1, inductionHypothesis absent.2]

/-- What a name finds is among the entries. -/
theorem mem_of_find?
    {wanted : String}
    {value : α}
    {entries : Entries α}
    (found : find? wanted entries = some value) :
    (wanted, value) ∈ entries := by
  induction entries with
  | nil =>
      cases found
  | cons entry others inductionHypothesis =>
      rw [find?] at found
      split at found
      · rename_i same
        cases found
        exact same ▸ List.mem_cons_self
      · exact List.mem_cons_of_mem _ (inductionHypothesis found)

@[simp] theorem find?_append
    (wanted : String)
    (entries others : Entries α) :
    find? wanted (entries ++ others) =
      (find? wanted entries).or (find? wanted others) := by
  induction entries with
  | nil =>
      rfl
  | cons entry rest inductionHypothesis =>
      rw [List.cons_append, find?, find?]
      split
      · rfl
      · exact inductionHypothesis

/-- Entries with different keys are found again once they have been put in. -/
theorem find?_insertAll
    {known added : Entries α}
    (distinct : (added.map Prod.fst).Nodup)
    (wanted : String) :
    find? wanted (insertAll known added) =
      (find? wanted added).or (find? wanted known) := by
  induction added generalizing known with
  | nil =>
      rfl
  | cons entry others inductionHypothesis =>
      obtain ⟨absent, later⟩ := List.nodup_cons.mp distinct
      show find? wanted (insertAll (known.insert entry.1 entry.2) others) = _
      rw [inductionHypothesis later, find?_insert, find?]
      split
      · rename_i same
        rw [find?_eq_none (same ▸ absent)]
        rfl
      · rfl

end Entries

namespace Json

/-! ## Values that are kept -/

mutual

/-- How many arrays and objects lie inside each other. -/
def depth : Json → Nat
  | .array elements => elementsDepth elements + 1
  | .object members => membersDepth members + 1
  | _ => 0

/-- The depth of the deepest element. -/
def elementsDepth : List Json → Nat
  | [] => 0
  | element :: rest => max (depth element) (elementsDepth rest)

/-- The depth of the deepest value of a member. -/
def membersDepth : List (String × Json) → Nat
  | [] => 0
  | (_, value) :: rest => max (depth value) (membersDepth rest)

end

/-- A value that a decoder with so much room can have kept. -/
structure Kept
    (room : Nat)
    (value : Json) : Prop where
  ordered : value.Ordered
  shallow : value.depth ≤ room

theorem kept_string
    (room : Nat)
    (text : String) :
    (Json.string text).Kept room :=
  ⟨trivial, Nat.zero_le room⟩

theorem kept_number
    (room : Nat)
    (held : Number) :
    (Json.number held).Kept room :=
  ⟨trivial, Nat.zero_le room⟩

theorem orderedElements_iff {elements : List Json} :
    OrderedElements elements ↔ ∀ element ∈ elements, element.Ordered := by
  induction elements with
  | nil =>
      simp [OrderedElements]
  | cons element others inductionHypothesis =>
      simp [OrderedElements, inductionHypothesis]

theorem orderedMembers_iff {members : List (String × Json)} :
    OrderedMembers members ↔ ∀ member ∈ members, member.2.Ordered := by
  induction members with
  | nil =>
      simp [OrderedMembers]
  | cons member others inductionHypothesis =>
      simp [OrderedMembers, inductionHypothesis]

/-- Elements stay within a depth if each of them does. -/
theorem elementsDepth_le
    {room : Nat}
    {elements : List Json} :
    elementsDepth elements ≤ room ↔
      ∀ element ∈ elements, element.depth ≤ room := by
  induction elements with
  | nil =>
      simp [elementsDepth]
  | cons element others inductionHypothesis =>
      rw [elementsDepth, Nat.max_le, inductionHypothesis, List.forall_mem_cons]

/-- Members stay within a depth if the value of each does. -/
theorem membersDepth_le
    {room : Nat}
    {members : List (String × Json)} :
    membersDepth members ≤ room ↔
      ∀ member ∈ members, member.2.depth ≤ room := by
  induction members with
  | nil =>
      simp [membersDepth]
  | cons member others inductionHypothesis =>
      rw [membersDepth, Nat.max_le, inductionHypothesis, List.forall_mem_cons]

/-- An array is kept if there is room for its elements. -/
theorem kept_array
    {room : Nat}
    {elements : List Json} :
    (Json.array elements).Kept (room + 1) ↔
      ∀ element ∈ elements, element.Kept room := by
  constructor
  · intro kept element member
    exact
      ⟨orderedElements_iff.mp kept.ordered element member,
        elementsDepth_le.mp (Nat.le_of_succ_le_succ kept.shallow)
          element member⟩
  · intro kept
    exact
      ⟨orderedElements_iff.mpr fun element member =>
        (kept element member).ordered,
          Nat.succ_le_succ
            (elementsDepth_le.mpr fun element member =>
              (kept element member).shallow)⟩

/-- An object is kept if its keys ascend and there is room for its values. -/
theorem kept_object
    {room : Nat}
    {members : List (String × Json)} :
    (Json.object members).Kept (room + 1) ↔
      Entries.Ascending members ∧ ∀ member ∈ members, member.2.Kept room := by
  constructor
  · intro kept
    refine ⟨kept.ordered.1, fun entry member => ⟨?_, ?_⟩⟩
    · exact orderedMembers_iff.mp kept.ordered.2 entry member
    · exact
        membersDepth_le.mp (Nat.le_of_succ_le_succ kept.shallow) entry member
  · rintro ⟨ascending, kept⟩
    refine ⟨⟨ascending, ?_⟩, Nat.succ_le_succ ?_⟩
    · exact orderedMembers_iff.mpr fun entry member =>
        (kept entry member).ordered
    · exact membersDepth_le.mpr fun entry member => (kept entry member).shallow

theorem integral_ofMap
    {α : Type}
    {encode : α → Json}
    {map : OrderedMap α} :
    (ofMap encode map).Integral ↔
      ∀ entry ∈ map.entries, (encode entry.2).Integral := by
  show IntegralMembers (map.entries.mapValues encode) ↔ _
  rw [integralMembers_iff, Entries.mapValues, List.forall_mem_map]

/-- A map is kept if there is room for its values. -/
theorem kept_ofMap
    {α : Type}
    {encode : α → Json}
    {map : OrderedMap α}
    {room : Nat} :
    (ofMap encode map).Kept (room + 1) ↔
      ∀ entry ∈ map.entries, (encode entry.2).Kept room := by
  have values :
      (∀ member ∈ (map.mapValues encode).entries, member.2.Kept room) ↔
        ∀ entry ∈ map.entries, (encode entry.2).Kept room :=
    List.forall_mem_map
  rw [ofMap, kept_object, values]
  exact and_iff_right (map.mapValues encode).ascending

namespace Tree

/-- A container is entered as long as there is room, and takes one away. -/
theorem enter_eq_ok
    {room inner : Nat} :
    enter room = .ok inner ↔ room = inner + 1 := by
  cases room with
  | zero =>
      exact ⟨nofun, nofun⟩
  | succ room =>
      simp [enter]

theorem finish_eq_ok
    {α : Type}
    {closed : Bool}
    {value result : α} :
    finish closed value = .ok result ↔ closed = true ∧ value = result := by
  cases closed <;> simp [finish]

/-! ## What was written is decoded again -/

mutual

/-- A value that fits the room is read back from its tree. -/
theorem value_tree
    {room : Nat}
    (value : Json)
    (integral : value.Integral)
    (kept : value.Kept room) :
    value.tree.value room = .ok value := by
  cases value with
  | null =>
      rfl
  | bool flag =>
      rfl
  | number held =>
      cases held with
      | integer value fits =>
          rw [Json.tree, Tree.value, Number.value?_literal]
      | double value =>
          exact integral.elim
  | string text =>
      rfl
  | array elements =>
      cases room with
      | zero =>
          exact absurd kept.shallow (Nat.not_succ_le_zero _)
      | succ inner =>
          have values :=
            elementValues_elementTrees elements integral (kept_array.mp kept)
          rw [Json.tree, Tree.value, enter, ok_bind, values]
          rfl
  | object members =>
      cases room with
      | zero =>
          exact absurd kept.shallow (Nat.not_succ_le_zero _)
      | succ inner =>
          have ⟨ascending, below⟩ := kept_object.mp kept
          have values := memberValues_memberTrees members integral below []
          rw [Entries.insertAll_of_ascending [] members ascending] at values
          rw [Json.tree, Tree.value, enter, ok_bind, values]
          rfl

/-- Elements that fit the room are read back from their trees. -/
theorem elementValues_elementTrees
    {room : Nat}
    (elements : List Json)
    (integral : IntegralElements elements)
    (kept : ∀ element ∈ elements, element.Kept room) :
    elementValues room (elementTrees elements) = .ok elements := by
  cases elements with
  | nil =>
      rfl
  | cons first others =>
      have ⟨keptFirst, keptOthers⟩ := List.forall_mem_cons.mp kept
      rw [elementTrees, elementValues, value_tree first integral.1 keptFirst,
        ok_bind, elementValues_elementTrees others integral.2 keptOthers]
      rfl

/--
Members that fit the room are read back from their trees, inserted in turn.
-/
theorem memberValues_memberTrees
    {room : Nat}
    (members : List (String × Json))
    (integral : IntegralMembers members)
    (kept : ∀ member ∈ members, member.2.Kept room)
    (known : Entries Json) :
    memberValues room known (memberTrees members) =
      .ok (known.insertAll members) := by
  cases members with
  | nil =>
      rfl
  | cons first others =>
      have ⟨keptFirst, keptOthers⟩ := List.forall_mem_cons.mp kept
      rw [memberTrees, memberValues, keep, ok_bind,
        value_tree first.2 integral.1 keptFirst, ok_bind,
        memberValues_memberTrees others integral.2 keptOthers]
      rfl

end

/-- A map of values that are read back is read back member by member. -/
private theorem foldlM_memberTrees
    {α β : Type}
    {encode : α → Json}
    {decode : Nat → Tree → Except DecodingError β}
    {change : α → β}
    {room : Nat}
    (entries : Entries α)
    (back :
      ∀ entry ∈ entries,
        decode room (encode entry.2).tree = .ok (change entry.2))
    (known : OrderedMap β) :
    ∃ map,
      (memberTrees (entries.mapValues encode)).foldlM
        (fun known (key?, member) => do
        let key ← keep key?
        let decoded ← decode room member
        return known.insert key decoded) known = .ok map ∧
      map.entries = known.entries.insertAll (entries.mapValues change) := by
  induction entries generalizing known with
  | nil =>
      exact ⟨known, rfl, rfl⟩
  | cons entry others inductionHypothesis =>
      have ⟨first, later⟩ := List.forall_mem_cons.mp back
      obtain ⟨map, folded, same⟩ :=
        inductionHypothesis later (known.insert entry.1 (change entry.2))
      refine ⟨map, ?_, same⟩
      rw [← folded]
      simp only [Entries.mapValues, List.map_cons, memberTrees,
        List.foldlM_cons, keep, ok_bind, first]
      rfl

/--
An object in any order of its members is decoded as they are put in one after
the other.
-/
theorem value_tree_object
    {room : Nat}
    (members : List (String × Json))
    (integral : IntegralMembers members)
    (kept : ∀ member ∈ members, member.2.Kept room) :
    (Json.object members).tree.value (room + 1) =
      .ok (.object (Entries.insertAll [] members)) := by
  rw [Json.tree, Tree.value, enter, ok_bind,
    memberValues_memberTrees members integral kept]
  rfl

/-- A map is decoded with what its values are decoded as. -/
theorem mapOf_tree_mapValues
    {α β : Type}
    {encode : α → Json}
    {decode : Nat → Tree → Except DecodingError β}
    {change : α → β}
    {room : Nat}
    {map : OrderedMap α}
    (back :
      ∀ entry ∈ map.entries,
        decode room (encode entry.2).tree = .ok (change entry.2)) :
    mapOf decode (room + 1) (Json.ofMap encode map).tree =
      .ok (map.mapValues change) := by
  obtain ⟨decoded, folded, same⟩ := foldlM_memberTrees map.entries back .empty
  have ascending := (map.mapValues change).ascending
  have isMap : decoded = map.mapValues change :=
    OrderedMap.ext (same.trans (Entries.insertAll_of_ascending [] _ ascending))
  rw [ofMap, Json.tree, mapOf, enter, ok_bind, OrderedMap.mapValues, folded,
    ok_bind, isMap]
  rfl

/-- A map is decoded again if its values are. -/
theorem mapOf_tree
    {α : Type}
    {encode : α → Json}
    {decode : Nat → Tree → Except DecodingError α}
    {room : Nat}
    {map : OrderedMap α}
    (back :
      ∀ entry ∈ map.entries, decode room (encode entry.2).tree = .ok entry.2) :
    mapOf decode (room + 1) (Json.ofMap encode map).tree = .ok map := by
  have decoded :
      mapOf decode (room + 1) (Json.ofMap encode map).tree =
        .ok (map.mapValues id) :=
    mapOf_tree_mapValues back
  rw [decoded]
  exact congrArg Except.ok (OrderedMap.ext (List.map_id map.entries))

/-- A list is decoded again if its elements are. -/
theorem listOf_tree
    {α : Type}
    {encode : α → Json}
    {decode : Nat → Tree → Except DecodingError α}
    {room : Nat}
    {elements : List α}
    (back :
      ∀ element ∈ elements, decode room (encode element).tree = .ok element) :
    listOf decode (room + 1) (Json.array (elements.map encode)).tree =
      .ok elements := by
  have values :
      (elementTrees (elements.map encode)).mapM (decode room) =
        .ok elements := by
    induction elements with
    | nil =>
        rfl
    | cons first others inductionHypothesis =>
        have ⟨head, later⟩ := List.forall_mem_cons.mp back
        rw [List.map_cons, elementTrees, List.mapM_cons, head, ok_bind,
          inductionHypothesis later]
        rfl
  rw [Json.tree, listOf, enter, ok_bind, values]
  rfl

/-! ## What a decoder keeps -/

mutual

/-- A decoded value is ordered and no deeper than there was room. -/
theorem kept_of_value
    {room : Nat}
    {value : Json}
    (tree : Tree)
    (decoded : tree.value room = .ok value) :
    value.Kept room := by
  cases tree with
  | null =>
      cases decoded
      exact ⟨trivial, Nat.zero_le _⟩
  | bool flag =>
      cases decoded
      exact ⟨trivial, Nat.zero_le _⟩
  | number literal =>
      rw [Tree.value] at decoded
      split at decoded
      · cases decoded
        exact ⟨trivial, Nat.zero_le _⟩
      · cases decoded
  | string text? =>
      cases text? with
      | none =>
          cases decoded
      | some text =>
          cases decoded
          exact ⟨trivial, Nat.zero_le _⟩
  | array elements closed =>
      rw [Tree.value] at decoded
      obtain ⟨inner, entered, decoded⟩ := bind_eq_ok.mp decoded
      obtain ⟨values, inside, finished⟩ := bind_eq_ok.mp decoded
      cases enter_eq_ok.mp entered
      cases (finish_eq_ok.mp finished).2
      exact kept_array.mpr (kept_of_elementValues elements inside)
  | object members closed =>
      rw [Tree.value] at decoded
      obtain ⟨inner, entered, decoded⟩ := bind_eq_ok.mp decoded
      obtain ⟨values, inside, finished⟩ := bind_eq_ok.mp decoded
      cases enter_eq_ok.mp entered
      cases (finish_eq_ok.mp finished).2
      exact
        kept_object.mpr
          (kept_of_memberValues members Entries.ascending_nil
            (List.forall_mem_nil _) inside)

theorem kept_of_elementValues
    {room : Nat}
    {values : List Json}
    (elements : List Tree)
    (decoded : elementValues room elements = .ok values) :
    ∀ value ∈ values, value.Kept room := by
  cases elements with
  | nil =>
      cases decoded
      exact List.forall_mem_nil _
  | cons first others =>
      rw [elementValues] at decoded
      obtain ⟨value, head, decoded⟩ := bind_eq_ok.mp decoded
      obtain ⟨later, tail, same⟩ := bind_eq_ok.mp decoded
      cases same
      exact
        List.forall_mem_cons.mpr
          ⟨kept_of_value first head, kept_of_elementValues others tail⟩

theorem kept_of_memberValues
    {room : Nat}
    {known values : Entries Json}
    (members : List (Option String × Tree))
    (ascending : known.Ascending)
    (kept : ∀ entry ∈ known, entry.2.Kept room)
    (decoded : memberValues room known members = .ok values) :
    values.Ascending ∧ ∀ entry ∈ values, entry.2.Kept room := by
  cases members with
  | nil =>
      cases decoded
      exact ⟨ascending, kept⟩
  | cons first others =>
      rw [memberValues] at decoded
      obtain ⟨key, named, decoded⟩ := bind_eq_ok.mp decoded
      obtain ⟨value, head, decoded⟩ := bind_eq_ok.mp decoded
      refine kept_of_memberValues others (ascending.insert key value) ?_ decoded
      intro entry member
      rcases Entries.mem_of_mem_insert member with rfl | before
      · exact kept_of_value first.2 head
      · exact kept entry before

end

mutual

/-- What is written of a value that is too deep is not decoded. -/
theorem depth_le_of_value_tree
    {room : Nat}
    {decoded : Json}
    (value : Json)
    (succeeds : value.tree.value room = .ok decoded) :
    value.depth ≤ room := by
  cases value with
  | array elements =>
      rw [Json.tree, Tree.value] at succeeds
      obtain ⟨inner, entered, succeeds⟩ := bind_eq_ok.mp succeeds
      obtain ⟨values, inside, -⟩ := bind_eq_ok.mp succeeds
      rw [enter_eq_ok.mp entered]
      exact Nat.succ_le_succ (depth_le_of_elementValues elements inside)
  | object members =>
      rw [Json.tree, Tree.value] at succeeds
      obtain ⟨inner, entered, succeeds⟩ := bind_eq_ok.mp succeeds
      obtain ⟨values, inside, -⟩ := bind_eq_ok.mp succeeds
      rw [enter_eq_ok.mp entered]
      exact Nat.succ_le_succ (depth_le_of_memberValues members inside)
  | _ =>
      exact Nat.zero_le room
termination_by structural value

/-- Elements that can be read are no deeper than the room. -/
theorem depth_le_of_elementValues
    {room : Nat}
    {decoded : List Json}
    (elements : List Json)
    (succeeds : elementValues room (elementTrees elements) = .ok decoded) :
    elementsDepth elements ≤ room := by
  cases elements with
  | nil =>
      exact Nat.zero_le room
  | cons first others =>
      rw [elementTrees, elementValues] at succeeds
      obtain ⟨value, head, succeeds⟩ := bind_eq_ok.mp succeeds
      obtain ⟨later, tail, -⟩ := bind_eq_ok.mp succeeds
      exact
        Nat.max_le.mpr
          ⟨depth_le_of_value_tree first head,
            depth_le_of_elementValues others tail⟩
termination_by structural elements

/-- Members that can be read are no deeper than the room. -/
theorem depth_le_of_memberValues
    {room : Nat}
    {known decoded : Entries Json}
    (members : List (String × Json))
    (succeeds : memberValues room known (memberTrees members) = .ok decoded) :
    membersDepth members ≤ room := by
  cases members with
  | nil =>
      exact Nat.zero_le room
  | cons first others =>
      rw [memberTrees, memberValues] at succeeds
      obtain ⟨key, -, succeeds⟩ := bind_eq_ok.mp succeeds
      obtain ⟨value, head, succeeds⟩ := bind_eq_ok.mp succeeds
      exact
        Nat.max_le.mpr
          ⟨depth_le_of_value_tree first.2 head,
            depth_le_of_memberValues others succeeds⟩
termination_by structural members

end

/-- If the members of an object are decoded, so is each of them. -/
theorem decoded_of_memberValues
    {room : Nat}
    {members : List (String × Json)}
    {known decoded : Entries Json}
    (succeeds : memberValues room known (memberTrees members) = .ok decoded) :
    ∀ member ∈ members, ∃ value, member.2.tree.value room = .ok value := by
  induction members generalizing known with
  | nil =>
      exact List.forall_mem_nil _
  | cons first others inductionHypothesis =>
      rw [memberTrees, memberValues] at succeeds
      obtain ⟨key, -, succeeds⟩ := bind_eq_ok.mp succeeds
      obtain ⟨value, head, succeeds⟩ := bind_eq_ok.mp succeeds
      exact
        List.forall_mem_cons.mpr ⟨⟨value, head⟩, inductionHypothesis succeeds⟩

/-- Members that a fold reads are read alike one by one. -/
private theorem memberValues_of_foldlM
    {room : Nat}
    {members : List (Option String × Tree)}
    {known result : OrderedMap Json}
    (folded :
      members.foldlM (fun known (key?, member) => do
        let key ← keep key?
        let decoded ← member.value room
        return known.insert key decoded) known = .ok result) :
    memberValues room known.entries members = .ok result.entries := by
  induction members generalizing known with
  | nil =>
      cases folded
      rfl
  | cons first others inductionHypothesis =>
      rw [List.foldlM_cons] at folded
      obtain ⟨next, stepped, folded⟩ := bind_eq_ok.mp folded
      obtain ⟨key, named, stepped⟩ := bind_eq_ok.mp stepped
      obtain ⟨value, isValue, stepped⟩ := bind_eq_ok.mp stepped
      cases stepped
      rw [memberValues, named, ok_bind, isValue, ok_bind]
      exact inductionHypothesis folded

/-- An object of which a map of values is decoded has the values as its own. -/
theorem value_of_mapOf
    {room : Nat}
    {tree : Tree}
    {map : OrderedMap Json}
    (decoded : mapOf (fun room tree => tree.value room) room tree = .ok map) :
    tree.value room = .ok (.object map.entries) := by
  cases tree with
  | object members closed =>
      rw [mapOf] at decoded
      obtain ⟨inner, entered, decoded⟩ := bind_eq_ok.mp decoded
      obtain ⟨result, folded, finished⟩ := bind_eq_ok.mp decoded
      obtain ⟨isClosed, rfl⟩ := finish_eq_ok.mp finished
      have inside : memberValues inner [] members = .ok result.entries :=
        memberValues_of_foldlM folded
      rw [Tree.value, entered, ok_bind, inside, isClosed]
      rfl
  | _ =>
      cases decoded

/--
Every value of a decoded map has been decoded with one container less of room.
-/
theorem decoded_of_mapOf
    {α : Type}
    {decode : Nat → Tree → Except DecodingError α}
    {room : Nat}
    {tree : Tree}
    {map : OrderedMap α}
    (decoded : mapOf decode room tree = .ok map) :
    ∃ inner,
      room = inner + 1 ∧
        ∀ entry ∈ map.entries, ∃ member, decode inner member = .ok entry.2 := by
  cases tree with
  | object members closed =>
      rw [mapOf] at decoded
      obtain ⟨inner, entered, decoded⟩ := bind_eq_ok.mp decoded
      obtain ⟨result, folded, finished⟩ := bind_eq_ok.mp decoded
      cases (finish_eq_ok.mp finished).2
      refine ⟨inner, enter_eq_ok.mp entered, ?_⟩
      refine
        foldlM_induction
          (fun known => ∀ entry ∈ known.entries, ∃ member, decode inner member =
            .ok entry.2)
          (List.forall_mem_nil _) ?_ folded
      intro known item next _ before stepped
      obtain ⟨key, named, stepped⟩ := bind_eq_ok.mp stepped
      obtain ⟨value, isValue, stepped⟩ := bind_eq_ok.mp stepped
      cases stepped
      intro entry member
      rcases Entries.mem_of_mem_insert member with rfl | old
      · exact ⟨item.2, isValue⟩
      · exact before entry old
  | _ =>
      cases decoded

/--
Every element of a decoded list has been decoded with one container less of
room.
-/
theorem decoded_of_listOf
    {α : Type}
    {decode : Nat → Tree → Except DecodingError α}
    {room : Nat}
    {tree : Tree}
    {values : List α}
    (decoded : listOf decode room tree = .ok values) :
    ∃ inner,
      room = inner + 1 ∧
        ∀ value ∈ values, ∃ element, decode inner element = .ok value := by
  cases tree with
  | array elements closed =>
      rw [listOf] at decoded
      obtain ⟨inner, entered, decoded⟩ := bind_eq_ok.mp decoded
      obtain ⟨result, mapped, finished⟩ := bind_eq_ok.mp decoded
      cases (finish_eq_ok.mp finished).2
      exact ⟨inner, enter_eq_ok.mp entered, forall_mem_of_mapM mapped⟩
  | _ =>
      cases decoded

end Tree

/-- The text of a value is decoded as its tree is. -/
theorem decodeText_eq
    {α : Type}
    (decode : Nat → Tree → Except DecodingError α)
    (value : Json) :
    decodeText decode value.text = decode roomiest value.tree := by
  rw [decodeText, Document.ofText_text]
  dsimp only
  cases decode roomiest value.tree with
  | error error =>
      rfl
  | ok decoded =>
      rfl

end Json

end CompilerSession
