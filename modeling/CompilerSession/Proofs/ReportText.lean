import CompilerSession.Proofs.JsonDecoding
import CompilerSession.Report.Payload

namespace CompilerSession

/-!
# Reports as texts

A report that has been read is written as an object, whatever forms it had, and
that object is read as the same report.  The writer leaves out what is empty or
absent, and the reader puts the same in its place; the writer has one form for a
diagnostic, and the fields of that form are what the reader takes from it.

The values in a report lie inside its own containers, so a report that has been
read holds none that is too deep to be read again at the same place.
-/

namespace Diagnostic

/-! ## Diagnostics -/

/--
A diagnostic that can have been read with room for so many containers inside its
own.
-/
structure Kept
    (room : Nat)
    (diagnostic : Diagnostic) : Prop where
  location : ∀ value ∈ diagnostic.sourceLocation?, value.Kept room
  present : diagnostic.sourceLocation? ≠ some .null
  origin : diagnostic.origin = .compiler

theorem kept_of_unlocated
    {room : Nat}
    {diagnostic : Diagnostic}
    (unlocated : diagnostic.sourceLocation? = none)
    (origin : diagnostic.origin = .compiler) :
    diagnostic.Kept room where
  location := by
    simp [unlocated]
  present := by
    simp [unlocated]
  origin :=
    origin

/-- The members of a written diagnostic. -/
def members (diagnostic : Diagnostic) : Entries Json :=
  [("message", .string diagnostic.message),
    ("severity", .string diagnostic.severity.name)] ++
  optionalMember "formattedMessage"
    (diagnostic.formattedMessage?.map Json.string) ++
  optionalMember "type" (diagnostic.errorType?.map Json.string) ++
  optionalMember "component" (diagnostic.component?.map Json.string) ++
  optionalMember "sourceLocation" diagnostic.sourceLocation?

/-- A diagnostic is written as the object of its members. -/
theorem toJson_eq (diagnostic : Diagnostic) :
    diagnostic.toJson = .object diagnostic.members :=
  rfl

/-- An optional member has no name but its own. -/
private theorem names_optionalMember
    (name : String)
    (value? : Option Json) :
    ((optionalMember name value?).map Prod.fst).Sublist [name] := by
  cases value? <;> simp [optionalMember]

/-- No field is written twice. -/
theorem distinct_members (diagnostic : Diagnostic) :
    (diagnostic.members.map Prod.fst).Nodup := by
  have names : (diagnostic.members.map Prod.fst).Sublist fieldNames := by
    simp only [members, List.map_append]
    exact
      (((List.Sublist.refl ["message", "severity"]).append
        (names_optionalMember _ _)).append
        (names_optionalMember _ _)).append (names_optionalMember _ _) |>.append
          (names_optionalMember _ _)
  exact names.nodup (by decide)

/-- Members with names of their own repeat no field. -/
private theorem repeatsField_memberTrees
    {members : Entries Json}
    (distinct : (members.map Prod.fst).Nodup) :
    repeatsField (Json.memberTrees members) = false := by
  simp only [repeatsField, List.any_eq_false, decide_eq_true_eq, Nat.not_lt]
  intro name _
  have counted :
      (Json.memberTrees members).countP (fun entry => entry.1 == some name) =
        (members.map Prod.fst).count name := by
    rw [Json.memberTrees_eq_map, List.countP_map, List.count, List.countP_map]
    rfl
  rw [counted]
  exact List.nodup_iff_count.mp distinct name

/-- What holds of an optional member holds of its value, if it has one. -/
private theorem forall_optionalMember
    {name : String}
    {value? : Option Json}
    {holds : Json → Prop} :
    (∀ member ∈ optionalMember name value?, holds member.2) ↔
      ∀ value ∈ value?, holds value := by
  cases value? <;> simp [optionalMember]

/--
The values of the members of a diagnostic are no deeper than its location.
-/
theorem Kept.members
    {room : Nat}
    {diagnostic : Diagnostic}
    (kept : diagnostic.Kept room) :
    ∀ member ∈ diagnostic.members, member.2.Kept room := by
  have optional :
      ∀ text? : Option String,
        ∀ value ∈ text?.map Json.string, value.Kept room := by
    intro text?
    cases text? <;> simp [Json.kept_string]
  simp only [Diagnostic.members, List.forall_mem_append, forall_optionalMember]
  exact
    ⟨⟨⟨⟨by simp [Json.kept_string], optional _⟩, optional _⟩, optional _⟩,
      kept.location⟩

@[simp] private theorem find?_optionalMember
    (wanted name : String)
    (value? : Option Json) :
    Entries.find? wanted (optionalMember name value?) = if wanted = name then
      value? else none := by
  cases value? <;> simp [optionalMember, Entries.find?]

/-- The field of a text is read back, whether there is a text or not. -/
private theorem textField_string (text? : Option String) :
    textField (text?.map Json.string) = .ok text? := by
  cases text? <;> rfl

/-- A field that is not null is taken as it is. -/
private theorem presentValue?_of_ne_null
    {value? : Option Json}
    (present : value? ≠ some .null) :
    presentValue? value? = value? := by
  unfold presentValue?
  split
  · exact absurd rfl present
  · rfl

/-- A severity is read back from its name. -/
private theorem ofText_name (severity : Severity) :
    Severity.ofText (some severity.name) = severity := by
  cases severity <;> decide +kernel

/-- A written diagnostic has the fields that it was written with. -/
private theorem ofFields_members
    {room : Nat}
    {diagnostic : Diagnostic}
    (kept : diagnostic.Kept room) :
    ofFields (fun name => Entries.find? name diagnostic.members) =
      .ok diagnostic := by
  have severity := ofText_name diagnostic.severity
  have message : textField (some (.string diagnostic.message)) =
    .ok (some diagnostic.message) :=
    rfl
  have level : textField (some (.string diagnostic.severity.name)) =
      .ok (some diagnostic.severity.name) :=
    rfl
  have location := presentValue?_of_ne_null kept.present
  simp [ofFields, members, Entries.find?, textField_string, message, level,
    ok_bind, severity, location]
  rw [← kept.origin]

/--
A diagnostic that can have been read is read again from what is written of it.
-/
theorem ofTree_toJson
    {room : Nat}
    {diagnostic : Diagnostic}
    (kept : diagnostic.Kept room)
    (integral : diagnostic.toJson.Integral) :
    ofTree (room + 1) diagnostic.toJson.tree = .ok diagnostic := by
  have below := kept.members
  have value := Json.Tree.value_tree_object diagnostic.members integral below
  have distinct := diagnostic.distinct_members
  rw [ofTree, toJson_eq, value, ok_bind]
  simp only [Json.tree, repeatsField_memberTrees distinct, Bool.false_eq_true,
    ↓reduceIte, Entries.find?_insertAll distinct, Entries.find?, Option.or_none]
  exact ofFields_members kept

/-- A null is never taken. -/
private theorem presentValue?_ne_null (value? : Option Json) :
    presentValue? value? ≠ some .null := by
  unfold presentValue?
  split
  · exact nofun
  · assumption

/-- A value that is taken is the one that is there. -/
private theorem eq_some_of_presentValue?
    {value? : Option Json}
    {value : Json}
    (present : presentValue? value? = some value) :
    value? = some value := by
  unfold presentValue? at present
  split at present
  · cases present
  · exact present

private theorem kept_of_ofFields
    {room : Nat}
    {field? : String → Option Json}
    {diagnostic : Diagnostic}
    (kept : ∀ value, field? "sourceLocation" = some value → value.Kept room)
    (decoded : ofFields field? = .ok diagnostic) :
    diagnostic.Kept room := by
  simp only [ofFields, bind_eq_ok] at decoded
  obtain ⟨message?, -, severity?, -, formattedMessage?, -, errorType?, -,
    component?, -, same⟩ :=
    decoded
  cases same
  exact
    ⟨fun value located => kept value (eq_some_of_presentValue? located),
      presentValue?_ne_null _, rfl⟩

/--
A diagnostic that has been read has no location but one that was read with it.
-/
theorem kept_of_ofTree
    {room : Nat}
    {tree : Json.Tree}
    {diagnostic : Diagnostic}
    (decoded : ofTree (room + 1) tree = .ok diagnostic) :
    diagnostic.Kept room := by
  rw [ofTree] at decoded
  obtain ⟨value, isValue, decoded⟩ := bind_eq_ok.mp decoded
  have keptValue := Json.Tree.kept_of_value tree isValue
  split at decoded
  · cases decoded
    exact kept_of_unlocated rfl rfl
  · rename_i members closed entries
    split at decoded
    · cases decoded
    · refine kept_of_ofFields (fun value found => ?_) decoded
      exact (Json.kept_object.mp keptValue).2 _ (Entries.mem_of_find? found)
  · rename_i values _
    split at decoded
    · refine kept_of_ofFields (fun value found => ?_) decoded
      exact
        Json.kept_array.mp keptValue _
          (List.of_mem_zip (Entries.mem_of_find? found)).2
    · cases decoded
  · cases decoded

end Diagnostic

namespace Report

/-! ## Reports -/

/--
A report that can have been read with room for so many containers in its
artifacts.
-/
structure Kept
    (room : Nat)
    (report : Report) : Prop where
  contracts :
    ∀ file ∈ report.contracts.entries,
      ∀ artifact ∈ file.2.entries, artifact.2.Kept room
  sources : ∀ source ∈ report.sources.entries, source.2.Kept (room + 1)
  errors : ∀ diagnostic ∈ report.errors, diagnostic.Kept room
  error : ∀ diagnostic ∈ report.error?, diagnostic.Kept (room + 1)

/-- The member of a field that is left out when it is empty. -/
def memberUnless
    (empty : Bool)
    (name : String)
    (value : Json) : Entries Json :=
  if empty then [] else [(name, value)]

/-- The members of a written report. -/
def members (report : Report) : Entries Json :=
  memberUnless report.contracts.isEmpty "contracts"
    (Json.ofMap (Json.ofMap id) report.contracts) ++
  memberUnless report.sources.isEmpty "sources"
    (Json.ofMap id report.sources) ++
  memberUnless report.errors.isEmpty "errors"
    (.array (report.errors.map Diagnostic.toJson)) ++
  report.error?.toList.map fun error => ("error", error.toJson)

/-- A report is written as the object of its members. -/
theorem toJson_eq (report : Report) :
    report.toJson = .object report.members := by
  simp [toJson, members, memberUnless, Json.ofMap, OrderedMap.mapValues,
    Entries.mapValues, OrderedMap.isEmpty]
  rfl

/-- No double is written of a report if none is in its values. -/
theorem integral_toJson (report : Report) :
    report.toJson.Integral ↔
      (∀ file ∈ report.contracts.entries,
        ∀ artifact ∈ file.2.entries, artifact.2.Integral) ∧
      (∀ source ∈ report.sources.entries, source.2.Integral) ∧
      (∀ diagnostic ∈ report.errors, diagnostic.toJson.Integral) ∧
      ∀ diagnostic ∈ report.error?, diagnostic.toJson.Integral := by
  have written :
      ∀ {α : Type} {items : List α} {holds : α → Prop}
        {name : String} {value : Json},
        (value.Integral ↔ ∀ item ∈ items, holds item) →
          ((∀ member ∈ memberUnless items.isEmpty name value,
            member.2.Integral) ↔
            ∀ item ∈ items, holds item) := by
    intro α items holds name value same
    cases items <;> simp [memberUnless, same]
  have contracts :
      (Json.ofMap (Json.ofMap id) report.contracts).Integral ↔
        ∀ file ∈ report.contracts.entries,
          ∀ artifact ∈ file.2.entries, artifact.2.Integral := by
    simp only [Json.integral_ofMap, id]
  have errors :
      (Json.array (report.errors.map Diagnostic.toJson)).Integral ↔
        ∀ diagnostic ∈ report.errors, diagnostic.toJson.Integral := by
    rw [Json.Integral, Json.integralElements_iff, List.forall_mem_map]
  have error :
      (∀ member ∈ report.error?.toList.map fun error => ("error", error.toJson),
          member.2.Integral) ↔
        ∀ diagnostic ∈ report.error?, diagnostic.toJson.Integral := by
    cases report.error? <;> simp
  rw [toJson_eq, Json.Integral, Json.integralMembers_iff]
  simp only [members, List.forall_mem_append]
  rw [OrderedMap.isEmpty, OrderedMap.isEmpty, written contracts,
    written Json.integral_ofMap, written errors, error, and_assoc, and_assoc]
  rfl

namespace Fields

/-- Read members one after the other. -/
def readAll
    (room : Nat)
    (fields : Fields)
    (members : List (Option String × Json.Tree)) :
      Except Json.DecodingError Fields :=
  members.foldlM (fun fields (key?, member) => do
    let key ← Json.Tree.keep key?
    fields.read room key member) fields

private theorem readAll_append
    (room : Nat)
    (fields : Fields)
    (members others : Entries Json) :
    fields.readAll room (Json.memberTrees (members ++ others)) =
      fields.readAll room (Json.memberTrees members) >>= fun next =>
        next.readAll room (Json.memberTrees others) := by
  rw [readAll, Json.memberTrees_eq_map, List.map_append, List.foldlM_append,
    ← Json.memberTrees_eq_map, ← Json.memberTrees_eq_map]
  rfl

/-- A field that is left out is not read, and stays as it was. -/
private theorem readAll_memberUnless
    {room : Nat}
    {fields next : Fields}
    {empty : Bool}
    {name : String}
    {value : Json}
    (left : empty = true → next = fields)
    (read : empty = false → fields.read room name value.tree = .ok next) :
    fields.readAll room (Json.memberTrees (memberUnless empty name value)) =
      .ok next := by
  cases empty with
  | true =>
      rw [left rfl]
      rfl
  | false =>
      have fold :
          fields.readAll room [(some name, value.tree)] =
            fields.read room name value.tree >>= .ok :=
        rfl
      exact fold.trans (by rw [read rfl]; rfl)

/-- The fields that a written report has. -/
def ofReport (report : Report) : Fields where
  contracts? :=
    if report.contracts.isEmpty then .none else some report.contracts
  sources? := if report.sources.isEmpty then .none else some report.sources
  errors? := if report.errors.isEmpty then .none else some report.errors
  error? := report.error?.map some

/-- What is left out is empty in the report that is read. -/
theorem toReport_ofReport (report : Report) :
    (ofReport report).toReport = report := by
  have again :
      ∀ {α : Type} {isEmpty : Bool} {value default : α},
        (isEmpty = true → default = value) →
          (if isEmpty then Option.none else some value).getD default =
            value := by
    intro α isEmpty value default same
    cases isEmpty with
    | true =>
        exact same rfl
    | false =>
        rfl
  have map :
      ∀ {α : Type} (map : OrderedMap α), map.isEmpty = true →
        OrderedMap.empty = map :=
    fun map isEmpty => OrderedMap.ext (List.isEmpty_iff.mp isEmpty).symm
  have errors : report.errors.isEmpty = true → [] = report.errors :=
    fun isEmpty => (List.isEmpty_iff.mp isEmpty).symm
  have error : (report.error?.map some).getD .none = report.error? := by
    cases report.error? <;> rfl
  simp only [toReport, ofReport, again (map report.contracts),
    again (map report.sources), again errors, error]

/-- The contracts are read back. -/
private theorem contracts_tree
    {room : Nat}
    {report : Report}
    (kept : report.Kept room)
    (integral : report.toJson.Integral) :
    Json.Tree.mapOf (Json.Tree.mapOf fun room tree => tree.value room)
      (room + 2) (Json.ofMap (Json.ofMap id) report.contracts).tree =
          .ok report.contracts := by
  have contracts := ((integral_toJson report).mp integral).1
  exact
    Json.Tree.mapOf_tree fun file member =>
      Json.Tree.mapOf_tree fun artifact inside =>
        Json.Tree.value_tree artifact.2 (contracts file member artifact inside)
          (kept.contracts file member artifact inside)

private theorem sources_tree
    {room : Nat}
    {report : Report}
    (kept : report.Kept room)
    (integral : report.toJson.Integral) :
    Json.Tree.mapOf (fun room tree => tree.value room) (room + 2)
        (Json.ofMap id report.sources).tree = .ok report.sources := by
  have sources := ((integral_toJson report).mp integral).2.1
  exact
    Json.Tree.mapOf_tree fun source member =>
      Json.Tree.value_tree source.2 (sources source member)
        (kept.sources source member)

/-- The diagnostics are read back in their order. -/
private theorem errors_tree
    {room : Nat}
    {report : Report}
    (kept : report.Kept room)
    (integral : report.toJson.Integral) :
    Json.Tree.listOf Diagnostic.ofTree (room + 2)
        (Json.array (report.errors.map Diagnostic.toJson)).tree =
          .ok report.errors := by
  have errors := ((integral_toJson report).mp integral).2.2.1
  exact
    Json.Tree.listOf_tree fun diagnostic member =>
      Diagnostic.ofTree_toJson (kept.errors diagnostic member)
        (errors diagnostic member)

private theorem topError_tree
    {room : Nat}
    {report : Report}
    {error : Diagnostic}
    (kept : report.Kept room)
    (integral : report.toJson.Integral)
    (isError : report.error? = some error) :
    topError (room + 2) error.toJson.tree = .ok (some error) := by
  have errorIntegral :=
    ((integral_toJson report).mp integral).2.2.2 error isError
  show (Diagnostic.ofTree (room + 2) error.toJson.tree).map some = _
  rw [Diagnostic.ofTree_toJson (kept.error error isError) errorIntegral]
  rfl

/--
The members of a written report are read one after the other into its fields.
-/
theorem readAll_members
    {room : Nat}
    {report : Report}
    (kept : report.Kept room)
    (integral : report.toJson.Integral) :
    none.readAll (room + 2) (Json.memberTrees report.members) =
      .ok (ofReport report) := by
  let written := ofReport report
  have contracts :
      none.readAll (room + 2)
        (Json.memberTrees (memberUnless report.contracts.isEmpty "contracts"
          (Json.ofMap (Json.ofMap id) report.contracts))) =
        .ok ⟨written.contracts?, .none, .none, .none⟩ := by
    refine readAll_memberUnless (fun isEmpty => ?_) (fun nonempty => ?_)
    · simp [written, ofReport, isEmpty, none]
    · simp [read, none, contracts_tree kept integral, written, ofReport,
        nonempty]
  have sources :
      readAll (room + 2) ⟨written.contracts?, .none, .none, .none⟩
          (Json.memberTrees (memberUnless report.sources.isEmpty "sources"
            (Json.ofMap id report.sources))) =
        .ok ⟨written.contracts?, written.sources?, .none, .none⟩ := by
    refine readAll_memberUnless (fun isEmpty => ?_) (fun nonempty => ?_)
    · simp [written, ofReport, isEmpty]
    · simp [read, sources_tree kept integral, written, ofReport, nonempty]
  have errors :
      readAll (room + 2) ⟨written.contracts?, written.sources?, .none, .none⟩
          (Json.memberTrees (memberUnless report.errors.isEmpty "errors"
            (.array (report.errors.map Diagnostic.toJson)))) =
        .ok ⟨written.contracts?, written.sources?, written.errors?, .none⟩ := by
    refine readAll_memberUnless (fun isEmpty => ?_) (fun nonempty => ?_)
    · simp [written, ofReport, isEmpty]
    · simp [read, errors_tree kept integral, written, ofReport, nonempty]
  have error :
      readAll (room + 2)
          ⟨written.contracts?, written.sources?, written.errors?, .none⟩
          (Json.memberTrees
            (report.error?.toList.map fun error => ("error", error.toJson))) =
        .ok written := by
    cases isError : report.error? with
    | none =>
        simp [written, ofReport, isError]
        rfl
    | some error =>
        simp [readAll, Json.memberTrees, Json.Tree.keep, read,
          topError_tree kept integral isError, ok_bind, written, ofReport,
          isError]
  rw [members, readAll_append, readAll_append, readAll_append, contracts,
    ok_bind, sources, ok_bind, errors, ok_bind, error]

private theorem kept_of_topError
    {room : Nat}
    {tree : Json.Tree}
    {error? : Option Diagnostic}
    (decoded : topError (room + 1) tree = .ok error?) :
    ∀ error ∈ error?, error.Kept room := by
  intro error own
  unfold topError at decoded
  split at decoded
  · cases decoded
    cases own
  · cases read : Diagnostic.ofTree (room + 1) tree with
    | error failure =>
        rw [read] at decoded
        cases decoded
    | ok found =>
        rw [read] at decoded
        cases decoded
        cases own
        exact Diagnostic.kept_of_ofTree read

/-- A field keeps no value that is too deep to be read again at its place. -/
theorem kept_of_read
    {room : Nat}
    {fields next : Fields}
    {name : String}
    {tree : Json.Tree}
    (kept : fields.toReport.Kept room)
    (decoded : fields.read (room + 2) name tree = .ok next) :
    next.toReport.Kept room := by
  unfold read at decoded
  -- The cases are the fields that are kept; inside each, one that is there
  -- twice is an error.
  split at decoded
  · split at decoded
    · cases decoded
    · obtain ⟨contracts, isContracts, same⟩ := bind_eq_ok.mp decoded
      cases same
      obtain ⟨inner, isInner, files⟩ := Json.Tree.decoded_of_mapOf isContracts
      cases isInner
      refine { kept with contracts := ?_ }
      intro file member artifact inside
      obtain ⟨fileTree, isFile⟩ := files file member
      obtain ⟨innermost, isInnermost, artifacts⟩ :=
        Json.Tree.decoded_of_mapOf isFile
      cases isInnermost
      obtain ⟨artifactTree, isArtifact⟩ := artifacts artifact inside
      exact Json.Tree.kept_of_value artifactTree isArtifact
  · split at decoded
    · cases decoded
    · obtain ⟨sources, isSources, same⟩ := bind_eq_ok.mp decoded
      cases same
      obtain ⟨inner, isInner, values⟩ := Json.Tree.decoded_of_mapOf isSources
      cases isInner
      refine { kept with sources := ?_ }
      intro source member
      obtain ⟨sourceTree, isSource⟩ := values source member
      exact Json.Tree.kept_of_value sourceTree isSource
  · split at decoded
    · cases decoded
    · obtain ⟨errors, isErrors, same⟩ := bind_eq_ok.mp decoded
      cases same
      obtain ⟨inner, isInner, diagnostics⟩ :=
        Json.Tree.decoded_of_listOf isErrors
      cases isInner
      refine { kept with errors := ?_ }
      intro diagnostic member
      obtain ⟨diagnosticTree, isDiagnostic⟩ := diagnostics diagnostic member
      exact Diagnostic.kept_of_ofTree isDiagnostic
  · split at decoded
    · cases decoded
    · obtain ⟨error, isError, same⟩ := bind_eq_ok.mp decoded
      cases same
      exact { kept with error := kept_of_topError isError }
  · cases decoded
    exact kept

end Fields

/--
A report that can have been read is read again from what is written of it.
-/
theorem ofTree_toJson
    {room : Nat}
    {report : Report}
    (kept : report.Kept room)
    (integral : report.toJson.Integral) :
    ofTree (room + 3) report.toJson.tree = .ok report := by
  have fields := Fields.readAll_members kept integral
  rw [Fields.readAll] at fields
  rw [toJson_eq, Json.tree, ofTree, Json.Tree.enter, ok_bind, fields, ok_bind,
    Fields.toReport_ofReport]
  rfl

/--
A report that has been read has no value that is too deep to be read again.
-/
theorem kept_of_ofTree
    {room : Nat}
    {tree : Json.Tree}
    {report : Report}
    (decoded : ofTree (room + 3) tree = .ok report) :
    report.Kept room := by
  have start : Fields.none.toReport.Kept room :=
    ⟨List.forall_mem_nil _, List.forall_mem_nil _, List.forall_mem_nil _,
      by simp [Fields.none, Fields.toReport]⟩
  cases tree with
  | object members closed =>
      rw [ofTree] at decoded
      obtain ⟨inner, entered, decoded⟩ := bind_eq_ok.mp decoded
      obtain ⟨fields, folded, finished⟩ := bind_eq_ok.mp decoded
      cases Json.Tree.enter_eq_ok.mp entered
      cases (Json.Tree.finish_eq_ok.mp finished).2
      refine foldlM_induction (fun fields => fields.toReport.Kept room) start
        ?_ folded
      intro known item next _ before stepped
      obtain ⟨key, named, stepped⟩ := bind_eq_ok.mp stepped
      exact Fields.kept_of_read before stepped
  | array elements closed =>
      rw [ofTree] at decoded
      obtain ⟨inner, entered, decoded⟩ := bind_eq_ok.mp decoded
      obtain ⟨fields, folded, finished⟩ := bind_eq_ok.mp decoded
      cases Json.Tree.enter_eq_ok.mp entered
      cases (Json.Tree.finish_eq_ok.mp finished).2
      refine foldlM_induction (fun fields => fields.toReport.Kept room) start
        ?_ folded
      intro known item next _ before stepped
      exact Fields.kept_of_read before stepped
  | _ =>
      cases decoded

/-- So is the report that a payload could not be read. -/
theorem kept_ofPayload (payload : String) : (ofPayload payload).Kept 124 := by
  unfold ofPayload
  split
  · rename_i report decoded
    rw [Json.decodeText] at decoded
    split at decoded
    · cases decoded
    · obtain ⟨result, read, finished⟩ := bind_eq_ok.mp decoded
      cases (Json.Tree.finish_eq_ok.mp finished).2
      exact kept_of_ofTree read
  · refine
      ⟨List.forall_mem_nil _, List.forall_mem_nil _, List.forall_mem_nil _, ?_⟩
    intro diagnostic own
    cases own
    exact Diagnostic.kept_of_unlocated rfl rfl

/--
A report is read back from its own text.  Whatever payload it was read from, and
whether or not that payload could be read, what is written of the report holds
all of it.
-/
theorem ofPayload_text
    (payload : String)
    (integral : (ofPayload payload).toJson.Integral) :
    ofPayload (ofPayload payload).text = ofPayload payload := by
  have back := ofTree_toJson (kept_ofPayload payload) integral
  have read : Json.decodeText ofTree (ofPayload payload).text =
    .ok (ofPayload payload) :=
    (Json.decodeText_eq ofTree _).trans back
  rw [ofPayload, read]

/-- A payload in forms that the writer of reports does not use. -/
def lenientPayload : String :=
  Json.text (.array
    [.object [("a.sol", .object [("A", .array [.natural 1, .null])])],
      .object [],
      .array
        [.string "oops",
          .object
            [("severity", .string "WARNING"), ("message", .null),
              ("formattedMessage", .string "careful")]],
      .null])

/-- The payload is read, with one contract and both of its diagnostics. -/
theorem ofPayload_text_lenient :
    let report := ofPayload lenientPayload
    report.contracts.entries.map Prod.fst = ["a.sol"] ∧
      (report.diagnostics.map fun diagnostic =>
        (diagnostic.severity, diagnostic.message)) =
          [(.error, "oops"), (.warning, "careful")] ∧
      report.toJson.Integral ∧
      ofPayload report.text = report := by
  intro report
  have integral : report.toJson.Integral := by
    decide +kernel
  exact
    ⟨by decide +kernel, by decide +kernel, integral,
      ofPayload_text lenientPayload integral⟩

end Report

end CompilerSession
