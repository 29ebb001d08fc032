import CompilerSession.Report.Diagnostic

namespace CompilerSession

/-!
# Reports

A report holds what a backend made of a bundle: artifacts by file and contract,
what it says of the sources, its diagnostics, or the one error for which there
is nothing else.  A backend writes it as an object or as an array of the fields
in their order, of which the last ones may be missing.  Unknown keys are passed
over.
-/

/-- What a backend made of a bundle. -/
structure Report where
  contracts : OrderedMap (OrderedMap Json)
  sources : OrderedMap Json
  errors : List Diagnostic
  error? : Option Diagnostic

namespace Report

/-- The report that says nothing. -/
def empty : Report := ⟨.empty, .empty, [], none⟩

/-- The report that is one error. -/
def ofError (error : Diagnostic) : Report := { empty with error? := some error }

/-- The top-level error, if any, and the other diagnostics. -/
def diagnostics (report : Report) : List Diagnostic :=
  report.error?.toList ++ report.errors

/-- Change every diagnostic. -/
def mapDiagnostics
    (change : Diagnostic → Diagnostic)
    (report : Report) : Report :=
  { report with
    errors := report.errors.map change
    error? := report.error?.map change }

/-- A report as an object without its empty fields. -/
def toJson (report : Report) : Json :=
  let contracts := report.contracts.mapValues fun file => Json.ofMap id file
  let errors := report.errors.map Diagnostic.toJson
  .object (
    (if contracts.isEmpty then [] else
      [("contracts", Json.ofMap id contracts)]) ++
    (if report.sources.isEmpty then [] else
      [("sources", Json.ofMap id report.sources)]) ++
    (if errors.isEmpty then [] else [("errors", .array errors)]) ++
    report.error?.toList.map fun error => ("error", error.toJson))

/-- The compact text of a report. -/
def text (report : Report) : String := report.toJson.text

/-- The fields of a report that have been read so far. -/
structure Fields where
  contracts? : Option (OrderedMap (OrderedMap Json))
  sources? : Option (OrderedMap Json)
  errors? : Option (List Diagnostic)
  error? : Option (Option Diagnostic)

namespace Fields

/-- No field has been read. -/
def none : Fields := ⟨.none, .none, .none, .none⟩

/-- The field names in their order. -/
def names : List String := ["contracts", "sources", "errors", "error"]

/-- The top-level error, where null stands for none. -/
def topError
    (room : Nat)
    (tree : Json.Tree) : Except Json.DecodingError (Option Diagnostic) :=
  match tree with
  | .null => .ok .none
  | _ => (Diagnostic.ofTree room tree).map some

/--
Read the value of a field; a field is read once and an unknown one not at all.
-/
def read
    (room : Nat)
    (fields : Fields)
    (name : String)
    (tree : Json.Tree) :
    Except Json.DecodingError Fields :=
  match name with
  | "contracts" =>
    if fields.contracts?.isSome then .error (.repeated name)
    else do
      let contracts ←
        Json.Tree.mapOf (Json.Tree.mapOf fun room tree => tree.value room)
          room tree
      return { fields with contracts? := some contracts }
  | "sources" =>
    if fields.sources?.isSome then .error (.repeated name)
    else do
      let sources ← Json.Tree.mapOf (fun room tree => tree.value room) room tree
      return { fields with sources? := some sources }
  | "errors" =>
    if fields.errors?.isSome then .error (.repeated name)
    else do
      let errors ← Json.Tree.listOf Diagnostic.ofTree room tree
      return { fields with errors? := some errors }
  | "error" =>
    if fields.error?.isSome then .error (.repeated name)
    else do
      let error ← topError room tree
      return { fields with error? := some error }
  | _ => .ok fields

/-- The report whose missing fields are empty. -/
def toReport (fields : Fields) : Report where
  contracts := fields.contracts?.getD .empty
  sources := fields.sources?.getD .empty
  errors := fields.errors?.getD []
  error? := fields.error?.getD .none

end Fields

/-- The report of a tree in either of its forms. -/
def ofTree
    (room : Nat)
    (tree : Json.Tree) : Except Json.DecodingError Report :=
  match tree with
  | .object members closed => do
    let inner ← Json.Tree.enter room
    let fields ← members.foldlM (fun fields (key?, member) => do
      let key ← Json.Tree.keep key?
      fields.read inner key member) Fields.none
    Json.Tree.finish closed fields.toReport
  | .array elements closed => do
    let inner ← Json.Tree.enter room
    let fields ← (Fields.names.zip elements).foldlM
      (fun fields (name, element) => fields.read inner name element) Fields.none
    Json.Tree.finish (closed && elements.length ≤ Fields.names.length)
      fields.toReport
  | _ => .error (tree.mismatch "a compilation result")

end Report

end CompilerSession
