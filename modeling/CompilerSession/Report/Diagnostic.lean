import CompilerSession.Failure
import CompilerSession.Json.Decoding

namespace CompilerSession

/-!
# Diagnostics

A diagnostic is one message of a compilation.  A backend writes it as a bare
string, as an object, or as an array of the fields in their order; any field may
be missing from an object or be null.  A message that is missing is taken from
the formatted one, and a severity that is not known is an error.
`Diagnostic.toJson` writes one form for all of them and leaves out what is
absent.
-/

/-- How grave a diagnostic is. -/
inductive Severity where
  | error
  | warning
  | info
  deriving Repr, DecidableEq

namespace Severity

/-- The name of a severity. -/
def name : Severity → String
  | .error => "error"
  | .warning => "warning"
  | .info => "info"

/--
The severity that a text names in any case of the letters; anything else is an
error.
-/
def ofText (text? : Option String) : Severity :=
  match text?.map String.toLower with
  | some "warning" => .warning
  | some "info" => .info
  | _ => .error

end Severity

/--
Where a diagnostic came from.  A deferred import stands for an import that the
backend could not open while it walked the sources; it asks for a retry and is
never fatal.
-/
inductive Origin where
  | compiler
  | deferredImport
  deriving Repr, DecidableEq

/-- One message of a compilation. -/
structure Diagnostic where
  message : String
  severity : Severity
  formattedMessage? : Option String
  errorType? : Option String
  component? : Option String
  sourceLocation? : Option Json
  origin : Origin

namespace Diagnostic

/-- A diagnostic with a message alone. -/
def bare
    (severity : Severity)
    (message : String) : Diagnostic :=
  ⟨message, severity, none, none, none, none, .compiler⟩

/-- The fatal diagnostic of a failure on this side of the backend. -/
def error (message : String) : Diagnostic :=
  { bare .error message with formattedMessage? := some message }

/-- A warning with a message alone. -/
def warning (message : String) : Diagnostic := bare .warning message

/-- Whether the diagnostic stands for an import still to be fetched. -/
def isDeferred (diagnostic : Diagnostic) : Bool :=
  diagnostic.origin == .deferredImport

/-- Whether the diagnostic ends a compilation without success. -/
def isFatal (diagnostic : Diagnostic) : Bool :=
  diagnostic.severity == .error && !diagnostic.isDeferred

/-- The fields of a diagnostic in their order. -/
def fieldNames : List String :=
  ["message", "severity", "formattedMessage", "type", "component",
    "sourceLocation"]

/-- The member of an optional field, which is left out when it is absent. -/
def optionalMember
    (name : String)
    (value? : Option Json) : Entries Json :=
  value?.toList.map fun value => (name, value)

/-- A diagnostic as an object. -/
def toJson (diagnostic : Diagnostic) : Json :=
  .object (
    [("message", .string diagnostic.message),
      ("severity", .string diagnostic.severity.name)] ++
    optionalMember "formattedMessage"
      (diagnostic.formattedMessage?.map Json.string) ++
    optionalMember "type" (diagnostic.errorType?.map Json.string) ++
    optionalMember "component" (diagnostic.component?.map Json.string) ++
    optionalMember "sourceLocation" diagnostic.sourceLocation?)

/-- The value of a field, where null stands for none. -/
def presentValue? (value? : Option Json) : Option Json :=
  match value? with
  | some .null => none
  | _ => value?

/-- The text of a field, which may be absent but not of another kind. -/
def textField
    (value? : Option Json) : Except Json.DecodingError (Option String) :=
  match presentValue? value? with
  | none => .ok none
  | some (.string text) => .ok (some text)
  | some _ => .error .noSuchShape

/-- The diagnostic whose fields have the values. -/
def ofFields
    (field? : String → Option Json) : Except Json.DecodingError Diagnostic :=
  do
  let message? ← textField (field? "message")
  let severity? ← textField (field? "severity")
  let formattedMessage? ← textField (field? "formattedMessage")
  let errorType? ← textField (field? "type")
  let component? ← textField (field? "component")
  return {
    message := (message?.or formattedMessage?).getD ""
    severity := Severity.ofText severity?
    formattedMessage? := formattedMessage?
    errorType? := errorType?
    component? := component?
    sourceLocation? := presentValue? (field? "sourceLocation")
    origin := .compiler }

/-- Whether a field is given more than once. -/
def repeatsField (members : List (Option String × Json.Tree)) : Bool :=
  fieldNames.any fun name => 1 < members.countP fun entry =>
    entry.1 == some name

/--
The diagnostic of a tree in any of its forms.  Everything in it has to be a
value that can be kept, also what belongs to no field.
-/
def ofTree
    (room : Nat)
    (tree : Json.Tree) : Except Json.DecodingError Diagnostic :=
  do
  let value ← tree.value room
  match tree, value with
  | _, .string message => .ok (bare .error message)
  | .object members _, .object entries =>
    if repeatsField members then .error .noSuchShape
    else ofFields fun name => Entries.find? name entries
  | _, .array values =>
    if values.length = fieldNames.length then
      ofFields fun name => Entries.find? name (fieldNames.zip values)
    else .error .noSuchShape
  | _, _ => .error .noSuchShape

/-- The diagnostic that a text holds. -/
def parse (text : String) : Except Failure Diagnostic :=
  (Json.decodeText ofTree text).mapError fun error =>
    .unreadableText error.message

end Diagnostic

/-- The diagnostic that tells listeners of a failure. -/
def Failure.diagnostic
    (failure : Failure) : Diagnostic :=
  .error failure.message

end CompilerSession
