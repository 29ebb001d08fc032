import CompilerSession.Report.Basic
import CompilerSession.Text.Search

namespace CompilerSession

/-!
# Payloads

The payload of a backend becomes a report whatever it is: a payload that cannot
be read becomes the one error that says so.  Of a report that came with missing
inputs, the diagnostics that only stand for those inputs are marked, so that
they do not count as fatal.
-/

/--
The text that a backend puts into the diagnostic of an import it could not open.
-/
def deferredImportText : String := "Deferred import"

/--
How a compilation went: whether some diagnostic is fatal, and how many are.
-/
structure Verdict where
  isFatal : Bool
  fatalCount : Nat
  deriving Repr, DecidableEq

namespace Diagnostic

/--
Whether one of the texts of a diagnostic says that it stands for a missing
input.
-/
def standsForImport (diagnostic : Diagnostic) : Bool :=
  (diagnostic.message :: diagnostic.formattedMessage?.toList).any fun text =>
    Text.contains text deferredImportText

/-- Mark a diagnostic that stands for a missing input. -/
def mark (diagnostic : Diagnostic) : Diagnostic :=
  if diagnostic.standsForImport then
    { diagnostic with origin := .deferredImport } else diagnostic

end Diagnostic

namespace Report

/-- The report that a payload holds. -/
def ofPayload (payload : String) : Report :=
  match Json.decodeText ofTree payload with
  | .ok report => report
  | .error error => ofError (Failure.unreadablePayload error.message).diagnostic

/-- Mark what stands for missing inputs, of which there has to be one. -/
def markPlaceholders
    (missing : List String)
    (report : Report) : Report :=
  if missing.isEmpty then report else report.mapDiagnostics Diagnostic.mark

/-- Count the fatal diagnostics. -/
def verdict (report : Report) : Verdict :=
  let count := report.diagnostics.countP Diagnostic.isFatal
  ⟨0 < count, count⟩

end Report

end CompilerSession
