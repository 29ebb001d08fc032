import CompilerSession.Report.Basic
import CompilerSession.Report.ContractInterface
import CompilerSession.Version.Parsing

namespace CompilerSession

/-!
# Modern reports

A report is modern when the interfaces of its contracts have the newer form.
The version of the backend decides what has to be changed; a version that cannot
be read changes nothing.
-/

/-- An artifact with its interface in the newer form, if it has one. -/
def modernArtifact (version : Version) : Json → Json
  | .object members =>
    match Entries.find? "abi" members with
    | some (.array entries) =>
      .object
        (Entries.insert "abi"
          (.array (ContractInterface.modernise version entries)) members)
    | _ => .object members
  | artifact => artifact

/--
The report of a backend of some version, with its interfaces in the newer form.
-/
def Report.modernised
    (version : String)
    (report : Report) : Report :=
  match Version.parse version with
  | .ok parsed =>
    { report with
      contracts := report.contracts.mapValues fun file =>
        file.mapValues (modernArtifact parsed) }
  | .error _ => report

end CompilerSession
