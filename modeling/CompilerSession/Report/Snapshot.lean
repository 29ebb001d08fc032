import CompilerSession.Report.Basic
import CompilerSession.Source.Job

namespace CompilerSession

/-!
# Snapshots

A snapshot is the report of a compilation that succeeded, with the program it
came from.  An editor keeps the latest one and asks it questions.  Contracts are
visited file by file in ascending order of the paths, and within a file in
ascending order of the names.
-/

/-- A report with the program it came from. -/
structure Snapshot where
  report : Report
  program : Program

/-- A contract of a report. -/
structure Contract where
  name : String
  file : String
  artifact : Json

/--
What a visitor says after a contract: go on with a new state, or stop with an
answer.
-/
inductive Visit (σ β : Type) where
  | proceed (state : σ)
  | stop (state : σ) (answer : β)

namespace Snapshot

variable {σ β : Type}

/-- Visit the contracts of a file. -/
def visitFile
    (visitor : σ → Contract → Visit σ β)
    (file : String)
    (state : σ) :
    Entries Json → Visit σ β
  | [] => .proceed state
  | (name, artifact) :: rest =>
    match visitor state ⟨name, file, artifact⟩ with
    | .proceed next => visitFile visitor file next rest
    | .stop last answer => .stop last answer

/-- Visit the contracts of files one after the other. -/
def visitFiles
    (visitor : σ → Contract → Visit σ β)
    (state : σ) :
    Entries (OrderedMap Json) → Visit σ β
  | [] => .proceed state
  | (file, contracts) :: rest =>
    match visitFile visitor file state contracts.entries with
    | .proceed next => visitFiles visitor next rest
    | .stop last answer => .stop last answer

/-- Visit the contracts until the visitor stops. -/
def visit
    (snapshot : Snapshot)
    (visitor : σ → Contract → Visit σ β)
    (state : σ) :
    Visit σ β :=
  visitFiles visitor state snapshot.report.contracts.entries

/-- Stop at the first contract with a name. -/
def lookFor
    (name : String)
    (state : Unit)
    (contract : Contract) : Visit Unit Contract :=
  if contract.name = name then .stop state contract else .proceed state

/-- The first contract with a name. -/
def contract?
    (snapshot : Snapshot)
    (name : String) : Option Contract :=
  match snapshot.visit (lookFor name) () with
  | .proceed _ => none
  | .stop _ contract => some contract

/-- The names of the contracts by file. -/
def contractNames (snapshot : Snapshot) : List (String × List String) :=
  snapshot.report.contracts.entries.map fun file => (file.1, file.2.keys)

/-- A source of the program. -/
def source?
    (snapshot : Snapshot)
    (path : String) : Option SourceUnit :=
  snapshot.program.sources.get? path

/-- Whether a backend gave a source the number. -/
def hasNumber
    (index : Nat)
    (description : Json) : Bool :=
  (description.member? "id").bind Json.natural? == some index

/--
The path that the backend numbered so, or else the one at that place in path
order.
-/
def pathNumbered?
    (snapshot : Snapshot)
    (index : Nat) : Option String :=
  let sources : List (String × Json) := snapshot.report.sources.entries
  let numbered := List.find? (fun entry => hasNumber index entry.2) sources
  (numbered.or sources[index]?).map Prod.fst

end Snapshot

end CompilerSession
