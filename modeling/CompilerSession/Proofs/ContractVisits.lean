import CompilerSession.Proofs.ByteOrder
import CompilerSession.Proofs.Resolution
import CompilerSession.Report.Snapshot

namespace CompilerSession

/-!
# Visits of contracts

The contracts of a snapshot stand in one row, file by file and name by name in
the order of the bytes.  A visit goes along that row and ends at the first
contract at which the visitor stops; what the visitor has seen by then is the
row up to there.  Looking a contract up is such a visit, so it finds the one in
the lowest of the files that have the name.
-/

namespace Contract

/--
The contract is visited earlier: its file is lower, or its name in the same file
is.
-/
def Before (first second : Contract) : Prop :=
  Text.bytes first.file < Text.bytes second.file ∨
    first.file = second.file ∧ Text.bytes first.name < Text.bytes second.name

end Contract

namespace Snapshot

variable {σ β : Type}

/-- The contracts of a file in the order of their names. -/
def contractsIn
    (file : String)
    (contracts : Entries Json) : List Contract :=
  contracts.map fun entry => ⟨entry.1, file, entry.2⟩

/-- All contracts in the order in which they are visited. -/
def contracts (snapshot : Snapshot) : List Contract :=
  snapshot.report.contracts.entries.flatMap fun file =>
    contractsIn file.1 file.2.entries

/-- A file of the report defines the contract. -/
def Defines
    (snapshot : Snapshot)
    (contract : Contract) : Prop :=
  ∃ file,
    snapshot.report.contracts.find? contract.file = some file ∧
      file.find? contract.name = some contract.artifact

/-- Of the contracts with a name this is the one in the lowest file. -/
structure Lowest
    (snapshot : Snapshot)
    (name : String)
    (found : Contract) : Prop where
  defined : snapshot.Defines found
  named : found.name = name
  below :
    ∀ other,
      snapshot.Defines other →
        other.name = name →
          other = found ∨ Text.bytes found.file < Text.bytes other.file

/--
The visitor goes on at every contract of a row, and has the last state then.
-/
inductive Passes
    (visitor : σ → Contract → Visit σ β) : σ → List Contract → σ → Prop
  | nil (state : σ) : Passes visitor state [] state
  | cons {state next last : σ} {contract : Contract} {rest : List Contract} :
      visitor state contract = .proceed next →
      Passes visitor next rest last →
      Passes visitor state (contract :: rest) last

/-- Visit a row of contracts until the visitor stops. -/
def visitRow
    (visitor : σ → Contract → Visit σ β)
    (state : σ) : List Contract → Visit σ β
  | [] => .proceed state
  | contract :: rest =>
    match visitor state contract with
    | .proceed next => visitRow visitor next rest
    | .stop last answer => .stop last answer

theorem visitRow_append
    (visitor : σ → Contract → Visit σ β)
    (state : σ)
    (front back : List Contract) :
    visitRow visitor state (front ++ back) =
      match visitRow visitor state front with
      | .proceed next => visitRow visitor next back
      | .stop last answer => .stop last answer := by
  induction front generalizing state with
  | nil =>
      rfl
  | cons contract rest inductionHypothesis =>
      simp only [List.cons_append, visitRow]
      cases visitor state contract with
      | proceed next =>
          exact inductionHypothesis next
      | stop last answer =>
          rfl

/-- The contracts of a file are visited as one row. -/
theorem visitFile_eq
    (visitor : σ → Contract → Visit σ β)
    (file : String)
    (state : σ)
    (contracts : Entries Json) :
    visitFile visitor file state contracts =
      visitRow visitor state (contractsIn file contracts) := by
  induction contracts generalizing state with
  | nil =>
      rfl
  | cons entry rest inductionHypothesis =>
      simp only [visitFile, contractsIn, List.map_cons, visitRow]
      cases visitor state ⟨entry.1, file, entry.2⟩ with
      | proceed next =>
          exact inductionHypothesis next
      | stop last answer =>
          rfl

/-- The files are visited as the row of all their contracts. -/
theorem visitFiles_eq
    (visitor : σ → Contract → Visit σ β)
    (state : σ)
    (files : Entries (OrderedMap Json)) :
    visitFiles visitor state files =
      visitRow visitor state
        (files.flatMap fun file => contractsIn file.1 file.2.entries) := by
  induction files generalizing state with
  | nil =>
      rfl
  | cons file rest inductionHypothesis =>
      rw [visitFiles, visitFile_eq, List.flatMap_cons, visitRow_append]
      cases visitRow visitor state (contractsIn file.1 file.2.entries) with
      | proceed next =>
          exact inductionHypothesis next
      | stop last answer =>
          rfl

/-- A visit goes along the row of all contracts. -/
theorem visit_eq
    (snapshot : Snapshot)
    (visitor : σ → Contract → Visit σ β)
    (state : σ) :
    snapshot.visit visitor state = visitRow visitor state snapshot.contracts :=
  visitFiles_eq visitor state _

/-! ## How a visit ends -/

/-- A visit goes to the end exactly if the visitor goes on at every contract. -/
theorem visitRow_eq_proceed_iff
    {visitor : σ → Contract → Visit σ β}
    {state last : σ}
    {row : List Contract} :
    visitRow visitor state row = .proceed last ↔
      Passes visitor state row last := by
  constructor
  · intro ended
    induction row generalizing state with
    | nil =>
        cases ended
        exact .nil _
    | cons contract rest inductionHypothesis =>
        rw [visitRow] at ended
        split at ended
        · rename_i next goesOn
          exact .cons goesOn (inductionHypothesis ended)
        · cases ended
  · intro passes
    induction passes with
    | nil =>
        rfl
    | cons goesOn _ inductionHypothesis =>
        rw [visitRow, goesOn]
        exact inductionHypothesis

/--
A visit is stopped exactly at the first contract at which the visitor stops.
-/
theorem visitRow_eq_stop_iff
    {visitor : σ → Contract → Visit σ β}
    {state last : σ}
    {answer : β}
    {row : List Contract} :
    visitRow visitor state row = .stop last answer ↔
      ∃ earlier contract later reached,
        row = earlier ++ contract :: later ∧
          Passes visitor state earlier reached ∧
          visitor reached contract = .stop last answer := by
  constructor
  · intro ended
    induction row generalizing state with
    | nil =>
        cases ended
    | cons contract rest inductionHypothesis =>
        rw [visitRow] at ended
        split at ended
        · rename_i next goesOn
          obtain ⟨earlier, stopped, later, reached, rfl, passes, stops⟩ :=
            inductionHypothesis ended
          exact ⟨contract :: earlier, stopped, later, reached, rfl,
            .cons goesOn passes, stops⟩
        · rename_i stops
          cases ended
          exact ⟨[], contract, rest, state, rfl, .nil state, stops⟩
  · rintro ⟨earlier, contract, later, reached, rfl, passes, stops⟩
    rw [visitRow_append, visitRow_eq_proceed_iff.mpr passes]
    simp only [visitRow, stops]

/-- The visitor with a record of what it has seen. -/
def recording
    (visitor : σ → Contract → Visit σ β)
    (seen : List Contract × σ)
    (contract : Contract) : Visit (List Contract × σ) β :=
  match visitor seen.2 contract with
  | .proceed next => .proceed (seen.1 ++ [contract], next)
  | .stop last answer => .stop (seen.1 ++ [contract], last) answer

/-- What a visitor has seen when it has gone on at every contract of a row. -/
theorem Passes.recorded
    {visitor : σ → Contract → Visit σ β}
    {state last : σ}
    {row : List Contract}
    (passes : Passes visitor state row last)
    (seen : List Contract) :
    Passes (recording visitor) (seen, state) row (seen ++ row, last) := by
  induction passes generalizing seen with
  | nil state =>
      rw [List.append_nil]
      exact .nil _
  | cons goesOn _ inductionHypothesis =>
      rw [List.append_cons]
      exact .cons (by simp only [recording, goesOn]) (inductionHypothesis _)

/-! ## The row of contracts -/

/-- The row of contracts lists those the report defines and no others. -/
theorem mem_contracts
    {snapshot : Snapshot}
    {contract : Contract} :
    contract ∈ snapshot.contracts ↔ snapshot.Defines contract := by
  have files := snapshot.report.contracts.ascending
  constructor
  · intro member
    obtain ⟨⟨path, file⟩, isFile, inFile⟩ := List.mem_flatMap.mp member
    obtain ⟨⟨name, artifact⟩, isEntry, rfl⟩ := List.mem_map.mp inFile
    exact
      ⟨file, files.find?_eq_some_iff.mpr isFile,
        file.ascending.find?_eq_some_iff.mpr isEntry⟩
  · rintro ⟨file, isFile, isEntry⟩
    refine List.mem_flatMap.mpr
      ⟨(contract.file, file), files.find?_eq_some_iff.mp isFile, ?_⟩
    exact
      List.mem_map.mpr
        ⟨(contract.name, contract.artifact),
          file.ascending.find?_eq_some_iff.mp isEntry, rfl⟩

/-- The row stands in the order of files and, in a file, of names. -/
theorem before_contracts (snapshot : Snapshot) :
    snapshot.contracts.Pairwise Contract.Before := by
  refine List.pairwise_flatMap.mpr ⟨fun file _ => ?_, ?_⟩
  · refine List.pairwise_map.mpr (file.2.ascending.imp fun below => ?_)
    exact Or.inr ⟨rfl, Text.bytes_lt_iff.mpr below⟩
  · refine snapshot.report.contracts.ascending.imp
      fun below first isFirst second isSecond => ?_
    obtain ⟨_, _, rfl⟩ := List.mem_map.mp isFirst
    obtain ⟨_, _, rfl⟩ := List.mem_map.mp isSecond
    exact Or.inl (Text.bytes_lt_iff.mpr below)

/-- No name of a file stands in the row twice. -/
theorem nodup_contracts (snapshot : Snapshot) :
    (snapshot.contracts.map fun contract =>
      (contract.file, contract.name)).Nodup := by
  refine
    List.pairwise_map.mpr (snapshot.before_contracts.imp fun before same => ?_)
  obtain ⟨sameFile, sameName⟩ := Prod.mk.inj same
  rcases before with below | ⟨-, below⟩
  · exact List.lt_irrefl _ (sameFile ▸ below)
  · exact List.lt_irrefl _ (sameName ▸ below)

/-! ## Looking a contract up -/

/-- A look-up finds the first contract of the row that has the name. -/
theorem contract?_eq
    (snapshot : Snapshot)
    (name : String) :
    snapshot.contract? name = snapshot.contracts.find? fun contract =>
      contract.name == name := by
  rw [contract?, visit_eq]
  generalize snapshot.contracts = row
  induction row with
  | nil =>
      rfl
  | cons contract rest inductionHypothesis =>
      by_cases named : contract.name = name
      · simp [visitRow, lookFor, named]
      · simpa [visitRow, lookFor, named] using inductionHypothesis

theorem Lowest.unique
    {snapshot : Snapshot}
    {name : String}
    {found other : Contract}
    (lowest : snapshot.Lowest name found)
    (alsoLowest : snapshot.Lowest name other) :
    other = found := by
  rcases lowest.below other alsoLowest.defined alsoLowest.named with
    same | below
  · exact same
  · rcases alsoLowest.below found lowest.defined lowest.named with same | above
    · exact same.symm
    · exact (List.lt_asymm below above).elim

/-- What a look-up finds is in the lowest file that has the name. -/
theorem lowest_of_contract?
    {snapshot : Snapshot}
    {name : String}
    {found : Contract}
    (isFound : snapshot.contract? name = some found) :
    snapshot.Lowest name found := by
  rw [contract?_eq] at isFound
  obtain ⟨isNamed, earlier, later, shape, others⟩ :=
    List.find?_eq_some_iff_append.mp isFound
  have named : found.name = name := by simpa using isNamed
  refine ⟨mem_contracts.mp (by simp [shape]), named,
    fun other defined sameName => ?_⟩
  have ordered := snapshot.before_contracts
  rw [shape] at ordered
  rw [← mem_contracts, shape] at defined
  rcases List.mem_append.mp defined with isEarlier | isLater
  · have unnamed := others other isEarlier
    simp [sameName] at unnamed
  · rcases List.mem_cons.mp isLater with same | after
    · exact Or.inl same
    · rcases (List.pairwise_cons.mp (List.pairwise_append.mp ordered).2.1).1
        other after with
        below | ⟨-, nameBelow⟩
      · exact Or.inr below
      · rw [named, sameName] at nameBelow
        exact (List.lt_irrefl _ nameBelow).elim

theorem isSome_contract?_iff
    {snapshot : Snapshot}
    {name : String} :
    (snapshot.contract? name).isSome = true ↔
      ∃ contract, snapshot.Defines contract ∧ contract.name = name := by
  rw [contract?_eq, List.find?_isSome]
  simp only [mem_contracts, beq_iff_eq]

/-- A look-up finds the contract with the name whose file is the lowest. -/
theorem contract?_eq_some_iff
    {snapshot : Snapshot}
    {name : String}
    {found : Contract} :
    snapshot.contract? name = some found ↔ snapshot.Lowest name found := by
  constructor
  · exact lowest_of_contract?
  · intro lowest
    obtain ⟨first, isFirst⟩ :=
      Option.isSome_iff_exists.mp
        (isSome_contract?_iff.mpr ⟨found, lowest.defined, lowest.named⟩)
    rw [isFirst, lowest.unique (lowest_of_contract? isFirst)]

/--
A visit goes in order.  The contracts that the files of a report define stand in
one row in which each lies below the next by the bytes of its file and its name.
The visitor is asked at every one of them and goes on, or it is asked up to the
first at which it stops, at that one last, and its answer is the outcome; it
makes no difference whether what it has seen is written down, and then that is
just so much of the row.  A look-up is such a visit: it finds something exactly
if some file defines the name, and then the contract of the lowest such file.
-/
theorem visit_in_order
    (snapshot : Snapshot)
    (visitor : σ → Contract → Visit σ β)
    (state : σ) :
    snapshot.contracts.Pairwise Contract.Before ∧
      (snapshot.contracts.map fun contract =>
        (contract.file, contract.name)).Nodup ∧
      (∀ contract, contract ∈ snapshot.contracts ↔ snapshot.Defines contract) ∧
      (∀ last,
        snapshot.visit visitor state = .proceed last ↔
          Passes visitor state snapshot.contracts last) ∧
      (∀ last answer,
        snapshot.visit visitor state = .stop last answer ↔
          ∃ earlier contract later reached,
            snapshot.contracts = earlier ++ contract :: later ∧
              Passes visitor state earlier reached ∧
              visitor reached contract = .stop last answer) ∧
      (∀ last,
        snapshot.visit visitor state = .proceed last →
          snapshot.visit (recording visitor) ([], state) =
            .proceed (snapshot.contracts, last)) ∧
      (∀ last answer,
        snapshot.visit visitor state = .stop last answer →
          ∃ earlier contract later,
            snapshot.contracts = earlier ++ contract :: later ∧
              snapshot.visit (recording visitor) ([], state) =
                .stop (earlier ++ [contract], last) answer) ∧
      ∀ name,
        ((snapshot.contract? name).isSome = true ↔
            ∃ contract, snapshot.Defines contract ∧ contract.name = name) ∧
          ∀ found, snapshot.contract? name = some found ↔
            snapshot.Lowest name found := by
  have proceeds (last : σ) :
      snapshot.visit visitor state = .proceed last ↔
        Passes visitor state snapshot.contracts last := by
    rw [visit_eq, visitRow_eq_proceed_iff]
  have stops (last : σ) (answer : β) :
      snapshot.visit visitor state = .stop last answer ↔
        ∃ earlier contract later reached,
          snapshot.contracts = earlier ++ contract :: later ∧
            Passes visitor state earlier reached ∧
            visitor reached contract = .stop last answer := by
    rw [visit_eq, visitRow_eq_stop_iff]
  refine ⟨snapshot.before_contracts, snapshot.nodup_contracts,
    fun _ => mem_contracts, proceeds, stops, ?_, ?_, fun name =>
      ⟨isSome_contract?_iff, fun _ => contract?_eq_some_iff⟩⟩
  · intro last ended
    rw [visit_eq, visitRow_eq_proceed_iff]
    exact ((proceeds last).mp ended).recorded []
  · intro last answer ended
    obtain ⟨earlier, contract, later, reached, shape, passes, isLast⟩ :=
      (stops last answer).mp ended
    refine ⟨earlier, contract, later, shape, ?_⟩
    rw [visit_eq, visitRow_eq_stop_iff]
    refine ⟨earlier, contract, later, _, shape, passes.recorded [], ?_⟩
    simp only [recording, isLast, List.nil_append]

end Snapshot

end CompilerSession
