import CompilerSession.Proofs.Moves
import CompilerSession.Proofs.Resolution

namespace CompilerSession

/-!
# How a request ends by itself

Where neither the library nor the backend changes its mind, the end of a request
is a function of the program, the settings and the version: `settled` computes
it pass by pass and knows nothing of sessions, tickets or workers.  Each task
promises one end, and the main statements say that a move keeps that promise
until it is told.
-/

open Session

/-- A library that answers alike at every moment. -/
def Library.Steady (library : Library) : Prop :=
  ∀ earlier later path,
    (library.fetch earlier path).answer = (library.fetch later path).answer

/-- A backend that compiles alike at every moment. -/
def Backend.Steady (backend : Backend) : Prop :=
  ∀ earlier later input,
    backend.compile earlier input = backend.compile later input

/-- A steady backend answers the same at every moment. -/
theorem Backend.Steady.answer
    {backend : Backend}
    (steady : backend.Steady)
    (earlier later : Nat)
    (input : String) :
    backend.answer earlier input = backend.answer later input :=
  congrArg Answer.ofCall (steady earlier later input)

namespace Library

variable {library : Library}

/--
In a steady library exploring leads to the same files and to the same failure.
-/
theorem Steady.explore
    (steady : library.Steady)
    (target : String)
    (earlier later : Nat)
    (files : SourceSet)
    (pending : List String) :
    (library.explore target earlier files pending).files =
        (library.explore target later files pending).files ∧
      (library.explore target earlier files pending).failure? =
        (library.explore target later files pending).failure? := by
  -- The recursion follows the earlier moment; the later one is unfolded beside
  -- it.
  fun_induction library.explore target earlier files pending generalizing
    later with
  | case1 earlier files pending allPresent =>
      rw [Library.explore.eq_def library target later]
      split
      · exact ⟨rfl, rfl⟩
      · rename_i found
        rw [allPresent] at found
        cases found
  | case2 earlier files pending path rest found message answered =>
      rw [Library.explore.eq_def library target later]
      rw [steady earlier later] at answered
      split
      · rename_i allPresent
        rw [found] at allPresent
        cases allPresent
      · rename_i other others same
        rw [found] at same
        cases same
        split
        · rename_i reason failed
          rw [answered] at failed
          cases failed
          exact ⟨rfl, rfl⟩
        · rename_i content succeeded
          rw [answered] at succeeded
          cases succeeded
  | case3 earlier files pending path rest found content answered _ _
      inductionHypothesis =>
      rw [Library.explore.eq_def library target later]
      rw [steady earlier later] at answered
      split
      · rename_i allPresent
        rw [found] at allPresent
        cases allPresent
      · rename_i other others same
        rw [found] at same
        cases same
        split
        · rename_i reason failed
          rw [answered] at failed
          cases failed
        · rename_i text succeeded
          rw [answered] at succeeded
          cases succeeded
          exact inductionHypothesis (later + 1)

/-- A steady library resolves the same at every moment. -/
theorem Steady.resolve
    (steady : library.Steady)
    (earlier later : Nat)
    (files : SourceSet)
    (target : String)
    (hints : List String) :
    (library.resolve earlier files target hints).files =
        (library.resolve later files target hints).files ∧
      (library.resolve earlier files target hints).failure? =
        (library.resolve later files target hints).failure? :=
  steady.explore target earlier later files _

end Library

/-- How a request ends with a payload of a backend of some version. -/
def Conclusion.ofPayload
    (version : String)
    (payload : String)
    (program : Program) : Conclusion :=
  let report := Report.ofPayload payload
  if report.verdict.isFatal then ⟨false, report, program⟩
  else ⟨true, report.modernised version, program⟩

/-- How a request ends with a failure. -/
def Conclusion.ofFailure
    (failure : Failure)
    (program : Program) : Conclusion :=
  ⟨false, .ofError failure.diagnostic, program⟩

/--
A resolution leaves less to be done for a program whose backend misses something
more.
-/
private theorem less_of_resolve
    {library : Library}
    {program : Program}
    {missing further : List String}
    (going : ¬ isStuck ⟨0, program.sources, program.target, missing⟩ = true)
    (succeeds :
      (library.resolve 0 program.sources program.target missing).failure? =
        none)
    (asked : further ≠ []) :
    2 * library.absent
      (library.resolve 0 program.sources program.target missing).files +
        (if further.isEmpty then 1 else 0) <
      2 * library.absent program.sources + if missing.isEmpty then
        1 else 0 := by
  have unfinished : further.isEmpty = false := by
    simpa using asked
  cases first : missing.isEmpty with
  | true =>
      have fewer :=
        library.absent_resolve_le 0 program.sources program.target missing
      simp only [unfinished, Bool.false_eq_true, ↓reduceIte]
      omega
  | false =>
      have fewer :=
        absent_resolve_of_missing ⟨library, fun _ _ => .endless⟩
          (.new .standard)
          first going succeeds
      simp only [unfinished, Bool.false_eq_true, ↓reduceIte]
      exact
        Nat.add_lt_add_right (Nat.mul_lt_mul_of_pos_left fewer (by decide)) 0

section

variable (library : Library) (backend : Backend) (configuration : Configuration)

/--
How a request for a program ends by itself, given what its backend misses.
-/
def settled
    (program : Program)
    (missing : List String) : Conclusion :=
  if stuck : isStuck ⟨0, program.sources, program.target, missing⟩ = true then
    .ofFailure (.missingImports missing) program
  else
    let resolution := library.resolve 0 program.sources program.target missing
    let resolved : Program := ⟨resolution.files, program.target⟩
    match fails : resolution.failure? with
    | some failure => .ofFailure failure resolved
    | none =>
        let answer :=
          backend.answer 0 (Bundle.text ⟨resolved.sources, configuration⟩)
        if complete : answer.missing = [] then
          .ofPayload backend.version answer.payload resolved
        else
          have _less := less_of_resolve stuck fails complete
          settled resolved answer.missing
termination_by
  2 * library.absent program.sources + if missing.isEmpty then 1 else 0
decreasing_by exact _less

/-- How a request ends that a backend has answered. -/
def concluded
    (program : Program)
    (answer : Answer) : Conclusion :=
  if answer.missing = [] then .ofPayload backend.version answer.payload program
  else settled library backend configuration program answer.missing

/-- How a request ends whose program is complete. -/
def called (program : Program) : Conclusion :=
  concluded library backend configuration program
    (backend.answer 0 (Bundle.text ⟨program.sources, configuration⟩))

/-- The end that a task promises to its request. -/
def promise : Task → Conclusion
  | .pass job => settled library backend configuration job.program job.missing
  | .arrive job => called library backend configuration job.program
  | .dispatch job => called library backend configuration job.program
  | .take job answer =>
      concluded library backend configuration job.program answer
  | .fail failure job => .ofFailure failure job.program

end

/-- The backend is at hand and has been announced. -/
structure Session.Uses
    (session : Session)
    (backend : Backend)
    (mode : Mode) : Prop where
  installed : session.toolchain.backend? = some backend
  active : session.toolchain.active? = some ⟨backend.version, mode⟩

theorem Session.Uses.known
    {session : Session}
    {backend : Backend}
    {mode : Mode}
    (uses : session.Uses backend mode) :
    session.version? = some backend.version := by
  simp [Session.version?, Toolchain.version?, uses.active]

section

variable
  {host : Host}
  {backend : Backend}
  {configuration : Configuration}
  {mode : Mode}
  {session : Session}
  {task : Task}
  {seen : List Observation}

/-- A pass promises what comes of its resolution. -/
private theorem settled_eq
    (library : Library)
    (backend : Backend)
    (configuration : Configuration)
    (program : Program)
    (missing : List String) :
    settled library backend configuration program missing =
      if isStuck ⟨0, program.sources, program.target, missing⟩ = true then
        .ofFailure (.missingImports missing) program
      else
        let resolution :=
          library.resolve 0 program.sources program.target missing
        match resolution.failure? with
        | some failure => .ofFailure failure ⟨resolution.files, program.target⟩
        | none => called library backend configuration
            ⟨resolution.files, program.target⟩ := by
  rw [settled]
  dsimp only
  split
  · rfl
  · split
    · rename_i failure fails
      rw [fails]
    · rename_i succeeds
      rw [succeeds]
      dsimp only [called, concluded]
      split <;> rfl

/-- A move that goes on keeps what its task promised. -/
theorem Move.promise_kept
    {later : Task}
    (move : Move host session task seen (some later))
    (library : host.library.Steady)
    (steady : backend.Steady)
    (uses : session.Uses backend mode)
    (settings : session.configuration = configuration) :
    promise host.library backend configuration later =
      promise host.library backend configuration task := by
  cases move with
  | stick job stuck =>
      have alone :
          isStuck ⟨0, job.sources, job.target, job.missing⟩ = true := stuck
      simp only [promise, settled_eq host.library, Job.program, alone,
        ↓reduceIte]
  | resolve job going succeeds =>
      obtain ⟨files, failure⟩ :=
        library.resolve session.now 0 job.sources job.target job.missing
      have alone :
          ¬ isStuck ⟨0, job.sources, job.target, job.missing⟩ = true := going
      have fetched := failure.symm.trans succeeds
      simp only [promise, settled_eq host.library, Job.program, alone, fetched,
        resolved, resolution, files, Bool.false_eq_true, ↓reduceIte]
  | lack job failure going fails =>
      obtain ⟨files, same⟩ :=
        library.resolve session.now 0 job.sources job.target job.missing
      have alone :
          ¬ isStuck ⟨0, job.sources, job.target, job.missing⟩ = true := going
      have unfetched := same.symm.trans fails
      simp only [promise, settled_eq host.library, Job.program, alone,
        unfetched, resolved, resolution, files, Bool.false_eq_true, ↓reduceIte]
  | arrive job =>
      rfl
  | call job other installed =>
      cases uses.installed.symm.trans installed
      simp only [promise, called, Job.program, bundleFor, settings,
        steady.answer session.now 0]
  | miss job missing =>
      rw [uses.installed] at missing
      cases missing
  | lose job failure missing cause =>
      rw [uses.installed] at missing
      cases missing
  | retry job answer missing =>
      simp only [promise, concluded, missing, Job.program, Job.withMissing,
        ↓reduceIte]

/-- A move that ends a request tells what its task promised. -/
theorem Move.promise_told
    (move : Move host session task seen none)
    (uses : session.Uses backend mode) :
    View.endings.of seen =
      [(some task.job.request,
        promise host.library backend configuration task)] := by
  cases move with
  | reject job answer complete fatal =>
      simp [promise, concluded, complete, Conclusion.ofPayload, fatal, Task.job]
  | accept job answer modern complete sound isModern =>
      simp [promise, concluded, complete, Conclusion.ofPayload, sound, Task.job,
        isModern, modernReport, uses.known]
  | fail failure job =>
      simp [promise, Conclusion.ofFailure, Task.job]

end

end CompilerSession
