import CompilerSession.Proofs.Alignment
import CompilerSession.Proofs.Resolution

namespace CompilerSession

/-!
# What a request was made with

Requests are numbered in the order of the compile calls that make them.
Whatever is done for a request, and whatever is told of its end, is about the
target of its call and has every file of its call unchanged: `Faithful` says so
of every place where a request can be, and every opening and every step
preserves it.
-/

open Session

/-- A program is one that was asked for, perhaps with more files. -/
def Program.Covers (program asked : Program) : Prop :=
  program.target = asked.target ∧ asked.sources.Within program.sources

/-- A program stands for the request of a number. -/
def StandsFor
    (asked : List Program)
    (request : Nat)
    (program : Program) : Prop :=
  ∃ original, asked[request]? = some original ∧ program.Covers original

/-- A program stands for its request however much is asked for later. -/
theorem StandsFor.append
    {asked : List Program}
    {request : Nat}
    {program : Program}
    (answers : StandsFor asked request program)
    (later : List Program) :
    StandsFor (asked ++ later) request program := by
  obtain ⟨original, found, covers⟩ := answers
  have inside := (List.getElem?_eq_some_iff.mp found).1
  exact ⟨original, by rw [List.getElem?_append_left inside, found], covers⟩

/-- A program with more files stands for the same request. -/
theorem StandsFor.within
    {asked : List Program}
    {request : Nat}
    {program more : Program}
    (answers : StandsFor asked request program)
    (target : more.target = program.target)
    (within : program.sources.Within more.sources) :
    StandsFor asked request more := by
  obtain ⟨original, found, same, covers⟩ := answers
  exact ⟨original, found, target.trans same, covers.trans within⟩

/-- Whatever is done for a request is about the program that was asked for. -/
structure Faithful
    (asked : List Program)
    (stage : Stage) : Prop where
  numbered : asked.length = stage.session.requests
  held :
    ∀ task ∈ stage.tasks, StandsFor asked task.job.request task.job.program
  waiting :
    ∀ entry ∈ stage.session.docket.pending,
      StandsFor asked entry.2.request entry.2.program
  ended :
    ∀ told ∈ View.endings.of stage.session.log,
      ∃ request, told.1 = some request ∧ StandsFor asked request told.2.program

namespace Faithful

variable
  {host : Host}
  {asked : List Program}
  {session : Session}
  {stage next : Stage}

/--
Where requests, docket and endings stay as they are, only the tasks matter.
-/
theorem congr
    (faithful : Faithful asked stage)
    (requests : next.session.requests = stage.session.requests)
    (docket : next.session.docket.pending = stage.session.docket.pending)
    (endings :
      View.endings.of next.session.log = View.endings.of stage.session.log)
    (held :
      ∀ task ∈ next.tasks, StandsFor asked task.job.request task.job.program) :
    Faithful asked next where
  numbered := by
    rw [requests]
    exact faithful.numbered
  held :=
    held
  waiting := by
    rw [docket]
    exact faithful.waiting
  ended := by
    rw [endings]
    exact faithful.ended

/-- Telling of the end of a request whose job was in hand. -/
theorem tell
    (faithful : Faithful asked stage)
    {task : Task}
    {rest : List Task}
    (ending : Conclusion)
    (inHand : stage.tasks = task :: rest)
    (program : ending.program = task.job.program)
    (requests : next.session.requests = stage.session.requests)
    (docket : next.session.docket.pending = stage.session.docket.pending)
    (endings :
      View.endings.of next.session.log =
        View.endings.of stage.session.log ++ [(some task.job.request, ending)])
    (left : next.tasks = rest) :
    Faithful asked next where
  numbered := by
    rw [requests]
    exact faithful.numbered
  held other member := by
    rw [left] at member
    exact faithful.held other (by simp [inHand, member])
  waiting := by
    rw [docket]
    exact faithful.waiting
  ended told member := by
    rw [endings] at member
    rcases List.mem_append.mp member with before | new
    · exact faithful.ended told before
    · rw [List.mem_singleton.mp new]
      refine ⟨task.job.request, rfl, ?_⟩
      rw [program]
      exact faithful.held task (by simp [inHand])

/-- Posting moves the program of a job into the docket. -/
private theorem post
    {job : Job}
    (faithful : Faithful asked ⟨session, [.dispatch job]⟩)
    (requests : next.session.requests = session.requests)
    (docket : next.session.docket = (session.docket.enter job).2)
    (endings : View.endings.of next.session.log = View.endings.of session.log)
    (left : next.tasks = []) :
    Faithful asked next where
  numbered := by
    rw [requests]
    exact faithful.numbered
  held task member := by
    simp [left] at member
  waiting entry member := by
    rw [docket] at member
    rcases List.mem_append.mp member with before | new
    · exact faithful.waiting entry before
    · rw [List.mem_singleton.mp new]
      exact faithful.held (.dispatch job) List.mem_cons_self
  ended := by
    rw [endings]
    exact faithful.ended

/-- A job with the files of its resolution stands for the same request. -/
private theorem resolved_answers
    {job : Job}
    (faithful : Faithful asked ⟨session, [.pass job]⟩) :
    StandsFor asked (session.resolved host job).request
      (session.resolved host job).program :=
  (faithful.held (.pass job) List.mem_cons_self).within rfl
    (host.library.within_resolve _ _ _ _)

theorem new
    (configuration : Configuration) :
    Faithful [] ⟨Session.new configuration, []⟩ where
  numbered :=
    rfl
  held task member := by
    cases member
  waiting entry member := by
    cases member
  ended told member := by
    cases member

theorem step
    (taken : WorkStep host stage next)
    (aligned : stage.session.Aligned)
    (faithful : Faithful asked stage) :
    Faithful asked next := by
  cases taken with
  | stick session job stuck =>
      refine faithful.congr rfl rfl rfl ?_
      simpa [Task.job] using faithful.held
  | resolve session job going succeeds =>
      refine faithful.congr (by simp) (by simp) (by simp) ?_
      simpa [Task.job] using resolved_answers faithful
  | lack session job failure going fails =>
      refine faithful.congr (by simp) (by simp) (by simp) ?_
      simpa [Task.job] using resolved_answers faithful
  | arriveLoaded session job version toolchain arrival =>
      refine faithful.congr rfl rfl (by simp) ?_
      simpa [Task.job] using faithful.held
  | arriveFailed session job failure toolchain arrival =>
      refine faithful.congr rfl rfl (by simp) ?_
      simpa [Task.job] using faithful.held
  | arriveNot session job noArrival =>
      refine faithful.congr rfl rfl rfl ?_
      simpa [Task.job] using faithful.held
  | postCalled session job toolchain answer accepted =>
      exact faithful.post rfl rfl (by simp) rfl
  | postUncalled session job toolchain accepted =>
      exact faithful.post rfl rfl rfl rfl
  | postRefused session job failure worker refused =>
      refine faithful.congr rfl (aligned.ordered.take_enter job) rfl ?_
      simpa [Task.job] using faithful.held
  | call session job answer called =>
      refine faithful.congr rfl rfl (by simp) ?_
      simpa [Task.job] using faithful.held
  | lackBackend session job inline uncalled =>
      refine faithful.congr rfl rfl rfl ?_
      simpa [Task.job] using faithful.held
  | retry session job answer missing =>
      refine faithful.congr rfl rfl (by simp) ?_
      simpa [Task.job, Job.withMissing, Job.program] using faithful.held
  | reject session job answer complete fatal =>
      exact
        faithful.tell ⟨false, .ofPayload answer.payload, job.program⟩
          rfl rfl rfl rfl (by simp [Task.job]) rfl
  | accept session job answer complete sound =>
      exact
        faithful.tell
          ⟨true, session.modernReport (.ofPayload answer.payload), job.program⟩
          rfl rfl rfl rfl (by simp [Task.job]) rfl
  | fail session failure job rest =>
      exact
        faithful.tell ⟨false, .ofError failure.diagnostic, job.program⟩
          rfl rfl rfl rfl (by simp [Task.job]) rfl

/-- A session stays faithful if nobody else waits and nothing more is told. -/
private theorem fewer
    (faithful : Faithful asked ⟨session, []⟩)
    (requests : next.session.requests = session.requests)
    (waiting :
      ∀ entry ∈ next.session.docket.pending, entry ∈ session.docket.pending)
    (endings : View.endings.of next.session.log = View.endings.of session.log)
    (held :
      ∀ task ∈ next.tasks, StandsFor asked task.job.request task.job.program) :
    Faithful asked next where
  numbered := by
    rw [requests]
    exact faithful.numbered
  held :=
    held
  waiting entry member :=
    faithful.waiting entry (waiting entry member)
  ended := by
    rw [endings]
    exact faithful.ended

/-- A new request stands for its own program, under the next number. -/
private theorem start
    (faithful : Faithful asked ⟨session, []⟩)
    (files : SourceSet)
    (target : String) :
    Faithful (asked ++ [⟨files, target⟩])
      ⟨session.start, [.pass (.new session.requests files target)]⟩ where
  numbered := by
    simp [faithful.numbered]
  held task member := by
    rw [List.mem_singleton.mp member]
    refine ⟨⟨files, target⟩, ?_, rfl, .refl files⟩
    have last : asked.length = session.requests := faithful.numbered
    simp [Task.job, Job.new, ← last]
  waiting entry member :=
    (faithful.waiting entry member).append _
  ended told member := by
    have before : told ∈ View.endings.of session.log := by
      simpa using member
    obtain ⟨request, same, answers⟩ := faithful.ended told before
    exact ⟨request, same, answers.append _⟩

/--
An opening that asks for nothing is about the programs that were asked for.
-/
private theorem opening_other
    {operation : Operation}
    (opens : Opening host session operation stage)
    (other : operation.program? = none)
    (aligned : session.Aligned)
    (faithful : Faithful asked ⟨session, []⟩) :
    Faithful asked stage := by
  cases opens with
  | compile files target =>
      cases other
  | load url mode =>
      exact faithful.fewer rfl (by simp [Session.load, Docket.clear])
        (by simp [Session.load]) (by simp)
  | withOptimizer optimize =>
      exact faithful.congr rfl rfl rfl (by simp)
  | settle =>
      exact faithful.congr rfl rfl rfl (by simp)
  | subscribe label =>
      exact faithful.congr rfl rfl rfl (by simp)
  | unsubscribe subscription =>
      exact faithful.congr rfl rfl rfl (by simp)
  | quiet position noNews =>
      exact faithful
  | loaded position version toolchain heard =>
      exact faithful.congr rfl rfl (by simp) (by simp)
  | failed position failure toolchain heard =>
      exact faithful.congr rfl rfl (by simp) (by simp)
  | terminated position failure toolchain heard nobody =>
      exact faithful.fewer rfl (by simp [Docket.drain]) (by simp) (by simp)
  | abandoned position failure toolchain heard somebody =>
      refine faithful.fewer rfl (by simp [Docket.drain]) rfl ?_
      intro task member
      obtain ⟨job, drained, same⟩ := List.mem_map.mp member
      obtain ⟨entry, waits, isJob⟩ := List.mem_map.mp drained
      rw [← same, ← isJob]
      exact faithful.waiting entry waits
  | compiled position ticket answer toolchain job heard found =>
      refine faithful.fewer rfl (fun entry => Docket.mem_of_mem_take) rfl ?_
      intro task member
      rw [List.mem_singleton.mp member]
      exact faithful.waiting (ticket, job) (aligned.ordered.mem_of_take found)
  | discarded position ticket answer toolchain heard unknown =>
      exact faithful.congr rfl rfl rfl (by simp)

/-- Every opening is about the programs that were asked for. -/
theorem opening
    {operation : Operation}
    (opens : Opening host session operation stage)
    (aligned : session.Aligned)
    (faithful : Faithful asked ⟨session, []⟩) :
    Faithful (asked ++ operation.program?.toList) stage := by
  cases asks : operation.program? with
  | none =>
      simpa using faithful.opening_other opens asks aligned
  | some program =>
      cases opens with
      | compile files target =>
          cases asks
          exact faithful.start files target
      | _ =>
          cases asks

/--
After every run, all that is told and done is about the programs asked for.
-/
theorem runAll
    (host : Host)
    (configuration : Configuration)
    (operations : List Operation) :
    Faithful (requested operations)
      ⟨(Session.new configuration).runAll host operations, []⟩ := by
  have kept :=
    runAll_induction host (.new configuration)
      (fun operations stage => stage.session.Aligned ∧
        Faithful (requested operations) stage)
      ⟨.new configuration, new configuration⟩
      (by
        rintro operations operation stage ⟨aligned, faithful⟩ opens
        refine ⟨aligned.opening opens, ?_⟩
        rw [requested_append, requested_singleton]
        exact faithful.opening opens aligned)
      (by
        rintro operations stage next ⟨aligned, faithful⟩ taken
        exact ⟨aligned.step taken, faithful.step taken aligned⟩)
      operations
  exact kept.2

end Faithful

end CompilerSession
