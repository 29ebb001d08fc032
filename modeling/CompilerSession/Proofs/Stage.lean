import CompilerSession.Session.Operation
import Mathlib.Data.List.Induction
import Mathlib.Logic.Relation

namespace CompilerSession

/-!
# Operations in small steps

An operation of an editor opens with one change of the session that may leave
tasks in hand, and works these off one step after the other.  `Opening` and
`WorkStep` list everything that can happen, each with what has to hold for it;
the main statement says that every operation is an opening followed by steps.

Whatever an opening and a step preserve therefore holds after every run, which
is `runAll_induction`.
-/

/-- What is still to be done with a job in hand. -/
inductive Task where
  | pass (job : Job)
  | arrive (job : Job)
  | dispatch (job : Job)
  | take (job : Job) (answer : Answer)
  | fail (failure : Failure) (job : Job)

namespace Task

/-- The job that a task is about. -/
def job : Task → Job
  | .pass job => job
  | .arrive job => job
  | .dispatch job => job
  | .take job _ => job
  | .fail _ job => job

end Task

/-- A session in the middle of an operation, with the tasks in hand. -/
structure Stage where
  session : Session
  tasks : List Task

namespace Session

/-- What a pass over a job fetches. -/
def resolution
    (host : Host)
    (session : Session)
    (job : Job) : Resolution :=
  host.library.resolve session.now job.sources job.target job.missing

/-- The job with the files of a resolution. -/
def resolved
    (host : Host)
    (session : Session)
    (job : Job) : Job :=
  { job with sources := (session.resolution host job).files, missing := [] }

/-- The bundle that a job is handed over with. -/
def bundleFor
    (session : Session)
    (job : Job) : Bundle :=
  ⟨job.sources, session.configuration⟩

/-- Announce that a request has been made. -/
def start (session : Session) : Session :=
  { session with requests := session.requests + 1 }.emit
    (some session.requests) .started

/-- The session with an answer taken note of. -/
def answered
    (session : Session)
    (job : Job)
    (answer : Answer) : Session :=
  session.note (.answered job.request answer)

/-- The session with a job entered into the docket and the worker told of it. -/
def posted
    (session : Session)
    (job : Job)
    (toolchain : Toolchain) : Session :=
  { session with docket := (session.docket.enter job).2, toolchain }

end Session

attribute [simp] Session.bundleFor Session.start Session.answered Session.posted

open Session

/-- The program that an operation asks to be compiled, if it does. -/
def Session.Operation.program? : Operation → Option Program
  | .compile files target => some ⟨files, target⟩
  | _ => none

/-- Whether an operation loads a backend. -/
def Session.Operation.isLoad : Operation → Bool
  | .load _ _ => true
  | _ => false

/--
The programs that a run asks to be compiled, in order; requests are their
positions.
-/
def requested (operations : List Operation) : List Program :=
  operations.filterMap Operation.program?

theorem requested_append
    (earlier later : List Operation) :
    requested (earlier ++ later) = requested earlier ++ requested later :=
  List.filterMap_append

@[simp] theorem requested_singleton
    (operation : Operation) :
    requested [operation] = operation.program?.toList := by
  cases asks : operation.program? <;> simp [requested, asks]

/-- One step of the work on the tasks in hand. -/
inductive WorkStep (host : Host) : Stage → Stage → Prop where
  | stick
      (session : Session)
      (job : Job)
      (stuck : isStuck job = true) :
      WorkStep host ⟨session, [.pass job]⟩
        ⟨session, [.fail (.missingImports job.missing) job]⟩
  | resolve
      (session : Session)
      (job : Job)
      (going : ¬ isStuck job = true)
      (succeeds : (session.resolution host job).failure? = none) :
      WorkStep host ⟨session, [.pass job]⟩
        ⟨session.recordFetches job.request (session.resolution host job),
          [.arrive (session.resolved host job)]⟩
  | lack
      (session : Session)
      (job : Job)
      (failure : Failure)
      (going : ¬ isStuck job = true)
      (fails : (session.resolution host job).failure? = some failure) :
      WorkStep host ⟨session, [.pass job]⟩
        ⟨session.recordFetches job.request (session.resolution host job),
          [.fail failure (session.resolved host job)]⟩
  | arriveLoaded
      (session : Session)
      (job : Job)
      (version : String)
      (toolchain : Toolchain)
      (arrival : session.toolchain.poll = some (.ok version, toolchain)) :
      WorkStep host ⟨session, [.arrive job]⟩
        ⟨{ session with toolchain }.emit none (.loaded version),
          [.dispatch job]⟩
  | arriveFailed
      (session : Session)
      (job : Job)
      (failure : Failure)
      (toolchain : Toolchain)
      (arrival : session.toolchain.poll = some (.error failure, toolchain)) :
      WorkStep host ⟨session, [.arrive job]⟩
        ⟨{ session with toolchain }.announceFailure failure, [.dispatch job]⟩
  | arriveNot
      (session : Session)
      (job : Job)
      (noArrival : session.toolchain.poll = none) :
      WorkStep host ⟨session, [.arrive job]⟩ ⟨session, [.dispatch job]⟩
  | postCalled
      (session : Session)
      (job : Job)
      (toolchain : Toolchain)
      (answer : Answer)
      (accepted :
        session.toolchain.post session.now session.docket.nextTicket
          (session.bundleFor job).text = .ok (toolchain, some answer)) :
      WorkStep host ⟨session, [.dispatch job]⟩
        ⟨(session.posted job toolchain).recordCall job (session.bundleFor job)
          answer, []⟩
  | postUncalled
      (session : Session)
      (job : Job)
      (toolchain : Toolchain)
      (accepted :
        session.toolchain.post session.now session.docket.nextTicket
          (session.bundleFor job).text = .ok (toolchain, none)) :
      WorkStep host ⟨session, [.dispatch job]⟩
        ⟨session.posted job toolchain, []⟩
  | postRefused
      (session : Session)
      (job : Job)
      (failure : Failure)
      (worker : session.toolchain.mode? = some .worker)
      (refused :
        session.toolchain.post session.now session.docket.nextTicket
          (session.bundleFor job).text = .error failure) :
      WorkStep host ⟨session, [.dispatch job]⟩
        ⟨{ session with
            docket :=
              ((session.docket.enter job).2.take session.docket.nextTicket).2 },
          [.fail failure job]⟩
  | call
      (session : Session)
      (job : Job)
      (answer : Answer)
      (called :
        session.toolchain.answer? session.now (session.bundleFor job).text =
          some answer) :
      WorkStep host ⟨session, [.dispatch job]⟩
        ⟨session.recordCall job (session.bundleFor job) answer,
          [.take job answer]⟩
  | lackBackend
      (session : Session)
      (job : Job)
      (inline : session.toolchain.mode? ≠ some .worker)
      (uncalled :
        session.toolchain.answer? session.now
          (session.bundleFor job).text = none) :
      WorkStep host ⟨session, [.dispatch job]⟩ ⟨session, [.fail .noBackend job]⟩
  | retry
      (session : Session)
      (job : Job)
      (answer : Answer)
      (missing : answer.missing ≠ []) :
      WorkStep host ⟨session, [.take job answer]⟩
        ⟨session.answered job answer, [.pass (job.withMissing answer.missing)]⟩
  | reject
      (session : Session)
      (job : Job)
      (answer : Answer)
      (complete : answer.missing = [])
      (fatal : (Report.ofPayload answer.payload).verdict.isFatal = true) :
      WorkStep host ⟨session, [.take job answer]⟩
        ⟨{ session.answered job answer with snapshot? := none }.finish
            false (.ofPayload answer.payload) job, []⟩
  | accept
      (session : Session)
      (job : Job)
      (answer : Answer)
      (complete : answer.missing = [])
      (sound : ¬ (Report.ofPayload answer.payload).verdict.isFatal = true) :
      WorkStep host ⟨session, [.take job answer]⟩
        ⟨{ session.answered job answer with
              snapshot? :=
                some
                  ⟨session.modernReport (.ofPayload answer.payload),
                    job.program⟩ }.finish
            true (session.modernReport (.ofPayload answer.payload)) job, []⟩
  | fail
      (session : Session)
      (failure : Failure)
      (job : Job)
      (rest : List Task) :
      WorkStep host ⟨session, .fail failure job :: rest⟩
        ⟨session.fail failure job, rest⟩

/-- What an operation begins with. -/
inductive Opening
    (host : Host)
    (session : Session) : Operation → Stage → Prop where
  | load (url : String) (mode : Mode) :
      Opening host session (.load url mode) ⟨session.load host url mode, []⟩
  | compile (files : SourceSet) (target : String) :
      Opening host session (.compile files target)
        ⟨session.start, [.pass (.new session.requests files target)]⟩
  | withOptimizer (optimize : Bool) :
      Opening host session (.withOptimizer optimize)
        ⟨session.withOptimizer optimize, []⟩
  | settle :
      Opening host session .settle ⟨session.settle, []⟩
  | subscribe (label : String) :
      Opening host session (.subscribe label) ⟨(session.subscribe label).2, []⟩
  | unsubscribe (subscription : Subscription) :
      Opening host session (.unsubscribe subscription)
        ⟨(session.unsubscribe subscription).2, []⟩
  | quiet
      (position : Nat)
      (noNews : (session.next host position).1 ≠ .handled) :
      Opening host session (.next position) ⟨session, []⟩
  | loaded
      (position : Nat)
      (version : String)
      (toolchain : Toolchain)
      (heard :
        session.toolchain.next session.waitingJobs position =
          (.news (.loaded version), toolchain)) :
      Opening host session (.next position)
        ⟨{ session with toolchain }.emit none (.loaded version), []⟩
  | failed
      (position : Nat)
      (failure : Failure)
      (toolchain : Toolchain)
      (heard :
        session.toolchain.next session.waitingJobs position =
          (.news (.failed failure), toolchain)) :
      Opening host session (.next position)
        ⟨{ session with toolchain }.announceFailure failure, []⟩
  | terminated
      (position : Nat)
      (failure : Failure)
      (toolchain : Toolchain)
      (heard :
        session.toolchain.next session.waitingJobs position =
          (.news (.terminated failure), toolchain))
      (nobody : session.docket.pending = []) :
      Opening host session (.next position)
        ⟨{ session with
            toolchain
            docket := session.docket.drain.2 }.announceFailure failure, []⟩
  | abandoned
      (position : Nat)
      (failure : Failure)
      (toolchain : Toolchain)
      (heard :
        session.toolchain.next session.waitingJobs position =
          (.news (.terminated failure), toolchain))
      (somebody : session.docket.pending ≠ []) :
      Opening host session (.next position)
        ⟨{ session with toolchain, docket := session.docket.drain.2 },
          session.docket.drain.1.map (.fail failure)⟩
  | compiled
      (position : Nat)
      (ticket : Ticket)
      (answer : Answer)
      (toolchain : Toolchain)
      (job : Job)
      (heard :
        session.toolchain.next session.waitingJobs position =
          (.news (.compiled ticket answer), toolchain))
      (found : (session.docket.take ticket).1 = some job) :
      Opening host session (.next position)
        ⟨{ session with toolchain, docket := (session.docket.take ticket).2 },
          [.take job answer]⟩
  | discarded
      (position : Nat)
      (ticket : Ticket)
      (answer : Answer)
      (toolchain : Toolchain)
      (heard :
        session.toolchain.next session.waitingJobs position =
          (.news (.compiled ticket answer), toolchain))
      (unknown : (session.docket.take ticket).1 = none) :
      Opening host session (.next position) ⟨{ session with toolchain }, []⟩

/-- Work on the tasks in hand, for any number of steps. -/
abbrev Work (host : Host) : Stage → Stage → Prop :=
  Relation.ReflTransGen (WorkStep host)

namespace Work

variable (host : Host)

/-- The tasks that a job leaves if it goes on. -/
def further (next? : Option Job) : List Task :=
  next?.toList.map .pass

/-- Taking an answer leads to the pass that it asks for, if any. -/
theorem takeAnswer
    (session : Session)
    (job : Job)
    (answer : Answer) :
    Work host ⟨session, [.take job answer]⟩
      ⟨(session.takeAnswer job answer).1,
        further (session.takeAnswer job answer).2⟩ := by
  apply Relation.ReflTransGen.single
  unfold Session.takeAnswer
  dsimp only
  split
  · rename_i complete
    have none : answer.missing = [] := List.isEmpty_iff.mp complete
    unfold conclude
    split
    · rename_i fatal
      exact .reject session job answer none fatal
    · rename_i sound
      exact .accept session job answer none sound
  · rename_i missing
    refine .retry session job answer ?_
    simpa using missing

/-- Failing a job leaves nothing in hand. -/
private theorem fail
    (session : Session)
    (failure : Failure)
    (job : Job) :
    Work host ⟨session, [.fail failure job]⟩ ⟨session.fail failure job, []⟩ :=
  .single (.fail session failure job [])

/-- Dispatching a job leads to the pass that its answer asks for, if any. -/
theorem dispatch
    (session : Session)
    (job : Job) :
    Work host ⟨session, [.dispatch job]⟩
      ⟨(session.dispatch job).1, further (session.dispatch job).2⟩ := by
  unfold Session.dispatch
  dsimp only
  split
  · rename_i worker
    unfold postJob
    simp only [Docket.enter]
    split
    · rename_i toolchain answer? accepted
      cases answer? with
      | none =>
          exact .single (.postUncalled session job toolchain accepted)
      | some answer =>
          exact .single (.postCalled session job toolchain answer accepted)
    · rename_i failure refused
      exact
        .head (.postRefused session job failure worker refused)
          (fail host _ failure job)
  · rename_i inline
    split
    · rename_i answer called
      exact
        .head (.call session job answer called) (takeAnswer host _ job answer)
    · rename_i uncalled
      exact
        .head (.lackBackend session job inline uncalled)
          (fail host session .noBackend job)

/-- An arrival is announced before its job is dispatched. -/
theorem arrive
    (session : Session)
    (job : Job) :
    Work host ⟨session, [.arrive job]⟩
      ⟨session.announceArrival, [.dispatch job]⟩ := by
  apply Relation.ReflTransGen.single
  unfold announceArrival
  split
  · rename_i outcome toolchain arrival
    cases outcome with
    | ok version =>
        exact .arriveLoaded session job version toolchain arrival
    | error failure =>
        exact .arriveFailed session job failure toolchain arrival
  · rename_i noArrival
    exact .arriveNot session job noArrival

/-- A pass leads to the next pass of its job, if there is one. -/
theorem pass
    (session : Session)
    (job : Job) :
    Work host ⟨session, [.pass job]⟩
      ⟨(Session.pass host session job).1,
        further (Session.pass host session job).2⟩ := by
  unfold Session.pass
  split
  · rename_i stuck
    exact .head (.stick session job stuck) (fail host session _ job)
  · rename_i going
    dsimp only
    split
    · rename_i failure fails
      exact
        .head (.lack session job failure going fails)
          (fail host _ failure (session.resolved host job))
    · rename_i succeeds
      exact
        .head (.resolve session job going succeeds)
          ((arrive host _ (session.resolved host job)).trans
            (dispatch host _ (session.resolved host job)))

/-- A submission passes until nothing is left in hand. -/
theorem submit
    (session : Session)
    (job : Job) :
    Work host ⟨session, [.pass job]⟩ ⟨Session.submit host session job, []⟩ := by
  fun_induction Session.submit host session job with
  | case1 session job after ended =>
      have once := pass host session job
      rw [ended] at once
      exact once
  | case2 session job after next retried _ inductionHypothesis =>
      have once := pass host session job
      rw [retried] at once
      exact once.trans inductionHypothesis

/-- Jobs in hand fail one after the other. -/
private theorem failAll
    (failure : Failure)
    (jobs : List Job)
    (session : Session) :
    Work host ⟨session, jobs.map (.fail failure)⟩
      ⟨jobs.foldl (fun current job => current.fail failure job) session,
        []⟩ := by
  induction jobs generalizing session with
  | nil =>
      exact .refl
  | cons job rest inductionHypothesis =>
      exact .head (.fail session failure job _) (inductionHypothesis _)

end Work

/-- Asking for news changes nothing if there is none. -/
theorem Session.next_unhandled
    {host : Host}
    {session : Session}
    {position : Nat}
    (unhandled : (session.next host position).1 ≠ .handled) :
    (session.next host position).2 = session := by
  unfold Session.next at unhandled ⊢
  split
  · rfl
  · rfl
  · rename_i heard
    simp [heard] at unhandled

/-- Taking news is an opening followed by steps. -/
private theorem next_opens
    (host : Host)
    (session : Session)
    (position : Nat) :
    ∃ stage,
      Opening host session (.next position) stage ∧
        Work host stage ⟨(session.next host position).2, []⟩ := by
  by_cases handled : (session.next host position).1 = .handled
  · unfold Session.next at handled ⊢
    split at handled
    · cases handled
    · cases handled
    · rename_i news toolchain heard
      cases news with
      | loaded version =>
          exact ⟨_, .loaded position version toolchain heard, .refl⟩
      | failed failure =>
          exact ⟨_, .failed position failure toolchain heard, .refl⟩
      | terminated failure =>
          -- With nobody to tell, the failure is announced on its own.
          by_cases nobody : session.docket.pending = []
          · refine ⟨_, .terminated position failure toolchain heard nobody, ?_⟩
            simp only [handle, failWaiting, Docket.drain, nobody, List.map_nil]
            exact .refl
          · refine ⟨_, .abandoned position failure toolchain heard nobody, ?_⟩
            have drained := Work.failAll host failure session.docket.drain.1
              { session with toolchain, docket := session.docket.drain.2 }
            unfold handle failWaiting
            dsimp only
            split
            · rename_i empty
              simp [Docket.drain, nobody] at empty
            · exact drained
      | compiled ticket answer =>
          unfold handle
          dsimp only
          split
          · rename_i job docket taken
            have found : (session.docket.take ticket).1 = some job :=
              congrArg Prod.fst taken
            have kept : (session.docket.take ticket).2 = docket :=
              congrArg Prod.snd taken
            subst kept
            refine ⟨_,
              .compiled position ticket answer toolchain job heard found, ?_⟩
            have settled := Work.takeAnswer host
              { session with
                toolchain
                docket := (session.docket.take ticket).2 }
              job answer
            split
            · rename_i after next completed
              rw [completed] at settled
              exact settled.trans (Work.submit host after next)
            · rename_i after completed
              rw [completed] at settled
              exact settled
          · rename_i taken
            have unknown : (session.docket.take ticket).1 = none :=
              congrArg Prod.fst taken
            exact ⟨_,
              .discarded position ticket answer toolchain heard unknown, .refl⟩
  · refine ⟨_, .quiet position handled, ?_⟩
    rw [next_unhandled handled]

/-- Every operation is an opening followed by steps until no task is left. -/
theorem apply_opens
    (host : Host)
    (session : Session)
    (operation : Operation) :
    ∃ stage,
      Opening host session operation stage ∧
        Work host stage ⟨session.apply host operation, []⟩ := by
  cases operation with
  | load url mode =>
      exact ⟨_, .load url mode, .refl⟩
  | compile files target =>
      exact ⟨_, .compile files target, Work.submit host _ _⟩
  | withOptimizer optimize =>
      exact ⟨_, .withOptimizer optimize, .refl⟩
  | next position =>
      exact next_opens host session position
  | settle =>
      exact ⟨_, .settle, .refl⟩
  | subscribe label =>
      exact ⟨_, .subscribe label, .refl⟩
  | unsubscribe subscription =>
      exact ⟨_, .unsubscribe subscription, .refl⟩

/--
What every opening brings about and every step preserves holds after an
operation.
-/
theorem apply_induction
    (host : Host)
    (session : Session)
    (operation : Operation)
    (Invariant : Stage → Prop)
    (opening :
      ∀ {stage}, Opening host session operation stage → Invariant stage)
    (step :
      ∀ {stage next},
        Invariant stage → WorkStep host stage next → Invariant next) :
    Invariant ⟨session.apply host operation, []⟩ := by
  obtain ⟨stage, opens, work⟩ := apply_opens host session operation
  generalize (⟨session.apply host operation, []⟩ : Stage) = final at work ⊢
  induction work with
  | refl =>
      exact opening opens
  | tail _ last inductionHypothesis =>
      exact step inductionHypothesis last

theorem runAll_append
    (host : Host)
    (session : Session)
    (earlier later : List Operation) :
    session.runAll host (earlier ++ later) =
      (session.runAll host earlier).runAll host later :=
  List.foldl_append

/--
What holds before a run, and is preserved by every opening and every step, holds
after the run.  The invariant may speak of the operations so far.
-/
theorem runAll_induction
    (host : Host)
    (session : Session)
    (Invariant : List Operation → Stage → Prop)
    (initial : Invariant [] ⟨session, []⟩)
    (opening :
      ∀ {operations operation stage},
        Invariant operations ⟨session.runAll host operations, []⟩ →
        Opening host (session.runAll host operations) operation stage →
        Invariant (operations ++ [operation]) stage)
    (step :
      ∀ {operations stage next},
        Invariant operations stage → WorkStep host stage next →
          Invariant operations next)
    (operations : List Operation) :
    Invariant operations ⟨session.runAll host operations, []⟩ := by
  induction operations using List.reverseRecOn with
  | nil =>
      exact initial
  | append_singleton operations operation inductionHypothesis =>
      rw [runAll_append]
      exact
        apply_induction host (session.runAll host operations) operation
          (Invariant (operations ++ [operation]))
          (fun opens => opening inductionHypothesis opens) step

end CompilerSession
