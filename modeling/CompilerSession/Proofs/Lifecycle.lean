import CompilerSession.Proofs.Announcements
import CompilerSession.Proofs.Quiescence

namespace CompilerSession

/-!
# States and the work that they show

A session that shows that its backend is ready has no work left, and so has an
idle one, but for one case.  Jobs are taken by a worker before its load has come
to an end, and if the load fails they still wait for their answers.  From then
on the session has no version and is shown as idle, whether or not a job waits.

The worker of such a session is `isBereft`.  That it has become so is announced
as a failure of no request, so a session that is idle and has work can be told
from the events since its latest load.
-/

open Session

namespace Toolchain

/--
Whether a worker is in use that does not load any more and has no backend to
show.
-/
def isBereft (toolchain : Toolchain) : Bool :=
  match toolchain.link with
  | .worker _ awaitingVersion => !awaitingVersion && toolchain.active?.isNone
  | _ => false

@[simp] theorem isBereft_load
    (url : String)
    (mode : Mode)
    (outcome : LoadResult) :
    (load url mode outcome).isBereft = false := by
  cases mode <;> rfl

@[simp] theorem isBereft_run (toolchain : Toolchain) :
    toolchain.run.isBereft = toolchain.isBereft := by
  rcases toolchain with ⟨link, active?⟩
  cases link <;> rfl

/-- A worker is bereft if no load goes on and no backend is active. -/
theorem isBereft_iff {toolchain : Toolchain} :
    toolchain.isBereft = true ↔
      toolchain.mode? = some .worker ∧ toolchain.isLoading = false ∧
        toolchain.active? = none := by
  rcases toolchain with ⟨link, active?⟩
  cases link <;> simp [isBereft, mode?, isLoading]

/-- A load that does not end goes on. -/
theorem Aligned.loading_of_endless
    {toolchain : Toolchain}
    {tickets : List Ticket}
    (aligned : Aligned toolchain tickets)
    (endless : toolchain.isEndless = true) :
    toolchain.isLoading = true := by
  cases aligned with
  | loading url outcome arrived =>
      rfl
  | endless tickets =>
      rfl
  | _ =>
      cases endless

/-- Posting a job leaves a worker as far as it was. -/
theorem isBereft_of_post
    {toolchain after : Toolchain}
    {moment : Nat}
    {ticket : Ticket}
    {input : String}
    {answer? : Option Answer}
    (accepted : toolchain.post moment ticket input = .ok (after, answer?)) :
    after.isBereft = toolchain.isBereft := by
  rcases toolchain with ⟨link, active?⟩
  cases link with
  | worker worker awaitingVersion =>
      simp only [post] at accepted
      split at accepted
      · cases accepted
        rfl
      · cases accepted
  | _ =>
      cases accepted

/-- An inline load that has arrived leaves no worker. -/
theorem isBereft_of_poll
    {toolchain after : Toolchain}
    {outcome : Except Failure String}
    (arrival : toolchain.poll = some (outcome, after)) :
    after.isBereft = false := by
  rcases toolchain with ⟨link, active?⟩
  cases link with
  | loading url result arrived =>
      cases arrived with
      | false =>
          cases arrival
      | true =>
          cases result <;> cases arrival <;> rfl
  | _ =>
      cases arrival

/--
A worker is bereft after a piece of news only if it was so before or has failed
now.
-/
theorem isBereft_of_next
    {toolchain after : Toolchain}
    {pending position : Nat}
    {news : News}
    (heard : toolchain.next pending position = (.news news, after))
    (bereft : after.isBereft = true) :
    toolchain.isBereft = true ∨ ∃ failure, news = .failed failure := by
  rcases toolchain with ⟨link, active?⟩
  cases link with
  | unloaded =>
      cases heard
  | inline backend =>
      cases heard
  | loading url outcome arrived =>
      cases outcome <;> cases heard <;> cases bereft
  | worker worker awaitingVersion =>
      simp only [next] at heard
      split at heard
      · cases heard
      · split at heard
        · rename_i message rest received
          cases message with
          | loaded version =>
              cases heard
              cases bereft
          | failed message =>
              cases heard
              exact Or.inr ⟨_, rfl⟩
          | compiled ticket answer =>
              cases heard
              exact Or.inl bereft
        · cases heard
          cases bereft
        · cases heard

end Toolchain

/-! ## Failures that have been announced -/

namespace Session

/--
A worker is in use, and since its load began a failure of no request has been
announced.
-/
structure LoadFailed (session : Session) : Prop where
  worker : session.toolchain.mode? = some .worker
  announced :
    ∃ failure : Failure, failure.announcement ∈ sinceLoad session.events

@[simp] theorem isBereft_recordFetches
    (session : Session)
    (request : Nat)
    (resolution : Resolution) :
    (session.recordFetches request resolution).toolchain.isBereft =
      session.toolchain.isBereft := by
  rcases toolchain_recordFetches session request resolution with same | ran
  · rw [same]
  · rw [ran, Toolchain.isBereft_run]

/-- If the worker is bereft, its load has failed and that has been announced. -/
def Explained (session : Session) : Prop :=
  session.toolchain.isBereft = true → session.LoadFailed

namespace Explained

variable {host : Host} {session after : Session} {stage next : Stage}

/-- What is announced stays so while no load begins. -/
theorem congr
    (explained : session.Explained)
    (tells : session.TellsOn after)
    (kept :
      after.toolchain.isBereft = true → session.toolchain.isBereft = true) :
    after.Explained := by
  intro bereft
  obtain ⟨failure, announced⟩ := (explained (kept bereft)).announced
  obtain ⟨added, grown, -⟩ := tells.sinceLoad_events
  exact
    { worker := (Toolchain.isBereft_iff.mp bereft).1
      announced := ⟨failure, grown ▸ List.mem_append_left _ announced⟩ }

/-- Every step keeps a bereft worker explained. -/
theorem step
    (taken : WorkStep host stage next)
    (aligned : stage.session.Aligned)
    (explained : stage.session.Explained) :
    next.session.Explained := by
  refine explained.congr (taken.tells aligned) fun bereft => ?_
  cases taken with
  | resolve session job going succeeds =>
      rw [← isBereft_recordFetches]
      exact bereft
  | lack session job failure going fails =>
      rw [← isBereft_recordFetches]
      exact bereft
  | arriveLoaded session job version toolchain arrival =>
      have other := Toolchain.isBereft_of_poll arrival
      exact absurd bereft (by simpa using other)
  | arriveFailed session job failure toolchain arrival =>
      have other := Toolchain.isBereft_of_poll arrival
      exact absurd bereft (by simpa [announceFailure] using other)
  | postCalled session job toolchain answer accepted =>
      rw [← Toolchain.isBereft_of_post accepted]
      exact bereft
  | postUncalled session job toolchain accepted =>
      rw [← Toolchain.isBereft_of_post accepted]
      exact bereft
  | _ =>
      exact bereft

/-- News that is no failure of a load leaves no worker bereft that was not. -/
private theorem kept_of_news
    {toolchain after : Toolchain}
    {pending position : Nat}
    {news : News}
    (heard : toolchain.next pending position = (.news news, after))
    (other : ∀ failure, news ≠ .failed failure)
    (bereft : after.isBereft = true) :
    toolchain.isBereft = true :=
  (Toolchain.isBereft_of_next heard bereft).resolve_right fun ⟨failure, same⟩ =>
    other failure same

/-- The opening of an operation keeps a bereft worker explained. -/
theorem opening
    {operation : Operation}
    (opens : Opening host session operation stage)
    (aligned : session.Aligned)
    (explained : session.Explained) :
    stage.session.Explained := by
  by_cases isLoad : ∃ url mode, operation = .load url mode
  · obtain ⟨url, mode, rfl⟩ := isLoad
    cases opens
    intro bereft
    exact absurd bereft (by simp [Session.load])
  · have tells :=
      opens.tells aligned fun url mode same => isLoad ⟨url, mode, same⟩
    cases opens with
    | load url mode =>
        exact absurd ⟨url, mode, rfl⟩ isLoad
    | settle =>
        refine explained.congr tells fun bereft => ?_
        rw [← Toolchain.isBereft_run]
        exact bereft
    | loaded position version toolchain heard =>
        exact explained.congr tells (kept_of_news heard (by simp))
    | failed position failure toolchain heard =>
        intro bereft
        have events :
            (announceFailure { session with toolchain } failure).events =
              session.events ++ [failure.announcement] := by
          simp [Session.events, announceFailure, Failure.announcement]
        refine ⟨(Toolchain.isBereft_iff.mp bereft).1, failure, ?_⟩
        rw [events,
          sinceLoad_append (by simp [Failure.announcement, Event.isLoading])]
        exact List.mem_append_right _ List.mem_cons_self
    | terminated position failure toolchain heard nobody =>
        exact explained.congr tells (kept_of_news heard (by simp))
    | abandoned position failure toolchain heard somebody =>
        exact explained.congr tells (kept_of_news heard (by simp))
    | compiled position ticket answer toolchain job heard found =>
        exact explained.congr tells (kept_of_news heard (by simp))
    | discarded position ticket answer toolchain heard unknown =>
        exact explained.congr tells (kept_of_news heard (by simp))
    | _ =>
        exact explained.congr tells id

/-- After every run a bereft worker is explained. -/
theorem runAll
    (host : Host)
    (configuration : Configuration)
    (operations : List Operation) :
    ((Session.new configuration).runAll host operations).Explained := by
  have kept :=
    runAll_induction host (.new configuration)
      (fun _ stage => stage.session.Aligned ∧ stage.session.Explained)
      ⟨.new configuration, nofun⟩
      (fun ⟨aligned, explained⟩ opens =>
        ⟨aligned.opening opens, opening opens aligned explained⟩)
      (fun ⟨aligned, explained⟩ taken =>
        ⟨aligned.step taken, step taken aligned explained⟩)
      operations
  exact kept.2

end Explained

/-! ## What a state shows -/

/-- Jobs wait for a worker only. -/
theorem Aligned.worker_of_work
    {session : Session}
    (aligned : session.Aligned)
    (work : session.waitingJobs ≠ 0) :
    session.toolchain.mode? = some .worker := by
  by_contra workerless
  have nobody := aligned.toolchain.nobody_of_workerless workerless
  simp [waitingJobs, Docket.size, List.map_eq_nil_iff.mp nobody] at work

/-- Work is shown, but for that of a worker that is bereft. -/
theorem Aligned.state_of_work
    {session : Session}
    (aligned : session.Aligned)
    (work : session.waitingJobs ≠ 0) :
    session.state = .loadingBackend ∨ session.state = .compiling ∨
      session.state = .idle ∧ session.toolchain.isBereft = true := by
  have somebody : session.docket.isEmpty = false := by
    simpa [waitingJobs, Docket.size, Docket.isEmpty] using work
  cases loads : session.toolchain.isLoading with
  | true =>
      simp [state, loads]
  | false =>
      cases active : session.toolchain.active? with
      | none =>
          have bereft :=
            Toolchain.isBereft_iff.mpr
              ⟨aligned.worker_of_work work, loads, active⟩
          simp [state, loads, active, bereft]
      | some backend =>
          simp [state, loads, active, somebody]

/-- A session that is bereft and has work has news to take. -/
theorem Aligned.handled_of_bereft
    {session : Session}
    (aligned : session.Aligned)
    (bereft : session.toolchain.isBereft = true)
    (work : session.waitingJobs ≠ 0)
    (host : Host)
    (position : Nat) :
    (session.next host position).1 = .handled := by
  cases progress : (session.next host position).1 with
  | handled =>
      rfl
  | nothing =>
      exact absurd ((aligned.idle_iff host position).mp progress).2 work
  | blocked =>
      have endless := aligned.endless_of_blocked progress
      have settled := (Toolchain.isBereft_iff.mp bereft).2.1
      rw [aligned.toolchain.loading_of_endless endless] at settled
      cases settled

end Session

/--
The state of a session shows its work, but for one case.  Where jobs wait, the
session is shown as loading or as compiling; or a worker is in use whose load is
known to have failed, and then it is shown as idle although there is news to
take.  In all other cases a session that is shown as ready or as idle has ended
every compilation that was asked for since the latest load.
-/
theorem state_shows_work
    (host : Host)
    (configuration : Configuration)
    (operations : List Operation) :
    let start := Session.new configuration
    let session := start.runAll host operations
    (session.waitingJobs ≠ 0 →
      session.state = .loadingBackend ∨ session.state = .compiling ∨
        session.state = .idle ∧ session.LoadFailed ∧
          ∀ position, (session.next host position).1 = .handled) ∧
      ∀ earlier later,
        operations = earlier ++ later →
        (∀ operation ∈ later, operation.isLoad = false) →
        session.state = .backendReady ∨
          session.state = .idle ∧ ¬ session.LoadFailed →
          session.waitingJobs = 0 ∧
            EndsAll host (start.runAll host earlier) later session := by
  intro start session
  have aligned : session.Aligned :=
    (Session.Aligned.new configuration).runAll host operations
  have explained : session.Explained :=
    Explained.runAll host configuration operations
  refine ⟨fun work => ?_, fun earlier later shape loadless shown => ?_⟩
  · refine (aligned.state_of_work work).imp_right (Or.imp_right ?_)
    rintro ⟨idle, bereft⟩
    exact ⟨idle, explained bereft, aligned.handled_of_bereft bereft work host⟩
  · have nobody : session.waitingJobs = 0 := by
      by_contra work
      rcases aligned.state_of_work work with
        loading | compiling | ⟨idle, bereft⟩
      · simp [loading] at shown
      · simp [compiling] at shown
      · simp [idle, explained bereft] at shown
    refine ⟨nobody, ?_⟩
    have settled : session.toolchain.isLoading = false := by
      rw [Bool.eq_false_iff]
      intro loads
      simp [state, loads] at shown
    have idle := (aligned.idle_iff host 0).mpr ⟨settled, nobody⟩
    simp only [session, start, shape] at idle ⊢
    exact ended_of_idle host configuration earlier loadless idle

/-- A host whose one load fails. -/
def Host.failing : Host :=
  .scripted [] [("url", .failed "404")]

/--
A job that a worker was given before its load failed waits in a session shown as
idle.
-/
theorem waiting_in_idle :
    ¬ ∀ (host : Host) (configuration : Configuration)
        (operations : List Operation),
        let session := (Session.new configuration).runAll host operations
        session.waitingJobs ≠ 0 →
          session.state = .loadingBackend ∨ session.state = .compiling := by
  intro always
  have shown :=
    always .failing .standard
      [.load "url" .worker, .compile (.ofList [("a.sol", "")]) "a.sol", .next 0]
  revert shown
  decide +kernel

end CompilerSession
