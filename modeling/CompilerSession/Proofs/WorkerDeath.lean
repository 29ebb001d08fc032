import CompilerSession.Proofs.Announcements
import CompilerSession.Proofs.Quiescence
import CompilerSession.Proofs.Settling

namespace CompilerSession

/-!
# A worker that dies

The worker of a loader that crashes accepts jobs until it is gone and refuses
them from then on.  The jobs that it accepted wait until its end is noticed;
those that it refuses end at once.  Both end alike: `Stricken` says of a session
that its worker dies, `Handed` tells the two ways of a request apart, and
`Forsaken` follows one request until it has ended.
-/

open Session

/-- The worker of a loader that crashed, before it is gone and afterwards. -/
inductive Toolchain.Dying : Toolchain → Prop where
  | doomed : Dying ⟨.worker .doomed true, none⟩
  | gone : Dying ⟨.worker .gone true, none⟩

namespace Toolchain.Dying

variable {toolchain : Toolchain}

theorem load (url : String) : (Toolchain.load url .worker .crashed).Dying :=
  .doomed

theorem run
    (dying : toolchain.Dying) :
    toolchain.run.Dying := by
  cases dying with
  | doomed =>
      exact .gone
  | gone =>
      exact .gone

/-- What is dying is a worker. -/
theorem mode
    (dying : toolchain.Dying) :
    toolchain.mode? = some .worker := by
  cases dying <;> rfl

/-- A dying worker never says that its load has ended. -/
theorem unarrived
    (dying : toolchain.Dying) :
    toolchain.poll = none := by
  cases dying <;> rfl

/-- A job is accepted and nothing comes of it, or it is refused. -/
theorem post
    (dying : toolchain.Dying)
    (moment : Nat)
    (ticket : Ticket)
    (input : String) :
    toolchain.post moment ticket input = .ok (toolchain, none) ∨
      toolchain.post moment ticket input = .error Worker.goneFailure := by
  cases dying with
  | doomed =>
      exact Or.inl rfl
  | gone =>
      exact Or.inr rfl

/-- The next news is that the worker is gone. -/
theorem next
    (dying : toolchain.Dying)
    (pending position : Nat) :
    toolchain.next pending position =
      (.news (.terminated Worker.goneFailure), .unloaded) := by
  cases dying <;> rfl

/-- Of its load it is still to be told that the worker is gone. -/
theorem owed
    (dying : toolchain.Dying) :
    toolchain.announcement? = some Worker.goneFailure.announcement := by
  cases dying <;> rfl

end Toolchain.Dying

/-! ## Two ways to hand a job over -/

/--
What becomes of a job that is handed to a dying worker: it waits, or it ends at
once.
-/
inductive Handed
    (host : Host)
    (asking : Session)
    (job : Job)
    (after : Session) : Prop where
  | waits
      (succeeds : (asking.resolution host job).failure? = none)
      (docket :
        after.docket.pending =
          asking.docket.pending ++
            [(asking.docket.nextTicket, asking.resolved host job)])
      (endings : View.endings.of after.log = View.endings.of asking.log)
  | ends
      (failure : Failure)
      (cause :
        (asking.resolution host job).failure? = none →
          failure = Worker.goneFailure)
      (docket : after.docket.pending = asking.docket.pending)
      (endings :
        View.endings.of after.log =
          View.endings.of asking.log ++
            [(some job.request,
              .ofFailure failure (asking.resolved host job).program)])

namespace Handed

variable
  {host : Host}
  {asking after : Session}
  {job : Job}

/-- Whatever waits then waited before, or it is the job. -/
theorem waited
    (handed : Handed host asking job after)
    {entry : Ticket × Job}
    (waits : entry ∈ after.docket.pending) :
    entry ∈ asking.docket.pending ∨ entry.2 = asking.resolved host job := by
  cases handed with
  | waits succeeds docket endings =>
      rw [docket] at waits
      rcases List.mem_append.mp waits with before | new
      · exact Or.inl before
      · rw [List.mem_singleton.mp new]
        exact Or.inr rfl
  | ends failure cause docket endings =>
      rw [docket] at waits
      exact Or.inl waits

/-- Whatever is told then was told before, or it is the end of the job. -/
theorem told
    (handed : Handed host asking job after)
    {request : Nat}
    {ending : Conclusion}
    (told : ending ∈ after.conclusions request) :
    ending ∈ asking.conclusions request ∨
      request = job.request ∧
        ((asking.resolution host job).failure? = none →
          ending = .ofFailure Worker.goneFailure
            (asking.resolved host job).program) := by
  rw [mem_conclusions] at told ⊢
  cases handed with
  | waits succeeds docket endings =>
      rw [endings] at told
      exact Or.inl told
  | ends failure cause docket endings =>
      rw [endings] at told
      rcases List.mem_append.mp told with before | new
      · exact Or.inl before
      · cases List.mem_singleton.mp new
        exact Or.inr ⟨rfl, fun succeeds => by rw [cause succeeds]⟩

end Handed

namespace Session

variable {host : Host} {session after : Session} {job : Job}

/-- A submission that takes no second pass is its first one. -/
private theorem submit_of_pass
    (passed : pass host session job = (after, none)) :
    session.submit host job = after := by
  unfold submit
  split
  · rename_i ended
    rw [passed] at ended
    cases ended
    rfl
  · rename_i retried
    rw [passed] at retried
    cases retried

/-- What a dying worker makes of a job that is posted to it. -/
private theorem postJob_dying
    (dying : session.toolchain.Dying)
    (job : Job)
    (bundle : Bundle) :
    session.postJob job bundle =
      { session with docket := (session.docket.enter job).2 } ∨
      session.postJob job bundle =
        { session with
          docket :=
            ((session.docket.enter job).2.take
              session.docket.nextTicket).2 }.fail
            Worker.goneFailure job := by
  unfold postJob
  simp only [Docket.enter]
  rcases dying.post session.now session.docket.nextTicket bundle.text with
    accepted | refused
  · rw [accepted]
    exact Or.inl rfl
  · rw [refused]
    exact Or.inr rfl

private theorem dying_recordFetches
    (dying : session.toolchain.Dying)
    (request : Nat)
    (resolution : Resolution) :
    (session.recordFetches request resolution).toolchain.Dying := by
  rcases toolchain_recordFetches session request resolution with same | ran
  · rw [same]
    exact dying
  · rw [ran]
    exact dying.run

/-- A job that has asked for no more files is not stuck. -/
private theorem going_of_fresh
    (fresh : job.missing = []) :
    ¬ isStuck job = true := by
  simp [isStuck, fresh]

/-- A pass whose imports do not resolve ends its request. -/
private theorem pass_of_failure
    {failure : Failure}
    (fresh : job.missing = [])
    (fails : (session.resolution host job).failure? = some failure) :
    pass host session job =
      ((session.recordFetches job.request (session.resolution host job)).fail
        failure
        (session.resolved host job), none) := by
  unfold pass
  rw [if_neg (going_of_fresh fresh)]
  dsimp only
  split
  · rename_i other same
    cases fails.symm.trans same
    rfl
  · rename_i succeeds
    cases fails.symm.trans succeeds

/--
A pass whose imports resolve posts its job to the worker, although that is
dying.
-/
private theorem pass_of_dying
    (dying : session.toolchain.Dying)
    (fresh : job.missing = [])
    (succeeds : (session.resolution host job).failure? = none) :
    let fetched :=
      session.recordFetches job.request (session.resolution host job)
    pass host session job =
      (fetched.postJob (session.resolved host job)
        (fetched.bundleFor (session.resolved host job)), none) := by
  intro fetched
  have stillDying : fetched.toolchain.Dying := dying_recordFetches dying _ _
  have unarrived : fetched.announceArrival = fetched := by
    unfold announceArrival
    rw [stillDying.unarrived]
  unfold pass
  rw [if_neg (going_of_fresh fresh)]
  dsimp only
  split
  · rename_i failure fails
    cases succeeds.symm.trans fails
  · change fetched.announceArrival.dispatch (session.resolved host job) = _
    rw [unarrived, dispatch]
    simp only [stillDying.mode, ↓reduceIte]
    rfl

/-- A job without missing inputs takes one pass while its worker is dying. -/
private theorem handed_of_submit
    (session : Session)
    (dying : session.toolchain.Dying)
    (ordered : session.docket.Ordered)
    (fresh : job.missing = []) :
    let after := session.submit host job
    after.toolchain.Dying ∧
      after.requests = session.requests ∧
      Handed host session job after := by
  let fetched := session.recordFetches job.request (session.resolution host job)
  have stillDying : fetched.toolchain.Dying := dying_recordFetches dying _ _
  have requests : fetched.requests = session.requests :=
    requests_recordFetches _ _ _
  have docket : fetched.docket = session.docket := docket_recordFetches _ _ _
  cases fails : (session.resolution host job).failure? with
  | some failure =>
      rw [submit_of_pass (pass_of_failure fresh fails)]
      refine ⟨stillDying, requests, .ends failure (by simp [fails]) ?_ ?_⟩
      · exact congrArg Docket.pending docket
      · simp [resolved, Conclusion.ofFailure]
  | none =>
      rw [submit_of_pass (pass_of_dying dying fresh fails)]
      -- The worker may have died while the files were fetched, so both outcomes
      -- remain.
      rcases postJob_dying stillDying (session.resolved host job)
        (fetched.bundleFor (session.resolved host job)) with waits | refused
      · rw [waits]
        refine ⟨stillDying, requests, .waits fails ?_ ?_⟩
        · simp [docket, Docket.enter]
        · simp [fetched]
      · rw [refused]
        refine ⟨stillDying, requests, .ends _ (fun _ => rfl) ?_ ?_⟩
        · simp [docket, ordered.take_enter]
        · simp [fetched, resolved, Conclusion.ofFailure]

end Session

/-! ## Requests while the worker is dying -/

/-- Whether an operation leaves the backend in use and takes no news of it. -/
def Session.Operation.isAside : Operation → Bool
  | .load _ _ => false
  | .next _ => false
  | _ => true

/-- An operation aside is no load. -/
theorem Session.Operation.isLoad_of_isAside
    {operation : Operation}
    (aside : operation.isAside = true) :
    operation.isLoad = false := by
  cases operation with
  | load url mode =>
      cases aside
  | _ =>
      rfl

/--
A session whose worker is dying; the jobs it accepted wait in the order of the
requests.
-/
structure Session.Stricken (session : Session) : Prop where
  aligned : session.Aligned
  dying : session.toolchain.Dying
  ascending : (session.waiting ++ [session.requests]).Pairwise (· < ·)

namespace Session.Stricken

variable {host : Host} {session after : Session}

theorem load
    (aligned : session.Aligned)
    {url : String}
    (crashes : (session.loading host url .worker).outcome = .crashed) :
    (session.load host url .worker).Stricken where
  aligned :=
    aligned.apply host (.load url .worker)
  dying := by
    have crashed :
        host.load (session.emit none (.loading url .worker)).now url =
          .crashed :=
      crashes
    simp only [Session.load, crashed]
    exact .load url
  ascending :=
    List.pairwise_singleton _ _

/-- The requests that wait stand in the order in which they were made. -/
theorem in_order
    (stricken : session.Stricken) :
    session.waiting.Pairwise (· < ·) :=
  (List.pairwise_append.mp stricken.ascending).1

/-- Every request that waits was made. -/
theorem made_of_waiting
    (stricken : session.Stricken)
    {request : Nat}
    (waits : request ∈ session.waiting) :
    request < session.requests :=
  (List.pairwise_append.mp stricken.ascending).2.2 request waits _
    List.mem_cons_self

/-- A request to a dying worker is the next one and goes one of the two ways. -/
theorem handed
    (stricken : session.Stricken)
    (host : Host)
    (files : SourceSet)
    (target : String) :
    let after := session.compile host files target
    after.toolchain.Dying ∧
      after.requests = session.requests + 1 ∧
      Handed host session.start (.new session.requests files target) after :=
  handed_of_submit session.start stricken.dying stricken.aligned.ordered rfl

/-- Another request leaves the order as it is, whether it waits or not. -/
private theorem ascending_compile
    (stricken : session.Stricken)
    (host : Host)
    (files : SourceSet)
    (target : String) :
    let after := session.compile host files target
    (after.waiting ++ [after.requests]).Pairwise (· < ·) := by
  intro after
  obtain ⟨_, requests, handed⟩ := stricken.handed host files target
  have next : session.requests < after.requests := by
    rw [requests]
    exact Nat.lt_succ_self _
  have below :
      ∀ request ∈ session.waiting ++ [session.requests],
        request < after.requests := by
    intro request member
    rcases List.mem_append.mp member with waits | isLast
    · exact Nat.lt_trans (stricken.made_of_waiting waits) next
    · rw [List.mem_singleton.mp isLast]
      exact next
  cases handed with
  | waits succeeds docket endings =>
      have waiting : after.waiting = session.waiting ++ [session.requests] := by
        simp only [Session.waiting, after, docket, List.map_append]
        rfl
      rw [waiting]
      exact Docket.ascending_concat stricken.ascending below
  | ends failure cause docket endings =>
      have waiting : after.waiting = session.waiting := by
        simp only [Session.waiting, after, docket]
        rfl
      rw [waiting]
      exact
        Docket.ascending_concat stricken.in_order
          fun request waits => below request (List.mem_append_left _ waits)

theorem apply
    (stricken : session.Stricken)
    (host : Host)
    {operation : Operation}
    (aside : operation.isAside = true) :
    (session.apply host operation).Stricken := by
  have aligned := stricken.aligned.apply host operation
  cases operation with
  | load url mode =>
      cases aside
  | next position =>
      cases aside
  | compile files target =>
      exact
        ⟨aligned, (stricken.handed host files target).1,
          stricken.ascending_compile host files target⟩
  | settle =>
      exact ⟨aligned, stricken.dying.run, stricken.ascending⟩
  | withOptimizer optimize =>
      exact ⟨aligned, stricken.dying, stricken.ascending⟩
  | subscribe label =>
      exact ⟨aligned, stricken.dying, stricken.ascending⟩
  | unsubscribe subscription =>
      exact ⟨aligned, stricken.dying, stricken.ascending⟩

theorem runAll
    (stricken : session.Stricken)
    (host : Host)
    {operations : List Operation}
    (aside : ∀ operation ∈ operations, operation.isAside = true) :
    (session.runAll host operations).Stricken :=
  List.foldlRecOn operations (Session.apply host) stricken
    fun _ stricken operation member =>
      stricken.apply host (aside operation member)

end Session.Stricken

/-- A request that has ended, or will end, because its worker is gone. -/
structure Session.Forsaken
    (session : Session)
    (request : Nat)
    (program : Program) : Prop where
  made : request < session.requests
  waiting :
    ∀ entry ∈ session.docket.pending,
      entry.2.request = request → entry.2.program = program
  told :
    ∀ ending ∈ session.conclusions request,
      ending = .ofFailure Worker.goneFailure program

namespace Session.Forsaken

variable
  {host : Host}
  {session after : Session}
  {request : Nat}
  {program : Program}

private theorem congr
    (forsaken : session.Forsaken request program)
    (requests : after.requests = session.requests)
    (docket : after.docket = session.docket)
    (log : after.log = session.log) :
    after.Forsaken request program where
  made := by
    rw [requests]
    exact forsaken.made
  waiting := by
    rw [docket]
    exact forsaken.waiting
  told := by
    unfold Session.conclusions
    rw [log]
    exact forsaken.told

/-- A request that starts ends no other. -/
private theorem conclusions_start
    (session : Session)
    (request : Nat) :
    session.start.conclusions request = session.conclusions request := by
  simp [conclusions_eq]

/-- A request whose imports resolve is forsaken from the start. -/
theorem compile
    (stricken : session.Stricken)
    (untold : session.conclusions session.requests = [])
    {files : SourceSet}
    {target : String}
    (succeeds :
      (session.start.resolution host
        (.new session.requests files target)).failure? = none) :
    (session.compile host files target).Forsaken session.requests
      (session.start.resolved host
        (.new session.requests files target)).program := by
  obtain ⟨_, requests, handed⟩ := stricken.handed host files target
  refine
    { made := by rw [requests]; exact Nat.lt_succ_self _
      waiting := fun entry waits own => ?_
      told := fun ending told => ?_ }
  · rcases handed.waited waits with before | new
    · have made :=
        stricken.made_of_waiting (List.mem_map.mpr ⟨entry, before, own⟩)
      exact absurd made (Nat.lt_irrefl _)
    · rw [new]
  · rcases handed.told told with before | ⟨_, lost⟩
    · rw [conclusions_start, untold] at before
      cases before
    · exact lost succeeds

theorem apply
    (forsaken : session.Forsaken request program)
    (stricken : session.Stricken)
    (host : Host)
    {operation : Operation}
    (aside : operation.isAside = true) :
    (session.apply host operation).Forsaken request program := by
  cases operation with
  | load url mode =>
      cases aside
  | next position =>
      cases aside
  | compile files target =>
      obtain ⟨_, requests, handed⟩ := stricken.handed host files target
      have other : request ≠ session.requests := Nat.ne_of_lt forsaken.made
      refine
        { made :=
            Nat.lt_trans forsaken.made
              (Nat.lt_of_lt_of_eq (Nat.lt_succ_self _) requests.symm)
          waiting := fun entry waits own => ?_
          told := fun ending told => ?_ }
      · rcases handed.waited waits with before | new
        · exact forsaken.waiting entry before own
        · rw [new] at own
          exact absurd own.symm other
      · rcases handed.told told with before | ⟨isNew, _⟩
        · rw [conclusions_start] at before
          exact forsaken.told ending before
        · exact absurd isNew other
  | _ =>
      exact forsaken.congr rfl rfl rfl

theorem runAll
    (forsaken : session.Forsaken request program)
    (stricken : session.Stricken)
    (host : Host)
    {operations : List Operation}
    (aside : ∀ operation ∈ operations, operation.isAside = true) :
    (session.runAll host operations).Forsaken request program := by
  have kept :
      (session.runAll host operations).Stricken ∧
        (session.runAll host operations).Forsaken request program :=
    List.foldlRecOn (motive := fun session =>
        session.Stricken ∧ session.Forsaken request program)
      operations (Session.apply host) ⟨stricken, forsaken⟩
      fun _ ⟨stricken, forsaken⟩ operation member =>
        ⟨stricken.apply host (aside operation member),
          forsaken.apply stricken host (aside operation member)⟩
  exact kept.2

end Session.Forsaken

/-! ## The end of the worker is noticed -/

/--
What has become of a session whose waiting requests have all ended with a
failure.
-/
structure Abandoned
    (failure : Failure)
    (session after : Session) : Prop where
  toolchain : after.toolchain = session.toolchain
  requests : after.requests = session.requests
  nobody : after.docket.pending = []
  forgotten : after.snapshot? = none
  endings :
    View.endings.of after.log =
      View.endings.of session.log ++
        session.docket.pending.map fun entry =>
          (some entry.2.request, .ofFailure failure entry.2.program)
  loads :
    View.loads.of after.log =
      View.loads.of session.log ++
        if session.docket.pending = [] then [failure.announcement] else []

/-- Jobs that are ended one after the other with a failure. -/
private theorem abandoned_of_jobs
    (failure : Failure)
    (jobs : List Job)
    (session : Session) :
    let after :=
      jobs.foldl (fun current job => current.fail failure job) session
    after.toolchain = session.toolchain ∧
      after.requests = session.requests ∧
      after.docket = session.docket ∧
      (jobs ≠ [] ∨ session.snapshot? = none → after.snapshot? = none) ∧
      View.endings.of after.log =
        View.endings.of session.log ++
          jobs.map
            (fun job => (some job.request, .ofFailure failure job.program)) ∧
      View.loads.of after.log = View.loads.of session.log := by
  induction jobs generalizing session with
  | nil =>
      simp
  | cons job rest inductionHypothesis =>
      obtain ⟨toolchain, requests, docket, forgotten, endings, loads⟩ :=
        inductionHypothesis (session.fail failure job)
      refine
        ⟨toolchain, requests, docket, fun _ => forgotten (Or.inr rfl),
          endings.trans ?_, loads.trans ?_⟩
      · simp [Conclusion.ofFailure]
      · simp [Option.filter, Event.isOfLoad]

/-- Failing all that waits abandons the session. -/
theorem abandoned_of_failWaiting
    (session : Session)
    (failure : Failure) :
    Abandoned failure session (session.failWaiting failure) := by
  unfold failWaiting
  dsimp only
  split
  · rename_i empty
    have nobody : session.docket.pending = [] := List.map_eq_nil_iff.mp empty
    exact
      { toolchain := rfl
        requests := rfl
        nobody := rfl
        forgotten := rfl
        endings := by simp [nobody]
        loads := by
          simp [nobody, Failure.announcement, Option.filter, Event.isOfLoad] }
  · rename_i somebody
    obtain ⟨toolchain, requests, docket, forgotten, endings, loads⟩ :=
      abandoned_of_jobs failure session.docket.drain.1
        { session with docket := session.docket.drain.2 }
    have waits : session.docket.pending ≠ [] := by
      simpa [Docket.drain] using somebody
    exact
      { toolchain := toolchain
        requests := requests
        nobody := by rw [docket]; rfl
        forgotten := forgotten (Or.inl somebody)
        endings := by rw [endings]; simp [Docket.drain]
        loads := by rw [loads]; simp [waits] }

namespace Session.Stricken

variable {host : Host} {session : Session}

/-- The one piece of news of a dying worker is its end. -/
theorem next
    (stricken : session.Stricken)
    (host : Host)
    (position : Nat) :
    session.next host position =
      (.handled,
        { session with toolchain := .unloaded }.failWaiting
          Worker.goneFailure) := by
  unfold Session.next
  rw [stricken.dying.next]
  rfl

/-- A stricken session is abandoned when its news is taken. -/
theorem abandoned
    (stricken : session.Stricken)
    (host : Host)
    (position : Nat) :
    Abandoned Worker.goneFailure { session with toolchain := .unloaded }
      (session.next host position).2 := by
  rw [stricken.next]
  exact abandoned_of_failWaiting _ _

end Session.Stricken

/-- Nothing is left to wait for once the end of a worker has been noticed. -/
private theorem Abandoned.next
    {failure : Failure}
    {session after : Session}
    (abandoned :
      Abandoned failure { session with toolchain := .unloaded } after)
    (host : Host)
    (position : Nat) :
    after.next host position = (.nothing, after) := by
  unfold Session.next
  rw [abandoned.toolchain]
  rfl

/-- Nothing is told of a load whose worker is dying until its end is noticed. -/
private theorem unheralded
    {session : Session}
    (stricken : session.Stricken)
    (host : Host)
    {operations : List Operation}
    (aside : ∀ operation ∈ operations, operation.isAside = true) :
    View.loads.of (session.runAll host operations).log =
      View.loads.of session.log := by
  obtain ⟨since, logged, heralded⟩ :=
    Session.Heralds.runAll stricken.aligned host operations
  have loadless : ∀ operation ∈ operations, operation.isLoad = false :=
    fun operation member => Operation.isLoad_of_isAside (aside operation member)
  rw [loadings_of_loadless host session loadless, stricken.dying.owed,
    (stricken.runAll host aside).dying.owed] at heralded
  have short := heralded.fits_of_loadless.length_le
  have nothing : View.loads.of since = [] := by
    simpa using short
  rw [logged, View.of_append, nothing, List.append_nil]

/--
A forsaken request is told to end because the worker is gone, and in no other
way.
-/
private theorem Session.Forsaken.concluded
    {session after : Session}
    {request : Nat}
    {program : Program}
    (forsaken : session.Forsaken request program)
    (abandoned :
      Abandoned Worker.goneFailure
        { session with toolchain := .unloaded } after)
    {ending : Conclusion}
    (told : ending ∈ after.conclusions request) :
    ending = .ofFailure Worker.goneFailure program := by
  rw [mem_conclusions, abandoned.endings] at told
  rcases List.mem_append.mp told with before | new
  · exact forsaken.told ending (mem_conclusions.mpr before)
  · obtain ⟨entry, waits, same⟩ := List.mem_map.mp new
    obtain ⟨own, isEnding⟩ := Prod.mk.inj same
    rw [← isEnding, forsaken.waiting entry waits (Option.some.inj own)]

/-- Taking all news of a dying worker is noticing its end. -/
private theorem Session.Stricken.untilIdle
    {session : Session}
    (stricken : session.Stricken)
    (host : Host)
    (position : Nat) :
    session.untilIdle host = (.nothing, (session.next host position).2) := by
  have nothing := (stricken.abandoned host position).next host 0
  rw [stricken.next] at nothing ⊢
  rw [untilIdle_of_handled (stricken.next host 0), untilIdle_of_nothing nothing]

/-- What listeners are told of a request whose worker is gone. -/
def goneReport : Report :=
  .ofError (.error "Worker error: worker is no longer running")

section

variable
  (host : Host)
  (configuration : Configuration)
  (earlier : List Operation)
  (url : String)
  (position : Nat)

/--
Every request that a dying worker was asked for has ended once its end has been
noticed.
-/
private theorem ended_of_noticed
    {later : List Operation}
    (struck :
      (((Session.new configuration).runAll host earlier).load host url
        .worker).Stricken)
    (aside : ∀ operation ∈ later, operation.isAside = true) :
    let opened :=
      ((Session.new configuration).runAll host earlier).load host url .worker
    let noticed := ((opened.runAll host later).next host position).2
    EndedBetween opened noticed noticed := by
  intro opened noticed
  have before :
      opened = (Session.new configuration).runAll host
        (earlier ++ [.load url .worker]) := by
    rw [runAll_append]
    rfl
  have isNoticed :
      noticed = opened.runAll host (later ++ [.next position]) := by
    rw [runAll_append]
    rfl
  have whole :
      noticed =
        (Session.new configuration).runAll host
          ((earlier ++ [.load url .worker]) ++
            (later ++ [.next position])) := by
    rw [runAll_append, ← before, isNoticed]
  have loadless :
      ∀ operation ∈ later ++ [.next position], operation.isLoad = false := by
    intro operation member
    rcases List.mem_append.mp member with inLater | isLast
    · exact Operation.isLoad_of_isAside (aside operation inLater)
    · rw [List.mem_singleton.mp isLast]
      rfl
  have idle : (noticed.next host position).1 = .nothing :=
    congrArg Prod.fst
      (((struck.runAll host aside).abandoned host position).next host position)
  rw [whole] at idle
  have ended := (ended_of_idle host configuration _ loadless idle).requests
  rwa [← whole, ← before, ← isNoticed] at ended

/-- A request whose imports resolve ends because its worker is gone. -/
private theorem conclusions_of_noticed
    {first rest : List Operation}
    {files : SourceSet}
    {target : String}
    (struck :
      (((Session.new configuration).runAll host earlier).load host url
        .worker).Stricken)
    (aside :
      ∀ operation ∈ first ++ .compile files target :: rest,
        operation.isAside = true) :
    let opened :=
      ((Session.new configuration).runAll host earlier).load host url .worker
    let asking := opened.runAll host first
    let job : Job := .new asking.requests files target
    (asking.start.resolution host job).failure? = none →
    let session := opened.runAll host (first ++ .compile files target :: rest)
    (session.next host position).2.conclusions asking.requests =
      [.ofFailure Worker.goneFailure
        (asking.start.resolved host job).program] := by
  intro opened asking job succeeds session
  have asideFirst : ∀ operation ∈ first, operation.isAside = true :=
    fun operation member => aside operation (List.mem_append_left _ member)
  have asideRest : ∀ operation ∈ rest, operation.isAside = true :=
    fun operation member =>
      aside operation (List.mem_append_right _ (List.mem_cons_of_mem _ member))
  have stricken : asking.Stricken := struck.runAll host asideFirst
  have untold : asking.conclusions asking.requests = [] := by
    have whole :
        asking =
          (Session.new configuration).runAll host
            (earlier ++ .load url .worker :: first) := by
      rw [runAll_append]
      rfl
    rw [whole]
    exact
      (Balanced.runAll host configuration _).untold_of_unmade (Nat.le_refl _)
  have asked :
      (asking.apply host (.compile files target)).Forsaken asking.requests
        (asking.start.resolved host job).program :=
    .compile stricken untold succeeds
  have forsaken :
      session.Forsaken asking.requests
        (asking.start.resolved host job).program := by
    have split : session =
      (asking.apply host (.compile files target)).runAll host rest :=
      runAll_append host opened first (.compile files target :: rest)
    rw [split]
    exact asked.runAll (stricken.apply host rfl) host asideRest
  have abandoned := (struck.runAll host aside).abandoned host position
  have since : opened.requests ≤ asking.requests :=
    requests_le_runAll host opened first
  have made : asking.requests < (session.next host position).2.requests :=
    Nat.lt_of_lt_of_eq forsaken.made abandoned.requests.symm
  -- That there is one end is a matter of the accounting; which one, of what was
  -- promised.
  obtain ⟨ending, once⟩ :=
    ended_of_noticed host configuration earlier url position struck aside _
      since made
  have isLost :=
    forsaken.concluded abandoned (by rw [once]; exact List.mem_cons_self)
  rw [once, isLost]

end

/--
A dying worker fails every request alike.  Let a worker be loaded whose loader
crashes, and let requests be made before and after the worker is gone.  Once
there is no more news, every request whose imports resolved has ended once, with
its own program and the one diagnostic that the worker is gone.  Those that
waited end in the order they were made; if none waited, the failure is told of
no request; and the session is idle.
-/
theorem dying_worker_fails_alike
    (host : Host)
    (configuration : Configuration)
    (earlier later : List Operation)
    (url : String)
    (position : Nat)
    (crashes :
      (((Session.new configuration).runAll host earlier).loading host url
        .worker).outcome =
        .crashed)
    (aside : ∀ operation ∈ later, operation.isAside = true) :
    let opened :=
      ((Session.new configuration).runAll host earlier).load host url .worker
    let session := opened.runAll host later
    let noticed := (session.next host position).2
    ((session.next host position).1 = .handled ∧
        session.untilIdle host = (.nothing, noticed) ∧
        ∀ again, noticed.next host again = (.nothing, noticed)) ∧
      (∀ first files target rest,
        later = first ++ .compile files target :: rest →
        let asking := opened.runAll host first
        let resolution :=
          asking.start.resolution host (.new asking.requests files target)
        resolution.failure? = none →
        noticed.conclusions asking.requests =
            [⟨false, goneReport, ⟨resolution.files, target⟩⟩] ∧
          files.Within resolution.files) ∧
      (session.waiting.Pairwise (· < ·) ∧
        View.endings.of noticed.log =
          View.endings.of session.log ++
            session.docket.pending.map fun entry =>
              (some entry.2.request, ⟨false, goneReport, entry.2.program⟩)) ∧
      (View.loads.of session.log = View.loads.of opened.log ∧
        View.loads.of noticed.log =
          View.loads.of session.log ++
            if session.waitingJobs = 0 then
              [.finished false goneReport none] else []) ∧
      noticed.waitingJobs = 0 ∧
      noticed.version? = none ∧
      noticed.snapshot? = none ∧
      noticed.state = .idle := by
  intro opened session noticed
  have struck : opened.Stricken :=
    .load ((Session.Aligned.new configuration).runAll host earlier) crashes
  have stricken : session.Stricken := struck.runAll host aside
  have taken := stricken.next host position
  have abandoned :
      Abandoned Worker.goneFailure { session with toolchain := .unloaded }
        noticed :=
    stricken.abandoned host position
  have nobody : session.docket.pending = [] ↔ session.waitingJobs = 0 :=
    List.length_eq_zero_iff.symm
  refine
    ⟨⟨congrArg Prod.fst taken, ?_, abandoned.next host⟩, ?_,
      ⟨stricken.in_order, abandoned.endings⟩,
      ⟨unheralded struck host aside, ?_⟩, ?_, ?_, abandoned.forgotten, ?_⟩
  · exact stricken.untilIdle host position
  · intro first files target rest shape asking resolution succeeds
    subst shape
    exact
      ⟨conclusions_of_noticed host configuration earlier url position struck
        aside succeeds, host.library.within_resolve _ files target []⟩
  · simp only [← nobody]
    exact abandoned.loads
  · simp [waitingJobs, Docket.size, abandoned.nobody]
  · rw [version?, abandoned.toolchain]
    rfl
  · rw [state, abandoned.toolchain]
    rfl

/-- A host whose one backend has a loader that crashes. -/
def Host.crashing : Host :=
  .scripted [] [("url", .crashed)]

/--
A request that waits when its worker is gone and one that is refused afterwards.
-/
theorem dying_worker_fails_waiting_and_refused :
    let session :=
      ((Session.new .standard).load .crashing "url" .worker).runAll .crashing
        [.compile (.ofList [("a.sol", "")]) "a.sol", .settle,
          .compile (.ofList [("b.sol", "")]) "b.sol"]
    let noticed := (session.next .crashing 0).2
    session.waiting = [0] ∧
      noticed.ended = [some 1, some 0] ∧
      noticed.conclusions 0 =
        [⟨false, goneReport, ⟨.ofList [("a.sol", "")], "a.sol"⟩⟩] ∧
      noticed.state = .idle := by
  intro session noticed
  have all :=
    dying_worker_fails_alike .crashing .standard []
      [.compile (.ofList [("a.sol", "")]) "a.sol", .settle,
        .compile (.ofList [("b.sol", "")]) "b.sol"]
      "url" 0 rfl (by decide)
  have told :=
    (all.2.1 [] (.ofList [("a.sol", "")]) "a.sol" _ rfl (by decide +kernel)).1
  have files :
      (Host.crashing.library.resolve 2 (.ofList [("a.sol", "")]) "a.sol"
        []).files =
        .ofList [("a.sol", "")] := by
    decide +kernel
  refine ⟨by decide +kernel, by decide +kernel, ?_, all.2.2.2.2.2.2.2⟩
  exact
    told.trans
      (congrArg
        (fun sources =>
          [(⟨false, goneReport, ⟨sources, "a.sol"⟩⟩ : Conclusion)]) files)

end CompilerSession
