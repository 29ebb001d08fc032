import CompilerSession.Proofs.FailurePayload
import CompilerSession.Proofs.Handovers
import CompilerSession.Proofs.Quiescence
import CompilerSession.Proofs.Refinement

namespace CompilerSession

/-!
# Failures end a request alike

A job that is handed over may meet a failure: there is no backend, or the
backend misses nothing and refuses or crashes.  The failure then travels in one
of two ways.  Where there is no worker it may end the request as it is; where
there is one, and whenever a backend was called, it is written into a payload
first, which waits for its turn in an outbox and is read as any other payload
is.

`Fated` says of a stage that the failure has been met and that nothing else can
come of it.  Every step and every opening keeps this, so the two ways end a
request alike.
-/

open Session

/-- How a request ends with a message. -/
def Conclusion.ofMessage
    (message : String)
    (program : Program) : Conclusion :=
  ⟨false, .ofError (.error message), program⟩

/-! ## The failure that a job meets -/

/--
Whoever takes jobs has no backend: none is there yet, or the load of the worker
failed.
-/
def Toolchain.lacksBackend (toolchain : Toolchain) : Bool :=
  match toolchain.link with
  | .unloaded => true
  | .loading _ _ _ => true
  | .worker (.withoutBackend _) _ => true
  | _ => false

/--
A job that is handed over meets a failure, of which the message says what it is.
It misses nothing, so the failure is what its request comes to.
-/
inductive Session.Meets
    (session : Session)
    (job : Job) : String → Prop where
  | noBackend
      (lacks : session.toolchain.lacksBackend = true) :
      Meets session job Failure.noBackend.message
  | refused
      (backend : Backend)
      (error : String)
      (installed : session.toolchain.backend? = some backend)
      (call :
        backend.compile session.now (session.bundleFor job).text =
          ⟨[], .refused error⟩) :
      Meets session job ("Uncaught exception:\n" ++ error)
  | crashed
      (backend : Backend)
      (text? : Option String)
      (installed : session.toolchain.backend? = some backend)
      (call :
        backend.compile session.now (session.bundleFor job).text =
          ⟨[], .crashed text?⟩) :
      Meets session job
        ("Uncaught exception:\n" ++ text?.getD "backend panicked")

theorem Toolchain.no_backend_of_lacks
    {toolchain : Toolchain}
    (lacks : toolchain.lacksBackend = true) :
    toolchain.backend? = none := by
  unfold lacksBackend at lacks
  unfold backend?
  split at lacks <;> simp_all

/-- A worker without a backend has the same answer to every job. -/
theorem Toolchain.Aligned.post_lacking
    {toolchain after : Toolchain}
    {tickets : List Ticket}
    {moment : Nat}
    {ticket : Ticket}
    {input : String}
    {answer? : Option Answer}
    (aligned : Aligned toolchain tickets)
    (lacks : toolchain.lacksBackend = true)
    (accepted : toolchain.post moment ticket input = .ok (after, answer?)) :
    after.replies = toolchain.replies ++ [(ticket, .notReady)] := by
  cases aligned with
  | regretting message tickets =>
      cases accepted
      simp [replies, List.filterMap_cons]
  | refusing tickets =>
      cases accepted
      simp [replies]
  | unloaded =>
      cases accepted
  | loading url outcome arrived =>
      cases accepted
  | _ =>
      cases lacks

/-- A worker without a backend refuses no job. -/
theorem Toolchain.accepts_of_lacks
    {toolchain : Toolchain}
    {moment : Nat}
    {ticket : Ticket}
    {input : String}
    {failure : Failure}
    (lacks : toolchain.lacksBackend = true)
    (inWorker : toolchain.mode? = some .worker) :
    toolchain.post moment ticket input ≠ .error failure := by
  rcases toolchain with ⟨link, active?⟩
  cases link with
  | worker worker awaitingVersion =>
      cases worker with
      | withoutBackend outbox =>
          simp [post, Worker.post]
      | _ =>
          cases lacks
  | _ =>
      cases inWorker

namespace Session.Meets

variable {session : Session} {job : Job} {message : String}

/-- A backend that is called answers with the payload of the failure. -/
theorem answer
    {backend : Backend}
    (meets : session.Meets job message)
    (installed : session.toolchain.backend? = some backend) :
    backend.answer session.now (session.bundleFor job).text =
      ⟨Answer.failurePayload message, []⟩ := by
  cases meets with
  | noBackend lacks =>
      rw [Toolchain.no_backend_of_lacks lacks] at installed
      cases installed
  | refused other error isOther call =>
      cases isOther.symm.trans installed
      rw [Backend.answer, call]
      rfl
  | crashed other text? isOther call =>
      cases isOther.symm.trans installed
      rw [Backend.answer, call]
      rfl

/-- Without a backend there is one failure to meet. -/
theorem lacking
    (meets : session.Meets job message)
    (missing : session.toolchain.backend? = none) :
    message = Failure.noBackend.message ∧
      session.toolchain.lacksBackend = true := by
  cases meets with
  | noBackend lacks =>
      exact ⟨rfl, lacks⟩
  | refused backend error installed call =>
      rw [missing] at installed
      cases installed
  | crashed backend text? installed call =>
      rw [missing] at installed
      cases installed

end Session.Meets

/-! ## Nothing else can come of it -/

/--
The two forms in which a failure is on its way: in a payload, or as it is.
-/
inductive Task.Bears
    (job : Job)
    (message : String) : Task → Prop where
  | payload :
      Bears job message (.take job ⟨Answer.failurePayload message, []⟩)
  | failure
      (missing : message = Failure.noBackend.message) :
      Bears job message (.fail .noBackend job)

/-- Either form ends the request with the one error that has the message. -/
theorem Task.Bears.ends
    {host : Host}
    {session : Session}
    {job : Job}
    {message : String}
    {task : Task}
    {seen : List Observation}
    {later? : Option Task}
    (bears : task.Bears job message)
    (move : Move host session task seen later?) :
    later? = none ∧
      (View.endings.of seen).map Prod.snd =
        [.ofMessage message job.program] := by
  cases bears with
  | payload =>
      cases move with
      | retry job answer missing =>
          exact absurd rfl missing
      | reject job answer complete fatal =>
          simp [Report.ofPayload_failurePayload, Conclusion.ofMessage]
      | accept job answer modern complete sound isModern =>
          exact absurd (Answer.isFatal_failurePayload message) sound
  | failure missing =>
      cases move with
      | fail failure job =>
          simp [missing, Failure.diagnostic, Conclusion.ofMessage]

/-- A stage at which a job has met a failure. -/
structure Fated
    (job : Job)
    (message : String)
    (stage : Stage) : Prop where
  made : job.request < stage.session.requests
  carried :
    ∀ task, stage.Carries task → task.job.request = job.request →
      task.Bears job message
  told :
    ∀ ending ∈ stage.session.conclusions job.request,
      ending = .ofMessage message job.program

namespace Fated

variable
  {host : Host}
  {job : Job}
  {message : String}
  {session : Session}
  {stage next : Stage}
  {lost : List Nat}

/--
A job that is posted and answered with its failure bears it, and nothing else
does.
-/
private theorem bears_of_posted
    {after : Session}
    {task : Task}
    (aligned : session.Aligned)
    (others : ∀ task, session.Owes task → task.job.request ≠ job.request)
    (replies :
      after.toolchain.replies =
        session.toolchain.replies ++
          [(session.docket.nextTicket, ⟨Answer.failurePayload message, []⟩)])
    (docket : after.docket = (session.docket.enter job).2)
    (carries : Stage.Carries ⟨after, []⟩ task)
    (own : task.job.request = job.request) :
    task.Bears job message := by
  rcases carries with inHand | owes
  · cases inHand
  · rcases Owes.of_posted aligned replies docket owes with before | isReply
    · exact absurd own (others task before)
    · rw [isReply]
      exact .payload

/-- A job that stays in hand bears its failure, and nothing else does. -/
private theorem bears_of_hand
    {after : Session}
    {first task : Task}
    (others : ∀ task, session.Owes task → task.job.request ≠ job.request)
    (bears : first.Bears job message)
    (carries : Stage.Carries ⟨after, [first]⟩ task)
    (own : task.job.request = job.request)
    (replies : after.toolchain.replies = session.toolchain.replies)
    (docket : after.docket.pending = session.docket.pending) :
    task.Bears job message := by
  rcases carries with inHand | owes
  · rw [List.mem_singleton.mp inHand]
    exact bears
  · exact absurd own (others task (owes.congr replies docket))

/-- Handing the job over is where it meets its failure. -/
theorem of_dispatch
    (taken : WorkStep host ⟨session, [.dispatch job]⟩ next)
    (aligned : session.Aligned)
    (balanced : Balanced lost ⟨session, [.dispatch job]⟩)
    (meets : session.Meets job message) :
    Fated job message next := by
  have hand : Stage.tasks ⟨session, [.dispatch job]⟩ = .dispatch job :: [] :=
    rfl
  have inHand : Stage.Carries ⟨session, [.dispatch job]⟩ (.dispatch job) :=
    Or.inl List.mem_cons_self
  have held : job.request ∈ Stage.held ⟨session, [.dispatch job]⟩ :=
    List.mem_singleton.mpr rfl
  have others : ∀ task, session.Owes task → task.job.request ≠ job.request :=
    fun _ owes => balanced.alone hand (Or.inr owes)
  refine
    { made := ?_
      carried := ?_
      told := ?_ }
  · rw [taken.requests]
    exact balanced.made_of_carried inHand
  · intro task carries own
    cases taken with
    | postCalled session job toolchain answer accepted =>
        obtain ⟨_, replies, _, backend, installed, _, isAnswer⟩ :=
          aligned.toolchain.post_called accepted
        rw [isAnswer, meets.answer installed] at replies
        exact bears_of_posted aligned others replies rfl carries own
    | postUncalled session job toolchain accepted =>
        obtain ⟨_, _, _, missing, _⟩ := aligned.toolchain.post_uncalled accepted
        obtain ⟨isMissing, lacks⟩ := meets.lacking missing
        have replies := aligned.toolchain.post_lacking lacks accepted
        rw [Answer.notReady, ← isMissing] at replies
        exact bears_of_posted aligned others replies rfl carries own
    | postRefused session job failure worker refused =>
        obtain ⟨missing, _⟩ := aligned.toolchain.post_refused worker refused
        obtain ⟨_, lacks⟩ := meets.lacking missing
        exact absurd refused (Toolchain.accepts_of_lacks lacks worker)
    | call session job answer called =>
        obtain ⟨backend, installed, isAnswer⟩ :=
          Toolchain.backend_of_answer called
        rw [isAnswer, meets.answer installed] at carries
        exact bears_of_hand others .payload carries own rfl rfl
    | lackBackend session job inline uncalled =>
        obtain ⟨isMissing, _⟩ :=
          meets.lacking (Toolchain.no_backend inline uncalled)
        exact bears_of_hand others (.failure isMissing) carries own rfl rfl
  · obtain ⟨task, rest, seen, added, later?, moved⟩ := taken.moves aligned
    obtain ⟨isTask, _⟩ := List.cons.inj moved.hand
    have untold : View.endings.of seen = [] := by
      have move := moved.move
      subst isTask
      cases move <;> simp
    intro ending isTold
    rw [moved.conclusions, untold, balanced.untold_of_held held] at isTold
    simp at isTold

/-- A step works on another request, or it ends this one. -/
theorem step
    (fated : Fated job message stage)
    (taken : WorkStep host stage next)
    (aligned : stage.session.Aligned) :
    Fated job message next := by
  obtain ⟨task, rest, seen, added, later?, moved⟩ := taken.moves aligned
  refine
    { made := ?_
      carried := ?_
      told := ?_ }
  · rw [taken.requests]
    exact fated.made
  · intro other carries own
    rcases moved.carried_before carries with before | becomes
    · exact fated.carried other before own
    · subst becomes
      rw [moved.move.same_request] at own
      have bears := fated.carried task moved.carried_task own
      cases (bears.ends moved.move).1
  · intro ending isTold
    rw [moved.conclusions] at isTold
    rcases List.mem_append.mp isTold with before | new
    · exact fated.told ending before
    · split at new
      · rename_i own
        have bears := fated.carried task moved.carried_task own
        rw [(bears.ends moved.move).2] at new
        exact List.mem_singleton.mp new
      · cases new

/-- An opening starts another request, or takes out what this one is owed. -/
theorem opening
    {operation : Operation}
    (fated : Fated job message ⟨session, []⟩)
    (opens : Opening host session operation stage)
    (aligned : session.Aligned) :
    Fated job message stage where
  made :=
    Nat.lt_of_lt_of_le fated.made opens.requests_le
  carried := by
    intro task carries own
    rcases opens.carries aligned carries with owes | ⟨files, target, _, isNew⟩
    · exact fated.carried task (Or.inr owes) own
    · subst isNew
      exact absurd fated.made (Nat.not_lt.mpr (Nat.le_of_eq own))
  told ending isTold := by
    rw [opens.conclusions] at isTold
    exact fated.told ending isTold

/--
A job that has met a failure does not wait in vain for a load that does not end.
-/
theorem unwaited_of_endless
    (fated : Fated job message ⟨session, []⟩)
    (endless : session.toolchain.isEndless = true) :
    job.request ∉ session.waiting := by
  intro waits
  obtain ⟨⟨ticket, waiting⟩, member, own⟩ := List.mem_map.mp waits
  have silent : session.toolchain.replies = [] := by
    unfold Toolchain.isEndless at endless
    unfold Toolchain.replies
    split at endless <;> simp_all
  have bears :=
    fated.carried _ (Or.inr (.failure ticket waiting silent member)) own
  cases bears

end Fated

/-! ## What operations lead to -/

/--
What operations lead to from a stage.  The last operation may still be under
way, so this has every stage that a run goes through, and not only those between
its operations.
-/
inductive Leads
    (host : Host)
    (stage : Stage) : List Operation → Stage → Prop where
  | start :
      Leads host stage [] stage
  | opening
      {operations : List Operation}
      {operation : Operation}
      {session : Session}
      {next : Stage}
      (leads : Leads host stage operations ⟨session, []⟩)
      (opens : Opening host session operation next) :
      Leads host stage (operations ++ [operation]) next
  | step
      {operations : List Operation}
      {middle next : Stage}
      (leads : Leads host stage operations middle)
      (taken : WorkStep host middle next) :
      Leads host stage operations next

namespace Leads

variable
  {host : Host}
  {stage next : Stage}
  {operations : List Operation}
  {session : Session}

/-- Steps lead further within the last operation. -/
theorem work
    (leads : Leads host stage operations next)
    {last : Stage}
    (work : Work host next last) :
    Leads host stage operations last := by
  induction work with
  | refl =>
      exact leads
  | tail _ taken inductionHypothesis =>
      exact inductionHypothesis.step taken

/-- A run leads to the session after it. -/
theorem runAll
    (leads : Leads host stage operations ⟨session, []⟩)
    (more : List Operation) :
    Leads host stage (operations ++ more) ⟨session.runAll host more, []⟩ :=
  runAll_induction host session
    (fun more => Leads host stage (operations ++ more))
    (by rwa [List.append_nil])
    (fun leads opens => by
      rw [← List.append_assoc]
      exact leads.opening opens)
    .step more

theorem aligned
    (leads : Leads host stage operations next)
    (aligned : stage.session.Aligned) :
    next.session.Aligned := by
  induction leads with
  | start =>
      exact aligned
  | opening leads opens inductionHypothesis =>
      exact inductionHypothesis.opening opens
  | step leads taken inductionHypothesis =>
      exact inductionHypothesis.step taken

/-- The balance is kept, and nothing is lost without a load. -/
theorem balanced
    {lost : List Nat}
    (leads : Leads host stage operations next)
    (aligned : stage.session.Aligned)
    (balanced : Balanced lost stage) :
    ∃ more,
      Balanced (lost ++ more) next ∧
        ((∀ operation ∈ operations, operation.isLoad = false) → more = []) := by
  induction leads with
  | start =>
      exact ⟨[], by rwa [List.append_nil], fun _ => rfl⟩
  | @opening operations operation session next leads opens
      inductionHypothesis =>
      obtain ⟨more, kept, nothing⟩ := inductionHypothesis
      refine ⟨more ++ session.droppedBy operation, ?_, fun loadless => ?_⟩
      · rw [← List.append_assoc]
        exact kept.opening opens (leads.aligned aligned)
      · rw [nothing fun earlier member =>
          loadless earlier (List.mem_append_left _ member)]
        have last :=
          loadless operation (List.mem_append_right _ List.mem_cons_self)
        cases operation with
        | load url mode =>
            cases last
        | _ =>
            rfl
  | step leads taken inductionHypothesis =>
      obtain ⟨more, kept, nothing⟩ := inductionHypothesis
      exact ⟨more, kept.step taken (leads.aligned aligned), nothing⟩

/--
From where a job is handed over and meets a failure, every stage is fated.
-/
theorem fated
    {job : Job}
    {message : String}
    {lost : List Nat}
    (leads : Leads host ⟨session, [.dispatch job]⟩ operations next)
    (aligned : session.Aligned)
    (balanced : Balanced lost ⟨session, [.dispatch job]⟩)
    (meets : session.Meets job message) :
    next = ⟨session, [.dispatch job]⟩ ∨ Fated job message next := by
  induction leads with
  | start =>
      exact Or.inl rfl
  | opening leads opens inductionHypothesis =>
      rcases inductionHypothesis with isFirst | fated
      · cases isFirst
      · exact Or.inr (fated.opening opens (leads.aligned aligned))
  | step leads taken inductionHypothesis =>
      rcases inductionHypothesis with isFirst | fated
      · subst isFirst
        exact Or.inr (.of_dispatch taken aligned balanced meets)
      · exact Or.inr (fated.step taken (leads.aligned aligned))

/--
A request that has met a failure and does not wait has ended, if no load dropped
it.
-/
theorem concluded
    {job : Job}
    {message : String}
    {lost : List Nat}
    {after : Session}
    (leads : Leads host ⟨session, [.dispatch job]⟩ operations ⟨after, []⟩)
    (aligned : session.Aligned)
    (balanced : Balanced lost ⟨session, [.dispatch job]⟩)
    (fated : Fated job message ⟨after, []⟩)
    (loadless : ∀ operation ∈ operations, operation.isLoad = false)
    (unwaited : job.request ∉ after.waiting) :
    after.conclusions job.request = [.ofMessage message job.program] := by
  obtain ⟨more, stillBalanced, nothing⟩ := leads.balanced aligned balanced
  rw [nothing loadless, List.append_nil] at stillBalanced
  have kept := balanced.kept_of_held (List.mem_singleton.mpr rfl)
  obtain ⟨ending, once⟩ :=
    stillBalanced.ended_of_unwaited fated.made unwaited kept
  have isEnding := fated.told ending (by simp [once])
  rw [once, isEnding]

end Leads

/-- A job that has met a failure does not wait where no news is to be had. -/
theorem Fated.unwaited_of_rest
    {host : Host}
    {job : Job}
    {message : String}
    {session : Session}
    (fated : Fated job message ⟨session, []⟩)
    (aligned : session.Aligned)
    (rests : (session.next host 0).1 ≠ .handled) :
    job.request ∉ session.waiting := by
  cases progress : (session.next host 0).1 with
  | handled =>
      exact absurd progress rests
  | nothing =>
      simp [waiting, aligned.nobody_of_idle progress]
  | blocked =>
      exact fated.unwaited_of_endless (aligned.endless_of_blocked progress)

/--
Nothing but one thing is told of the end of a request, and that is told if none
of the operations since is a load: as soon as the request does not wait, or else
when all news has been taken.
-/
structure Session.EndsOnly
    (host : Host)
    (session : Session)
    (since : List Operation)
    (request : Nat)
    (ending : Conclusion) : Prop where
  only : ∀ told ∈ session.conclusions request, told = ending
  unwaited :
    (∀ operation ∈ since, operation.isLoad = false) →
    request ∉ session.waiting →
    session.conclusions request = [ending]
  atRest :
    (∀ operation ∈ since, operation.isLoad = false) →
    (session.untilIdle host).2.conclusions request = [ending]

/-- A request whose job has met a failure ends with it and with nothing else. -/
theorem Leads.endsOnly
    {host : Host}
    {before after : Session}
    {job : Job}
    {message : String}
    {lost : List Nat}
    {later : List Operation}
    (leads : Leads host ⟨before, [.dispatch job]⟩ later ⟨after, []⟩)
    (aligned : before.Aligned)
    (balanced : Balanced lost ⟨before, [.dispatch job]⟩)
    (meets : before.Meets job message) :
    after.EndsOnly host later job.request (.ofMessage message job.program) := by
  have fated :
      ∀ {later after},
        Leads host ⟨before, [.dispatch job]⟩ later ⟨after, []⟩ →
        Fated job message ⟨after, []⟩ :=
    fun leads => (leads.fated aligned balanced meets).resolve_left (by simp)
  refine
    { only := (fated leads).told
      unwaited := leads.concluded aligned balanced (fated leads)
      atRest := fun loadless => ?_ }
  -- To take news until there is none is to ask for it a number of times more.
  obtain ⟨count, same⟩ := untilIdle_turns host after
  have resting := leads.runAll (turns (fun _ => 0) count)
  have rests := untilIdle_ne_handled host after
  rw [same] at rests ⊢
  refine resting.concluded aligned balanced (fated resting) ?_ ?_
  · intro operation member
    rcases List.mem_append.mp member with before | turn
    · exact loadless operation before
    · exact loadless_turns _ count operation turn
  · exact (fated resting).unwaited_of_rest (resting.aligned aligned) rests

/--
Failures are told alike, however they travel.  The payload of any message is
read as the report that is this one error, which is fatal and counts once; so
the payload of the wording of a failure is read as the report that the failure
makes itself.

Let a job be handed over in the course of any run, and let it meet a failure:
there is no backend, or the backend misses nothing and refuses or crashes.
Whether the request is then ended at once or through the outbox of a worker,
nothing is ever told of its end but this one error, with the files that were
handed over.  It is told if no load drops the request: as soon as the request
does not wait, or else when all news has been taken.  So it is from any stage of
a run on, and so it is with every job that an operation hands over, be it a
compilation that asks for it or news that calls for another pass.
-/
theorem failures_told_alike
    (host : Host)
    (configuration : Configuration) :
    (∀ message,
      Report.ofPayload (Answer.failurePayload message) =
        .ofError (.error message) ∧
        (Report.ofPayload (Answer.failurePayload message)).verdict =
          ⟨true, 1⟩) ∧
    (∀ failure : Failure,
      Report.ofPayload (Answer.failurePayload failure.message) =
        .ofError failure.diagnostic) ∧
    (∀ earlier before job message,
      Leads host ⟨.new configuration, []⟩ earlier ⟨before, [.dispatch job]⟩ →
      before.Meets job message →
      ∀ later after,
        Leads host ⟨before, [.dispatch job]⟩ later ⟨after, []⟩ →
        after.EndsOnly host later job.request
          (.ofMessage message job.program)) ∧
    ∀ earlier operation before job message,
      let start := Session.new configuration
      (before, job) ∈ (start.runAll host earlier).handedOver host operation →
      before.Meets job message →
      ∀ later,
        let after := start.runAll host (earlier ++ operation :: later)
        after.EndsOnly host later job.request
          (.ofMessage message job.program) := by
  have told :
      ∀ message,
        Report.ofPayload (Answer.failurePayload message) =
          .ofError (.error message) :=
    Report.ofPayload_failurePayload
  have alike :
      ∀ earlier before job message,
        Leads host ⟨.new configuration, []⟩ earlier ⟨before, [.dispatch job]⟩ →
        before.Meets job message →
        ∀ later after,
          Leads host ⟨before, [.dispatch job]⟩ later ⟨after, []⟩ →
          after.EndsOnly host later job.request
            (.ofMessage message job.program) := by
    intro earlier before job message reached meets later after leads
    have new := Session.Aligned.new configuration
    obtain ⟨lost, balanced, _⟩ := reached.balanced new (.new configuration)
    exact leads.endsOnly (reached.aligned new) balanced meets
  refine
    ⟨fun message => ⟨told message, ?_⟩, fun failure => told failure.message,
      alike, ?_⟩
  · rw [told]
    rfl
  · intro earlier operation before job message start member meets later after
    obtain ⟨stage, opens, there, onwards⟩ := opens_to_handover member
    have reached :
        Leads host ⟨start, []⟩ ([] ++ earlier ++ [operation])
          ⟨before, [.dispatch job]⟩ :=
      ((Leads.start.runAll earlier).opening opens).work there
    have leads := (Leads.start.work onwards).runAll later
    have whole :
        after =
          ((start.runAll host earlier).apply host operation).runAll host
            later :=
      runAll_append host start earlier (operation :: later)
    rw [whole]
    exact alike _ before job message reached meets _ _ leads

/--
A compilation that is asked of a worker whose load has failed: its one job meets
the failure where it is handed over, and once all news has been taken it has
ended so.
-/
theorem failures_told_alike_without_backend :
    let start := Session.new .standard
    let loading : Operation := .load "none" .worker
    let asking : Operation := .compile (.ofList [("a.sol", "")]) "a.sol"
    (∃ before job,
      (start.runAll .quiet [loading]).handedOver .quiet asking =
        [(before, job)] ∧
        before.Meets job "Compiler not yet loaded.") ∧
      ((start.runAll .quiet [loading, asking]).untilIdle .quiet).2.conclusions
          0 =
        [.ofMessage "Compiler not yet loaded."
          ⟨.ofList [("a.sol", "")], "a.sol"⟩] := by
  intro start loading asking
  let started := (start.runAll .quiet [loading]).start
  let asked := Job.new 0 (.ofList [("a.sol", "")]) "a.sol"
  let before :=
    (started.recordFetches 0 (started.resolution .quiet asked)).announceArrival
  let job := started.resolved .quiet asked
  have reached : handover? .quiet started asked = some (before, job) :=
    if_neg (by decide +kernel)
  have once : (pass .quiet started asked).2 = none :=
    Option.isNone_iff_eq_none.mp (by decide +kernel)
  have handed :
      (start.runAll .quiet [loading]).handedOver .quiet asking =
        [(before, job)] := by
    have ended :
        pass .quiet started asked = ((pass .quiet started asked).1, none) :=
      Prod.ext rfl once
    exact (handovers_of_ended ended).trans (congrArg Option.toList reached)
  have meets : before.Meets job "Compiler not yet loaded." :=
    .noBackend (by decide +kernel)
  have program : job.program = ⟨.ofList [("a.sol", "")], "a.sol"⟩ := by
    decide +kernel
  refine ⟨⟨before, job, handed, meets⟩, ?_⟩
  rw [← program]
  have alike := (failures_told_alike .quiet .standard).2.2.2
  have ends :=
    alike [loading] asking before job _ (handed ▸ List.mem_cons_self) meets []
  exact ends.atRest (List.forall_mem_nil _)

end CompilerSession
