import CompilerSession.Proofs.FailurePayload
import CompilerSession.Proofs.Programs
import CompilerSession.Proofs.Timeline
import CompilerSession.Session.Script

namespace CompilerSession

/-!
# Where every success comes from

A success is told with a report that the backend in use made of exactly the
files and the settings that it is told for.  The argument follows a reply from
the call that made it: as long as no load begins, the call stays that of the
backend in use, whether its reply is taken at once or lies in the outbox of a
worker meanwhile.
-/

open Session

/-! ## Loads and versions -/

/-- No load begins in two logs in a row if none begins in either. -/
theorem LoadFree.append
    {log added : List Observation}
    (before : LoadFree log)
    (after : LoadFree added) :
    LoadFree (log ++ added) := by
  intro url mode begins
  rw [View.of_append] at begins
  rcases List.mem_append.mp begins with old | new
  · exact before url mode old
  · exact after url mode new

/-- No load begins in a part of a log if none begins in it. -/
theorem LoadFree.sublist
    {log fewer : List Observation}
    (free : LoadFree log)
    (sublist : fewer.Sublist log) :
    LoadFree fewer :=
  fun url mode begins => free url mode ((sublist.filterMap _).subset begins)

/-- A step that makes a version known announces it. -/
theorem WorkStep.announces
    {host : Host}
    {stage next : Stage}
    {version : String}
    (taken : WorkStep host stage next)
    (aligned : stage.session.Aligned)
    (known : next.session.version? = some version) :
    stage.session.version? = some version ∨
      ∃ snapshot? rest,
        next.session.log =
            stage.session.log ++
              .emitted none (.loaded version) snapshot? :: rest ∧
          LoadFree rest := by
  cases taken with
  | arriveLoaded session job announced toolchain arrival =>
      obtain ⟨_, _, backend, same, shape⟩ :=
        aligned.toolchain.poll_loaded arrival
      subst same shape
      cases known
      exact Or.inr ⟨_, _, log_emit _ _ _, fun url mode => by simp⟩
  | arriveFailed session job failure toolchain arrival =>
      obtain ⟨_, _, shape⟩ := aligned.toolchain.poll_failed arrival
      subst shape
      cases known
  | resolve session job going succeeds =>
      simpa [Session.version?, Toolchain.version?] using Or.inl known
  | lack session job failure going fails =>
      simpa [Session.version?, Toolchain.version?] using Or.inl known
  | postCalled session job toolchain answer accepted =>
      obtain ⟨_, _, active, _⟩ := aligned.toolchain.post_called accepted
      left
      simpa [Session.version?, Toolchain.version?, active] using known
  | postUncalled session job toolchain accepted =>
      obtain ⟨_, _, active, _⟩ := aligned.toolchain.post_uncalled accepted
      left
      simpa [Session.version?, Toolchain.version?, active] using known
  | _ =>
      exact Or.inl known

/-- A step leaves a backend that can be called where it is. -/
theorem WorkStep.keeps_backend
    {host : Host}
    {stage next : Stage}
    {backend : Backend}
    (taken : WorkStep host stage next)
    (aligned : stage.session.Aligned)
    (installed : stage.session.toolchain.backend? = some backend) :
    next.session.toolchain.backend? = some backend := by
  cases taken with
  | arriveLoaded session job version toolchain arrival =>
      rw [Toolchain.backend?_of_poll arrival] at installed
      cases installed
  | arriveFailed session job failure toolchain arrival =>
      rw [Toolchain.backend?_of_poll arrival] at installed
      cases installed
  | resolve session job going succeeds =>
      simpa using installed
  | lack session job failure going fails =>
      simpa using installed
  | postCalled session job toolchain answer accepted =>
      obtain ⟨_, _, _, other, before, after, _⟩ :=
        aligned.toolchain.post_called accepted
      exact after.trans (before.symm.trans installed)
  | postUncalled session job toolchain accepted =>
      obtain ⟨_, _, _, missing, _⟩ := aligned.toolchain.post_uncalled accepted
      rw [missing] at installed
      cases installed
  | _ =>
      exact installed

/-- An opening that is no load and makes a version known announces it. -/
theorem Opening.announces
    {host : Host}
    {session : Session}
    {operation : Operation}
    {stage : Stage}
    {version : String}
    (opens : Opening host session operation stage)
    (aligned : session.Aligned)
    (known : stage.session.version? = some version) :
    (session.version? = some version ∧ ∀ url mode, operation ≠ .load url mode) ∨
      ∃ snapshot? rest,
        stage.session.log =
          session.log ++ .emitted none (.loaded version) snapshot? :: rest ∧
          LoadFree rest := by
  cases opens with
  | load url mode =>
      cases mode <;> cases known
  | settle =>
      left
      simpa [Session.version?, Toolchain.version?] using known
  | loaded position announced toolchain heard =>
      cases aligned.toolchain.heard_of_next heard with
      | loaded backend inactive kept after replies installed isVersion =>
          cases isVersion.symm.trans known
          exact Or.inr ⟨_, _, log_emit _ _ _, fun url mode => by simp⟩
  | failed position failure toolchain heard =>
      cases aligned.toolchain.heard_of_next heard with
      | failed failure inactive before after replies missing unknown =>
          cases unknown.symm.trans known
  | terminated position failure toolchain heard nobody =>
      cases aligned.toolchain.heard_of_next heard with
      | terminated inactive before silent =>
          cases known
  | abandoned position failure toolchain heard somebody =>
      cases aligned.toolchain.heard_of_next heard with
      | terminated inactive before silent =>
          cases known
  | compiled position ticket answer toolchain job heard found =>
      cases aligned.toolchain.heard_of_next heard with
      | compiled earlier ticket answer later waiting after before replies same
          active isKnown =>
          left
          simpa [Session.version?, Toolchain.version?, active] using known
  | discarded position ticket answer toolchain heard unknown =>
      cases aligned.toolchain.heard_of_next heard with
      | compiled earlier ticket answer later waiting after before replies same
          active isKnown =>
          left
          simpa [Session.version?, Toolchain.version?, active] using known
  | _ =>
      exact Or.inl ⟨known, fun _ _ => nofun⟩

/--
An opening that is no load leaves a backend that can be called where it is.
-/
theorem Opening.keeps_backend
    {host : Host}
    {session : Session}
    {operation : Operation}
    {stage : Stage}
    {backend : Backend}
    (opens : Opening host session operation stage)
    (aligned : session.Aligned)
    (noLoad : ∀ url mode, operation ≠ .load url mode)
    (installed : session.toolchain.backend? = some backend) :
    stage.session.toolchain.backend? = some backend := by
  cases opens with
  | load url mode =>
      exact absurd rfl (noLoad url mode)
  | settle =>
      simpa using installed
  | loaded position announced toolchain heard =>
      cases aligned.toolchain.heard_of_next heard with
      | loaded other inactive kept after replies newlyInstalled isVersion =>
          rcases kept with missing | same
          · rw [missing] at installed
            cases installed
          · exact newlyInstalled.trans (same.symm.trans installed)
  | failed position failure toolchain heard =>
      cases aligned.toolchain.heard_of_next heard with
      | failed failure inactive before after replies missing unknown =>
          rw [before] at installed
          cases installed
  | terminated position failure toolchain heard nobody =>
      cases aligned.toolchain.heard_of_next heard with
      | terminated inactive before silent =>
          rw [before] at installed
          cases installed
  | abandoned position failure toolchain heard somebody =>
      cases aligned.toolchain.heard_of_next heard with
      | terminated inactive before silent =>
          rw [before] at installed
          cases installed
  | compiled position ticket answer toolchain job heard found =>
      cases aligned.toolchain.heard_of_next heard with
      | compiled earlier ticket answer later waiting after before replies same
          active known =>
          exact same.trans installed
  | discarded position ticket answer toolchain heard unknown =>
      cases aligned.toolchain.heard_of_next heard with
      | compiled earlier ticket answer later waiting after before replies same
          active known =>
          exact same.trans installed
  | _ =>
      exact installed

/-! ## Answers that the backend in use vouches for -/

/--
The backend in use gave an answer to a job at a moment since which no load
began.
-/
structure Session.Vouches
    (session : Session)
    (job : Job)
    (answer : Answer)
    (backend : Backend)
    (settings : Configuration)
    (moment : Nat) : Prop where
  current : session.toolchain.backend? = some backend
  called :
    session.log[moment]? =
      some (.called job.request ⟨job.sources, settings⟩ answer)
  answered :
    answer = backend.answer moment (Bundle.text ⟨job.sources, settings⟩)
  since : LoadFree (session.log.drop moment)

/-- A version was announced at a moment since which no load began. -/
structure Session.Announced
    (session : Session)
    (version : String)
    (moment : Nat) : Prop where
  told : ∃ snapshot?,
    session.log[moment]? = some (.emitted none (.loaded version) snapshot?)
  since : LoadFree (session.log.drop moment)

section

variable
  {session after : Session}
  {added : List Observation}

/-- What has been logged stands at the same place later on. -/
private theorem found_later
    {position : Nat}
    {observation : Observation}
    (logged : after.log = session.log ++ added)
    (found : session.log[position]? = some observation) :
    after.log[position]? = some observation := by
  rw [logged,
    List.getElem?_append_left (List.getElem?_eq_some_iff.mp found).1, found]

/-- No load has begun since a moment if none begins in what is added. -/
private theorem since_later
    {position : Nat}
    {observation : Observation}
    (logged : after.log = session.log ++ added)
    (free : LoadFree added)
    (found : session.log[position]? = some observation)
    (since : LoadFree (session.log.drop position)) :
    LoadFree (after.log.drop position) := by
  have inside := (List.getElem?_eq_some_iff.mp found).1
  rw [logged, List.drop_append_of_le_length (Nat.le_of_lt inside)]
  exact since.append free

/-- An answer stays vouched for while the backend stays and no load begins. -/
theorem Session.Vouches.later
    {job : Job}
    {answer : Answer}
    {backend : Backend}
    {settings : Configuration}
    {moment : Nat}
    (vouches : session.Vouches job answer backend settings moment)
    (current : after.toolchain.backend? = some backend)
    (logged : after.log = session.log ++ added)
    (free : LoadFree added) :
    after.Vouches job answer backend settings moment where
  current :=
    current
  called :=
    found_later logged vouches.called
  answered :=
    vouches.answered
  since :=
    since_later logged free vouches.called vouches.since

/-- An announcement still holds while no load begins. -/
theorem Session.Announced.later
    {version : String}
    {moment : Nat}
    (announced : session.Announced version moment)
    (logged : after.log = session.log ++ added)
    (free : LoadFree added) :
    after.Announced version moment where
  told := by
    obtain ⟨snapshot?, found⟩ := announced.told
    exact ⟨snapshot?, found_later logged found⟩
  since := by
    obtain ⟨snapshot?, found⟩ := announced.told
    exact since_later logged free found announced.since

private theorem announced_now
    {version : String}
    {snapshot? : Option Snapshot}
    (logged :
      after.log = session.log ++
        .emitted none (.loaded version) snapshot? :: added)
    (free : LoadFree added) :
    after.Announced version session.log.length where
  told :=
    ⟨snapshot?, by simp [logged]⟩
  since := by
    rw [logged, List.drop_left]
    intro url mode begins
    exact free url mode (by simpa using begins)

private theorem vouches_now
    {job : Job}
    {backend : Backend}
    (current : after.toolchain.backend? = some backend)
    (logged :
      after.log =
        session.log ++
          [.called job.request (session.bundleFor job)
            (backend.answer session.now (session.bundleFor job).text)]) :
    after.Vouches job
      (backend.answer session.now (session.bundleFor job).text) backend
      session.configuration session.now where
  current :=
    current
  called := by
    simp [logged, now]
  answered :=
    rfl
  since := by
    rw [logged, now, List.drop_left]
    intro url mode begins
    simp at begins

end

/-- A task whose job has had its imports resolved. -/
def Task.Resolved : Task → Prop
  | .arrive _ => True
  | .dispatch _ => True
  | .take _ _ => True
  | _ => False

/-- Whatever may still become a success comes from the backend in use. -/
structure Sourced (stage : Stage) : Prop where
  announced :
    ∀ version,
      stage.session.version? = some version →
        ∃ moment, stage.session.Announced version moment
  vouched :
    ∀ job answer,
      stage.Carries (.take job answer) →
      answer = .notReady ∨
        ∃ backend settings moment,
          stage.session.Vouches job answer backend settings moment
  closed :
    ∀ task,
      stage.Carries task → task.Resolved →
        task.job.sources.Closed task.job.target
  known :
    ∀ job answer,
      .take job answer ∈ stage.tasks →
      stage.session.version? =
        stage.session.toolchain.backend?.map Backend.version

namespace Sourced

variable
  {host : Host}
  {session : Session}
  {stage next : Stage}

/-- Only a call by an inline backend puts an answer into hand within a step. -/
private theorem known_of_step
    (taken : WorkStep host stage next)
    (aligned : stage.session.Aligned)
    {job : Job}
    {answer : Answer}
    (inHand : .take job answer ∈ next.tasks)
    (before :
      .take job answer ∈ stage.tasks →
      stage.session.version? =
        stage.session.toolchain.backend?.map Backend.version) :
    next.session.version? =
      next.session.toolchain.backend?.map Backend.version := by
  cases taken with
  | call session caller reply called =>
      exact aligned.toolchain.version_of_answer called
  | fail session failure failed rest =>
      exact before (List.mem_cons_of_mem _ inHand)
  | _ =>
      simp at inHand

/-- What a move turns a task into is sourced. -/
private theorem vouched_of_move
    {task : Task}
    {rest : List Task}
    {seen added : List Observation}
    {job : Job}
    {answer : Answer}
    (taken : WorkStep host stage next)
    (aligned : stage.session.Aligned)
    (moved :
      Moved host stage next task rest seen added (some (.take job answer))) :
    answer = .notReady ∨
      ∃ backend settings moment,
        next.session.Vouches job answer backend settings moment := by
  have logged := moved.logged
  have called := moved.shows.called
  cases moved.move with
  | call caller backend installed =>
      have alone := called _ List.mem_cons_self rfl
      rw [alone] at logged
      exact Or.inr
        ⟨backend, _, _,
          vouches_now (taken.keeps_backend aligned installed) logged⟩
  | miss caller missing =>
      exact Or.inl rfl

/-- A move resolves the imports of a job before it goes on to the backend. -/
private theorem closed_of_move
    {task later : Task}
    {seen : List Observation}
    (move : Move host session task seen (some later))
    (closed : task.Resolved → task.job.sources.Closed task.job.target)
    (resolved : later.Resolved) :
    later.job.sources.Closed later.job.target := by
  cases move with
  | resolve job going succeeds =>
      exact host.library.closed_resolve _ _ _ _ succeeds
  | arrive job =>
      exact closed trivial
  | call job backend installed =>
      exact closed trivial
  | miss job missing =>
      exact closed trivial
  | _ =>
      exact resolved.elim

theorem step
    (taken : WorkStep host stage next)
    (aligned : stage.session.Aligned)
    (sourced : Sourced stage) :
    Sourced next := by
  obtain ⟨task, rest, seen, added, later?, moved⟩ := taken.moves aligned
  have logged := moved.logged
  have quiet := moved.shows.quiet
  refine
    { announced := ?_
      vouched := ?_
      closed := ?_
      known := fun job answer inHand =>
        known_of_step taken aligned inHand (sourced.known job answer) }
  · intro version known
    rcases taken.announces aligned known with
      before | ⟨snapshot?, later, told, free⟩
    · obtain ⟨moment, announced⟩ := sourced.announced version before
      exact ⟨moment, announced.later logged quiet⟩
    · exact ⟨_, announced_now told free⟩
  · intro job answer carries
    rcases moved.carried_before carries with before | becomes
    · rcases sourced.vouched job answer before with
        notReady | ⟨backend, settings, moment, vouches⟩
      · exact Or.inl notReady
      · have current := taken.keeps_backend aligned vouches.current
        exact
          Or.inr ⟨backend, settings, moment, vouches.later current logged quiet⟩
    · subst becomes
      exact vouched_of_move taken aligned moved
  · intro other carries resolved
    rcases moved.carried_before carries with before | becomes
    · exact sourced.closed other before resolved
    · subst becomes
      exact closed_of_move moved.move (sourced.closed task moved.carried_task)
        resolved

/-- A load leaves nothing that could become a success. -/
private theorem load
    (host : Host)
    (session : Session)
    (url : String)
    (mode : Mode) :
    Sourced ⟨session.load host url mode, []⟩ := by
  have nothing :
      ∀ task, ¬ Stage.Carries ⟨session.load host url mode, []⟩ task := by
    rintro task (inHand | owes)
    · cases inHand
    · exact owes.nobody rfl
  exact
    { announced := fun version known => by cases mode <;> cases known
      vouched := fun job answer carries => (nothing _ carries).elim
      closed := fun task carries => (nothing _ carries).elim
      known := fun job answer inHand => by cases inHand }

/--
Only the news of an answer puts it into hand, and it comes from an announced
backend.
-/
private theorem known_of_opening
    {operation : Operation}
    (opens : Opening host session operation stage)
    (aligned : session.Aligned)
    {job : Job}
    {answer : Answer}
    (inHand : .take job answer ∈ stage.tasks) :
    stage.session.version? =
      stage.session.toolchain.backend?.map Backend.version := by
  cases opens with
  | compiled position ticket answer toolchain job heard found =>
      cases aligned.toolchain.heard_of_next heard with
      | compiled earlier ticket answer later waiting after before replies same
          active known =>
          rw [same]
          simpa [Session.version?, Toolchain.version?, active] using known
  | abandoned position failure toolchain heard somebody =>
      simp at inHand
  | _ =>
      simp at inHand

theorem opening
    {operation : Operation}
    (opens : Opening host session operation stage)
    (aligned : session.Aligned)
    (sourced : Sourced ⟨session, []⟩) :
    Sourced stage := by
  by_cases isLoad : ∃ url mode, operation = .load url mode
  · obtain ⟨url, mode, rfl⟩ := isLoad
    cases opens
    exact load host session url mode
  have noLoad : ∀ url mode, operation ≠ .load url mode :=
    fun url mode same => isLoad ⟨url, mode, same⟩
  obtain ⟨added, logged, _, _, free⟩ := opens.logs
  have free := free.resolve_right isLoad
  refine
    { announced := ?_
      vouched := ?_
      closed := ?_
      known := fun job answer inHand => known_of_opening opens aligned inHand }
  · intro version known
    rcases opens.announces aligned known with
      ⟨before, _⟩ | ⟨snapshot?, later, told, free⟩
    · obtain ⟨moment, announced⟩ := sourced.announced version before
      exact ⟨moment, announced.later logged free⟩
    · exact ⟨_, announced_now told free⟩
  · intro job answer carries
    rcases opens.carries aligned carries with owes | ⟨files, target, _, isNew⟩
    · rcases sourced.vouched job answer (Or.inr owes) with
        notReady | ⟨backend, settings, moment, vouches⟩
      · exact Or.inl notReady
      · have current := opens.keeps_backend aligned noLoad vouches.current
        exact
          Or.inr ⟨backend, settings, moment, vouches.later current logged free⟩
    · cases isNew
  · intro task carries resolved
    rcases opens.carries aligned carries with owes | ⟨files, target, _, isNew⟩
    · exact sourced.closed task (Or.inr owes) resolved
    · subst isNew
      exact resolved.elim

theorem runAll
    (host : Host)
    (configuration : Configuration)
    (operations : List Operation) :
    Sourced ⟨(Session.new configuration).runAll host operations, []⟩ := by
  have nothing :
      ∀ task, ¬ Stage.Carries ⟨Session.new configuration, []⟩ task := by
    rintro task (inHand | owes)
    · cases inHand
    · exact owes.nobody rfl
  have kept :=
    runAll_induction host (.new configuration)
      (fun _ stage => stage.session.Aligned ∧ Sourced stage)
      ⟨.new configuration,
        { announced := fun version known => by cases known
          vouched := fun job answer carries => (nothing _ carries).elim
          closed := fun task carries => (nothing _ carries).elim
          known := fun job answer inHand => by cases inHand }⟩
      (fun ⟨aligned, sourced⟩ opens =>
        ⟨aligned.opening opens, sourced.opening opens aligned⟩)
      (fun ⟨aligned, sourced⟩ taken =>
        ⟨aligned.step taken, sourced.step taken aligned⟩)
      operations
  exact kept.2

end Sourced

/-! ## From a call to a success -/

/--
Where a success at a position of a log comes from: the backend in use, the
settings and the text with which it returned, when it was announced and when it
was called.
-/
structure Provenance
    (log : List Observation)
    (session : Session)
    (position request : Nat)
    (ending : Conclusion)
    (backend : Backend)
    (settings : Configuration)
    (payload : String)
    (announcedAt calledAt : Nat) : Prop where
  current : session.toolchain.backend? = some backend
  announced :
    ∃ snapshot?, log[announcedAt]? =
      some (.emitted none (.loaded backend.version) snapshot?)
  announcedBefore : announcedAt < position
  sinceAnnounced : LoadFree ((log.take position).drop announcedAt)
  called :
    log[calledAt]? =
      some (.called request ⟨ending.program.sources, settings⟩ ⟨payload, []⟩)
  calledBefore : calledAt < position
  sinceCalled : LoadFree ((log.take position).drop calledAt)
  returned :
    backend.compile calledAt (Bundle.text ⟨ending.program.sources, settings⟩) =
      ⟨[], .returned payload⟩
  sound : (Report.ofPayload payload).verdict.isFatal = false
  modern : ending.report = (Report.ofPayload payload).modernised backend.version
  closed : ending.program.sources.Closed ending.program.target

/-- A success at a position of its log has a provenance. -/
def Session.Attested
    (session : Session)
    (position : Nat)
    (request? : Option Nat)
    (ending : Conclusion) : Prop :=
  ∃ request backend settings payload announcedAt calledAt,
    request? = some request ∧
      Provenance session.log session position request ending backend
        settings payload announcedAt calledAt

/-- A provenance holds of every longer log while the backend stays. -/
theorem Provenance.later
    {log : List Observation}
    {session after : Session}
    {position request : Nat}
    {ending : Conclusion}
    {backend : Backend}
    {settings : Configuration}
    {payload : String}
    {announcedAt calledAt : Nat}
    (provenance :
      Provenance log session position request ending backend settings payload
        announcedAt calledAt)
    {longer : List Observation}
    (grown : log <+: longer)
    (inside : position ≤ log.length)
    (current : after.toolchain.backend? = some backend) :
    Provenance longer after position request ending backend settings payload
      announcedAt calledAt := by
  obtain ⟨added, rfl⟩ := grown
  have same : (log ++ added).take position = log.take position :=
    List.take_append_of_le_length inside
  have earlier :
      ∀ {moment}, moment < position → (log ++ added)[moment]? = log[moment]? :=
    fun before => List.getElem?_append_left (Nat.lt_of_lt_of_le before inside)
  exact
    { provenance with
      current := current
      announced := by
        rw [earlier provenance.announcedBefore]
        exact provenance.announced
      sinceAnnounced := by
        rw [same]
        exact provenance.sinceAnnounced
      called := by
        rw [earlier provenance.calledBefore]
        exact provenance.called
      sinceCalled := by
        rw [same]
        exact provenance.sinceCalled }

/-- Only the acceptance of a complete answer tells of a success. -/
private theorem success_of_move
    {host : Host}
    {session : Session}
    {task : Task}
    {seen : List Observation}
    {later? : Option Task}
    {request? : Option Nat}
    {report : Report}
    {program : Program}
    (move : Move host session task seen later?)
    (told : (request?, ⟨true, report, program⟩) ∈ View.endings.of seen) :
    ∃ job answer,
      task = .take job answer ∧
        answer.missing = [] ∧
        ¬ (Report.ofPayload answer.payload).verdict.isFatal = true ∧
        request? = some job.request ∧
        report = session.modernReport (.ofPayload answer.payload) ∧
        program = job.program := by
  cases move with
  | accept job answer modern complete sound isModern =>
      simp only [View.of_cons, View.of_nil, View.see_endings,
        Observation.ending?, Option.toList_none, Option.toList_some,
        List.nil_append, List.append_nil, List.mem_singleton, Prod.mk.injEq,
        Conclusion.mk.injEq, true_and] at told
      obtain ⟨own, isReport, isProgram⟩ := told
      exact ⟨job, answer, rfl, complete, sound, own, isReport.trans isModern,
        isProgram⟩
  | _ =>
      simp at told

/-- A success that a step tells of has a provenance. -/
private theorem attested_of_step
    {host : Host}
    {stage next : Stage}
    {position : Nat}
    {request? : Option Nat}
    {report : Report}
    {program : Program}
    {snapshot? : Option Snapshot}
    (taken : WorkStep host stage next)
    (aligned : stage.session.Aligned)
    (sourced : Sourced stage)
    (new : stage.session.log.length ≤ position)
    (told :
      next.session.log[position]? =
        some
          (.emitted request? (.finished true report (some program))
            snapshot?)) :
    next.session.Attested position request? ⟨true, report, program⟩ := by
  obtain ⟨task, rest, seen, added, later?, moved⟩ := taken.moves aligned
  have member := told
  rw [moved.logged, List.getElem?_append_right new] at member
  have ends : (request?, ⟨true, report, program⟩) ∈ View.endings.of added :=
    List.mem_filterMap.mpr ⟨_, List.mem_of_getElem? member, rfl⟩
  rw [moved.shows.endings] at ends
  obtain ⟨job, answer, isTake, complete, sound, own, isReport, isProgram⟩ :=
    success_of_move moved.move ends
  subst isTake isProgram
  rcases sourced.vouched job answer moved.carried_task with
    notReady | ⟨backend, settings, calledAt, vouches⟩
  · -- The reply of a worker without a backend is fatal and ends no request with
    -- a success.
    subst notReady
    exact absurd (Answer.isFatal_failurePayload Failure.noBackend.message) sound
  have inHand : .take job answer ∈ stage.tasks := by
    simp [moved.hand]
  have version : stage.session.version? = some backend.version := by
    simp [sourced.known job answer inHand, vouches.current]
  obtain ⟨announcedAt, announced⟩ := sourced.announced backend.version version
  obtain ⟨earlierSnapshot?, announcedThere⟩ := announced.told
  have announcedBefore := (List.getElem?_eq_some_iff.mp announcedThere).1
  have calledBefore := (List.getElem?_eq_some_iff.mp vouches.called).1
  have stillVouches :=
    vouches.later (taken.keeps_backend aligned vouches.current) moved.logged
      moved.shows.quiet
  have stillAnnounced := announced.later moved.logged moved.shows.quiet
  have returned := vouches.answered
  have answerIs : answer = ⟨answer.payload, []⟩ := by
    rw [← complete]
  refine
    ⟨job.request, backend, settings, answer.payload, announcedAt, calledAt, own,
      { current := stillVouches.current
        announced := stillAnnounced.told
        announcedBefore := Nat.lt_of_lt_of_le announcedBefore new
        sinceAnnounced := ?_
        called := ?_
        calledBefore := Nat.lt_of_lt_of_le calledBefore new
        sinceCalled := ?_
        returned := ?_
        sound := by simpa using sound
        modern := ?_
        closed := sourced.closed _ moved.carried_task trivial }⟩
  · rw [List.drop_take]
    exact stillAnnounced.since.sublist (List.take_sublist _ _)
  · rw [← answerIs]
    exact stillVouches.called
  · rw [List.drop_take]
    exact stillVouches.since.sublist (List.take_sublist _ _)
  · rw [returned] at complete sound
    rw [returned]
    exact Answer.returned_of_sound complete sound
  · rw [isReport]
    simp [modernReport, version]

private theorem Session.Attested.later
    {session after : Session}
    {position : Nat}
    {request? : Option Nat}
    {ending : Conclusion}
    (attested : session.Attested position request? ending)
    (grown : session.log <+: after.log)
    (inside : position ≤ session.log.length)
    (keeps :
      ∀ backend,
        session.toolchain.backend? = some backend →
          after.toolchain.backend? = some backend) :
    after.Attested position request? ending := by
  obtain ⟨request, backend, settings, payload, announcedAt, calledAt, own,
    provenance⟩ := attested
  exact
    ⟨request, backend, settings, payload, announcedAt, calledAt, own,
      provenance.later grown inside (keeps backend provenance.current)⟩

/-- Every success that an operation tells of has a provenance. -/
private theorem attested_of_apply
    {session : Session}
    {position : Nat}
    {request? : Option Nat}
    {report : Report}
    {program : Program}
    {snapshot? : Option Snapshot}
    (aligned : session.Aligned)
    (sourced : Sourced ⟨session, []⟩)
    (host : Host)
    (operation : Operation)
    (new : session.log.length ≤ position)
    (told :
      (session.apply host operation).log[position]? =
        some
          (.emitted request? (.finished true report (some program))
            snapshot?)) :
    (session.apply host operation).Attested position request?
      ⟨true, report, program⟩ := by
  have kept :=
    apply_induction host session operation
      (fun stage =>
        stage.session.Aligned ∧
          Sourced stage ∧
          (stage.session.log[position]? =
              some
                (.emitted request? (.finished true report (some program))
                  snapshot?) →
            stage.session.Attested position request? ⟨true, report, program⟩))
      (by
        intro stage opens
        refine
          ⟨aligned.opening opens, sourced.opening opens aligned, fun told => ?_⟩
        obtain ⟨added, logged, _, noEnding, _⟩ := opens.logs
        rw [logged, List.getElem?_append_right new] at told
        have ends :
            (request?, ⟨true, report, program⟩) ∈ View.endings.of added :=
          List.mem_filterMap.mpr ⟨_, List.mem_of_getElem? told, rfl⟩
        simp [noEnding] at ends)
      (by
        rintro stage next ⟨stillAligned, stillSourced, attested⟩ taken
        refine
          ⟨stillAligned.step taken, stillSourced.step taken stillAligned,
            fun told => ?_⟩
        by_cases before : position < stage.session.log.length
        · obtain ⟨added, logged⟩ := taken.grows stillAligned
          rw [← logged, List.getElem?_append_left before] at told
          exact
            (attested told).later ⟨added, logged⟩ (Nat.le_of_lt before)
              fun backend => taken.keeps_backend stillAligned
        · exact attested_of_step taken stillAligned stillSourced
            (Nat.le_of_not_lt before) told)
  exact kept.2.2 told

/-- A call is made with the settings of the session that makes it. -/
theorem settings_of_apply
    {session : Session}
    {position request : Nat}
    {bundle : Bundle}
    {answer : Answer}
    (aligned : session.Aligned)
    (host : Host)
    (operation : Operation)
    (new : session.log.length ≤ position)
    (called :
      (session.apply host operation).log[position]? =
        some (.called request bundle answer)) :
    bundle.configuration = (session.apply host operation).configuration := by
  have kept :=
    apply_induction host session operation
      (fun stage =>
        stage.session.Aligned ∧
          (stage.session.log[position]? = some (.called request bundle answer) →
            bundle.configuration = stage.session.configuration))
      (by
        intro stage opens
        refine ⟨aligned.opening opens, fun called => ?_⟩
        obtain ⟨added, logged, course, _⟩ := opens.logs
        rw [logged, List.getElem?_append_right new] at called
        have visible :
            .called request bundle answer ∈ (View.course request).of added :=
          List.mem_filterMap.mpr ⟨_, List.mem_of_getElem? called, by simp⟩
        rw [course request] at visible
        split at visible <;> simp at visible)
      (by
        rintro stage next ⟨stillAligned, settled⟩ taken
        refine ⟨stillAligned.step taken, fun called => ?_⟩
        rw [taken.configuration]
        obtain ⟨task, rest, seen, added, later?, moved⟩ :=
          taken.moves stillAligned
        rw [moved.logged] at called
        by_cases before : position < stage.session.log.length
        · rw [List.getElem?_append_left before] at called
          exact settled called
        · rw [List.getElem?_append_right (Nat.le_of_not_lt before)] at called
          exact
            moved.move.settings
              (moved.shows.mem_seen (List.mem_of_getElem? called) rfl))
  exact kept.2 called

/--
Every success comes from the backend in use.  That backend was announced and
called since the last load began, with the settings in force at the call and
with all the files that the success is told for; it returned a text, missing
nothing, of which the report is the reading; and the files are those of the
request and all they import.
-/
theorem provenance_of_success
    (host : Host)
    (configuration : Configuration)
    (operations : List Operation)
    {position : Nat}
    {request? : Option Nat}
    {report : Report}
    {program : Program}
    {snapshot? : Option Snapshot}
    (told :
      ((Session.new configuration).runAll host operations).log[position]? =
        some
          (.emitted request? (.finished true report (some program))
            snapshot?)) :
    let start := Session.new configuration
    ∃ request backend payload announcedAt calledAt,
      request? = some request ∧
        Provenance (start.runAll host operations).log
          (start.during host operations position)
          position request ⟨true, report, program⟩ backend
          (start.during host operations calledAt).configuration payload
          announcedAt calledAt ∧
        StandsFor (requested operations) request program := by
  intro start
  have aligned : start.Aligned := .new configuration
  obtain ⟨earlier, operation, later, _, same, after, grown, toldThere⟩ :=
    aligned.observed host operations (Nat.zero_le position) told
  obtain ⟨request, backend, settings, payload, announcedAt, calledAt, own,
    provenance⟩ :=
    attested_of_apply (aligned.runAll host earlier)
      (.runAll host configuration earlier)
      host operation after toldThere
  have inside := (List.getElem?_eq_some_iff.mp toldThere).1
  have whole := provenance.later grown (Nat.le_of_lt inside) provenance.current
  obtain ⟨_, callingOperation, _, _, sameCall, afterCall, _, calledThere⟩ :=
    aligned.observed host operations (Nat.zero_le calledAt) whole.called
  have inForce :=
    settings_of_apply (aligned.runAll host _) host callingOperation afterCall
      calledThere
  obtain ⟨owner, isOwner, stands⟩ :=
    (Faithful.runAll host configuration operations).ended
      (request?, ⟨true, report, program⟩)
      (List.mem_filterMap.mpr ⟨_, List.mem_of_getElem? told, rfl⟩)
  cases own.symm.trans isOwner
  refine ⟨request, backend, payload, announcedAt, calledAt, own, ?_, stands⟩
  rw [same, sameCall, ← inForce]
  exact whole

/-- A host with a file to import and a backend that finds nothing to say. -/
def Host.importing : Host :=
  .scripted [("a.sol", ⟨.ok "", false⟩)] [("url", .ready (.ofRules "0.8.1" []))]

/-- A success for a file that was given and one that was fetched. -/
theorem provenance_of_success_importing :
    let start := Session.new .standard
    let operations : List Operation :=
      [.load "url" .inline, .next 0,
        .compile (.ofList [("b.sol", "import \"a.sol\";")]) "b.sol"]
    ∃ request? report program snapshot?,
      (start.runAll .importing operations).log[6]? =
          some
            (.emitted request? (.finished true report (some program))
              snapshot?) ∧
        ∃ request backend payload announcedAt calledAt,
          request? = some request ∧
            Provenance (start.runAll .importing operations).log
              (start.during .importing operations 6) 6 request
              ⟨true, report, program⟩ backend
              (start.during .importing operations calledAt).configuration
              payload announcedAt calledAt ∧
            StandsFor (requested operations) request program := by
  intro start operations
  have told :
      ∃ request? report program snapshot?,
        (start.runAll .importing operations).log[6]? =
          some
            (.emitted request? (.finished true report (some program))
              snapshot?) := by
    have succeeds :
        ((start.runAll .importing operations).log[6]?.bind
          Observation.ending?).any
          (fun ending => ending.2.success) = true := by
      decide +kernel
    generalize (start.runAll .importing operations).log[6]? = seen at succeeds ⊢
    rcases seen with
      _ | ⟨request?, ⟨⟩ | ⟨⟩ | ⟨⟩ | ⟨success, report, _ | program⟩, snapshot?⟩
    all_goals
      cases succeeds
    exact ⟨request?, report, program, snapshot?, rfl⟩
  obtain ⟨request?, report, program, snapshot?, told⟩ := told
  exact
    ⟨request?, report, program, snapshot?, told,
      provenance_of_success .importing .standard operations told⟩

end CompilerSession
