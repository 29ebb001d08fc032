import CompilerSession.Proofs.Accounting
import CompilerSession.Proofs.Announcements

namespace CompilerSession

/-!
# A load supersedes all that came before it

Once a load begins, whatever was under way is left behind: the jobs that waited,
the load that still went on, and the replies of the worker that was in use.
`Recent` says of a stage that nothing is carried, and nothing is observed since
the load, that does not belong to a request made since.
-/

open Session

/--
An answer was given in a call that is in a log, or it says that there is no
backend.
-/
def Given
    (log : List Observation)
    (request : Nat)
    (answer : Answer) : Prop :=
  answer = .notReady ∨ ∃ bundle, .called request bundle answer ∈ log

/-- An answer that was given stays given. -/
theorem Given.append
    {log : List Observation}
    {request : Nat}
    {answer : Answer}
    (given : Given log request answer)
    (added : List Observation) :
    Given (log ++ added) request answer := by
  rcases given with notReady | ⟨bundle, called⟩
  · exact Or.inl notReady
  · exact Or.inr ⟨bundle, List.mem_append_left _ called⟩

/--
Since a moment with a number of requests, all that is carried and all that is
observed belongs to later requests, and every answer taken was given since.
-/
structure Recent
    (log : List Observation)
    (made : Nat)
    (stage : Stage)
    (since : List Observation) : Prop where
  logged : stage.session.log = log ++ since
  counted : made ≤ stage.session.requests
  owned :
    ∀ observation ∈ since, ∀ request, observation.request? = some request →
      made ≤ request
  carried : ∀ task, stage.Carries task → made ≤ task.job.request
  given : ∀ job answer, stage.Carries (.take job answer) →
    Given since job.request answer
  taken :
    ∀ earlier request answer later,
      since = earlier ++ .answered request answer :: later →
        Given earlier request answer

namespace Recent

variable
  {host : Host}
  {log since : List Observation}
  {made : Nat}
  {session : Session}
  {stage next : Stage}

/-- What is observed next is recent, and so are the answers taken in it. -/
private theorem append
    {added : List Observation}
    (recent : Recent log made stage since)
    (logged : next.session.log = stage.session.log ++ added)
    (counted : made ≤ next.session.requests)
    (owned :
      ∀ observation ∈ added, ∀ request, observation.request? = some request →
        made ≤ request)
    (carried : ∀ task, next.Carries task → made ≤ task.job.request)
    (given :
      ∀ job answer,
        next.Carries (.take job answer) →
          Given (since ++ added) job.request answer)
    (taken :
      ∀ request answer, .answered request answer ∈ added →
        Given since request answer) :
    Recent log made next (since ++ added) where
  logged := by
    rw [logged, recent.logged, List.append_assoc]
  counted :=
    counted
  owned observation member request own := by
    rcases List.mem_append.mp member with before | new
    · exact recent.owned observation before request own
    · exact owned observation new request own
  carried :=
    carried
  given :=
    given
  taken earlier request answer later shape := by
    rcases split_of_append shape with
      ⟨front, isEarlier, isAdded⟩ | ⟨back, isSince, _⟩
    · rw [isEarlier]
      exact (taken request answer (by simp [isAdded])).append front
    · exact recent.taken earlier request answer back isSince

/-- Every step keeps to what is recent. -/
theorem step
    (worked : WorkStep host stage next)
    (aligned : stage.session.Aligned)
    (recent : Recent log made stage since) :
    ∃ later, Recent log made next later := by
  obtain ⟨task, rest, seen, added, later?, moved⟩ := worked.moves aligned
  have own : made ≤ task.job.request := recent.carried task moved.carried_task
  refine ⟨since ++ added, recent.append moved.logged ?_ ?_ ?_ ?_ ?_⟩
  · rw [worked.requests]
    exact recent.counted
  · intro observation member request isOwn
    rw [moved.shows.owner member isOwn]
    exact own
  · intro other carries
    rcases moved.carried_before carries with before | becomes
    · exact recent.carried other before
    · subst becomes
      rw [moved.move.same_request]
      exact own
  · intro job answer carries
    rcases moved.carried_before carries with before | becomes
    · exact (recent.given job answer before).append added
    · subst becomes
      have alone := moved.shows.called
      cases moved.move with
      | call caller backend installed =>
          rw [alone _ List.mem_cons_self rfl]
          exact Or.inr ⟨_, List.mem_append_right _ List.mem_cons_self⟩
      | miss caller missing =>
          exact Or.inl rfl
  · intro request answer told
    obtain ⟨job, isTake, isOwn⟩ :=
      moved.move.take_of_answered (moved.shows.mem_seen told rfl)
    subst isTake isOwn
    exact recent.given job answer moved.carried_task

theorem opening
    {operation : Operation}
    (opens : Opening host session operation stage)
    (aligned : session.Aligned)
    (recent : Recent log made ⟨session, []⟩ since) :
    ∃ later, Recent log made stage later := by
  obtain ⟨added, logged, course, _⟩ := opens.logs
  have started :
      ∀ observation ∈ added,
        ∀ request,
          observation.request? = some request →
            observation =
              .emitted (some session.requests) .started session.snapshot? := by
    intro observation member request own
    have visible : observation ∈ (View.course request).of added :=
      List.mem_filterMap.mpr ⟨observation, member, if_pos own⟩
    rw [course request] at visible
    split at visible
    · rename_i isNew
      rw [List.mem_singleton.mp visible, isNew.2]
    · cases visible
  refine ⟨since ++ added, recent.append logged ?_ ?_ ?_ ?_ ?_⟩
  · exact Nat.le_trans recent.counted opens.requests_le
  · intro observation member request own
    rw [started observation member request own] at own
    cases own
    exact recent.counted
  · intro task carries
    rcases opens.carries aligned carries with owes | ⟨files, target, _, isNew⟩
    · exact recent.carried task (Or.inr owes)
    · subst isNew
      exact recent.counted
  · intro job answer carries
    rcases opens.carries aligned carries with owes | ⟨files, target, _, isNew⟩
    · exact (recent.given job answer (Or.inr owes)).append added
    · cases isNew
  · intro request answer told
    cases started _ told request rfl

/-- When a load begins, nothing is carried any more. -/
theorem load
    (host : Host)
    (session : Session)
    (url : String)
    (mode : Mode) :
    Recent (session.load host url mode).log session.requests
      ⟨session.load host url mode, []⟩ [] := by
  have nothing :
      ∀ task, ¬ Stage.Carries ⟨session.load host url mode, []⟩ task := by
    rintro task (inHand | owes)
    · cases inHand
    · exact owes.nobody rfl
  exact
    { logged := (List.append_nil _).symm
      counted := Nat.le_refl _
      owned := fun observation member => by cases member
      carried := fun task carries => (nothing _ carries).elim
      given := fun job answer carries => (nothing _ carries).elim
      taken := fun earlier request answer later shape => by simp at shape }

/-- Whatever is observed after a load belongs to requests made since. -/
theorem runAll
    (aligned : session.Aligned)
    (host : Host)
    (url : String)
    (mode : Mode)
    (operations : List Operation) :
    ∃ since,
      Recent (session.load host url mode).log session.requests
        ⟨(session.load host url mode).runAll host operations, []⟩ since := by
  have kept :=
    runAll_induction host (session.load host url mode)
      (fun _ stage =>
        stage.session.Aligned ∧
          ∃ since, Recent (session.load host url mode).log session.requests
            stage since)
      ⟨aligned.apply host (.load url mode), [], load host session url mode⟩
      (fun ⟨aligned, since, recent⟩ opens =>
        ⟨aligned.opening opens, recent.opening opens aligned⟩)
      (fun ⟨aligned, since, recent⟩ worked =>
        ⟨aligned.step worked, recent.step worked aligned⟩)
      operations
  exact kept.2

end Recent

/--
What a load means for all that is observed since.  No request that waited when
it began is told to end; all that is seen of requests is of those made since,
and so is every answer taken; and of loads there is told what is owed for this
one and for later ones.
-/
structure Supersedes
    (before : Session)
    (loading : Loading)
    (later : List Loading)
    (after : Session)
    (since : List Observation) : Prop where
  dropped : ∀ request ∈ before.waiting, after.conclusions request = []
  owned :
    ∀ observation ∈ since,
      ∀ request, observation.request? = some request → before.requests ≤ request
  taken :
    ∀ earlier request answer rest,
      since = earlier ++ .answered request answer :: rest →
        Given earlier request answer
  heralded :
    Heralded loading.announcement? later (View.loads.of since)
      after.toolchain.announcement?

/--
A load supersedes all that came before it, in whatever order the loads, the jobs
and the replies come to their ends.  Each load of a run is announced once at
most and before the next one begins, with the version of the backend that was
loaded or with one failure of no request; a version is known just when it has
been announced since the latest load began; and nothing that was under way when
a load began is told of afterwards.
-/
theorem loads_supersede
    (host : Host)
    (configuration : Configuration)
    (operations : List Operation) :
    let start := Session.new configuration
    let session := start.runAll host operations
    Heralded none (start.loadings host operations) (View.loads.of session.log)
        session.toolchain.announcement? ∧
      (∀ version, session.version? = some version ↔
        .loaded version ∈ sinceLoad session.events) ∧
      ∀ earlier url mode later,
        operations = earlier ++ .load url mode :: later →
        let before := start.runAll host earlier
        let opened := before.load host url mode
        ∃ since,
          session.log = opened.log ++ since ∧
            Supersedes before (before.loading host url mode)
              (opened.loadings host later)
              session since := by
  intro start session
  have aligned : start.Aligned := .new configuration
  refine ⟨?_, Session.Informed.runAll host configuration operations, ?_⟩
  · obtain ⟨since, logged, heralded⟩ :=
      Session.Heralds.runAll aligned host operations
    have whole : session.log = since := logged
    rw [whole]
    exact heralded
  · intro earlier url mode later shape before opened
    have alignedBefore : before.Aligned := aligned.runAll host earlier
    have whole : session = opened.runAll host later := by
      simp only [session, shape, runAll_append]
      rfl
    obtain ⟨since, recent⟩ := Recent.runAll alignedBefore host url mode later
    obtain ⟨also, logged, heralded⟩ :=
      Session.Heralds.runAll (alignedBefore.apply host (.load url mode))
        host later
    have same : also = since :=
      List.append_cancel_left (logged.symm.trans recent.logged)
    have owed : opened.toolchain.announcement? =
      (before.loading host url mode).announcement? :=
      Toolchain.announcement?_load ..
    refine
      ⟨since, whole ▸ recent.logged,
        { dropped := fun request waits => ?_
          owned := recent.owned
          taken := recent.taken
          heralded := ?_ }⟩
    · refine (Balanced.runAll host configuration operations).untold_of_lost ?_
      rw [shape, dropped_append]
      exact List.mem_append_right _ (List.mem_append_left _ waits)
    · rw [← owed, ← same, whole]
      exact heralded

end CompilerSession
