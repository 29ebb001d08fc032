import CompilerSession.Proofs.Provenance
import CompilerSession.Proofs.Refinement
import CompilerSession.Proofs.Retries

namespace CompilerSession

/-!
# The settings of a request

A bundle is made with the settings that are in force when it is made.  For the
first bundle of a request these are the settings of its call.  An inline backend
has answered all of its bundles before the call returns, so they have the same
settings too.  A worker answers later, and when it asks for inputs the next
bundle is made with the settings of that later moment, which need not be those
of the call.
-/

open Session

/-- A task that ends its request with its next move. -/
def Task.Final : Task → Prop
  | .take _ answer => answer.missing = []
  | .fail _ _ => True
  | _ => False

/-- With its last move a request makes no call. -/
theorem Move.of_final
    {host : Host}
    {session : Session}
    {task : Task}
    {more : List Observation}
    {later? : Option Task}
    (move : Move host session task more later?)
    (final : task.Final) :
    later? = none ∧ View.calls.of more = [] := by
  cases move with
  | retry job answer missing =>
      exact absurd final missing
  | reject job answer complete fatal =>
      exact ⟨rfl, by simp⟩
  | accept job answer modern complete sound isModern =>
      exact ⟨rfl, by simp⟩
  | fail failure job =>
      exact ⟨rfl, by simp⟩
  | _ =>
      exact final.elim

/-- The calls of a request so far, if it is to make no other. -/
structure Called
    (request : Nat)
    (calls : List (Bundle × Answer))
    (stage : Stage) : Prop where
  made : request < stage.session.requests
  calls : View.calls.of ((View.course request).of stage.session.log) = calls
  final : ∀ task, stage.Carries task → task.job.request = request → task.Final

namespace Called

variable
  {host : Host}
  {request : Nat}
  {calls : List (Bundle × Answer)}
  {session : Session}
  {stage next : Stage}

theorem step
    (taken : WorkStep host stage next)
    (aligned : stage.session.Aligned)
    (called : Called request calls stage) :
    Called request calls next := by
  obtain ⟨task, rest, seen, added, later?, moved⟩ := taken.moves aligned
  refine
    { made := taken.requests ▸ called.made
      calls := ?_
      final := ?_ }
  · rw [moved.logged, View.of_append, View.of_append, called.calls,
      moved.shows.course]
    split
    · rename_i own
      rw [(moved.move.of_final (called.final task moved.carried_task own)).2,
        List.append_nil]
    · exact List.append_nil calls
  · intro other carries own
    rcases moved.carried_before carries with before | becomes
    · exact called.final other before own
    · subst becomes
      have same := moved.move.same_request.symm.trans own
      cases (moved.move.of_final (called.final task moved.carried_task same)).1

theorem opening
    {operation : Operation}
    (opens : Opening host session operation stage)
    (aligned : session.Aligned)
    (called : Called request calls ⟨session, []⟩) :
    Called request calls stage := by
  have made : request < session.requests := called.made
  refine
    { made := Nat.lt_of_lt_of_le made opens.requests_le
      calls := ?_
      final := ?_ }
  · obtain ⟨added, logged, course, _⟩ := opens.logs
    have other : ¬ (operation.program?.isSome ∧ request = session.requests) :=
      fun own => Nat.ne_of_lt made own.2
    rw [logged, View.of_append, course, if_neg other, List.append_nil]
    exact called.calls
  · intro task carries own
    rcases opens.carries aligned carries with owes | ⟨files, target, _, isNew⟩
    · exact called.final task (Or.inr owes) own
    · rw [isNew] at own
      exact absurd own (Nat.ne_of_gt made)

/-- However the run goes on, the request makes no other call. -/
theorem runAll
    (aligned : session.Aligned)
    (called : Called request calls ⟨session, []⟩)
    (host : Host)
    (operations : List Operation) :
    Called request calls ⟨session.runAll host operations, []⟩ := by
  have kept :=
    runAll_induction host session
      (fun _ stage => stage.session.Aligned ∧ Called request calls stage)
      ⟨aligned, called⟩
      (by
        rintro operations operation stage ⟨stillAligned, stillCalled⟩ opens
        exact
          ⟨stillAligned.opening opens, stillCalled.opening opens stillAligned⟩)
      (by
        rintro operations stage next ⟨stillAligned, stillCalled⟩ taken
        exact ⟨stillAligned.step taken, stillCalled.step taken stillAligned⟩)
      operations
  exact kept.2

end Called

/-- A request that rests before its first call makes none. -/
theorem Course.final_of_uncalled
    {host : Host}
    {request : Nat}
    {asked : Program}
    {seen : List Observation}
    {task : Task}
    (course : Course host request asked seen (some task))
    (waits : task.Waits)
    (uncalled : View.calls.of seen = []) :
    task.Final := by
  cases course.stands with
  | answered job bundle answer answers sources =>
      rw [uncalled] at answers
      cases answers
  | notReady job =>
      rfl
  | stuck job before bundle answer stuck =>
      trivial
  | failing job failure foreign =>
      trivial
  | _ =>
      exact waits.elim

/-- A call that is seen of a request stands in the log. -/
theorem View.called_of_calls
    {request : Nat}
    {log : List Observation}
    {call : Bundle × Answer}
    (member : call ∈ View.calls.of ((View.course request).of log)) :
    .called request call.1 call.2 ∈ log := by
  obtain ⟨observation, inCourse, isCall⟩ := List.mem_filterMap.mp member
  obtain ⟨same, inLog, own⟩ := List.mem_filterMap.mp inCourse
  rw [see_course] at own
  split at own
  · rename_i isOwn
    cases own
    cases observation with
    | called other bundle answer =>
        cases isCall
        cases isOwn
        exact inLog
    | _ =>
        cases isCall
  · cases own

/-- Only the operation that sets the optimizer changes the settings. -/
theorem Session.configuration_apply
    {session : Session}
    (host : Host)
    {operation : Operation}
    (kept : ∀ optimize, operation ≠ .withOptimizer optimize) :
    (session.apply host operation).configuration = session.configuration :=
  apply_induction host session operation
    (fun stage => stage.session.configuration = session.configuration)
    (by
      intro stage opens
      cases opens with
      | withOptimizer optimize =>
          exact absurd rfl (kept optimize)
      | _ =>
          rfl)
    (by
      intro stage next same taken
      exact taken.configuration.trans same)

/-- A run that never sets the optimizer keeps the configuration. -/
theorem Session.configuration_runAll
    {session : Session}
    (host : Host)
    {operations : List Operation}
    (kept : ∀ optimize, .withOptimizer optimize ∉ operations) :
    (session.runAll host operations).configuration = session.configuration := by
  induction operations generalizing session with
  | nil =>
      rfl
  | cons operation rest inductionHypothesis =>
      refine (inductionHypothesis fun optimize member => ?_).trans ?_
      · exact kept optimize (List.mem_cons_of_mem _ member)
      · exact
          configuration_apply host fun optimize same =>
            kept optimize (same ▸ List.mem_cons_self)

/--
Calls that are seen since a session are made with the settings of their
operations.
-/
theorem Session.Aligned.settings_of_calls
    {session : Session}
    (aligned : session.Aligned)
    (host : Host)
    (operations : List Operation)
    {request : Nat}
    (unseen : (View.course request).of session.log = [])
    (kept : ∀ optimize, .withOptimizer optimize ∉ operations) :
    ∀ call ∈
      View.calls.of
        ((View.course request).of (session.runAll host operations).log),
      call.1.configuration = session.configuration := by
  intro call member
  obtain ⟨position, called⟩ :=
    List.mem_iff_getElem?.mp (View.called_of_calls member)
  have new : session.log.length ≤ position := by
    refine Nat.le_of_not_lt fun before => ?_
    obtain ⟨added, logged⟩ := aligned.runAll_grows host operations
    rw [← logged, List.getElem?_append_left before] at called
    have visible :
        .called request call.1 call.2 ∈ (View.course request).of session.log :=
      List.mem_filterMap.mpr ⟨_, List.mem_of_getElem? called, by simp⟩
    rw [unseen] at visible
    cases visible
  obtain ⟨earlier, operation, later, shape, _, after, _, there⟩ :=
    aligned.observed host operations new called
  have inForce :=
    settings_of_apply (aligned.runAll host earlier) host operation after there
  rw [inForce]
  have whole :
      (session.runAll host earlier).apply host operation =
        session.runAll host (earlier ++ [operation]) := by
    rw [runAll_append]
    rfl
  rw [whole]
  refine configuration_runAll host fun optimize member => kept optimize ?_
  rw [shape]
  simp only [List.mem_append, List.mem_cons, List.not_mem_nil,
    or_false] at member ⊢
  tauto

/-! ## The request of a call -/

section

variable
  (host : Host)
  (configuration : Configuration)
  (earlier : List Operation)
  (files : SourceSet)
  (target : String)

/-- The session that is asked to compile. -/
private abbrev calling : Session :=
  (Session.new configuration).runAll host earlier

/-- The session when the call has returned. -/
private abbrev returned : Session :=
  (calling host configuration earlier).apply host (.compile files target)

/-- The call takes the number that the requests before it leave. -/
private theorem numbered_calling :
    (requested earlier).length =
      (calling host configuration earlier).requests :=
  (Faithful.runAll host configuration earlier).numbered

/-- The session that is asked to compile is aligned. -/
private theorem aligned_calling :
  (calling host configuration earlier).Aligned :=
  (Session.Aligned.new configuration).runAll host earlier

/-- The call returns the session of the run that ends with it. -/
private theorem returned_eq :
    returned host configuration earlier files target =
      (Session.new configuration).runAll host
        (earlier ++ [.compile files target]) := by
  rw [runAll_append]
  rfl

/-- The number of the call stands for its program. -/
private theorem asked_returned :
    (requested (earlier ++ [.compile files target]))[
        (calling host configuration earlier).requests]? =
      some ⟨files, target⟩ := by
  simp [← numbered_calling host configuration earlier, requested,
    Operation.program?]

private theorem made_returned :
    (calling host configuration earlier).requests <
      (returned host configuration earlier files target).requests := by
  have numbered :=
    (Faithful.runAll host configuration
      (earlier ++ [.compile files target])).numbered
  have inside :=
    (List.getElem?_eq_some_iff.mp
      (asked_returned host configuration earlier files target)).1
  rw [returned_eq]
  exact numbered ▸ inside

private theorem unseen_calling :
    (View.course (calling host configuration earlier).requests).of
      (calling host configuration earlier).log = [] :=
  (Coursed.runAll host configuration earlier).unasked _
    (List.getElem?_eq_none
      (Nat.le_of_eq (numbered_calling host configuration earlier)))

/--
What is called before the call returns is called with the settings of the call.
-/
private theorem settings_of_returned :
    ∀ call ∈
        View.calls.of
          ((View.course (calling host configuration earlier).requests).of
            (returned host configuration earlier files target).log),
      call.1.configuration =
        (calling host configuration earlier).configuration :=
  (aligned_calling host configuration earlier).settings_of_calls host
    [.compile files target]
    (unseen_calling host configuration earlier) (by simp)

/--
If nothing is called before the call returns, nothing is called for it at all.
-/
private theorem called_of_uncalled
    (uncalled :
      View.calls.of
        ((View.course (calling host configuration earlier).requests).of
        (returned host configuration earlier files target).log) = []) :
    Called (calling host configuration earlier).requests []
      ⟨returned host configuration earlier files target, []⟩ := by
  have onCourse :=
    (Coursed.runAll host configuration
      (earlier ++ [.compile files target])).asked _ _
      (asked_returned host configuration earlier files target)
  rw [← returned_eq] at onCourse
  obtain ⟨standing, course, alone, rests⟩ := onCourse
  refine ⟨made_returned host configuration earlier files target, uncalled, ?_⟩
  intro task carries own
  have isStanding := alone task carries own
  subst isStanding
  exact course.final_of_uncalled
    ((rests task rfl).resolve_left List.not_mem_nil) uncalled

/--
If no worker is in use when the call returns, nothing is called for it
afterwards.
-/
private theorem called_of_workerless
    (workerless :
      (returned host configuration earlier files target).toolchain.mode? ≠
        some .worker) :
    Called (calling host configuration earlier).requests
      (View.calls.of
        ((View.course (calling host configuration earlier).requests).of
        (returned host configuration earlier files target).log))
      ⟨returned host configuration earlier files target, []⟩ := by
  have aligned :=
    (aligned_calling host configuration earlier).apply host
      (.compile files target)
  have nobody := aligned.toolchain.nobody_of_workerless workerless
  refine ⟨made_returned host configuration earlier files target, rfl, ?_⟩
  intro task carries _
  rcases carries with inHand | owes
  · cases inHand
  · exact (owes.nobody (List.map_eq_nil_iff.mp nobody)).elim

end

/--
A bundle is made with the settings in force at that moment.  For the first
bundle of a request they are those of its call.  All its bundles have these if
no worker was in use when the call returned, or if the optimizer has not been
set since; a worker that asks for inputs after that gets a bundle with the
settings of that later moment.
-/
theorem bundles_in_force
    (host : Host)
    (configuration : Configuration)
    (earlier later : List Operation)
    (files : SourceSet)
    (target : String) :
    let start := Session.new configuration
    let operations := earlier ++ .compile files target :: later
    let session := start.runAll host operations
    let before := start.runAll host earlier
    let returned := before.apply host (.compile files target)
    let calls := View.calls.of ((View.course before.requests).of session.log)
    (∀ position bundle answer,
        session.log[position]? = some (.called before.requests bundle answer) →
        bundle.configuration =
          (start.during host operations position).configuration) ∧
      (∀ call ∈ calls.head?, call.1.configuration = before.configuration) ∧
        (returned.toolchain.mode? ≠ some .worker →
          ∀ call ∈ calls, call.1.configuration = before.configuration) ∧
          ((∀ optimize, .withOptimizer optimize ∉ later) →
            ∀ call ∈ calls, call.1.configuration = before.configuration) := by
  intro start operations session before returned calls
  have new : start.Aligned := Session.Aligned.new configuration
  have aligned : before.Aligned := aligned_calling host configuration earlier
  have alignedReturned : returned.Aligned :=
    aligned.apply host (.compile files target)
  have whole : session = returned.runAll host later := by
    show start.runAll host (earlier ++ .compile files target :: later) = _
    rw [runAll_append]
    rfl
  have atOnce := settings_of_returned host configuration earlier files target
  have noOther :
      ∀ known,
        Called before.requests known ⟨returned, []⟩ → calls = known := by
    intro known called
    show View.calls.of ((View.course before.requests).of session.log) = known
    rw [whole]
    exact (called.runAll alignedReturned host later).calls
  refine ⟨?_, ?_, ?_, ?_⟩
  · intro position bundle answer called
    obtain ⟨_, operation, _, _, same, after, _, there⟩ :=
      new.observed host operations (Nat.zero_le position) called
    rw [same]
    exact settings_of_apply (new.runAll host _) host operation after there
  · cases first :
      View.calls.of ((View.course before.requests).of returned.log) with
    | nil =>
        rw [noOther []
          (called_of_uncalled host configuration earlier files target first)]
        simp
    | cons call others =>
        obtain ⟨added, logged⟩ := alignedReturned.runAll_grows host later
        have shape :
            calls =
              call ::
                (others ++
                  View.calls.of ((View.course before.requests).of added)) := by
          show View.calls.of ((View.course before.requests).of session.log) = _
          rw [whole, ← logged, View.of_append, View.of_append, first]
          rfl
        rw [shape, List.head?_cons]
        rintro _ ⟨⟩
        exact atOnce call (first ▸ List.mem_cons_self)
  · intro workerless
    rw [noOther _
      (called_of_workerless host configuration earlier files target workerless)]
    exact atOnce
  · intro kept
    show ∀ call ∈
      View.calls.of ((View.course before.requests).of session.log), _
    rw [whole]
    exact
      aligned.settings_of_calls host (.compile files target :: later)
        (unseen_calling host configuration earlier) (by simpa using kept)

/-- A request is retried with an optimizer that was set after its call. -/
theorem retried_with_other_settings :
    ¬ ∀ (host : Host) (configuration : Configuration)
        (earlier later : List Operation)
        (files : SourceSet) (target : String),
        let before := (Session.new configuration).runAll host earlier
        let session :=
          (Session.new configuration).runAll host
            (earlier ++ .compile files target :: later)
        ∀ call ∈ View.calls.of ((View.course before.requests).of session.log),
          call.1.configuration.optimize = before.configuration.optimize := by
  intro always
  have same :=
    always .insisting .standard [.load "url" .worker, .next 0]
      [.withOptimizer true, .next 0]
      (.ofList [("a.sol", "")]) "a.sol"
  revert same
  decide +kernel

end CompilerSession
