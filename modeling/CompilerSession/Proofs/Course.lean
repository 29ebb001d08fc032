import CompilerSession.Proofs.Moves
import CompilerSession.Proofs.Resolution
import Mathlib.Data.List.Chain

namespace CompilerSession

/-!
# The course of one request

What is seen of a request is a run of its own: it starts, and then one move
follows the other, whatever else the session does in between.  Everything about
retries is proved of such courses.  Between two calls the files grow by a path
that the backend missed, and that is what bounds the number of calls.
-/

open Session

/-- What is seen of a request so far, and the task that it stands at. -/
inductive Course
    (host : Host)
    (request : Nat)
    (asked : Program) :
    List Observation → Option Task → Prop where
  | start (snapshot? : Option Snapshot) :
      Course host request asked [.emitted (some request) .started snapshot?]
        (some (.pass (.new request asked.sources asked.target)))
  | move
      {seen more : List Observation}
      {task : Task}
      {later? : Option Task}
      (session : Session)
      (course : Course host request asked seen (some task))
      (move : Move host session task more later?) :
      Course host request asked (seen ++ more) later?

/--
Files that supply what a call missed: they keep its files and add a path that it
missed.
-/
def Supplies
    (files : SourceSet)
    (call : Bundle × Answer) : Prop :=
  call.1.files.Within files ∧
    ∃ path ∈ call.2.missing,
      call.1.files.contains path = false ∧ files.contains path = true

/-- The number of files fetched after the first call of a course. -/
def fetchedSinceCall (course : List Observation) : Nat :=
  (course.dropWhile fun observation => !observation.isCall).countP
    Observation.isFetched

/-- What is told of a request that ends with unresolved imports. -/
def unresolved
    (request : Nat)
    (paths : List String)
    (program : Program) : List Observation :=
  [.emitted (some request)
      (.finished false (.ofError (Failure.missingImports paths).diagnostic)
        (some program)) none,
    .emitted (some request) .duration none]

/--
A reply that misses inputs all of which were in the bundle that it answers.
-/
structure StuckReply
    (request : Nat)
    (course before after : List Observation)
    (bundle : Bundle)
    (answer : Answer) : Prop where
  shape : course = before ++ .answered request answer :: after
  missing : answer.missing ≠ []
  answers : (View.calls.of before).getLast? = some (bundle, answer)
  present : ∀ path ∈ answer.missing, bundle.files.contains path = true

/--
A course that ends with unresolved imports by the decision of the session.  A
backend may write a report with the same text, which is why the end must not
follow a reply that misses nothing.
-/
def EndsUnresolved
    (request : Nat)
    (course : List Observation)
    (paths : List String) : Prop :=
  ∃ before program,
    course = before ++ unresolved request paths program ∧
      ∀ answer,
        before.getLast? = some (.answered request answer) → answer.missing ≠ []

namespace Course

variable
  {host : Host}
  {request : Nat}
  {asked : Program}
  {seen : List Observation}
  {standing : Option Task}
  {task : Task}

/-- A task on the course of a request is one of that request. -/
theorem same_request
    (course : Course host request asked seen (some task)) :
    task.job.request = request := by
  generalize isStanding : some task = standing at course
  induction course generalizing task with
  | start snapshot? =>
      cases isStanding
      rfl
  | move session course move inductionHypothesis =>
      subst isStanding
      exact move.same_request.trans (inductionHypothesis rfl)

/-- A task on its course keeps the target that was asked for. -/
theorem same_target
    (course : Course host request asked seen (some task)) :
    task.job.target = asked.target := by
  generalize isStanding : some task = standing at course
  induction course generalizing task with
  | start snapshot? =>
      cases isStanding
      rfl
  | move session course move inductionHypothesis =>
      subst isStanding
      exact move.same_target.trans (inductionHypothesis rfl)

/-- Nothing is told of the end of a request that still stands somewhere. -/
theorem unended
    (course : Course host request asked seen (some task)) :
    View.endings.of seen = [] := by
  generalize isStanding : some task = standing at course
  induction course generalizing task with
  | start snapshot? =>
      rfl
  | move session course move inductionHypothesis =>
      subst isStanding
      rw [View.of_append, inductionHypothesis rfl, move.untold]
      rfl

end Course

/-! ## What is known where a request stands -/

/-- A failure that no unresolved imports have caused. -/
def Failure.Foreign (failure : Failure) : Prop :=
  ∀ paths, Report.ofError failure.diagnostic ≠
    .ofError (missingImports paths).diagnostic

/-- What is known of a request by the task that it stands at. -/
inductive Standing
    (request : Nat)
    (seen : List Observation) : Option Task → Prop where
  | first
      (job : Job)
      (complete : job.missing = [])
      (uncalled : View.calls.of seen = []) :
      Standing request seen (some (.pass job))
  | again
      (job : Job)
      (before : List Observation)
      (bundle : Bundle)
      (answer : Answer)
      (shape : seen = before ++ [.answered request answer])
      (missing : answer.missing ≠ [])
      (answers : (View.calls.of before).getLast? = some (bundle, answer))
      (sources : job.sources = bundle.files)
      (asks : job.missing = answer.missing) :
      Standing request seen (some (.pass job))
  | arriving
      (job : Job)
      (supplied :
        ∀ call ∈ (View.calls.of seen).getLast?, Supplies job.sources call) :
      Standing request seen (some (.arrive job))
  | dispatching
      (job : Job)
      (supplied :
        ∀ call ∈ (View.calls.of seen).getLast?, Supplies job.sources call) :
      Standing request seen (some (.dispatch job))
  | answered
      (job : Job)
      (bundle : Bundle)
      (answer : Answer)
      (answers : (View.calls.of seen).getLast? = some (bundle, answer))
      (sources : job.sources = bundle.files) :
      Standing request seen (some (.take job answer))
  | notReady (job : Job) :
      Standing request seen (some (.take job .notReady))
  | stuck
      (job : Job)
      (before : List Observation)
      (bundle : Bundle)
      (answer : Answer)
      (stuck : StuckReply request seen before [] bundle answer) :
      Standing request seen (some (.fail (.missingImports answer.missing) job))
  | failing
      (job : Job)
      (failure : Failure)
      (foreign : failure.Foreign) :
      Standing request seen (some (.fail failure job))
  | ended
      (stuck :
        ∀ paths,
          EndsUnresolved request seen paths →
          ∃ before after bundle answer,
            StuckReply request seen before after bundle answer) :
      Standing request seen none

private theorem head_append
    {front : String}
    {first : Char}
    (rest : String)
    (head : front.toList.head? = some first) :
    (front ++ rest).toList.head? = some first := by
  rw [String.toList_append, List.head?_append, head, Option.some_or]

/--
A failure whose message begins otherwise is not that of unresolved imports.
-/
private theorem foreign_of_head
    {failure : Failure}
    {first : Char}
    (head : failure.message.toList.head? = some first)
    (other : first ≠ 'U') :
    failure.Foreign := by
  intro paths same
  have messages : failure.message = (Failure.missingImports paths).message := by
    simpa [Report.ofError, Failure.diagnostic, Diagnostic.error,
      Diagnostic.bare] using same
  have unresolved :
      (Failure.missingImports paths).message.toList.head? = some 'U' :=
    head_append _ (by decide)
  rw [messages, unresolved] at head
  exact other (Option.some.inj head).symm

private theorem foreign_fetchFailed (path message : String) :
    (Failure.fetchFailed path message).Foreign :=
  foreign_of_head
    (head_append message
      (head_append "\": " (head_append path (by decide : _ = some 'F'))))
    (by decide)

private theorem foreign_noBackend :
    Failure.noBackend.Foreign :=
  foreign_of_head (by decide : _ = some 'C') (by decide)

private theorem foreign_gone :
    Worker.goneFailure.Foreign :=
  foreign_of_head (by decide : _ = some 'W') (by decide)

/--
A job that is neither stuck nor without missing inputs misses one that is not
there.
-/
private theorem lacking_of_going
    {job : Job}
    (going : ¬ isStuck job = true)
    (missing : job.missing ≠ []) :
    ∃ path ∈ job.missing, job.sources.contains path = false := by
  simpa [isStuck, missing] using going

/--
The end of a course with unresolved imports is that of its last two
observations.
-/
private theorem before_of_ends
    {request : Nat}
    {seen before : List Observation}
    {first second : Observation}
    {paths : List String}
    {program : Program}
    (shape :
      seen ++ [first, second] = before ++ unresolved request paths program) :
    before = seen ∧
      ∃ shown,
        first =
          .emitted (some request)
            (.finished false
              (.ofError (Failure.missingImports paths).diagnostic)
              (some shown)) none := by
  obtain ⟨same, ends⟩ := List.append_inj' shape rfl
  simp only [unresolved, List.cons.injEq] at ends
  exact ⟨same.symm, program, ends.1⟩

/--
An end that follows a reply is no decision of the session if the reply misses
nothing.
-/
private theorem decided_of_ends
    {request : Nat}
    {seen : List Observation}
    {first second : Observation}
    {answer : Answer}
    {paths : List String}
    (ends :
      EndsUnresolved request
        (seen ++ [.answered request answer, first, second]) paths)
    (complete : answer.missing = []) :
    False := by
  obtain ⟨before, program, shape, decided⟩ := ends
  rw [List.append_cons] at shape
  obtain ⟨rfl, _⟩ := before_of_ends shape
  exact decided answer List.getLast?_concat complete

namespace Course

variable
  {host : Host}
  {request : Nat}
  {asked : Program}
  {seen : List Observation}
  {standing : Option Task}

/-- A pass that goes on supplies what the last call missed. -/
private theorem supplied_of_resolve
    {session : Session}
    {job : Job}
    (stands : Standing request seen (some (.pass job)))
    (going : ¬ isStuck job = true)
    (succeeds : (session.resolution host job).failure? = none) :
    ∀ call ∈ (View.calls.of seen).getLast?,
      Supplies (session.resolution host job).files call := by
  intro call last
  cases stands with
  | first job complete uncalled =>
      simp [uncalled] at last
  | again job before bundle answer shape missing answers sources asks =>
      have same : (View.calls.of seen).getLast? = some (bundle, answer) := by
        simp [shape, answers]
      cases Option.mem_some_iff.mp (same ▸ last)
      obtain ⟨path, member, lacking⟩ :=
        lacking_of_going going (by simpa [asks] using missing)
      refine ⟨?_, path, asks ▸ member, sources ▸ lacking, ?_⟩
      · rw [← sources]
        exact host.library.within_resolve _ _ _ _
      · exact host.library.contains_resolve _ _ _ _ member succeeds

/-- What is known by its task holds of a request on its course. -/
theorem stands
    (course : Course host request asked seen standing) :
    Standing request seen standing := by
  induction course with
  | start snapshot? =>
      exact .first _ rfl (by simp)
  | move session course move inductionHypothesis =>
      have own := course.same_request
      cases move with
      | stick job stuck =>
          cases inductionHypothesis with
          | first job complete uncalled =>
              simp [isStuck, complete] at stuck
          | again job before bundle answer shape missing answers sources asks =>
              rw [asks]
              refine .stuck job before bundle answer
                ⟨by simpa using shape, missing, answers, ?_⟩
              intro path member
              rw [isStuck, asks, sources] at stuck
              have present := (Bool.and_eq_true_iff.mp stuck).2
              exact List.all_eq_true.mp present path member
      | resolve job going succeeds =>
          refine .arriving _ ?_
          show ∀ call ∈ (View.calls.of (_ ++ _)).getLast?,
            Supplies (session.resolution host job).files call
          simpa using supplied_of_resolve inductionHypothesis going succeeds
      | lack job failure going fails =>
          obtain ⟨path, message, same⟩ :=
            host.library.failure_resolve _ _ _ _ fails
          rw [same]
          exact .failing _ _ (foreign_fetchFailed path message)
      | arrive job =>
          cases inductionHypothesis with
          | arriving job supplied =>
              exact .dispatching job (by simpa using supplied)
      | call job backend installed =>
          exact .answered job (session.bundleFor job) _ (by simp) rfl
      | miss job missing =>
          exact .notReady job
      | lose job failure missing cause =>
          rcases cause with rfl | rfl
          · exact .failing job _ foreign_noBackend
          · exact .failing job _ foreign_gone
      | retry job answer missing =>
          cases own
          cases inductionHypothesis with
          | answered job bundle answer answers sources =>
              exact .again _ _ bundle answer rfl missing answers sources rfl
          | notReady job =>
              exact absurd rfl missing
      | reject job answer complete fatal =>
          cases own
          exact .ended fun paths ends => (decided_of_ends ends complete).elim
      | accept job answer modern complete sound isModern =>
          cases own
          exact .ended fun paths ends => (decided_of_ends ends complete).elim
      | fail failure job =>
          cases own
          refine .ended fun paths ends => ?_
          obtain ⟨before, program, shape, decided⟩ := ends
          obtain ⟨rfl, shown, same⟩ := before_of_ends shape
          cases inductionHypothesis with
          | stuck job before bundle answer stuck =>
              refine
                ⟨before, unresolved job.request answer.missing job.program,
                  bundle, answer, ?_, stuck.missing, stuck.answers,
                  stuck.present⟩
              rw [stuck.shape, List.append_assoc]
              rfl
          | failing job failure foreign =>
              refine absurd ?_ (foreign paths)
              injection same with _ told _
              injection told

end Course

/-! ## What a reply that misses inputs leads to -/

/-- What has become of a request since a reply to it that missed inputs. -/
inductive Aftermath
    (request : Nat)
    (asked : Program)
    (bundle : Bundle)
    (answer : Answer) :
    List Observation → Option Task → Prop where
  | pending
      (job : Job)
      (sources : job.sources = bundle.files)
      (asks : job.missing = answer.missing) :
      Aftermath request asked bundle answer [] (some (.pass job))
  | stuck
      (job : Job)
      (sources : job.sources = bundle.files) :
      Aftermath request asked bundle answer []
        (some (.fail (.missingImports answer.missing) job))
  | ended :
      Aftermath request asked bundle answer
        (unresolved request answer.missing ⟨bundle.files, asked.target⟩) none
  | supplied
      (after : List Observation)
      (standing : Option Task)
      (path : String)
      (member : path ∈ answer.missing)
      (lacking : bundle.files.contains path = false) :
      Aftermath request asked bundle answer after standing

/-- The aftermath of a reply goes on with every move of its request. -/
private theorem Aftermath.move
    {host : Host}
    {session : Session}
    {request : Nat}
    {asked : Program}
    {bundle : Bundle}
    {answer : Answer}
    {after more : List Observation}
    {task : Task}
    {later? : Option Task}
    (aftermath : Aftermath request asked bundle answer after (some task))
    (own : task.job.request = request)
    (target : task.job.target = asked.target)
    (missing : answer.missing ≠ [])
    (move : Move host session task more later?) :
    Aftermath request asked bundle answer (after ++ more) later? := by
  cases aftermath with
  | supplied after standing path member lacking =>
      exact .supplied _ _ path member lacking
  | stuck job sources =>
      cases move
      cases own
      have isProgram : job.program = ⟨bundle.files, asked.target⟩ := by
        rw [← sources, ← target]
        rfl
      show Aftermath job.request asked bundle answer
        (unresolved job.request answer.missing job.program) none
      rw [isProgram]
      exact .ended
  | pending job sources asks =>
      by_cases stuck : isStuck job = true
      · cases move with
        | stick job _ =>
            rw [asks]
            exact .stuck job sources
        | resolve job going _ =>
            exact absurd stuck going
        | lack job failure going _ =>
            exact absurd stuck going
      · obtain ⟨path, member, lacking⟩ :=
          lacking_of_going stuck (asks ▸ missing)
        exact .supplied _ _ path (asks ▸ member) (sources ▸ lacking)

/-- A reply that misses inputs is seen alone and sends its job back. -/
private theorem Move.retry_of_answered
    {host : Host}
    {session : Session}
    {request : Nat}
    {task : Task}
    {before after : List Observation}
    {later? : Option Task}
    {answer : Answer}
    (move :
      Move host session task
        (before ++ .answered request answer :: after) later?)
    (missing : answer.missing ≠ []) :
    before = [] ∧ after = [] ∧
      ∃ job, task = .take job answer ∧
        later? = some (.pass (job.withMissing answer.missing)) := by
  generalize isSeen : before ++ .answered request answer :: after = seen at move
  have member : .answered request answer ∈ seen := by
    simp [← isSeen]
  cases move with
  | retry job reply asked =>
      obtain ⟨nothing, isReply⟩ :=
        (List.append_eq_singleton_iff.mp isSeen).resolve_right (by simp)
      injection isReply with isReply isAfter
      injection isReply with _ isReply
      subst isReply
      exact ⟨nothing, isAfter, job, rfl, rfl⟩
  | reject job reply complete fatal =>
      simp only [List.mem_cons, Observation.answered.injEq, reduceCtorEq,
        List.not_mem_nil, or_false] at member
      rw [← member.2] at complete
      exact absurd complete missing
  | accept job reply modern complete sound isModern =>
      simp only [List.mem_cons, Observation.answered.injEq, reduceCtorEq,
        List.not_mem_nil, or_false] at member
      rw [← member.2] at complete
      exact absurd complete missing
  | _ =>
      simp [Resolution.observations] at member

namespace Course

variable
  {host : Host}
  {request : Nat}
  {asked : Program}
  {seen : List Observation}
  {standing : Option Task}

/--
Every reply that missed inputs answers the call before it and has had its
consequences.
-/
theorem aftermath
    (course : Course host request asked seen standing)
    {before after : List Observation}
    {answer : Answer}
    (shape : seen = before ++ .answered request answer :: after)
    (missing : answer.missing ≠ []) :
    ∃ bundle,
      (View.calls.of before).getLast? = some (bundle, answer) ∧
        Aftermath request asked bundle answer after standing := by
  induction course generalizing after with
  | start snapshot? =>
      rcases List.append_eq_singleton_iff.mp shape.symm with
        ⟨_, other⟩ | ⟨_, nothing⟩
      · cases other
      · cases nothing
  | move session course move inductionHypothesis =>
      -- The reply is seen in this move, or it was seen before and has its
      -- aftermath already.
      rcases split_of_append shape with
        ⟨front, isBefore, isMore⟩ | ⟨back, isSeen, isAfter⟩
      · subst isBefore isMore
        obtain ⟨rfl, rfl, job, rfl, rfl⟩ := move.retry_of_answered missing
        cases course.stands with
        | answered job bundle answer answers sources =>
            exact ⟨bundle, by simpa using answers, .pending _ sources rfl⟩
        | notReady job =>
            exact absurd rfl missing
      · subst isAfter
        obtain ⟨bundle, answers, aftermath⟩ := inductionHypothesis isSeen
        exact
          ⟨bundle, answers,
            aftermath.move course.same_request course.same_target missing move⟩

/-! ## The end with unresolved imports -/

/--
A reply that misses only what is there is the last of a request that is not in
hand.
-/
theorem told_of_stuck
    (course : Course host request asked seen standing)
    (rests : ∀ task, standing = some task → task.Waits)
    {before after : List Observation}
    {bundle : Bundle}
    {answer : Answer}
    (stuck : StuckReply request seen before after bundle answer) :
    after = unresolved request answer.missing ⟨bundle.files, asked.target⟩ := by
  obtain ⟨other, answers, aftermath⟩ :=
    course.aftermath stuck.shape stuck.missing
  cases answers.symm.trans stuck.answers
  cases aftermath with
  | pending job sources asks =>
      exact (rests _ rfl).elim
  | stuck job sources =>
      cases rests _ rfl
  | ended =>
      rfl
  | supplied after standing path member lacking =>
      rw [stuck.present path member] at lacking
      cases lacking

/--
A request ends with unresolved imports only after a reply that misses what is
there.
-/
theorem stuck_of_unresolved
    (course : Course host request asked seen standing)
    {paths : List String}
    (ends : EndsUnresolved request seen paths) :
    ∃ before after bundle answer,
      StuckReply request seen before after bundle answer := by
  cases course.stands with
  | ended stuck =>
      exact stuck paths ends
  | _ =>
      obtain ⟨before, program, shape, _⟩ := ends
      have untold := course.unended
      simp [shape, unresolved] at untold

/-! ## How many calls there are -/

/-- Between two calls the files grow by a path that the backend missed. -/
theorem chain
    (course : Course host request asked seen standing) :
    (View.calls.of seen).IsChain fun earlier later =>
      Supplies later.1.files earlier := by
  induction course with
  | start snapshot? =>
      exact .nil
  | move session course move inductionHypothesis =>
      cases move with
      | call job backend installed =>
          cases course.stands with
          | dispatching job supplied =>
              rw [View.of_append]
              refine inductionHypothesis.append (.singleton _) ?_
              intro earlier last later first
              cases first
              exact supplied earlier last
      | _ =>
          simpa using inductionHypothesis

end Course

/--
The calls that no file is fetched for: the first, unless a request is about to
call.
-/
private def slack : Option Task → Nat
  | some (.pass job) => if job.missing = [] then 0 else 1
  | some (.arrive _) => 0
  | some (.dispatch _) => 0
  | _ => 1

/-- The number of paths that the files of a task still lack. -/
private def absent (host : Host) : Option Task → Nat
  | some task => host.library.absent task.job.sources
  | none => 0

private theorem slack_le
    (standing : Option Task) :
    slack standing ≤ 1 := by
  unfold slack
  split
  · split <;> simp
  · exact Nat.zero_le _
  · exact Nat.zero_le _
  · exact Nat.le_refl _

/--
A pass for missing files comes after the call that no file is fetched for.
-/
private theorem slack_retry
    {missing : List String}
    (asked : missing ≠ [])
    (job : Job) :
    slack (some (.pass (job.withMissing missing))) = 1 :=
  if_neg asked

/-- A resolution leaves no more paths absent than there were. -/
private theorem absent_resolution_le
    (host : Host)
    (session : Session)
    (job : Job) :
    host.library.absent (session.resolution host job).files ≤
      host.library.absent job.sources :=
  host.library.absent_resolve_le _ _ _ _

/-- A resolution that succeeds finds a path if its job misses something. -/
private theorem absent_resolution
    {host : Host}
    {session : Session}
    {job : Job}
    (going : ¬ isStuck job = true)
    (succeeds : (session.resolution host job).failure? = none) :
    host.library.absent (session.resolution host job).files +
      slack (some (.pass job)) ≤
      host.library.absent job.sources := by
  by_cases complete : job.missing = []
  · simpa [slack, complete] using absent_resolution_le host session job
  · have fewer :
        host.library.absent (session.resolution host job).files <
          host.library.absent job.sources :=
      absent_resolve_of_missing host session
        (List.isEmpty_eq_false_iff.mpr complete) going
        succeeds
    simpa [slack, complete] using Nat.succ_le_of_lt fewer

/-- A resolution that succeeds fetches a file if its job misses something. -/
private theorem fetched_resolution
    {host : Host}
    {session : Session}
    {job : Job}
    (going : ¬ isStuck job = true)
    (succeeds : (session.resolution host job).failure? = none) :
    slack (some (.pass job)) ≤
      ((session.resolution host job).observations job.request).countP
        Observation.isFetched := by
  have found := absent_resolution going succeeds
  cases made : (session.resolution host job).requests with
  | nil =>
      have same : (session.resolution host job).files = job.sources :=
        host.library.files_of_no_request _ _ _ _ made
      rw [same] at found
      have none : slack (some (.pass job)) = 0 := by omega
      simp [none]
  | cons first rest =>
      obtain ⟨content, answered⟩ :=
        host.library.fetched_resolve _ _ _ _ succeeds first (by
          show first ∈ (session.resolution host job).requests
          simp [made])
      have counted :
          1 ≤ ((session.resolution host job).observations job.request).countP
            Observation.isFetched := by
        simp [Resolution.observations, made, answered, Observation.isFetched]
      exact Nat.le_trans (slack_le _) counted

namespace Move

variable
  {host : Host}
  {session : Session}
  {task : Task}
  {more : List Observation}
  {later? : Option Task}

/-- A call needs no file fetched before it if it is the first. -/
private theorem calls_le_slack
    (move : Move host session task more later?) :
    (View.calls.of more).length ≤ slack later? := by
  cases move <;> simp [slack]

/-- Every call but the first follows a file fetched since the one before. -/
private theorem calls_le_fetched
    (move : Move host session task more later?) :
    (View.calls.of more).length + slack (some task) ≤
      slack later? + more.countP Observation.isFetched := by
  cases move with
  | stick job stuck =>
      simpa [slack] using slack_le (some (.pass job))
  | resolve job going succeeds =>
      simpa [slack] using fetched_resolution going succeeds
  | lack job failure going fails =>
      rw [View.calls_observations, List.length_nil, Nat.zero_add]
      exact Nat.le_trans (slack_le _) (Nat.le_add_right _ _)
  | retry job answer missing =>
      rw [slack_retry missing]
      simp [slack]
  | _ =>
      simp [slack]

/-- Every call but the first follows a path found since the one before. -/
private theorem calls_le_absent
    (move : Move host session task more later?) :
    (View.calls.of more).length + absent host later? + slack (some task) ≤
      absent host (some task) + slack later? := by
  cases move with
  | stick job stuck =>
      have atMost := slack_le (some (.pass job))
      simpa [slack, absent, Task.job] using atMost
  | resolve job going succeeds =>
      rw [View.calls_observations, List.length_nil, Nat.zero_add]
      exact absent_resolution going succeeds
  | lack job failure going fails =>
      rw [View.calls_observations, List.length_nil, Nat.zero_add]
      exact Nat.add_le_add (absent_resolution_le host session job) (slack_le _)
  | retry job answer missing =>
      rw [slack_retry missing]
      simp [slack, absent, Task.job, Job.withMissing]
  | _ =>
      simp [slack, absent, Task.job, Nat.add_comm]

end Move

/-! ## Bounds of the number of calls -/

private theorem fetchedSinceCall_append
    (course more : List Observation) :
    fetchedSinceCall (course ++ more) =
      if View.calls.of course = [] then fetchedSinceCall more
      else fetchedSinceCall course + more.countP Observation.isFetched := by
  induction course with
  | nil =>
      rfl
  | cons observation rest inductionHypothesis =>
      unfold fetchedSinceCall at inductionHypothesis ⊢
      cases observation with
      | called request bundle answer =>
          simp [Observation.isCall, Observation.isFetched]
      | _ =>
          simpa [Observation.isCall] using inductionHypothesis

namespace Course

variable
  {host : Host}
  {request : Nat}
  {asked : Program}
  {seen : List Observation}
  {standing : Option Task}

/-- Apart from the slack, every call has a file fetched since the first one. -/
private theorem calls_le_fetched
    (course : Course host request asked seen standing) :
    (View.calls.of seen).length ≤ slack standing + fetchedSinceCall seen := by
  induction course with
  | start snapshot? =>
      simp
  | move session course move inductionHypothesis =>
      rw [View.of_append, List.length_append, fetchedSinceCall_append]
      split
      · rename_i uncalled
        have first := move.calls_le_slack
        rw [uncalled, List.length_nil]
        omega
      · have paid := move.calls_le_fetched
        omega

private theorem calls_le_absent
    (course : Course host request asked seen standing) :
    (View.calls.of seen).length + absent host standing ≤
      slack standing + host.library.absent asked.sources := by
  induction course with
  | start snapshot? =>
      simp [slack, absent, Job.new, Task.job]
  | move session course move inductionHypothesis =>
      have paid := move.calls_le_absent
      rw [View.of_append, List.length_append]
      omega

/--
There is at most one call more than there are files fetched after the first.
-/
theorem calls_le_fetchedSinceCall
    (course : Course host request asked seen standing) :
    (View.calls.of seen).length ≤ 1 + fetchedSinceCall seen :=
  Nat.le_trans course.calls_le_fetched
    (Nat.add_le_add_right (slack_le standing) _)

/-- There is at most one call more than there are paths to be found. -/
theorem calls_le_paths
    (course : Course host request asked seen standing) :
    (View.calls.of seen).length ≤ 1 + host.library.absent asked.sources := by
  have bound := course.calls_le_absent
  have atMost := slack_le standing
  omega

end Course

end CompilerSession
