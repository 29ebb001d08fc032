import CompilerSession.Proofs.Retries

namespace CompilerSession

/-!
# What a request fetches

The files of a request are those of its call and, put in after them, those that
have been fetched for it.  `Program.filesAfter` computes them from what has been
seen of the request, and wherever the request is, these are its files.  A path
that is fetched is not among them, so no path is fetched twice; and the first
fetch that fails is the last thing that happens before the request ends.
-/

open Session

/-! ## Views of fetches -/

namespace Observation

/-- The path that is fetched. -/
def fetchedPath? : Observation → Option String
  | .fetched _ path _ => some path
  | _ => none

/-- The file that a fetch brings in. -/
def fetchedFile? : Observation → Option (String × String)
  | .fetched _ path (.ok content) => some (path, content)
  | _ => none

end Observation

attribute [simp] Observation.fetchedPath? Observation.fetchedFile?

namespace View

/-- The paths that are fetched. -/
def fetchedPaths : View String where
  see := Observation.fetchedPath?
  deaf _ := rfl

/-- The files that fetches bring in. -/
def fetchedFiles : View (String × String) where
  see := Observation.fetchedFile?
  deaf _ := rfl

@[simp] theorem see_fetchedPaths (observation : Observation) :
    fetchedPaths.see observation = observation.fetchedPath? :=
  rfl

@[simp] theorem see_fetchedFiles (observation : Observation) :
    fetchedFiles.see observation = observation.fetchedFile? :=
  rfl

end View

/-- Every file that is brought in has been fetched. -/
theorem View.fetchedFiles_sublist (log : List Observation) :
    ((View.fetchedFiles.of log).map Prod.fst).Sublist
      (View.fetchedPaths.of log) := by
  induction log with
  | nil =>
      exact .slnil
  | cons observation rest inductionHypothesis =>
      rw [View.of_cons, View.of_cons, List.map_append]
      refine List.Sublist.append ?_ inductionHypothesis
      cases observation with
      | fetched request path answer =>
          cases answer <;> simp
      | _ =>
          simp

/-- The file that a request to the library brings in. -/
def Request.file? (made : Request) : Option (String × String) :=
  match made.fetch.answer with
  | .ok content => some (made.path, content)
  | .error _ => none

namespace Resolution

/-- The files that a resolution brings in, in the order of their fetches. -/
def brought (resolution : Resolution) : List (String × String) :=
  resolution.requests.filterMap Request.file?

end Resolution

@[simp] theorem View.fetchedPaths_observations
    (resolution : Resolution)
    (request : Nat) :
    View.fetchedPaths.of (resolution.observations request) =
      resolution.requests.map Request.path := by
  simp [View.of, Resolution.observations, View.fetchedPaths, List.filterMap_map,
    Function.comp_def]

@[simp] theorem View.fetchedFiles_observations
    (resolution : Resolution)
    (request : Nat) :
    View.fetchedFiles.of (resolution.observations request) =
      resolution.brought := by
  simp only [View.of, Resolution.observations, Resolution.brought,
    List.filterMap_map]
  congr 1
  funext made
  unfold Request.file?
  cases answered : made.fetch.answer <;> simp [answered]

/-! ## Files that are added in a row -/

namespace SourceSet

theorem insertAll_append
    (files : SourceSet)
    (first second : List (String × String)) :
    files.insertAll (first ++ second) =
      (files.insertAll first).insertAll second :=
  List.foldl_append

/-- Inserting pairs loses no file and changes no content. -/
theorem within_insertAll
    (files : SourceSet)
    (pairs : List (String × String)) :
    files.Within (files.insertAll pairs) := by
  induction pairs generalizing files with
  | nil =>
      exact .refl files
  | cons pair rest inductionHypothesis =>
      exact (files.within_insert pair.1 pair.2).trans (inductionHypothesis _)

/--
A path is present after adding files if it was before or is that of one of them.
-/
theorem contains_insertAll
    {files : SourceSet}
    {pairs : List (String × String)}
    {path : String} :
    (files.insertAll pairs).contains path = true ↔
      files.contains path = true ∨ path ∈ pairs.map Prod.fst := by
  induction pairs generalizing files with
  | nil =>
      simp [insertAll]
  | cons pair rest inductionHypothesis =>
      have split : files.insertAll (pair :: rest) =
          (files.insert pair.1 pair.2).insertAll rest :=
        rfl
      rw [split, inductionHypothesis]
      simp only [contains_insert, Bool.or_eq_true, decide_eq_true_eq,
        List.map_cons, List.mem_cons]
      grind

/--
Files whose paths are new and apart keep the contents that they come with.
-/
theorem content?_insertAll
    {files : SourceSet}
    {pairs : List (String × String)}
    {path content : String}
    (apart : (pairs.map Prod.fst).Nodup)
    (new : ∀ path ∈ pairs.map Prod.fst, files.contains path = false)
    (member : (path, content) ∈ pairs) :
    (files.insertAll pairs).content? path = some content := by
  obtain ⟨earlier, later, rfl⟩ := List.append_of_mem member
  rw [List.map_append, List.map_cons] at apart new
  have notEarlier : path ∉ earlier.map Prod.fst := fun earlierMember =>
    (List.nodup_append.mp apart).2.2 path earlierMember path
      List.mem_cons_self rfl
  have missing : (files.insertAll earlier).contains path = false := by
    rw [Bool.eq_false_iff, Ne, contains_insertAll]
    rintro (before | known)
    · rw [new path (by simp)] at before
      cases before
    · exact notEarlier known
  have here : ((files.insertAll earlier).insert path content).content? path =
    some content := by
    rw [content?_insert, if_pos ⟨rfl, missing⟩]
  rw [insertAll_append]
  exact within_insertAll _ later path content here

end SourceSet

/-! ## The fetches of one resolution -/

/--
What the fetches of a resolution have to do with the files before and after it.
-/
structure Resolution.Grows
    (files : SourceSet)
    (resolution : Resolution) : Prop where
  once : (resolution.requests.map Request.path).Nodup
  new :
    ∀ path ∈ resolution.requests.map Request.path, files.contains path = false
  files : resolution.files = files.insertAll resolution.brought

namespace Library

/--
Exploration fetches a path once, only if it is missing, and keeps what comes in.
-/
theorem grows_explore
    (library : Library)
    (target : String)
    (moment : Nat)
    (files : SourceSet)
    (pending : List String) :
    (library.explore target moment files pending).Grows files := by
  fun_induction library.explore target moment files pending with
  | case1 moment files pending allPresent =>
      exact ⟨.nil, List.forall_mem_nil _, rfl⟩
  | case2 moment files pending path rest found message answered =>
      have missing := not_contains_of_dropWhile found
      refine ⟨List.nodup_singleton path, ?_, ?_⟩
      · intro other member
        rw [List.mem_singleton.mp member]
        exact missing
      · simp [Resolution.brought, Request.file?, answered, SourceSet.insertAll]
  | case3 moment files pending path rest found content answered _ others
      inductionHypothesis =>
      have missing := not_contains_of_dropWhile found
      refine ⟨List.nodup_cons.mpr ⟨?_, inductionHypothesis.once⟩, ?_, ?_⟩
      · intro again
        have present := inductionHypothesis.new path again
        simp at present
      · intro other member
        rcases List.mem_cons.mp member with rfl | later
        · exact missing
        · have stillMissing := inductionHypothesis.new other later
          simp only [SourceSet.contains_insert,
            Bool.or_eq_false_iff] at stillMissing
          exact stillMissing.2
      · rw [inductionHypothesis.files]
        simp only [Resolution.brought, List.filterMap_cons, Request.file?,
          answered]
        rfl

/--
A resolution that fails ends with the fetch that failed, and all before it
succeeded.
-/
theorem failed_explore
    (library : Library)
    (target : String)
    (moment : Nat)
    (files : SourceSet)
    (pending : List String)
    {failure : Failure}
    (fails :
      (library.explore target moment files pending).failure? = some failure) :
    ∃ earlier path fetch message,
      (library.explore target moment files pending).requests =
        earlier ++ [⟨path, fetch⟩] ∧
        fetch.answer = .error message ∧
        failure = .fetchFailed path message ∧
        ∀ made ∈ earlier, ∃ content, made.fetch.answer = .ok content := by
  fun_induction library.explore target moment files pending with
  | case1 =>
      cases fails
  | case2 moment files pending path rest found message answered =>
      cases fails
      exact ⟨[], path, _, message, rfl, answered, rfl, List.forall_mem_nil _⟩
  | case3 moment files pending path rest found content answered _ others
      inductionHypothesis =>
      obtain ⟨earlier, last, fetch, message, shape, refused, same, succeeded⟩ :=
        inductionHypothesis fails
      refine ⟨_ :: earlier, last, fetch, message, congrArg _ shape, refused,
        same, ?_⟩
      intro made member
      rcases List.mem_cons.mp member with rfl | before
      · exact ⟨content, answered⟩
      · exact succeeded made before

end Library

/-! ## The files of a request -/

/-- The files of a request after what is seen of it. -/
def Program.filesAfter
    (asked : Program)
    (seen : List Observation) : SourceSet :=
  asked.sources.insertAll (View.fetchedFiles.of seen)

namespace Program

theorem filesAfter_append
    (asked : Program)
    (seen more : List Observation) :
    asked.filesAfter (seen ++ more) =
      (asked.filesAfter seen).insertAll (View.fetchedFiles.of more) := by
  rw [filesAfter, View.of_append, SourceSet.insertAll_append, filesAfter]

/-- Where nothing is fetched, the files stay as they are. -/
theorem filesAfter_of_nothing
    (asked : Program)
    (seen : List Observation)
    {more : List Observation}
    (nothing : View.fetchedFiles.of more = []) :
    asked.filesAfter (seen ++ more) = asked.filesAfter seen := by
  rw [filesAfter_append, nothing]
  rfl

/-- The caller's files are there, and so is every file that was fetched. -/
theorem contains_filesAfter
    {asked : Program}
    {seen : List Observation}
    {path : String} :
    (asked.filesAfter seen).contains path = true ↔
      asked.sources.contains path = true ∨
        path ∈ (View.fetchedFiles.of seen).map Prod.fst :=
  SourceSet.contains_insertAll

/-- Seeing more of a request loses none of its files. -/
theorem within_filesAfter
    (asked : Program)
    (seen more : List Observation) :
    (asked.filesAfter seen).Within (asked.filesAfter (seen ++ more)) := by
  rw [filesAfter_append]
  exact SourceSet.within_insertAll _ _

end Program

/-- A task that is not yet about to fail. -/
def Task.Going : Task → Prop
  | .fail _ _ => False
  | _ => True

namespace Move

variable
  {host : Host}
  {session : Session}
  {task later : Task}
  {more : List Observation}
  {later? : Option Task}

/-- The files of a job grow by what is fetched for it. -/
theorem sources
    (move : Move host session task more (some later)) :
    later.job.sources =
      task.job.sources.insertAll (View.fetchedFiles.of more) := by
  cases move with
  | resolve job going succeeds =>
      rw [View.fetchedFiles_observations]
      exact (host.library.grows_explore _ _ _ _).files
  | lack job failure going fails =>
      rw [View.fetchedFiles_observations]
      exact (host.library.grows_explore _ _ _ _).files
  | call job backend installed =>
      simp [SourceSet.insertAll, Task.job]
  | retry job answer missing =>
      simp [SourceSet.insertAll, Task.job, Job.withMissing]
  | _ =>
      rfl

/--
A move that tells of an end tells of the program of its job, and fetches
nothing.
-/
theorem program_of_told
    {request? : Option Nat}
    {success : Bool}
    {report : Report}
    {program : Program}
    {snapshot? : Option Snapshot}
    (move : Move host session task more later?)
    (told :
      .emitted request? (.finished success report (some program))
        snapshot? ∈ more) :
    program = task.job.program ∧ View.fetchedFiles.of more = [] := by
  cases move with
  | reject job answer complete fatal =>
      simp only [List.mem_cons, reduceCtorEq, Observation.emitted.injEq,
        Event.finished.injEq, Option.some.injEq, List.not_mem_nil, and_false,
        false_and, or_false, false_or] at told
      exact ⟨told.2.1.2.2, by simp⟩
  | accept job answer modern complete sound isModern =>
      simp only [List.mem_cons, reduceCtorEq, Observation.emitted.injEq,
        Event.finished.injEq, Option.some.injEq, List.not_mem_nil, and_false,
        false_and, or_false, false_or] at told
      exact ⟨told.2.1.2.2, by simp⟩
  | fail failure job =>
      simp only [List.mem_cons, reduceCtorEq, Observation.emitted.injEq,
        Event.finished.injEq, Option.some.injEq, List.not_mem_nil, and_false,
        false_and, or_false] at told
      exact ⟨told.2.1.2.2, by simp⟩
  | _ =>
      simp [Resolution.observations] at told

/-- A task that is about to fail becomes no other. -/
theorem going
    (move : Move host session task more (some later)) :
    task.Going := by
  cases move <;> trivial

/--
Only the resolution of a pass fetches, and only what the files of its job lack.
-/
theorem fetches
    (move : Move host session task more later?) :
    View.fetchedPaths.of more = [] ∨
      task.Going ∧ (View.fetchedPaths.of more).Nodup ∧
        ∀ path ∈ View.fetchedPaths.of more,
          task.job.sources.contains path = false := by
  have resolution :
      ∀ job,
        (View.fetchedPaths.of
          ((session.resolution host job).observations job.request)).Nodup ∧
          ∀ path ∈
              View.fetchedPaths.of
                ((session.resolution host job).observations job.request),
            job.sources.contains path = false := by
    intro job
    have grows : (session.resolution host job).Grows job.sources :=
      host.library.grows_explore _ _ _ _
    rw [View.fetchedPaths_observations]
    exact ⟨grows.once, grows.new⟩
  cases move with
  | resolve job going succeeds =>
      exact Or.inr ⟨trivial, resolution job⟩
  | lack job failure going fails =>
      exact Or.inr ⟨trivial, resolution job⟩
  | _ =>
      exact Or.inl (by simp)

/--
While a request does not fail, every path that is fetched brings in a file.
-/
theorem fetchedPaths
    (move : Move host session task more (some later))
    (going : later.Going) :
    View.fetchedPaths.of more = (View.fetchedFiles.of more).map Prod.fst := by
  cases move with
  | resolve job isGoing succeeds =>
      rw [View.fetchedPaths_observations, View.fetchedFiles_observations]
      have succeeded := host.library.fetched_resolve _ _ _ _ succeeds
      change ∀ made ∈ (session.resolution host job).requests, _ at succeeded
      unfold Resolution.brought
      generalize (session.resolution host job).requests =
        requests at succeeded ⊢
      induction requests with
      | nil =>
          rfl
      | cons made rest inductionHypothesis =>
          obtain ⟨content, answered⟩ := succeeded made List.mem_cons_self
          have others := inductionHypothesis fun other member =>
            succeeded other (List.mem_cons_of_mem _ member)
          simp [Request.file?, answered, others]
  | lack job failure isGoing fails =>
      exact going.elim
  | stick job stuck =>
      exact going.elim
  | lose job failure missing cause =>
      exact going.elim
  | _ =>
      simp

/-- A fetch that fails is seen only if a request of the resolution failed. -/
private theorem request_of_failed
    {requests : List Request}
    {request owner : Nat}
    {path message : String}
    (seen :
      .fetched owner path (.error message) ∈
        requests.map fun made =>
          Observation.fetched request made.path made.fetch.answer) :
    ∃ made ∈ requests, made.fetch.answer = .error message := by
  obtain ⟨made, member, same⟩ := List.mem_map.mp seen
  simp only [Observation.fetched.injEq] at same
  exact ⟨made, member, same.2.2⟩

/--
A fetch that fails is the last thing seen before its request is about to fail
with it.
-/
theorem failed_fetch
    {request : Nat}
    {path message : String}
    {front after : List Observation}
    (move : Move host session task more later?)
    (shape : more = front ++ .fetched request path (.error message) :: after) :
    after = [] ∧
      ∃ job, later? = some (.fail (.fetchFailed path message) job) := by
  have member : .fetched request path (.error message) ∈ more := by
    simp [shape]
  cases move with
  | resolve job going succeeds =>
      obtain ⟨made, inRequests, failed⟩ := request_of_failed member
      obtain ⟨content, answered⟩ :=
        host.library.fetched_resolve _ _ _ _ succeeds made inRequests
      rw [answered] at failed
      cases failed
  | lack job failure going fails =>
      obtain ⟨earlier, last, fetch, reason, isRequests, failed, same,
        succeeded⟩ :=
        host.library.failed_explore _ _ _ _ fails
      change (session.resolution host job).requests = _ at isRequests
      rw [Resolution.observations, isRequests, List.map_append] at shape
      rcases split_of_append shape with
        ⟨middle, _, isLast⟩ | ⟨back, isEarlier, _⟩
      · rw [List.map_singleton, failed] at isLast
        obtain ⟨_, isFetch⟩ :=
          (List.append_eq_singleton_iff.mp isLast.symm).resolve_right (by simp)
        simp only [List.cons.injEq, Observation.fetched.injEq,
          Except.error.injEq] at isFetch
        obtain ⟨⟨_, isPath, isMessage⟩, isAfter⟩ := isFetch
        exact ⟨isAfter, _, by rw [same, isPath, isMessage]⟩
      · obtain ⟨made, inEarlier, refused⟩ :=
          request_of_failed
            (isEarlier ▸ List.mem_append_right _ List.mem_cons_self)
        obtain ⟨content, answered⟩ := succeeded made inEarlier
        rw [answered] at refused
        cases refused
  | _ =>
      simp at member

end Move

/-- What is told of a request that ends with a failure. -/
def toldFailure
    (request : Nat)
    (failure : Failure)
    (program : Program) : List Observation :=
  [.emitted (some request)
    (.finished false (.ofError failure.diagnostic) (some program)) none,
      .emitted (some request) .duration none]

namespace Course

variable
  {host : Host}
  {request : Nat}
  {asked : Program}
  {seen : List Observation}
  {standing : Option Task}
  {task : Task}

/--
Wherever a request stands, its files are those of its call and what it has
fetched.
-/
theorem sources
    (course : Course host request asked seen (some task)) :
    task.job.sources = asked.filesAfter seen := by
  generalize isStanding : some task = standing at course
  induction course generalizing task with
  | start snapshot? =>
      cases isStanding
      rfl
  | move session course move inductionHypothesis =>
      subst isStanding
      rw [move.sources, inductionHypothesis rfl, Program.filesAfter_append]

theorem program
    (course : Course host request asked seen (some task)) :
    task.job.program = ⟨asked.filesAfter seen, asked.target⟩ := by
  rw [← course.sources, ← course.same_target]
  rfl

/--
While a request does not fail, every path that was fetched brought in a file.
-/
theorem fetchedPaths
    (course : Course host request asked seen (some task))
    (going : task.Going) :
    View.fetchedPaths.of seen = (View.fetchedFiles.of seen).map Prod.fst := by
  generalize isStanding : some task = standing at course
  induction course generalizing task with
  | start snapshot? =>
      rfl
  | move session course move inductionHypothesis =>
      subst isStanding
      rw [View.of_append, View.of_append, List.map_append,
        inductionHypothesis move.going rfl, move.fetchedPaths going]

/--
A request fetches no path twice, and none of the files that it was made with.
-/
theorem fetches_once
    (course : Course host request asked seen standing) :
    (View.fetchedPaths.of seen).Nodup ∧
      ∀ path ∈ View.fetchedPaths.of seen,
        asked.sources.contains path = false := by
  induction course with
  | start snapshot? =>
      exact ⟨.nil, List.forall_mem_nil _⟩
  | @move earlier more task later? session course move inductionHypothesis =>
      obtain ⟨once, new⟩ := inductionHypothesis
      rw [View.of_append]
      rcases move.fetches with nothing | ⟨going, onceMore, missing⟩
      · rw [nothing, List.append_nil]
        exact ⟨once, new⟩
      -- What was fetched before is among the files that the pass finds.
      rw [course.sources] at missing
      refine ⟨List.nodup_append.mpr ⟨once, onceMore, ?_⟩, ?_⟩
      · rintro path before other again rfl
        rw [course.fetchedPaths going] at before
        have present : (asked.filesAfter earlier).contains path = true :=
          Program.contains_filesAfter.mpr (Or.inr before)
        rw [missing path again] at present
        cases present
      · intro path member
        rcases List.mem_append.mp member with before | again
        · exact new path before
        · refine Bool.eq_false_iff.mpr fun known => ?_
          have present : (asked.filesAfter earlier).contains path = true :=
            Program.contains_filesAfter.mpr (Or.inl known)
          rw [missing path again] at present
          cases present

/--
Every file that was fetched is among the files of its request, as it came.
-/
theorem content?_of_fetched
    (course : Course host request asked seen standing)
    {before after : List Observation}
    (shape : seen = before ++ after)
    {path content : String}
    (fetched : (path, content) ∈ View.fetchedFiles.of before) :
    (asked.filesAfter before).content? path = some content := by
  obtain ⟨once, new⟩ := course.fetches_once
  have listed :
      ((View.fetchedFiles.of before).map Prod.fst).Sublist
        (View.fetchedPaths.of seen) := by
    rw [shape, View.of_append]
    exact
      (View.fetchedFiles_sublist before).trans (List.sublist_append_left _ _)
  exact
    SourceSet.content?_insertAll (once.sublist listed)
      (fun path member => new path (listed.subset member)) fetched

/-- What is seen of a request after its start is seen in one of its moves. -/
theorem move_of_seen
    (course : Course host request asked seen standing)
    {before after : List Observation}
    {observation : Observation}
    (shape : seen = before ++ observation :: after)
    (notStart :
      ∀ snapshot?, observation ≠ .emitted (some request) .started snapshot?) :
    ∃ session earlier task more later? front,
      Course host request asked earlier (some task) ∧
        Move host session task more later? ∧
        observation ∈ more ∧
        before = earlier ++ front ∧
        ∃ rest, more = front ++ rest := by
  induction course generalizing after with
  | start snapshot? =>
      rcases List.append_eq_singleton_iff.mp shape.symm with
        ⟨_, isStart⟩ | ⟨_, nothing⟩
      · exact absurd (List.cons.inj isStart).1 (notStart snapshot?)
      · cases nothing
  | @move earlier more task later? session course move inductionHypothesis =>
      rcases split_of_append shape with
        ⟨front, isBefore, isMore⟩ | ⟨back, isSeen, _⟩
      · exact
          ⟨session, earlier, task, more, later?, front, course, move,
            by simp [isMore], isBefore, _, isMore⟩
      · exact inductionHypothesis isSeen

/--
In the middle of a move that fetches nothing the files are those before it.
-/
private theorem filesAfter_front
    (asked : Program)
    (earlier : List Observation)
    {more front rest : List Observation}
    (isMore : more = front ++ rest)
    (nothing : View.fetchedFiles.of more = []) :
    asked.filesAfter (earlier ++ front) = asked.filesAfter earlier := by
  rw [isMore, View.of_append, List.append_eq_nil_iff] at nothing
  exact asked.filesAfter_of_nothing earlier nothing.1

/-- A bundle for a request holds just the files that the request has by then. -/
theorem files_of_called
    (course : Course host request asked seen standing)
    {before after : List Observation}
    {bundle : Bundle}
    {answer : Answer}
    (shape : seen = before ++ .called request bundle answer :: after) :
    bundle.files = asked.filesAfter before := by
  obtain ⟨session, earlier, task, more, later?, front, course, move, called,
    isBefore, rest, isMore⟩ := course.move_of_seen shape (fun _ => nofun)
  cases move with
  | call job backend installed =>
      cases List.mem_singleton.mp called
      rw [isBefore, filesAfter_front asked earlier isMore (by simp)]
      exact course.sources
  | _ =>
      simp [Resolution.observations] at called

/-- A request is told to end with just the files that it has by then. -/
theorem program_of_told
    (course : Course host request asked seen standing)
    {before after : List Observation}
    {success : Bool}
    {report : Report}
    {program : Program}
    {snapshot? : Option Snapshot}
    (shape :
      seen =
        before ++ .emitted (some request)
          (.finished success report (some program)) snapshot? ::
          after) :
    program = ⟨asked.filesAfter before, asked.target⟩ := by
  obtain ⟨session, earlier, task, more, later?, front, course, move, told,
    isBefore, rest, isMore⟩ := course.move_of_seen shape (fun _ => by simp)
  obtain ⟨isProgram, nothing⟩ := move.program_of_told told
  rw [isProgram, isBefore, filesAfter_front asked earlier isMore nothing]
  exact course.program

/--
After a fetch that fails there is nothing but the end of its request with that
failure.
-/
theorem after_failed_fetch
    (course : Course host request asked seen standing)
    {before after : List Observation}
    {path message : String}
    (shape : seen = before ++ .fetched request path (.error message) :: after) :
    after = [] ∧
      (∃ job, standing = some (.fail (.fetchFailed path message) job)) ∨
      after =
          toldFailure request (.fetchFailed path message)
            ⟨asked.filesAfter before, asked.target⟩ ∧
        standing = none := by
  induction course generalizing after with
  | start snapshot? =>
      rcases List.append_eq_singleton_iff.mp shape.symm with
        ⟨_, other⟩ | ⟨_, nothing⟩
      · cases other
      · cases nothing
  | @move earlier more task later? session course move inductionHypothesis =>
      rcases split_of_append shape with
        ⟨front, _, isMore⟩ | ⟨back, isSeen, isAfter⟩
      · exact Or.inl (move.failed_fetch isMore)
      · rcases inductionHypothesis isSeen with ⟨rfl, job, isTask⟩ | ⟨_, ended⟩
        · cases isTask
          have own := course.same_request
          have program := course.program
          cases move
          cases own
          have same : asked.filesAfter earlier = asked.filesAfter before := by
            rw [isSeen, Program.filesAfter_of_nothing _ _ (by simp)]
          rw [same] at program
          refine Or.inr ⟨?_, rfl⟩
          rw [isAfter, ← program]
          rfl
        · cases ended

end Course

/-! ## The discipline of a whole run -/

/-- What a course shows of the fetches of its request. -/
structure Disciplined
    (asked : Program)
    (request : Nat)
    (course : List Observation) : Prop where
  once : (View.fetchedPaths.of course).Nodup
  new :
    ∀ path ∈ View.fetchedPaths.of course, asked.sources.contains path = false
  kept :
    ∀ before after,
      course = before ++ after →
        (asked.filesAfter before).Within (asked.filesAfter course)
  brought :
    ∀ before after path content,
      course = before ++ after →
      (path, content) ∈ View.fetchedFiles.of before →
      (asked.filesAfter before).content? path = some content
  called :
    ∀ before bundle answer after,
      course = before ++ .called request bundle answer :: after →
      bundle.files = asked.filesAfter before
  told :
    ∀ before success report program snapshot? after,
      course =
          before ++ .emitted (some request)
            (.finished success report (some program)) snapshot? ::
            after →
      program = ⟨asked.filesAfter before, asked.target⟩
  failed :
    ∀ before path message after,
      course = before ++ .fetched request path (.error message) :: after →
      after =
        toldFailure request (.fetchFailed path message)
          ⟨asked.filesAfter before, asked.target⟩

/--
Every course of a request that is not in hand shows the discipline of its
fetches.
-/
theorem Course.disciplined
    {host : Host}
    {request : Nat}
    {asked : Program}
    {seen : List Observation}
    {standing : Option Task}
    (course : Course host request asked seen standing)
    (rests : ∀ task, standing = some task → task.Waits) :
    Disciplined asked request seen where
  once :=
    course.fetches_once.1
  new :=
    course.fetches_once.2
  kept before after shape := by
    rw [shape]
    exact asked.within_filesAfter before after
  brought before after path content shape fetched :=
    course.content?_of_fetched shape fetched
  called before bundle answer after shape :=
    course.files_of_called shape
  told before success report program snapshot? after shape :=
    course.program_of_told shape
  failed before path message after shape := by
    rcases course.after_failed_fetch shape with ⟨_, job, stands⟩ | ⟨ended, _⟩
    · cases rests _ stands
    · exact ended

/-- Whatever waits in the docket is owed something. -/
theorem Session.Aligned.owes_of_waiting
    {session : Session}
    (aligned : session.Aligned)
    {ticket : Ticket}
    {job : Job}
    (waits : (ticket, job) ∈ session.docket.pending) :
    ∃ task, session.Owes task ∧ task.job = job := by
  have member : ticket ∈ session.docket.tickets :=
    List.mem_map_of_mem waits
  rcases aligned.toolchain.reply_of_waiting member with silent | ⟨answer, held⟩
  · exact ⟨_, .failure ticket job silent waits, rfl⟩
  · exact ⟨_, .reply ticket job answer held waits, rfl⟩

/--
The fetches of a request, in its first pass and all its retries together.  No
path is fetched twice and none that the caller gave; the files of the request
are those of its call with the fetched ones put in, wherever they are seen, and
keep their contents; and a fetch that fails is followed by nothing but the end
of the request with that failure.
-/
theorem fetches_disciplined
    (host : Host)
    (configuration : Configuration)
    (earlier later : List Operation)
    (files : SourceSet)
    (target : String) :
    let start := Session.new configuration
    let session := start.runAll host (earlier ++ .compile files target :: later)
    let request := (start.runAll host earlier).requests
    let course := (View.course request).of session.log
    Disciplined ⟨files, target⟩ request course ∧
      ∀ entry ∈ session.docket.pending,
        entry.2.request = request →
        entry.2.sources = Program.filesAfter ⟨files, target⟩ course := by
  intro start session request course
  have isNumber : (requested earlier).length = request :=
    (Faithful.runAll host configuration earlier).numbered
  have asked :
      (requested (earlier ++ .compile files target :: later))[request]? =
        some ⟨files, target⟩ := by
    simp [← isNumber, requested, Operation.program?]
  have aligned : session.Aligned :=
    (Session.Aligned.new configuration).runAll host _
  have coursed :=
    Coursed.runAll host configuration
      (earlier ++ .compile files target :: later)
  obtain ⟨standing, shown, alone, stands⟩ := coursed.asked request _ asked
  refine ⟨shown.disciplined fun task isTask => ?_, fun entry waits own => ?_⟩
  · exact (stands task isTask).resolve_left List.not_mem_nil
  · obtain ⟨task, owes, isJob⟩ := aligned.owes_of_waiting waits
    have isStanding := alone task (Or.inr owes) (by rw [isJob, own])
    subst isStanding
    rw [← isJob]
    exact shown.sources

end CompilerSession
