import CompilerSession.Proofs.Moves
import CompilerSession.Proofs.Programs
import CompilerSession.Proofs.Timing
import Mathlib.Data.List.Count
import Mathlib.Data.List.Nodup
import Mathlib.Data.Option.Basic

namespace CompilerSession

/-!
# Every request is accounted for

A request that has been made is in exactly one place: it has ended, a task holds
it, it waits in the docket, or it was dropped when another backend was loaded.
`Balanced` counts these places; every opening and every step keeps the balance.
-/

open Session

namespace Session

/-- The requests that have ended, in the order of their endings. -/
def ended (session : Session) : List (Option Nat) :=
  (View.endings.of session.log).map Prod.fst

/-- What has been told of the end of a request. -/
def conclusions
    (session : Session)
    (request : Nat) : List Conclusion :=
  (View.endings.of ((View.course request).of session.log)).map Prod.snd

/--
What has been told of the end of a request is what all endings tell of it.
-/
theorem conclusions_eq
    (session : Session)
    (request : Nat) :
    session.conclusions request =
      (View.endings.of session.log).filterMap fun told =>
        if told.1 = some request then some told.2 else none := by
  unfold conclusions
  generalize session.log = log
  induction log with
  | nil =>
      rfl
  | cons observation rest inductionHypothesis =>
      rw [View.of_cons, View.of_cons, View.of_append, List.map_append,
        List.filterMap_append, inductionHypothesis]
      congr 1
      rw [View.see_course, View.see_endings]
      cases ends : observation.ending? with
      | none =>
          split <;> simp [-Observation.ending?, ends]
      | some told =>
          rw [Observation.request?_of_ending ends]
          split <;> simp_all [-Observation.ending?]

theorem mem_conclusions
    {session : Session}
    {request : Nat}
    {ending : Conclusion} :
    ending ∈ session.conclusions request ↔
      (some request, ending) ∈ View.endings.of session.log := by
  rw [conclusions_eq, List.mem_filterMap]
  constructor
  · rintro ⟨⟨owner, told⟩, member, own⟩
    split at own
    · rename_i same
      cases same
      cases own
      exact member
    · cases own
  · intro member
    exact ⟨_, member, if_pos rfl⟩

/--
The endings of a request are as many as its number is found among all endings.
-/
theorem length_conclusions
    (session : Session)
    (request : Nat) :
    (session.conclusions request).length =
      session.ended.count (some request) := by
  rw [conclusions_eq, List.length_filterMap_eq_countP, ended, List.count,
    List.countP_map]
  congr 1
  funext told
  by_cases own : told.1 = some request <;> simp [own]

/-- The requests that wait for their worker. -/
def waiting (session : Session) : List Nat :=
  session.docket.pending.map fun entry => entry.2.request

/-- Whatever is owed is owed to a request that waits. -/
theorem Owes.waits
    {session : Session}
    {task : Task}
    (owes : session.Owes task) :
    task.job.request ∈ session.waiting := by
  cases owes with
  | reply ticket job answer held waits =>
      exact List.mem_map.mpr ⟨(ticket, job), waits, rfl⟩
  | failure ticket job silent waits =>
      exact List.mem_map.mpr ⟨(ticket, job), waits, rfl⟩

/--
The requests that an operation drops, which are those that wait when a load
begins.
-/
def droppedBy (session : Session) : Operation → List Nat
  | .load _ _ => session.waiting
  | _ => []

/-- The requests that the loads of a run drop. -/
def dropped
    (host : Host)
    (session : Session) : List Operation → List Nat
  | [] => []
  | operation :: rest =>
      session.droppedBy operation ++
        dropped host (session.apply host operation) rest

theorem dropped_append
    (host : Host)
    (session : Session)
    (earlier later : List Operation) :
    session.dropped host (earlier ++ later) =
      session.dropped host earlier ++
        (session.runAll host earlier).dropped host later := by
  induction earlier generalizing session with
  | nil =>
      rfl
  | cons first rest inductionHypothesis =>
      simp only [List.cons_append, dropped, inductionHypothesis, runAll,
        List.foldl_cons, List.append_assoc]

/-- Only loads drop requests. -/
theorem dropped_of_loadless
    (host : Host)
    (session : Session)
    {operations : List Operation}
    (loadless : ∀ operation ∈ operations, operation.isLoad = false) :
    session.dropped host operations = [] := by
  induction operations generalizing session with
  | nil =>
      rfl
  | cons operation rest inductionHypothesis =>
      have others :=
        inductionHypothesis (session.apply host operation)
          fun later member => loadless later (List.mem_cons_of_mem _ member)
      have first := loadless operation List.mem_cons_self
      rw [dropped, others]
      cases operation with
      | load url mode =>
          cases first
      | _ =>
          rfl

end Session

/-- The requests of the jobs in hand. -/
def Stage.held (stage : Stage) : List Nat :=
  stage.tasks.map fun task => task.job.request

/-- How often a request is found in one of the places where it may be. -/
def Stage.tally
    (stage : Stage)
    (lost : List Nat)
    (request : Nat) : Nat :=
  stage.session.ended.count (some request) + stage.held.count request +
    stage.session.waiting.count request + lost.count request

/--
Every request made so far is in exactly one place, and no other is anywhere.
-/
def Balanced
    (lost : List Nat)
    (stage : Stage) : Prop :=
  ∀ request,
    stage.tally lost request = if request < stage.session.requests then 1 else 0

namespace Balanced

variable {host : Host} {lost : List Nat} {session : Session}
  {stage next : Stage}

/-- The balance is kept where every request is counted as before. -/
theorem congr
    {later : List Nat}
    (balanced : Balanced lost stage)
    (requests : next.session.requests = stage.session.requests)
    (tally : ∀ request, next.tally later request = stage.tally lost request) :
    Balanced later next := by
  intro request
  rw [tally, requests]
  exact balanced request

theorem step
    (taken : WorkStep host stage next)
    (aligned : stage.session.Aligned)
    (balanced : Balanced lost stage) :
    Balanced lost next := by
  cases taken with
  | stick session job stuck =>
      exact balanced.congr rfl fun _ => rfl
  | resolve session job going succeeds =>
      refine balanced.congr (by simp) fun request => ?_
      simp [Stage.tally, Stage.held, ended, waiting, Task.job, resolved]
  | lack session job failure going fails =>
      refine balanced.congr (by simp) fun request => ?_
      simp [Stage.tally, Stage.held, ended, waiting, Task.job, resolved]
  | arriveLoaded session job version toolchain arrival =>
      refine balanced.congr rfl fun request => ?_
      simp [Stage.tally, Stage.held, ended, waiting, Task.job]
  | arriveFailed session job failure toolchain arrival =>
      refine balanced.congr rfl fun request => ?_
      simp [Stage.tally, Stage.held, ended, waiting, Task.job]
  | arriveNot session job noArrival =>
      exact balanced.congr rfl fun _ => rfl
  | postCalled session job toolchain answer accepted =>
      refine balanced.congr rfl fun request => ?_
      simp [Stage.tally, Stage.held, ended, waiting, Task.job, Docket.enter]
      omega
  | postUncalled session job toolchain accepted =>
      refine balanced.congr rfl fun request => ?_
      simp [Stage.tally, Stage.held, ended, waiting, Task.job, Docket.enter]
      omega
  | postRefused session job failure worker refused =>
      refine balanced.congr rfl fun request => ?_
      simp [Stage.tally, Stage.held, ended, waiting, Task.job,
        aligned.ordered.take_enter job]
  | call session job answer called =>
      refine balanced.congr rfl fun request => ?_
      simp [Stage.tally, Stage.held, ended, waiting, Task.job]
  | lackBackend session job inline uncalled =>
      exact balanced.congr rfl fun _ => rfl
  | retry session job answer missing =>
      refine balanced.congr rfl fun request => ?_
      simp [Stage.tally, Stage.held, ended, waiting, Task.job, Job.withMissing]
  | reject session job answer complete fatal =>
      refine balanced.congr rfl fun request => ?_
      simp [Stage.tally, Stage.held, ended, waiting, Task.job,
        List.count_singleton]
  | accept session job answer complete sound =>
      refine balanced.congr rfl fun request => ?_
      simp [Stage.tally, Stage.held, ended, waiting, Task.job,
        List.count_singleton]
  | fail session failure job rest =>
      refine balanced.congr rfl fun request => ?_
      simp [Stage.tally, Stage.held, ended, waiting, Task.job, List.count_cons]
      omega

/--
An opening that drops nothing and counts every request as before keeps the
balance.
-/
private theorem kept
    (balanced : Balanced lost ⟨session, []⟩)
    (requests : stage.session.requests = session.requests)
    (tally :
      ∀ request,
        stage.tally lost request = Stage.tally ⟨session, []⟩ lost request) :
    Balanced (lost ++ []) stage := by
  rw [List.append_nil]
  exact balanced.congr requests tally

/-- Every opening keeps the balance, where a load drops the jobs that wait. -/
theorem opening
    {operation : Operation}
    (opens : Opening host session operation stage)
    (aligned : session.Aligned)
    (balanced : Balanced lost ⟨session, []⟩) :
    Balanced (lost ++ session.droppedBy operation) stage := by
  cases opens with
  | load url mode =>
      refine balanced.congr rfl fun request => ?_
      simp [Stage.tally, Stage.held, ended, waiting, droppedBy, Session.load,
        Docket.clear]
      omega
  | compile files target =>
      intro request
      have before := balanced request
      have counted :
          Stage.tally
            ⟨session.start, [.pass (.new session.requests files target)]⟩
            (lost ++ []) request =
            Stage.tally ⟨session, []⟩ lost request +
              if request = session.requests then 1 else 0 := by
        by_cases new : request = session.requests
        · simp [Stage.tally, Stage.held, ended, waiting, Task.job, Job.new, new]
          omega
        · simp [Stage.tally, Stage.held, ended, waiting, Task.job, Job.new, new,
            Ne.symm new]
      -- The balance before says that the number of the new request was nowhere
      -- counted.
      refine counted.trans ?_
      rw [before]
      show _ = if request < session.requests + 1 then 1 else 0
      grind
  | withOptimizer optimize =>
      exact balanced.kept rfl fun _ => rfl
  | settle =>
      exact balanced.kept rfl fun _ => rfl
  | subscribe label =>
      exact balanced.kept rfl fun _ => rfl
  | unsubscribe subscription =>
      exact balanced.kept rfl fun _ => rfl
  | quiet position noNews =>
      exact balanced.kept rfl fun _ => rfl
  | loaded position version toolchain heard =>
      refine balanced.kept rfl fun request => ?_
      simp [Stage.tally, Stage.held, ended, waiting]
  | failed position failure toolchain heard =>
      refine balanced.kept rfl fun request => ?_
      simp [Stage.tally, Stage.held, ended, waiting]
  | terminated position failure toolchain heard nobody =>
      refine balanced.kept rfl fun request => ?_
      simp [Stage.tally, Stage.held, ended, waiting, Docket.drain, nobody]
  | abandoned position failure toolchain heard somebody =>
      refine balanced.kept rfl fun request => ?_
      simp [Stage.tally, Stage.held, ended, waiting, Docket.drain, Task.job,
        Function.comp_def]
  | compiled position ticket answer toolchain job heard found =>
      obtain ⟨earlier, later, shape, rest⟩ := aligned.ordered.take_split found
      refine balanced.kept rfl fun request => ?_
      simp [Stage.tally, Stage.held, ended, waiting, Task.job, shape, rest,
        List.count_cons]
      omega
  | discarded position ticket answer toolchain heard unknown =>
      exact balanced.kept rfl fun _ => rfl

theorem opening_runAll
    {operations : List Operation}
    {operation : Operation}
    (opens : Opening host (session.runAll host operations) operation stage)
    (aligned : (session.runAll host operations).Aligned)
    (balanced :
      Balanced (session.dropped host operations)
        ⟨session.runAll host operations, []⟩) :
    Balanced (session.dropped host (operations ++ [operation])) stage := by
  rw [dropped_append]
  simpa [dropped] using balanced.opening opens aligned

theorem new
    (configuration : Configuration) :
    Balanced [] ⟨Session.new configuration, []⟩ := by
  intro request
  simp [Stage.tally, Stage.held, ended, waiting, Session.new, Docket.empty]

/-- After every run each request has ended, waits, or was dropped by a load. -/
theorem runAll
    (host : Host)
    (configuration : Configuration)
    (operations : List Operation) :
    Balanced ((Session.new configuration).dropped host operations)
      ⟨(Session.new configuration).runAll host operations, []⟩ := by
  have kept :=
    runAll_induction host (.new configuration)
      (fun operations stage =>
        stage.session.Aligned ∧
          Balanced ((Session.new configuration).dropped host operations) stage)
      ⟨.new configuration, new configuration⟩
      (fun ⟨aligned, balanced⟩ opens =>
        ⟨aligned.opening opens, balanced.opening_runAll opens aligned⟩)
      (fun ⟨aligned, balanced⟩ taken =>
        ⟨aligned.step taken, balanced.step taken aligned⟩)
      operations
  exact kept.2

/--
Between operations, the requests are those that have ended, wait, or were
dropped.
-/
theorem places
    (balanced : Balanced lost ⟨session, []⟩)
    {requests : List Nat}
    (ended : session.ended = requests.map some) :
    (requests ++ session.waiting ++ lost).Perm
      (List.range session.requests) := by
  rw [List.perm_iff_count]
  intro request
  have once := balanced request
  simp only [Stage.tally, Stage.held, List.map_nil, List.count_nil, ended,
    List.count_map_of_injective _ _ (Option.some_injective Nat)] at once
  simp only [List.count_append, List.count_range]
  omega

/-- A request that is found anywhere was made. -/
theorem made_of_tally
    (balanced : Balanced lost stage)
    {request : Nat}
    (found : 0 < stage.tally lost request) :
    request < stage.session.requests := by
  by_contra later
  rw [balanced request, if_neg later] at found
  exact Nat.lt_irrefl 0 found

/-- No request is found twice. -/
theorem tally_le_one
    (balanced : Balanced lost stage)
    (request : Nat) :
    stage.tally lost request ≤ 1 := by
  rw [balanced request]
  split <;> omega

/-- No request is dropped before it is made. -/
theorem made_of_lost
    (balanced : Balanced lost stage)
    {request : Nat}
    (member : request ∈ lost) :
    request < stage.session.requests := by
  have counted := List.count_pos_iff.mpr member
  refine balanced.made_of_tally ?_
  unfold Stage.tally
  omega

/-- A request that is dropped is never told to end. -/
theorem untold_of_lost
    (balanced : Balanced lost stage)
    {request : Nat}
    (member : request ∈ lost) :
    stage.session.conclusions request = [] := by
  have once := balanced.tally_le_one request
  have counted := List.count_pos_iff.mpr member
  rw [← List.length_eq_zero_iff, length_conclusions]
  unfold Stage.tally at once
  omega

/-- A request that has been told to end was made. -/
theorem made_of_told
    (balanced : Balanced lost stage)
    {request : Nat}
    {ending : Conclusion}
    (told : ending ∈ stage.session.conclusions request) :
    request < stage.session.requests := by
  have counted := List.length_pos_of_mem told
  rw [length_conclusions] at counted
  refine balanced.made_of_tally ?_
  unfold Stage.tally
  omega

/-- Nothing has been told of the end of a request that is not made yet. -/
theorem untold_of_unmade
    (balanced : Balanced lost stage)
    {request : Nat}
    (unmade : stage.session.requests ≤ request) :
    stage.session.conclusions request = [] := by
  rw [List.eq_nil_iff_forall_not_mem]
  intro ending told
  exact absurd (balanced.made_of_told told) (Nat.not_lt.mpr unmade)

/-- A task that is carried is that of a request that was made. -/
theorem made_of_carried
    (balanced : Balanced lost stage)
    {task : Task}
    (carries : stage.Carries task) :
    task.job.request < stage.session.requests := by
  refine balanced.made_of_tally ?_
  unfold Stage.tally
  rcases carries with inHand | owes
  · have counted : 0 < stage.held.count task.job.request :=
      List.count_pos_iff.mpr (List.mem_map.mpr ⟨task, inHand, rfl⟩)
    omega
  · have counted : 0 < stage.session.waiting.count task.job.request :=
      List.count_pos_iff.mpr owes.waits
    omega

/-- A request in hand was not dropped. -/
theorem kept_of_held
    (balanced : Balanced lost stage)
    {request : Nat}
    (held : request ∈ stage.held) :
    request ∉ lost := by
  intro member
  have once := balanced.tally_le_one request
  have counted := List.count_pos_iff.mpr held
  have again := List.count_pos_iff.mpr member
  unfold Stage.tally at once
  omega

/-- Nothing has been told of the end of a request in hand. -/
theorem untold_of_held
    (balanced : Balanced lost stage)
    {request : Nat}
    (held : request ∈ stage.held) :
    stage.session.conclusions request = [] := by
  have once := balanced.tally_le_one request
  have counted := List.count_pos_iff.mpr held
  rw [← List.length_eq_zero_iff, length_conclusions]
  unfold Stage.tally at once
  omega

/--
No other task that is carried belongs to the request of the first task in hand.
-/
theorem alone
    (balanced : Balanced lost stage)
    {task other : Task}
    {rest : List Task}
    (hand : stage.tasks = task :: rest)
    (apart : other ∈ rest ∨ stage.session.Owes other) :
    other.job.request ≠ task.job.request := by
  intro same
  have once := balanced.tally_le_one task.job.request
  simp only [Stage.tally, Stage.held, hand, List.map_cons,
    List.count_cons_self] at once
  rcases apart with inRest | owes
  · have counted :
        0 < (rest.map fun task => task.job.request).count task.job.request :=
      List.count_pos_iff.mpr (List.mem_map.mpr ⟨other, inRest, same⟩)
    omega
  · have counted : 0 < stage.session.waiting.count task.job.request :=
      List.count_pos_iff.mpr (same ▸ owes.waits)
    omega

/--
A request that was made, does not wait and was not dropped has ended once.
-/
theorem ended_of_unwaited
    (balanced : Balanced lost ⟨session, []⟩)
    {request : Nat}
    (made : request < session.requests)
    (unwaited : request ∉ session.waiting)
    (kept : request ∉ lost) :
    ∃ ending, session.conclusions request = [ending] := by
  have once := balanced request
  rw [if_pos made] at once
  simp only [Stage.tally, Stage.held, List.map_nil, List.count_nil,
    List.count_eq_zero_of_not_mem unwaited,
    List.count_eq_zero_of_not_mem kept] at once
  rw [← List.length_eq_one_iff, length_conclusions]
  omega

/--
Where nobody waits, a request that was made and was not dropped has ended once.
-/
theorem ended_once
    (balanced : Balanced lost ⟨session, []⟩)
    {request : Nat}
    (made : request < session.requests)
    (nobody : session.docket.pending = [])
    (kept : request ∉ lost) :
    ∃ ending, session.conclusions request = [ending] :=
  balanced.ended_of_unwaited made (by simp [waiting, nobody]) kept

end Balanced

/-- The endings that are told are the events that name a program. -/
private theorem programs_of_endings
    (log : List Observation) :
    (View.endings.of log).map (fun told => told.2.program) =
      (View.events.of log).filterMap Event.program? := by
  induction log with
  | nil =>
      rfl
  | cons observation rest inductionHypothesis =>
      rw [View.of_cons, View.of_cons, List.map_append, List.filterMap_append,
        inductionHypothesis]
      congr 1
      cases observation with
      | emitted request? event snapshot? =>
          cases event with
          | finished success report program? =>
              cases program? <;> rfl
          | _ =>
              rfl
      | _ =>
          rfl

/-- Endings of requests come with the numbers of the requests. -/
private theorem requests_of_endings
    {asked : List Program}
    {told : List (Option Nat × Conclusion)}
    (faithful :
      ∀ ending ∈ told,
        ∃ request, ending.1 = some request ∧
          StandsFor asked request ending.2.program) :
    ∃ requests : List Nat,
      told.map Prod.fst = requests.map some ∧
        List.Forall₂ (StandsFor asked) requests
          (told.map fun ending => ending.2.program) := by
  induction told with
  | nil =>
      exact ⟨[], rfl, .nil⟩
  | cons ending rest inductionHypothesis =>
      obtain ⟨request, isRequest, stands⟩ := faithful ending List.mem_cons_self
      obtain ⟨requests, same, others⟩ :=
        inductionHypothesis fun other member =>
          faithful other (List.mem_cons_of_mem _ member)
      exact
        ⟨request :: requests, by simp [isRequest, same], .cons stands others⟩

/--
Every request is settled once.  Starts are as many as endings, waiting jobs and
jobs dropped by loads together; the endings belong to requests of their own,
made with their targets and their files; and durations are told right after
endings, once each.
-/
theorem requests_settled_once
    (host : Host)
    (configuration : Configuration)
    (operations : List Operation) :
    let session := (Session.new configuration).runAll host operations
    session.events.countP Event.isStart =
        (session.events.filterMap Event.program?).length + session.waitingJobs +
          ((Session.new configuration).dropped host operations).length ∧
      (∃ requests : List Nat,
        requests.Nodup ∧
          List.Forall₂ (StandsFor (requested operations)) requests
            (session.events.filterMap Event.program?)) ∧
      ∀ position success report program?,
        session.events[position]? = some (.finished success report program?) →
        (program?.isSome →
          session.events[position + 1]? = some .duration ∧
            session.events[position + 2]? ≠ some .duration) ∧
        (program? = none →
          session.events[position + 1]? ≠ some .duration) := by
  intro session
  have timed : session.Timed := .runAll host configuration operations
  have faithful : Faithful (requested operations) ⟨session, []⟩ :=
    .runAll host configuration operations
  have balanced := Balanced.runAll host configuration operations
  obtain ⟨requests, same, stand⟩ := requests_of_endings faithful.ended
  have places := balanced.places same
  have programs : _ = session.events.filterMap Event.program? :=
    programs_of_endings session.log
  rw [programs] at stand
  refine ⟨?_, ⟨requests, ?_, stand⟩, ?_⟩
  · have total := places.length_eq
    have asMany := stand.length_eq
    simp only [List.length_append, List.length_range, waiting,
      List.length_map] at total
    rw [timed.starts, ← total, ← asMany]
    rfl
  · exact
      (List.nodup_append.mp
        (List.nodup_append.mp (places.symm.nodup List.nodup_range)).1).1
  · intro position success report program? told
    refine ⟨fun ends => ?_, fun aside => ?_⟩
    · exact timed.duration_of_ending told ends
    · exact timed.no_duration_of_aside told aside

end CompilerSession
