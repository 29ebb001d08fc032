import CompilerSession.Proofs.Accounting
import CompilerSession.Proofs.Course
import CompilerSession.Session.Script

namespace CompilerSession

/-!
# Retries come to an end

The log of a run shows the course of every request: `Coursed` says so, and that
a request is found nowhere but where its course has led to.  What holds of
courses thereby holds of every request of every run.
-/

open Session

/--
The log shows the course of a request, which is carried as the task that it
stands at.
-/
def OnCourse
    (host : Host)
    (stage : Stage)
    (request : Nat)
    (asked : Program) : Prop :=
  ∃ standing,
    Course host request asked ((View.course request).of stage.session.log)
      standing ∧
      (∀ task, stage.Carries task → task.job.request = request →
        standing = some task) ∧
        ∀ task, standing = some task → task ∈ stage.tasks ∨ task.Waits

/-- Every request so far is on its course, and nothing is seen of any other. -/
structure Coursed
    (host : Host)
    (asked : List Program)
    (stage : Stage) : Prop where
  unasked :
    ∀ request, asked[request]? = none →
      (View.course request).of stage.session.log = []
  asked :
    ∀ request program,
      asked[request]? = some program → OnCourse host stage request program

namespace Coursed

variable
  {host : Host}
  {asked : List Program}
  {lost : List Nat}
  {session : Session}
  {stage next : Stage}

theorem new
    (host : Host)
    (configuration : Configuration) :
    Coursed host [] ⟨Session.new configuration, []⟩ where
  unasked request _ :=
    rfl
  asked request program found := by
    cases found

/-- Every step moves one request along its course. -/
theorem step
    (taken : WorkStep host stage next)
    (aligned : stage.session.Aligned)
    (faithful : Faithful asked stage)
    (balanced : Balanced lost stage)
    (coursed : Coursed host asked stage) :
    Coursed host asked next := by
  obtain ⟨task, rest, seen, added, later?, moved⟩ := taken.moves aligned
  have logged :
      ∀ request,
        (View.course request).of next.session.log =
          (View.course request).of stage.session.log ++
            if task.job.request = request then seen else [] := by
    intro request
    rw [moved.logged, View.of_append, moved.shows.course]
  refine ⟨fun request unasked => ?_, fun request program found => ?_⟩
  · obtain ⟨original, inAsked, _⟩ := faithful.held task (by simp [moved.hand])
    have other : task.job.request ≠ request := by
      rintro rfl
      rw [inAsked] at unasked
      cases unasked
    rw [logged, if_neg other, coursed.unasked request unasked, List.append_nil]
  · obtain ⟨standing, course, alone, found⟩ :=
      coursed.asked request program found
    unfold OnCourse
    rw [logged]
    by_cases own : task.job.request = request
    · rw [if_pos own]
      -- The balance tells that nothing else is carried for the request that
      -- moves.
      cases alone task moved.carried_task own
      refine ⟨later?, .move stage.session course moved.move, ?_, moved.lands⟩
      intro other carries isOwn
      rcases moved.carried other carries with inRest | owes | becomes
      · exact absurd (isOwn.trans own.symm)
          (balanced.alone moved.hand (Or.inl inRest))
      · exact absurd (isOwn.trans own.symm)
          (balanced.alone moved.hand (Or.inr owes))
      · exact becomes
    · rw [if_neg own, List.append_nil]
      refine ⟨standing, course, ?_, ?_⟩
      · intro other carries isOwn
        rcases moved.carried_before carries with before | becomes
        · exact alone other before isOwn
        · subst becomes
          exact absurd (moved.move.same_request.symm.trans isOwn) own
      · intro other stands
        refine (found other stands).imp_left fun inHand => ?_
        subst stands
        rw [moved.hand] at inHand
        rcases List.mem_cons.mp inHand with rfl | inRest
        · exact absurd course.same_request own
        · exact moved.stays other inRest

/-- A request that has just been made is on its course. -/
private theorem started
    {operation : Operation}
    {program : Program}
    (opens : Opening host session operation stage)
    (asks : operation.program? = some program)
    (balanced : Balanced lost ⟨session, []⟩)
    (nothing : (View.course session.requests).of session.log = []) :
    OnCourse host stage session.requests program := by
  cases opens with
  | compile files target =>
      cases asks
      refine ⟨some (.pass (.new session.requests files target)), ?_, ?_, ?_⟩
      · have shown :
            (View.course session.requests).of session.start.log =
              [.emitted (some session.requests) .started
                session.snapshot?] := by
          simp [nothing]
        rw [shown]
        exact .start session.snapshot?
      · intro task carries own
        rcases carries with inHand | owes
        · rw [List.mem_singleton.mp inHand]
        · have made : task.job.request < session.requests :=
            balanced.made_of_carried (Or.inr (owes.congr rfl rfl))
          exact absurd own (Nat.ne_of_lt made)
      · intro task stands
        cases stands
        exact Or.inl List.mem_cons_self
  | _ =>
      cases asks

/--
An opening starts the course of a new request and leaves the others as they are.
-/
theorem opening
    {operation : Operation}
    (opens : Opening host session operation stage)
    (aligned : session.Aligned)
    (faithful : Faithful asked ⟨session, []⟩)
    (balanced : Balanced lost ⟨session, []⟩)
    (coursed : Coursed host asked ⟨session, []⟩) :
    Coursed host (asked ++ operation.program?.toList) stage := by
  have isNumber : asked.length = session.requests := faithful.numbered
  have nothing : (View.course session.requests).of session.log = [] :=
    coursed.unasked session.requests (by simp [isNumber])
  obtain ⟨added, logged, shown, _⟩ := opens.logs
  have kept :
      ∀ request,
        ¬ (operation.program?.isSome ∧ request = session.requests) →
        (View.course request).of stage.session.log =
          (View.course request).of session.log := by
    intro request old
    rw [logged, View.of_append, shown, if_neg old, List.append_nil]
  have old :
      ∀ request program,
        asked[request]? = some program →
          OnCourse host stage request program := by
    intro request program found
    have other : request ≠ session.requests :=
      Nat.ne_of_lt (isNumber ▸ (List.getElem?_eq_some_iff.mp found).1)
    obtain ⟨standing, course, alone, found⟩ :=
      coursed.asked request program found
    unfold OnCourse
    rw [kept request fun new => other new.2]
    refine ⟨standing, course, ?_, ?_⟩
    · intro task carries own
      rcases opens.carries aligned carries with owes | ⟨files, target, _, isNew⟩
      · exact alone task (Or.inr owes) own
      · subst isNew
        exact absurd own.symm other
    · intro task stands
      exact Or.inr ((found task stands).resolve_left nofun)
  cases asks : operation.program? with
  | none =>
      rw [Option.toList_none, List.append_nil]
      refine ⟨fun request unasked => ?_, old⟩
      rw [kept request (by simp [asks])]
      exact coursed.unasked request unasked
  | some program =>
      rw [Option.toList_some]
      refine ⟨fun request unasked => ?_, fun request other found => ?_⟩
      · have past : asked.length < request := by
          rw [List.getElem?_eq_none_iff, List.length_append] at unasked
          exact unasked
        rw [kept request fun new => Nat.ne_of_gt past (isNumber ▸ new.2)]
        exact coursed.unasked request
          (List.getElem?_eq_none_iff.mpr (Nat.le_of_lt past))
      · by_cases inside : request < asked.length
        · rw [List.getElem?_append_left inside] at found
          exact old request other found
        · have within := (List.getElem?_eq_some_iff.mp found).1
          rw [List.length_append] at within
          have isLast : request = asked.length :=
            Nat.le_antisymm (Nat.le_of_lt_succ within) (Nat.le_of_not_lt inside)
          subst isLast
          rw [List.getElem?_concat_length] at found
          cases found
          rw [isNumber]
          exact started opens asks balanced nothing

theorem runAll
    (host : Host)
    (configuration : Configuration)
    (operations : List Operation) :
    Coursed host (requested operations)
      ⟨(Session.new configuration).runAll host operations, []⟩ := by
  have kept :=
    runAll_induction host (.new configuration)
      (fun operations stage =>
        stage.session.Aligned ∧
          Faithful (requested operations) stage ∧
            Balanced
              ((Session.new configuration).dropped host operations) stage ∧
              Coursed host (requested operations) stage)
      ⟨.new configuration, .new configuration, .new configuration,
        new host configuration⟩
      (by
        rintro operations operation stage
          ⟨aligned, faithful, balanced, coursed⟩ opens
        refine
          ⟨aligned.opening opens, ?_, balanced.opening_runAll opens aligned, ?_⟩
        · rw [requested_append, requested_singleton]
          exact faithful.opening opens aligned
        · rw [requested_append, requested_singleton]
          exact coursed.opening opens aligned faithful balanced)
      (by
        rintro operations stage next
          ⟨aligned, faithful, balanced, coursed⟩ taken
        exact
          ⟨aligned.step taken, faithful.step taken aligned,
            balanced.step taken aligned,
            coursed.step taken aligned faithful balanced⟩)
      operations
  exact kept.2.2.2

/-- Between operations, a request that stands somewhere waits there. -/
theorem rests
    (coursed : Coursed host asked ⟨session, []⟩)
    {request : Nat}
    {program : Program}
    (found : asked[request]? = some program) :
    ∃ standing,
      Course host request program ((View.course request).of session.log)
        standing ∧
        ∀ task, standing = some task → task.Waits := by
  obtain ⟨standing, course, _, stands⟩ := coursed.asked request program found
  exact
    ⟨standing, course,
      fun task isTask => (stands task isTask).resolve_left List.not_mem_nil⟩

end Coursed

/-! ## The news of a session comes to an end -/

namespace Session

/-- Asking for news a number of times, with a position for each time. -/
def turns
    (positions : Nat → Nat)
    (count : Nat) : List Operation :=
  (List.range count).map fun turn => .next (positions turn)

/-- The first turn is taken at the first position. -/
theorem turns_succ
    (positions : Nat → Nat)
    (count : Nat) :
    turns positions (count + 1) =
      .next (positions 0) ::
        turns (fun turn => positions (turn + 1)) count := by
  simp [turns, List.range_succ_eq_map, Function.comp_def]

/-- No turn is a load. -/
theorem loadless_turns
    (positions : Nat → Nat)
    (count : Nat) :
    ∀ operation ∈ turns positions count, operation.isLoad = false := by
  simp [turns, Operation.isLoad]

/--
There is no more news after as many pieces as are outstanding, at the latest.
-/
theorem news_ends
    (host : Host)
    (session : Session)
    (positions : Nat → Nat) :
    ∃ count ≤ session.outstanding host,
      ((session.runAll host (turns positions count)).next host
        (positions count)).1 ≠
        .handled := by
  induction bound : session.outstanding host using Nat.strong_induction_on
    generalizing session positions with
  | _ outstanding inductionHypothesis =>
      by_cases handled : (session.next host (positions 0)).1 = .handled
      · have taken :
            session.next host (positions 0) =
              (.handled, (session.next host (positions 0)).2) :=
          Prod.ext handled rfl
        have less := outstanding_of_next taken
        obtain ⟨count, within, ended⟩ :=
          inductionHypothesis _ (bound ▸ less)
            (session.next host (positions 0)).2
            (fun turn => positions (turn + 1)) rfl
        refine ⟨count + 1, ?_, ?_⟩
        · rw [← bound]
          exact Nat.succ_le_of_lt (Nat.lt_of_le_of_lt within less)
        · rw [turns_succ]
          exact ended
      · exact ⟨0, Nat.zero_le _, handled⟩

end Session

/-! ## The retries of a request -/

/-- What the course of a request shows of its retries. -/
structure Retried
    (host : Host)
    (asked : Program)
    (request : Nat)
    (course : List Observation) : Prop where
  supplied :
    (View.calls.of course).IsChain fun earlier later =>
      Supplies later.1.files earlier
  fetched : (View.calls.of course).length ≤ 1 + fetchedSinceCall course
  found : (View.calls.of course).length ≤ 1 + host.library.absent asked.sources
  answers :
    ∀ before answer after,
      course = before ++ .answered request answer :: after →
      answer.missing ≠ [] →
      ∃ bundle, (View.calls.of before).getLast? = some (bundle, answer)
  ends :
    (∃ paths, EndsUnresolved request course paths) ↔
      ∃ before after bundle answer,
        StuckReply request course before after bundle answer
  told :
    ∀ before after bundle answer,
      StuckReply request course before after bundle answer →
      after = unresolved request answer.missing ⟨bundle.files, asked.target⟩

/--
Every course of a request that is not in hand shows what is said of retries.
-/
theorem Course.retried
    {host : Host}
    {request : Nat}
    {asked : Program}
    {seen : List Observation}
    {standing : Option Task}
    (course : Course host request asked seen standing)
    (rests : ∀ task, standing = some task → task.Waits) :
    Retried host asked request seen where
  supplied :=
    course.chain
  fetched :=
    course.calls_le_fetchedSinceCall
  found :=
    course.calls_le_paths
  answers before answer after shape missing := by
    obtain ⟨bundle, answers, _⟩ := course.aftermath shape missing
    exact ⟨bundle, answers⟩
  ends := by
    constructor
    · rintro ⟨paths, ends⟩
      exact course.stuck_of_unresolved ends
    · rintro ⟨before, after, bundle, answer, stuck⟩
      refine
        ⟨answer.missing, before ++ [.answered request answer],
          ⟨bundle.files, asked.target⟩, ?_, ?_⟩
      · rw [stuck.shape, course.told_of_stuck rests stuck, ← List.append_cons]
      · intro reply last
        cases List.getLast?_concat.symm.trans last
        exact stuck.missing
  told _ _ _ _ stuck :=
    course.told_of_stuck rests stuck

/--
A request that was made and not dropped has ended once where no job waits.
-/
private theorem ended_of_nobody
    (host : Host)
    (configuration : Configuration)
    (operations : List Operation)
    {request : Nat}
    {program : Program}
    (asked : (requested operations)[request]? = some program)
    (kept : request ∉ (Session.new configuration).dropped host operations)
    (nobody :
      ((Session.new configuration).runAll host operations).docket.pending =
        []) :
    ∃ ending,
      ((Session.new configuration).runAll host operations).conclusions request =
        [ending] := by
  have made := (List.getElem?_eq_some_iff.mp asked).1
  rw [(Faithful.runAll host configuration operations).numbered] at made
  exact
    (Balanced.runAll host configuration operations).ended_once made nobody kept

/--
The retries of a request come to an end, whatever the backend answers.  Between
two calls the files grow by a path that the backend missed, and the request ends
with unresolved imports just when a reply misses nothing but what is there.  A
request that no load drops ends once: at once without a worker, and otherwise
after finitely many pieces of news, unless the worker never comes to the end of
its load.
-/
theorem retries_end
    (host : Host)
    (configuration : Configuration)
    (earlier later : List Operation)
    (files : SourceSet)
    (target : String) :
    let start := Session.new configuration
    let operations := earlier ++ .compile files target :: later
    let session := start.runAll host operations
    let request := (start.runAll host earlier).requests
    Retried host ⟨files, target⟩ request
      ((View.course request).of session.log) ∧
      (request ∉ start.dropped host operations →
        (session.toolchain.mode? ≠ some .worker →
          ∃ ending, session.conclusions request = [ending]) ∧
        ∀ positions : Nat → Nat,
          ∃ count ≤ session.outstanding host,
            let idle := session.runAll host (turns positions count)
            let progress := (idle.next host (positions count)).1
            (progress = .nothing ∧
              ∃ ending, idle.conclusions request = [ending]) ∨
              (progress = .blocked ∧ idle.toolchain.isEndless = true)) := by
  intro start operations session request
  have isNumber : (requested earlier).length = request :=
    (Faithful.runAll host configuration earlier).numbered
  have asked : (requested operations)[request]? = some ⟨files, target⟩ := by
    simp [operations, ← isNumber, requested, Operation.program?]
  have aligned : session.Aligned :=
    (Session.Aligned.new configuration).runAll host operations
  obtain ⟨standing, course, rests⟩ :=
    (Coursed.runAll host configuration operations).rests asked
  refine ⟨course.retried rests,
    fun kept => ⟨fun workerless => ?_, fun positions => ?_⟩⟩
  · have nobody : session.docket.tickets = [] :=
      aligned.toolchain.nobody_of_workerless workerless
    exact
      ended_of_nobody host configuration operations asked kept
        (List.map_eq_nil_iff.mp nobody)
  · obtain ⟨count, within, quiet⟩ := news_ends host session positions
    refine ⟨count, within, ?_⟩
    have whole :
        session.runAll host (turns positions count) =
          start.runAll host (operations ++ turns positions count) :=
      (runAll_append host start operations _).symm
    have stillKept :
        request ∉ start.dropped host (operations ++ turns positions count) := by
      rw [dropped_append,
        dropped_of_loadless host _ (loadless_turns positions count),
        List.append_nil]
      exact kept
    have stillAsked :
        (requested (operations ++ turns positions count))[request]? =
          some ⟨files, target⟩ := by
      rw [requested_append,
        List.getElem?_append_left (List.getElem?_eq_some_iff.mp asked).1]
      exact asked
    have stillAligned := aligned.runAll host (turns positions count)
    cases progress :
        ((session.runAll host (turns positions count)).next host
          (positions count)).1 with
    | handled =>
        exact absurd progress quiet
    | nothing =>
        refine Or.inl ⟨progress, ?_⟩
        have nobody := stillAligned.nobody_of_idle progress
        rw [whole] at nobody ⊢
        exact ended_of_nobody host configuration _ stillAsked stillKept nobody
    | blocked =>
        exact Or.inr ⟨progress, stillAligned.endless_of_blocked progress⟩

/-- A host with one file and a backend that never stops asking for it. -/
def Host.insisting : Host :=
  .scripted [("b.sol", ⟨.ok "", false⟩)]
    [("url",
      .ready (.ofRules "0.8.1" [⟨[], [], ["b.sol"], .returned "\x7b\x7d"⟩]))]

/--
The backend is called again with the file that it asked for, and then no more.
-/
example :
    let session :=
      (Session.new .standard).runAll .insisting
        [.load "url" .inline, .next 0,
          .compile (.ofList [("a.sol", "")]) "a.sol"]
    (View.calls.of session.log).length = 2 ∧ session.ended = [some 0] := by
  decide +kernel

end CompilerSession
