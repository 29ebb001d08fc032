import CompilerSession.Proofs.Retries

namespace CompilerSession

/-!
# Nothing is lost when a session comes to rest

A session is at rest where it has no news to wait for.  That is just where no
load goes on and no job waits, although without a worker the toolchain never
looks at the jobs: there none can wait.  So whatever was asked for since the
latest load has ended by then.
-/

open Session

namespace Session

/-- After a piece of news, the news that is left is taken. -/
theorem untilIdle_of_handled
    {host : Host}
    {session after : Session}
    (taken : session.next host 0 = (.handled, after)) :
    session.untilIdle host = after.untilIdle host := by
  rw [untilIdle]
  split <;> simp_all

/-- Where there is no news, none is taken. -/
theorem untilIdle_of_nothing
    {host : Host}
    {session after : Session}
    (taken : session.next host 0 = (.nothing, after)) :
    session.untilIdle host = (.nothing, after) := by
  rw [untilIdle]
  split <;> simp_all

/-- Taking news until there is none is asking for news a number of times. -/
theorem untilIdle_turns
    (host : Host)
    (session : Session) :
    ∃ count,
      let rest := session.runAll host (turns (fun _ => 0) count)
      session.untilIdle host = ((rest.next host 0).1, rest) := by
  fun_induction untilIdle host session with
  | case1 session after taken less inductionHypothesis =>
      obtain ⟨count, same⟩ := inductionHypothesis
      have isAfter : session.apply host (.next 0) = after :=
        congrArg Prod.snd taken
      refine ⟨count + 1, ?_⟩
      rw [turns_succ, same, ← isAfter]
      rfl
  | case2 session after taken =>
      have isNothing : (session.next host 0).1 = .nothing :=
        congrArg Prod.fst taken
      have isAfter : (session.next host 0).2 = after := congrArg Prod.snd taken
      rw [next_unhandled (by simp [isNothing])] at isAfter
      exact ⟨0, Prod.ext isNothing.symm isAfter.symm⟩
  | case3 session after taken =>
      have isBlocked : (session.next host 0).1 = .blocked :=
        congrArg Prod.fst taken
      have isAfter : (session.next host 0).2 = after := congrArg Prod.snd taken
      rw [next_unhandled (by simp [isBlocked])] at isAfter
      exact ⟨0, Prod.ext isBlocked.symm isAfter.symm⟩

/-- Taking news until there is none ends where none is to be had. -/
theorem untilIdle_ne_handled
    (host : Host)
    (session : Session) :
    (session.untilIdle host).1 ≠ .handled := by
  fun_induction untilIdle host session with
  | case1 session after taken less inductionHypothesis =>
      exact inductionHypothesis
  | case2 session after taken =>
      exact Progress.noConfusion
  | case3 session after taken =>
      exact Progress.noConfusion

/-- No request that was made is unmade. -/
theorem requests_le_runAll
    (host : Host)
    (session : Session)
    (operations : List Operation) :
    session.requests ≤ (session.runAll host operations).requests :=
  runAll_induction host session
    (fun _ stage => session.requests ≤ stage.session.requests)
    (Nat.le_refl _)
    (fun made opens => made.trans opens.requests_le)
    (fun made taken => made.trans (Nat.le_of_eq taken.requests.symm))
    operations

/-- There is nothing to wait for just where no load goes on and no job waits. -/
theorem Aligned.idle_iff
    {session : Session}
    (aligned : session.Aligned)
    (host : Host)
    (position : Nat) :
    (session.next host position).1 = .nothing ↔
      session.toolchain.isLoading = false ∧ session.waitingJobs = 0 := by
  constructor
  · intro idle
    refine ⟨settled_of_idle idle, ?_⟩
    simp [waitingJobs, Docket.size, aligned.nobody_of_idle idle]
  · rintro ⟨settled, nobody⟩
    exact idle_of_nobody host session position settled nobody

end Session

/--
Every request that was made from one session to another has ended once in a
third.
-/
def EndedBetween (before session rest : Session) : Prop :=
  ∀ request,
    before.requests ≤ request →
    request < session.requests →
    ∃ ending, rest.conclusions request = [ending]

/--
Whatever operations ask a session for has ended once in another.  Each
compilation has an ending of its own, with its target and all its files; and no
other request was made in the course of the operations, or it has ended too.
-/
structure EndsAll
    (host : Host)
    (before : Session)
    (operations : List Operation)
    (rest : Session) : Prop where
  compilations :
    ∀ first files target others,
      operations = first ++ .compile files target :: others →
      ∃ ending,
        rest.conclusions (before.runAll host first).requests = [ending] ∧
          ending.program.Covers ⟨files, target⟩
  requests :
    EndedBetween before (before.runAll host operations) rest

/--
Where more operations have had all their endings, the first of them have had
theirs.
-/
theorem EndsAll.of_append
    {host : Host}
    {before rest : Session}
    {operations more : List Operation}
    (ends : EndsAll host before (operations ++ more) rest) :
    EndsAll host before operations rest where
  compilations first files target others shape := by
    refine ends.compilations first files target (others ++ more) ?_
    rw [shape, List.append_assoc, List.cons_append]
  requests request since made := by
    refine ends.requests request since (Nat.lt_of_lt_of_le made ?_)
    rw [runAll_append]
    exact requests_le_runAll host _ more

section

variable
  (host : Host)
  (configuration : Configuration)

/-- A compilation makes the request that has its number. -/
theorem made_of_compile
    (earlier later : List Operation)
    (files : SourceSet)
    (target : String) :
    let start := Session.new configuration
    (start.runAll host earlier).requests <
      (start.runAll host
        (earlier ++ .compile files target :: later)).requests := by
  intro start
  rw [← (Faithful.runAll host configuration earlier).numbered,
    ← (Faithful.runAll host configuration _).numbered]
  simp [requested, Operation.program?]

/-- A compilation ends with the program that was asked for. -/
theorem covers_of_concluded
    {earlier later : List Operation}
    {files : SourceSet}
    {target : String}
    {ending : Conclusion}
    (told :
      ending ∈
        ((Session.new configuration).runAll host
          (earlier ++ .compile files target :: later)).conclusions
            ((Session.new configuration).runAll host earlier).requests) :
    ending.program.Covers ⟨files, target⟩ := by
  have numbered :
      (requested earlier).length =
        ((Session.new configuration).runAll host earlier).requests :=
    (Faithful.runAll host configuration earlier).numbered
  rw [Session.conclusions_eq] at told
  obtain ⟨⟨request?, shown⟩, member, own⟩ := List.mem_filterMap.mp told
  split at own
  · rename_i isRequest
    cases own
    obtain ⟨request, same, original, found, covers⟩ :=
      (Faithful.runAll host configuration _).ended _ member
    cases isRequest.symm.trans same
    have isOriginal :
        (requested (earlier ++ .compile files target :: later))[
          ((Session.new configuration).runAll host earlier).requests]? =
            some ⟨files, target⟩ := by
      simp [← numbered, requested, Operation.program?]
    cases isOriginal.symm.trans found
    exact covers
  · cases own

/--
At rest, whatever was asked for since some moment has ended, if nothing was
loaded since.
-/
theorem ended_of_idle
    (earlier : List Operation)
    {later : List Operation}
    (loadless : ∀ operation ∈ later, operation.isLoad = false)
    {position : Nat}
    (idle :
      (((Session.new configuration).runAll host (earlier ++ later)).next host
        position).1 = .nothing) :
    EndsAll host ((Session.new configuration).runAll host earlier) later
      ((Session.new configuration).runAll host (earlier ++ later)) := by
  have aligned :=
    (Session.Aligned.new configuration).runAll host (earlier ++ later)
  have balanced := Balanced.runAll host configuration (earlier ++ later)
  have ended :
      EndedBetween
        ((Session.new configuration).runAll host earlier)
        ((Session.new configuration).runAll host (earlier ++ later))
        ((Session.new configuration).runAll host (earlier ++ later)) := by
    intro request since made
    refine balanced.ended_once made (aligned.nobody_of_idle idle) ?_
    rw [dropped_append, dropped_of_loadless host _ loadless, List.append_nil]
    intro lost
    have old := (Balanced.runAll host configuration earlier).made_of_lost lost
    exact Nat.lt_irrefl _ (Nat.lt_of_lt_of_le old since)
  refine
    { compilations := ?_
      requests := by rwa [← runAll_append] }
  intro first files target others shape
  have whole :
      earlier ++ later =
        (earlier ++ first) ++ .compile files target :: others := by
    rw [shape, List.append_assoc]
  rw [← runAll_append]
  have since :
      ((Session.new configuration).runAll host earlier).requests ≤
        ((Session.new configuration).runAll host
          (earlier ++ first)).requests := by
    rw [runAll_append]
    exact requests_le_runAll host _ first
  have made :=
    made_of_compile host configuration (earlier ++ first) others files target
  rw [← whole] at made
  obtain ⟨ending, once⟩ := ended _ since made
  have told : ending ∈ [ending] := List.mem_cons_self
  rw [← once, whole] at told
  exact ⟨ending, once, covers_of_concluded host configuration told⟩

end

/--
Nothing is lost when a session comes to rest.  Jobs wait only for a worker;
there is nothing to wait for just where no load goes on and no job waits, and to
ask for news then changes nothing.  So when all news has been taken, in whatever
order it came, every compilation that was asked for since the latest load has
ended, once, and so has every request that was made.
-/
theorem quiescence_loses_nothing
    (host : Host)
    (configuration : Configuration)
    (operations : List Operation) :
    let start := Session.new configuration
    let session := start.runAll host operations
    (session.waitingJobs ≠ 0 → session.toolchain.mode? = some .worker) ∧
      (∀ position,
        let asked := session.next host position
        (asked.1 = .nothing ↔
          session.toolchain.isLoading = false ∧ session.waitingJobs = 0) ∧
        (asked.1 = .nothing → asked.2 = session) ∧
        (asked.1 = .blocked → session.toolchain.isEndless = true)) ∧
      ∀ earlier later,
        operations = earlier ++ later →
        (∀ operation ∈ later, operation.isLoad = false) →
        let before := start.runAll host earlier
        (∀ rest,
          session.untilIdle host = (.nothing, rest) →
          EndsAll host before later rest) ∧
        ∀ positions count,
          let rest := session.runAll host (turns positions count)
          (rest.next host (positions count)).1 = .nothing →
          EndsAll host before later rest := by
  intro start session
  have aligned : session.Aligned :=
    (Session.Aligned.new configuration).runAll host operations
  refine
    ⟨fun waits => ?_,
      fun position => ⟨aligned.idle_iff host position, ?_, ?_⟩, ?_⟩
  · by_contra workerless
    have nobody := aligned.toolchain.nobody_of_workerless workerless
    simp [waitingJobs, Docket.size, List.map_eq_nil_iff.mp nobody] at waits
  · intro idle
    exact next_unhandled (by simp [idle])
  · exact aligned.endless_of_blocked
  · intro earlier later shape loadless before
    have ended :
        ∀ positions count,
          let rest := session.runAll host (turns positions count)
          (rest.next host (positions count)).1 = .nothing →
          EndsAll host before later rest := by
      intro positions count rest idle
      have whole :
          rest =
            start.runAll host
              (earlier ++ (later ++ turns positions count)) := by
        rw [← List.append_assoc, ← shape, runAll_append]
      have stillLoadless :
          ∀ operation ∈ later ++ turns positions count,
            operation.isLoad = false := by
        intro operation member
        rcases List.mem_append.mp member with before | turn
        · exact loadless operation before
        · exact loadless_turns positions count operation turn
      rw [whole] at idle ⊢
      exact
        (ended_of_idle host configuration earlier stillLoadless idle).of_append
    refine ⟨fun rest taken => ?_, ended⟩
    obtain ⟨count, same⟩ := untilIdle_turns host session
    rw [taken] at same
    obtain ⟨isNothing, isRest⟩ := Prod.mk.inj same
    rw [isRest]
    exact ended (fun _ => 0) count isNothing.symm

end CompilerSession
