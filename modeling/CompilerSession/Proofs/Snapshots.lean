import CompilerSession.Proofs.Telling

namespace CompilerSession

/-!
# Snapshots mirror the events

A session keeps the snapshot of the last compilation if that succeeded.  What it
keeps can be read off the events alone: it is what the latest end of a
compilation left, and listeners find it so already while that end is delivered
to them.
-/

open Session

/-- What an event leaves on display, if it is the end of a compilation. -/
def Event.leaves? : Event → Option (Option Snapshot)
  | .finished true report (some program) => some (some ⟨report, program⟩)
  | .finished _ _ _ => some none
  | _ => none

/--
What is on display after some events: what the latest end of a compilation left.
-/
def displayed (events : List Event) : Option Snapshot :=
  (events.filterMap Event.leaves?).getLast?.join

/-- An event that is no end leaves nothing. -/
private theorem Event.leaves?_of_unended
    {event : Event}
    (unended : event.isEnd = false) :
    event.leaves? = none := by
  cases event with
  | finished success report program? =>
      cases unended
  | _ =>
      rfl

/-- Events that are no ends leave what was on display. -/
theorem displayed_append
    {events added : List Event}
    (unended : ∀ event ∈ added, event.isEnd = false) :
    displayed (events ++ added) = displayed events := by
  have nothing : added.filterMap Event.leaves? = [] :=
    List.filterMap_eq_nil_iff.mpr fun event member =>
      Event.leaves?_of_unended (unended event member)
  rw [displayed, List.filterMap_append, nothing, List.append_nil, displayed]

/-- The latest end decides what is on display. -/
theorem displayed_concat
    (events : List Event)
    {event : Event}
    {left? : Option Snapshot}
    (ends : event.leaves? = some left?) :
    displayed (events ++ [event]) = left? := by
  simp [displayed, List.filterMap_append, ends]

/--
A session keeps what its events leave, also at the moment of each delivery.
-/
structure Session.Mirrored (session : Session) : Prop where
  current : session.snapshot? = displayed session.events
  delivered :
    ∀ earlier request? event snapshot? later,
      session.log = earlier ++ .emitted request? event snapshot? :: later →
      snapshot? = displayed (View.events.of earlier ++ [event])
  sourced : ∀ report, .finished true report none ∉ session.events

namespace Session.Mirrored

variable {session current after : Session}

theorem new
    (configuration : Configuration) :
    (Session.new configuration).Mirrored where
  current :=
    rfl
  delivered earlier request? event snapshot? later shape := by
    simp [Session.new] at shape
  sourced report member := by
    cases member

/-- Where no event is told, what is kept stays. -/
private theorem silent
    {added : List Observation}
    (mirrored : session.Mirrored)
    (logged : after.log = session.log ++ added)
    (untold : View.events.of added = [])
    (kept : after.snapshot? = session.snapshot?) :
    after.Mirrored := by
  have events : after.events = session.events := by
    simp [Session.events, logged, untold]
  refine
    { current := by rw [kept, events, mirrored.current]
      delivered := fun earlier request? event snapshot? later shape => ?_
      sourced := by rw [events]; exact mirrored.sourced }
  rw [logged] at shape
  rcases split_of_append shape with ⟨front, _, isAdded⟩ | ⟨back, isLog, _⟩
  · simp [isAdded] at untold
  · exact mirrored.delivered earlier request? event snapshot? back isLog

/-- An event is told once the session keeps what it leaves. -/
private theorem emit
    {request? : Option Nat}
    {event : Event}
    (mirrored : session.Mirrored)
    (logged : current.log = session.log)
    (kept : current.snapshot? = displayed (session.events ++ [event]))
    (sourced : ∀ report, event ≠ .finished true report none) :
    (current.emit request? event).Mirrored := by
  have events :
      (current.emit request? event).events = session.events ++ [event] := by
    simp [Session.events, logged]
  refine
    { current := by rw [events, snapshot?_emit, kept]
      delivered := fun earlier other told snapshot? later shape => ?_
      sourced := fun report member => ?_ }
  · rw [log_emit, logged] at shape
    rcases split_of_append shape with
      ⟨front, isEarlier, isAdded⟩ | ⟨back, isLog, _⟩
    · cases front with
      | nil =>
          cases isAdded
          rw [isEarlier, List.append_nil]
          exact kept
      | cons first rest =>
          -- What listeners hear of an event is no event of its own.
          have heard := congrArg View.events.of (List.cons.inj isAdded).2
          simp at heard
    · exact mirrored.delivered earlier other told snapshot? back isLog
  · rw [events, List.mem_append, List.mem_singleton] at member
    rcases member with before | new
    · exact mirrored.sourced report before
    · exact sourced report new.symm

/-- An event that is no end is told with what is on display. -/
private theorem aside
    {request? : Option Nat}
    {event : Event}
    (mirrored : session.Mirrored)
    (logged : current.log = session.log)
    (kept : current.snapshot? = session.snapshot?)
    (unended : event.isEnd = false) :
    (current.emit request? event).Mirrored := by
  refine mirrored.emit logged ?_ ?_
  · rw [kept, mirrored.current, displayed_append]
    simpa using unended
  · rintro report rfl
    cases unended

/-- The end of a compilation is told after the session keeps what it leaves. -/
private theorem ending
    {request? : Option Nat}
    {event : Event}
    (mirrored : session.Mirrored)
    (logged : current.log = session.log)
    (ends : event.leaves? = some current.snapshot?)
    (sourced : ∀ report, event ≠ .finished true report none) :
    (current.emit request? event).Mirrored :=
  mirrored.emit logged (displayed_concat _ ends).symm sourced

/-- Whatever a session tells on its way, it keeps what that leaves. -/
theorem speaks
    (mirrored : session.Mirrored)
    (speaks : session.Speaks after) :
    after.Mirrored := by
  cases speaks with
  | silent after added logged untold kept requests =>
      exact mirrored.silent logged untold kept
  | tells current request? event unended noDuration logged kept requests =>
      exact mirrored.aside logged kept unended
  | fails current failure logged requests =>
      have lost : { current with snapshot? := none }.log = session.log := logged
      exact mirrored.ending lost rfl (by simp)
  | ends current added success report job logged untold left requests =>
      -- The answer that the end is read from may be logged before it.
      have noted : { session with log := session.log ++ added }.Mirrored :=
        mirrored.silent rfl untold rfl
      have finished : (current.emit (some job.request)
          (.finished success report (some job.program))).Mirrored := by
        refine noted.ending logged ?_ (by simp)
        rw [left]
        cases success <;> rfl
      exact finished.aside rfl rfl rfl

theorem runAll
    (host : Host)
    (configuration : Configuration)
    (operations : List Operation) :
    ((Session.new configuration).runAll host operations).Mirrored :=
  runAll_induction host (.new configuration)
    (fun _ stage => stage.session.Mirrored)
    (new configuration)
    (fun mirrored opens => mirrored.speaks opens.speaks)
    (fun mirrored taken => mirrored.speaks taken.speaks)
    operations

end Session.Mirrored

/-! ## Passes over missing inputs -/

/-- An inline load that failed leaves nothing to call. -/
theorem Toolchain.answer?_of_poll_failed
    {toolchain after : Toolchain}
    {failure : Failure}
    (arrival : toolchain.poll = some (.error failure, after))
    (moment : Nat)
    (input : String) :
    after.answer? moment input = none := by
  rcases toolchain with ⟨link, active?⟩
  cases link with
  | loading url outcome arrived =>
      cases arrived with
      | false =>
          cases arrival
      | true =>
          cases outcome <;> cases arrival <;> rfl
  | _ =>
      cases arrival

namespace Session

/-- Taking over a load changes what is kept only if the load failed. -/
private theorem snapshot?_announceArrival
    {session : Session}
    {moment : Nat}
    {input : String}
    {answer : Answer}
    (called :
      session.announceArrival.toolchain.answer? moment input = some answer) :
    session.announceArrival.snapshot? = session.snapshot? := by
  unfold announceArrival at called ⊢
  split at called
  · rename_i outcome toolchain arrival
    cases outcome with
    | ok version =>
        rfl
    | error failure =>
        have uncalled := Toolchain.answer?_of_poll_failed arrival moment input
        simp only [announce, announceFailure, toolchain_emit,
          uncalled] at called
        cases called
  · rfl

theorem snapshot?_takeAnswer
    (session : Session)
    (job : Job)
    {answer : Answer}
    (missing : answer.missing ≠ []) :
    (session.takeAnswer job answer).1.snapshot? = session.snapshot? := by
  have incomplete : answer.missing.isEmpty = false := by
    simpa using missing
  simp [takeAnswer, incomplete]

/-- A pass that calls for another one leaves what is kept. -/
theorem snapshot?_pass
    {host : Host}
    {session after : Session}
    {job next : Job}
    (retried : pass host session job = (after, some next)) :
    after.snapshot? = session.snapshot? := by
  unfold pass at retried
  split at retried
  · cases retried
  · dsimp only at retried
    split at retried
    · cases retried
    · unfold dispatch at retried
      dsimp only at retried
      split at retried
      · cases retried
      · split at retried
        · rename_i answer called
          have missing : answer.missing ≠ [] := by
            intro complete
            simp [takeAnswer, complete] at retried
          have isAfter := congrArg Prod.fst retried
          dsimp only at isAfter
          rw [← isAfter, snapshot?_takeAnswer _ _ missing]
          simpa using snapshot?_announceArrival called
        · cases retried

end Session

/--
What a session keeps mirrors its events, between operations and at each
delivery: nothing if no compilation has ended or the latest one failed, and
otherwise the report and the program of the latest success.  Loads, which drop
the jobs that wait, passes over missing inputs and whatever else tells of no end
leave it as it is.
-/
theorem snapshot_mirrors_events
    (host : Host)
    (configuration : Configuration)
    (operations : List Operation) :
    let session := (Session.new configuration).runAll host operations
    session.snapshot? = displayed session.events ∧
      (∀ earlier request? event snapshot? later,
        session.log = earlier ++ .emitted request? event snapshot? :: later →
        snapshot? = displayed (View.events.of earlier ++ [event])) ∧
      (∀ report, .finished true report none ∉ session.events) ∧
      (∀ operation told,
        (session.apply host operation).events = session.events ++ told →
        (∀ event ∈ told, event.isEnd = false) →
        (session.apply host operation).snapshot? = session.snapshot?) ∧
      (∀ url mode, (session.load host url mode).snapshot? = session.snapshot?) ∧
      (∀ (current : Session) job answer,
        answer.missing ≠ [] →
        (current.takeAnswer job answer).1.snapshot? = current.snapshot?) ∧
      ∀ (current after : Session) job next,
        pass host current job = (after, some next) →
        after.snapshot? = current.snapshot? := by
  intro session
  have mirrored : session.Mirrored := .runAll host configuration operations
  refine
    ⟨mirrored.current, mirrored.delivered, mirrored.sourced, ?_, fun _ _ => rfl,
      fun current job answer missing =>
        snapshot?_takeAnswer current job missing,
        fun current after job next retried => snapshot?_pass retried⟩
  intro operation told events unended
  have whole :
      session.apply host operation =
        (Session.new configuration).runAll host
          (operations ++ [operation]) := by
    rw [runAll_append]
    rfl
  have stillMirrored : (session.apply host operation).Mirrored :=
    whole ▸ .runAll host configuration (operations ++ [operation])
  rw [stillMirrored.current, events, displayed_append unended,
    ← mirrored.current]

end CompilerSession
