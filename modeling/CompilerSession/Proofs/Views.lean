import CompilerSession.Session.Operation

namespace CompilerSession

/-!
# Views of a log

A view picks out of a log what one wants to look at, in its order.  Three views
carry the theory: the events that listeners are told of, the endings of
requests, and the course of one request with all its fetches, calls and answers.
-/

/-- What stands in two lists that are put together stands in one of them. -/
theorem split_of_append
    {α : Type}
    {first second before after : List α}
    {value : α}
    (shape : first ++ second = before ++ value :: after) :
    (∃ front, before = first ++ front ∧ second = front ++ value :: after) ∨
      ∃ back, first = before ++ value :: back ∧ after = back ++ second := by
  rcases List.append_eq_append_iff.mp shape with
    ⟨front, isBefore, isSecond⟩ | ⟨back, isFirst, isRest⟩
  · exact Or.inl ⟨front, isBefore, isSecond⟩
  · cases back with
    | nil =>
        exact
          Or.inl ⟨[], by simpa using isFirst.symm, by simpa using isRest.symm⟩
    | cons head back =>
        obtain ⟨rfl, isAfter⟩ := List.cons.inj isRest
        exact Or.inr ⟨back, isFirst, isAfter⟩

/-- How a request ended. -/
structure Conclusion where
  success : Bool
  report : Report
  program : Program

namespace Event

/-- The program that an ending is about. -/
def program? : Event → Option Program
  | .finished _ _ program? => program?
  | _ => none

/-- Whether a request starts. -/
def isStart : Event → Bool
  | .started => true
  | _ => false

/-- Whether a compilation ends. -/
def isEnd : Event → Bool
  | .finished _ _ _ => true
  | _ => false

/-- Whether the event says that the time of a request is known. -/
def isDuration : Event → Bool
  | .duration => true
  | _ => false

end Event

namespace Observation

/-- The event that was told, if any. -/
def event? : Observation → Option Event
  | .emitted _ event _ => some event
  | _ => none

/-- The ending that was told, with the request that it belongs to. -/
def ending? : Observation → Option (Option Nat × Conclusion)
  | .emitted request? (.finished success report (some program)) _ =>
      some (request?, ⟨success, report, program⟩)
  | _ => none

/-- The request that an observation belongs to. -/
def request? : Observation → Option Nat
  | .emitted request? _ _ => request?
  | .heard _ => none
  | .fetched request _ _ => some request
  | .called request _ _ => some request
  | .answered request _ => some request

/-- An ending that is told comes with its request. -/
theorem request?_of_ending
    {observation : Observation}
    {told : Option Nat × Conclusion}
    (ends : observation.ending? = some told) :
    observation.request? = told.1 := by
  unfold ending? at ends
  split at ends
  · cases ends
    rfl
  · cases ends

/-- Whether a backend is called. -/
def isCall : Observation → Bool
  | .called _ _ _ => true
  | _ => false

/-- The bundle that a backend is called on and its answer. -/
def call? : Observation → Option (Bundle × Answer)
  | .called _ bundle answer => some (bundle, answer)
  | _ => none

/-- Whether a file is fetched. -/
def isFetched : Observation → Bool
  | .fetched _ _ (.ok _) => true
  | _ => false

end Observation

attribute [simp] Observation.event? Observation.ending? Observation.request?
  Observation.call?

/-- A way to look at a log, which passes over what listeners heard. -/
structure View (α : Type) where
  see : Observation → Option α
  deaf : ∀ heard, see (.heard heard) = none

namespace View

variable {α : Type}

/-- What a view shows of a log. -/
def of
    (view : View α)
    (log : List Observation) : List α :=
  log.filterMap view.see

/-- The events that listeners are told of. -/
def events : View Event where
  see := Observation.event?
  deaf _ := rfl

/-- The endings of requests. -/
def endings : View (Option Nat × Conclusion) where
  see := Observation.ending?
  deaf _ := rfl

/-- The calls of backends, each with its answer. -/
def calls : View (Bundle × Answer) where
  see := Observation.call?
  deaf _ := rfl

/-- All that belongs to one request. -/
def course (request : Nat) : View Observation where
  see observation :=
    if observation.request? = some request then some observation else none
  deaf _ := rfl

@[simp] theorem see_events (observation : Observation) :
    events.see observation = observation.event? :=
  rfl

@[simp] theorem see_endings (observation : Observation) :
    endings.see observation = observation.ending? :=
  rfl

@[simp] theorem see_calls (observation : Observation) :
    calls.see observation = observation.call? :=
  rfl

/-- Of a request the observations are seen that belong to it. -/
@[simp] theorem see_course
    (request : Nat)
    (observation : Observation) :
    (course request).see observation =
      if observation.request? = some request then some observation else none :=
  rfl

@[simp] theorem of_nil (view : View α) :
    view.of [] = [] :=
  rfl

/-- What is seen of the first observation comes before all else. -/
@[simp] theorem of_cons
    (view : View α)
    (observation : Observation)
    (rest : List Observation) :
    view.of (observation :: rest) =
      (view.see observation).toList ++ view.of rest := by
  cases seen : view.see observation <;> simp [of, seen]

/--
What is seen of two logs in a row is seen of the first and then of the second.
-/
@[simp] theorem of_append
    (view : View α)
    (first second : List Observation) :
    view.of (first ++ second) = view.of first ++ view.of second :=
  List.filterMap_append

end View

namespace Resolution

/-- What is observed of the fetches of a resolution. -/
def observations
    (resolution : Resolution)
    (request : Nat) : List Observation :=
  resolution.requests.map fun made =>
    .fetched request made.path made.fetch.answer

end Resolution

/-- The fetches of a resolution are no events. -/
@[simp] theorem View.events_observations
    (resolution : Resolution)
    (request : Nat) :
    View.events.of (resolution.observations request) = [] := by
  simp [View.of, Resolution.observations, View.events, Observation.event?]

/-- The fetches of a resolution end no request. -/
@[simp] theorem View.endings_observations
    (resolution : Resolution)
    (request : Nat) :
    View.endings.of (resolution.observations request) = [] := by
  simp [View.of, Resolution.observations, View.endings, Observation.ending?]

/-- The fetches of a resolution call no backend. -/
@[simp] theorem View.calls_observations
    (resolution : Resolution)
    (request : Nat) :
    View.calls.of (resolution.observations request) = [] := by
  simp [View.of, Resolution.observations, View.calls, Observation.call?]

/-- The fetches of a resolution belong to its own request. -/
theorem View.course_observations
    (resolution : Resolution)
    (request asked : Nat) :
    (View.course asked).of (resolution.observations request) =
      if request = asked then resolution.observations request else [] := by
  rw [View.of, Resolution.observations, List.filterMap_map]
  by_cases same : request = asked
  · rw [if_pos same, ← List.filterMap_eq_map]
    refine
      congrArg (List.filterMap · resolution.requests) (funext fun made => ?_)
    exact if_pos (congrArg some same)
  · rw [if_neg same, List.filterMap_eq_nil_iff]
    intro made _
    exact if_neg (same ∘ Option.some.inj)

namespace Session

/-! ## What the parts of a session leave alone -/

attribute [simp] finish fail announceFailure note recordCall
  withOptimizer settle

/-- The events that listeners have been told of. -/
def events (session : Session) : List Event :=
  View.events.of session.log

/-- Emitting an event requests nothing. -/
@[simp] theorem requests_emit
    (session : Session)
    (request? : Option Nat)
    (event : Event) :
    (session.emit request? event).requests = session.requests :=
  rfl

/-- Emitting an event keeps the configuration. -/
@[simp] theorem configuration_emit
    (session : Session)
    (request? : Option Nat)
    (event : Event) :
    (session.emit request? event).configuration = session.configuration :=
  rfl

/-- Emitting an event keeps the snapshot. -/
@[simp] theorem snapshot?_emit
    (session : Session)
    (request? : Option Nat)
    (event : Event) :
    (session.emit request? event).snapshot? = session.snapshot? :=
  rfl

/-- What listeners hear of an event, as it is observed. -/
def echo
    (session : Session)
    (event : Event) : List Observation :=
  (session.audience.emit event).1.map Observation.heard

/--
An event is logged with the snapshot of its moment, and its echoes after it.
-/
@[simp] theorem log_emit
    (session : Session)
    (request? : Option Nat)
    (event : Event) :
    (session.emit request? event).log =
      session.log ++
        .emitted request? event session.snapshot? :: session.echo event :=
  rfl

/-- An ending is logged with its duration behind it, each with its echoes. -/
theorem log_finish
    (session : Session)
    (success : Bool)
    (report : Report)
    (job : Job) :
    let finished := Event.finished success report (some job.program)
    (session.finish success report job).log =
      session.log ++
        (.emitted (some job.request) finished session.snapshot? ::
          session.echo finished ++
          .emitted (some job.request) .duration session.snapshot? ::
            (session.emit (some job.request) finished).echo .duration) := by
  simp

/-- A view shows nothing of what listeners heard. -/
@[simp] theorem view_echo
    {α : Type}
    (view : View α)
    (session : Session)
    (event : Event) :
    view.of (session.echo event) = [] := by
  simp [View.of, echo, view.deaf]

/-- Recording fetches leaves the docket alone. -/
@[simp] theorem docket_recordFetches
    (session : Session)
    (request : Nat)
    (resolution : Resolution) :
    (session.recordFetches request resolution).docket = session.docket := by
  unfold recordFetches
  dsimp only
  split <;> rfl

@[simp] theorem requests_recordFetches
    (session : Session)
    (request : Nat)
    (resolution : Resolution) :
    (session.recordFetches request resolution).requests = session.requests := by
  unfold recordFetches
  dsimp only
  split <;> rfl

@[simp] theorem configuration_recordFetches
    (session : Session)
    (request : Nat)
    (resolution : Resolution) :
    (session.recordFetches request resolution).configuration =
      session.configuration := by
  unfold recordFetches
  dsimp only
  split <;> rfl

/-- Recording fetches leaves the snapshot alone. -/
@[simp] theorem snapshot?_recordFetches
    (session : Session)
    (request : Nat)
    (resolution : Resolution) :
    (session.recordFetches request resolution).snapshot? =
      session.snapshot? := by
  unfold recordFetches
  dsimp only
  split <;> rfl

/-- Recording fetches logs what is observed of the resolution. -/
@[simp] theorem log_recordFetches
    (session : Session)
    (request : Nat)
    (resolution : Resolution) :
    (session.recordFetches request resolution).log =
      session.log ++ resolution.observations request := by
  unfold recordFetches
  dsimp only
  split <;> rfl

/-- While files are fetched, background work may go on. -/
theorem toolchain_recordFetches
    (session : Session)
    (request : Nat)
    (resolution : Resolution) :
    (session.recordFetches request resolution).toolchain = session.toolchain ∨
      (session.recordFetches request resolution).toolchain =
        session.toolchain.run := by
  unfold recordFetches
  dsimp only
  split
  · exact Or.inr rfl
  · exact Or.inl rfl

end Session

end CompilerSession
