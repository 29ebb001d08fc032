import CompilerSession.Proofs.Telling
import Mathlib.Data.List.Chain

namespace CompilerSession

/-!
# Starts and durations among the events

There is one start for every request, and the duration of a request is told
right after its end and nowhere else.
-/

open Session

/--
Starts are counted by the requests, and a duration follows each end of a
request.
-/
structure Session.Timed (session : Session) : Prop where
  starts : session.events.countP Event.isStart = session.requests
  durations :
    session.events.IsChain fun earlier later =>
      later.isDuration = earlier.program?.isSome
  last :
    ∀ event ∈ session.events.getLast?, event.program? = none

namespace Session.Timed

variable {session after : Session}

/-- A session that tells nothing and starts nothing stays timed. -/
private theorem silent
    (timed : session.Timed)
    (events : after.events = session.events)
    (requests : after.requests = session.requests) :
    after.Timed where
  starts := by
    rw [events, requests]
    exact timed.starts
  durations := by
    rw [events]
    exact timed.durations
  last := by
    rw [events]
    exact timed.last

/-- An event that ends no request has no duration behind it. -/
private theorem aside
    (timed : session.Timed)
    (event : Event)
    (events : after.events = session.events ++ [event])
    (requests :
      after.requests = session.requests + if event.isStart then 1 else 0)
    (noDuration : event.isDuration = false)
    (noEnding : event.program? = none) :
    after.Timed where
  starts := by
    simp [events, requests, timed.starts, List.countP_singleton]
  durations := by
    rw [events]
    refine timed.durations.append (.singleton event) ?_
    intro earlier isLast later isFirst
    cases isFirst
    simp [noDuration, timed.last earlier isLast]
  last told isLast := by
    rw [events, List.getLast?_concat] at isLast
    cases isLast
    exact noEnding

/-- An ending has a duration behind it. -/
private theorem ending
    (timed : session.Timed)
    (success : Bool)
    (report : Report)
    (program : Program)
    (events :
      after.events =
        session.events ++ [.finished success report (some program), .duration])
    (requests : after.requests = session.requests) :
    after.Timed where
  starts := by
    simp [events, requests, timed.starts, Event.isStart]
  durations := by
    rw [events]
    refine timed.durations.append (.cons_cons (by rfl) (.singleton _)) ?_
    intro earlier isLast later isFirst
    cases isFirst
    simp [Event.isDuration, timed.last earlier isLast]
  last told isLast := by
    rw [events, List.getLast?_append] at isLast
    cases isLast
    rfl

/--
Whatever a session tells on its way keeps starts and durations as they should
be.
-/
theorem speaks
    (timed : session.Timed)
    (speaks : session.Speaks after) :
    after.Timed := by
  cases speaks with
  | silent after added logged untold kept requests =>
      exact timed.silent (by simp [events, logged, untold]) requests
  | tells current request? event unended noDuration logged kept requests =>
      have noEnding : event.program? = none := by
        cases event with
        | finished success report program? =>
            cases unended
        | _ =>
            rfl
      exact timed.aside event (by simp [events, logged]) requests noDuration
        noEnding
  | fails current failure logged requests =>
      exact
        timed.aside (.finished false (.ofError failure.diagnostic) none)
          (by simp [events, logged]) requests rfl rfl
  | ends current added success report job logged untold left requests =>
      exact
        timed.ending success report job.program
          (by simp [events, logged, untold]) requests

theorem runAll
    (host : Host)
    (configuration : Configuration)
    (operations : List Operation) :
    ((Session.new configuration).runAll host operations).Timed :=
  runAll_induction host (.new configuration)
    (fun _ stage => stage.session.Timed)
    { starts := rfl
      durations := .nil
      last := by simp [events, Session.new] }
    (fun timed opens => timed.speaks opens.speaks)
    (fun timed taken => timed.speaks taken.speaks)
    operations

/--
Neighbours among the events: the later one is a duration just after an end.
-/
private theorem neighbours
    (timed : session.Timed)
    {position : Nat}
    {earlier later : Event}
    (first : session.events[position]? = some earlier)
    (second : session.events[position + 1]? = some later) :
    later.isDuration = earlier.program?.isSome := by
  obtain ⟨inside, isEarlier⟩ := List.getElem?_eq_some_iff.mp first
  obtain ⟨within, isLater⟩ := List.getElem?_eq_some_iff.mp second
  have related := List.isChain_iff_getElem.mp timed.durations position within
  rw [isEarlier, isLater] at related
  exact related

/-- Right after the end of a request its duration is told, once. -/
theorem duration_of_ending
    (timed : session.Timed)
    {position : Nat}
    {event : Event}
    (told : session.events[position]? = some event)
    (ends : event.program?.isSome) :
    session.events[position + 1]? = some .duration ∧
      session.events[position + 2]? ≠ some .duration := by
  obtain ⟨inside, isEvent⟩ := List.getElem?_eq_some_iff.mp told
  have more : position + 1 < session.events.length := by
    by_contra isLast
    have last : session.events.getLast? = some event := by
      rw [List.getLast?_eq_getElem?, ← told]
      congr 1
      omega
    rw [timed.last event last] at ends
    cases ends
  have second := List.getElem?_eq_getElem more
  have isDuration := timed.neighbours told second
  rw [ends] at isDuration
  have same : session.events[position + 1] = .duration := by
    generalize session.events[position + 1] = later at isDuration
    cases later <;> cases isDuration
    rfl
  rw [same] at second
  refine ⟨second, fun third => ?_⟩
  have again := timed.neighbours second third
  cases again

/-- No duration is told right after an event that ends no request. -/
theorem no_duration_of_aside
    (timed : session.Timed)
    {position : Nat}
    {event : Event}
    (told : session.events[position]? = some event)
    (aside : event.program? = none) :
    session.events[position + 1]? ≠ some .duration := by
  intro next
  have again := timed.neighbours told next
  rw [aside] at again
  cases again

end Session.Timed

end CompilerSession
