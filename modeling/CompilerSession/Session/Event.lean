import CompilerSession.Backend.Basic
import CompilerSession.Report.Snapshot
import CompilerSession.Source.Bundle

namespace CompilerSession

/-!
# Events and observations

Events are what a session tells its listeners.  Observations are all that can be
seen of a session, one after the other: events, what each listener heard,
fetches, calls of the backend, and answers taken from it.  An observation that
belongs to a compile request carries the number of the request.
-/

/-- What a session tells its listeners. -/
inductive Event where
  | loading (url : String) (mode : Mode)
  | loaded (version : String)
  | started
  | finished (success : Bool) (report : Report) (program? : Option Program)
  | duration

namespace Event

/-- The name of an event. -/
def name : Event → String
  | .loading _ _ => "loading"
  | .loaded _ => "loaded"
  | .started => "started"
  | .finished _ _ _ => "finished"
  | .duration => "duration"

end Event

/-- What a listener with a label heard. -/
structure Heard where
  label : String
  event : Event

/--
One thing that can be seen of a session.  With an event goes the snapshot that a
listener finds while the event is delivered.
-/
inductive Observation where
  | emitted (request? : Option Nat) (event : Event)
      (snapshot? : Option Snapshot)
  | heard (heard : Heard)
  | fetched (request : Nat) (path : String) (answer : Except String String)
  | called (request : Nat) (bundle : Bundle) (answer : Answer)
  | answered (request : Nat) (answer : Answer)

end CompilerSession
