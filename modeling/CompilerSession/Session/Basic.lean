import CompilerSession.Audience
import CompilerSession.Backend.Toolchain
import CompilerSession.Session.Event
import CompilerSession.Source.Resolution

namespace CompilerSession

/-!
# Sessions

A session is the compiler of one editor: the toolchain, the jobs that wait for
their worker, the snapshot of the last compilation if that succeeded, the
settings, the listeners, and the log of all that has been observed.  The length
of the log is the moment at which something happens.
-/

/--
What surrounds a session: where files are fetched from and how backends are
loaded.
-/
structure Host where
  library : Library
  load : (moment : Nat) → (url : String) → LoadResult

/-- The compiler of one editor. -/
structure Session where
  toolchain : Toolchain
  docket : Docket Job
  snapshot? : Option Snapshot
  configuration : Configuration
  audience : Audience Event String Heard
  requests : Nat
  log : List Observation

/-- What a session is doing, as an editor shows it. -/
inductive Status where
  | idle
  | loadingBackend
  | backendReady
  | compiling
  deriving Repr, DecidableEq

/-- The name of a state. -/
def Status.name : Status → String
  | .idle => "Idle"
  | .loadingBackend => "LoadingBackend"
  | .backendReady => "BackendReady"
  | .compiling => "Compiling"

namespace Session

/-- A session that has done nothing yet. -/
def new (configuration : Configuration) : Session where
  toolchain := .unloaded
  docket := .empty
  snapshot? := none
  configuration := configuration
  audience := .empty
  requests := 0
  log := []

/-- The moment at which the next thing happens. -/
def now (session : Session) : Nat := session.log.length

/-- The version of the backend in use. -/
def version? (session : Session) : Option String := session.toolchain.version?

/-- The number of jobs that wait for their worker. -/
def waitingJobs (session : Session) : Nat := session.docket.size

/-- What the session is doing. -/
def state (session : Session) : Status :=
  if session.toolchain.isLoading then .loadingBackend
  else if session.toolchain.active?.isNone then .idle
  else if !session.docket.isEmpty then .compiling
  else .backendReady

/-- Set the optimizer flag for the bundles made from now on. -/
def withOptimizer
    (session : Session)
    (optimize : Bool) : Session :=
  { session with configuration := { session.configuration with optimize } }

/-- Add a listener with a label. -/
def subscribe
    (session : Session)
    (label : String) : Subscription × Session :=
  let listener := ⟨label, fun label event => (label, ⟨label, event⟩)⟩
  let (subscription, audience) := session.audience.subscribe listener
  (subscription, { session with audience })

/-- Remove a listener and tell whether it was there. -/
def unsubscribe
    (session : Session)
    (subscription : Subscription) : Bool × Session :=
  let (found, audience) := session.audience.unsubscribe subscription
  (found, { session with audience })

/-- Add an observation to the log. -/
def note
    (session : Session)
    (observation : Observation) : Session :=
  { session with log := session.log ++ [observation] }

/-- Tell the listeners of an event. -/
def emit
    (session : Session)
    (request? : Option Nat)
    (event : Event) : Session :=
  let (heard, audience) := session.audience.emit event
  { session with
    audience
    log := session.log ++
      .emitted request? event session.snapshot? :: heard.map Observation.heard }

/-- Announce how a request ended, and that its time is known. -/
def finish
    (session : Session)
    (success : Bool)
    (report : Report)
    (job : Job) : Session :=
  let finished :=
    session.emit (some job.request)
      (.finished success report (some job.program))
  finished.emit (some job.request) .duration

/-- End a request with a failure; there is no snapshot any more. -/
def fail
    (session : Session)
    (failure : Failure)
    (job : Job) : Session :=
  { session with snapshot? := none }.finish false
    (.ofError failure.diagnostic) job

/--
Announce a failure that belongs to no request; there is no snapshot any more.
-/
def announceFailure
    (session : Session)
    (failure : Failure) : Session :=
  { session with snapshot? := none }.emit none
    (.finished false (.ofError failure.diagnostic) none)

/-- Announce the end of an inline load. -/
def announce
    (session : Session)
    (outcome : Except Failure String) : Session :=
  match outcome with
  | .ok version => session.emit none (.loaded version)
  | .error failure => session.announceFailure failure

/--
End every waiting request with a failure, or announce it on its own if none
waits.
-/
def failWaiting
    (session : Session)
    (failure : Failure) : Session :=
  let (jobs, docket) := session.docket.drain
  let drained := { session with docket }
  match jobs with
  | [] => drained.announceFailure failure
  | _ => jobs.foldl (fun current job => current.fail failure job) drained

/-- Let the background work run until it can do nothing more. -/
def settle (session : Session) : Session :=
  { session with toolchain := session.toolchain.run }

end Session

end CompilerSession
