import CompilerSession.Session.News

namespace CompilerSession.Session

/-!
# What an editor does with a session

An editor loads backends, asks for compilations, and lets the session take the
next news of its backend.  `Operation` names all of these, and a run is a list
of them.
-/

/--
Load a backend in place of the one before, whose waiting jobs are dropped.
-/
def load
    (host : Host)
    (session : Session)
    (url : String)
    (mode : Mode) : Session :=
  let told := session.emit none (.loading url mode)
  { told with
    docket := told.docket.clear.2
    toolchain := .load url mode (host.load told.now url) }

/-- Compile files for a target. -/
def compile
    (host : Host)
    (session : Session)
    (files : SourceSet)
    (target : String) : Session :=
  let request := session.requests
  let counted := { session with requests := request + 1 }
  (counted.emit (some request) .started).submit host (.new request files target)

/-- What an editor can do. -/
inductive Operation where
  | load (url : String) (mode : Mode)
  | compile (files : SourceSet) (target : String)
  | withOptimizer (optimize : Bool)
  | next (position : Nat)
  | settle
  | subscribe (label : String)
  | unsubscribe (subscription : Subscription)

/-- The session after an operation. -/
def apply
    (host : Host)
    (session : Session) : Operation → Session
  | .load url mode => session.load host url mode
  | .compile files target => session.compile host files target
  | .withOptimizer optimize => session.withOptimizer optimize
  | .next position => (session.next host position).2
  | .settle => session.settle
  | .subscribe label => (session.subscribe label).2
  | .unsubscribe subscription => (session.unsubscribe subscription).2

/-- The session after a run of operations. -/
def runAll
    (host : Host)
    (session : Session)
    (operations : List Operation) : Session :=
  operations.foldl (apply host) session

end CompilerSession.Session
