import CompilerSession.Failure
import CompilerSession.Json.Basic

namespace CompilerSession

/-!
# Backends

A backend is a compiler that takes the text of a bundle.  It names the imports
that it could not find and returns a payload, refuses with an error, or crashes;
`answer` makes one answer of all of these, in which an error or a crash is a
payload that says so.  What a backend does may differ from one moment to the
next.
-/

/-- How a call of a backend ends; a crash may come without a text. -/
inductive CallOutcome where
  | returned (payload : String)
  | refused (error : String)
  | crashed (text? : Option String)
  deriving Repr, DecidableEq

/--
What a backend does in one call: the imports it asks for in order, and how it
ends.
-/
structure Call where
  requested : List String
  outcome : CallOutcome
  deriving Repr, DecidableEq

/-- A compiler with its version. -/
structure Backend where
  version : String
  compile : (moment : Nat) → (input : String) → Call

/-- The payload of a call with the imports that it missed, each once. -/
structure Answer where
  payload : String
  missing : List String
  deriving Repr, DecidableEq

namespace Answer

/-- The payload that reports an error. -/
def failurePayload (message : String) : String :=
  (Json.object [("error", .object [("formattedMessage", .string message),
    ("message", .string message), ("severity", .string "error")])]).text

/-- The values of a list in the order in which they first occur. -/
def distinct (values : List String) : List String :=
  values.foldl
    (fun known value => if value ∈ known then known else known ++ [value]) []

/-- The payload of a call however it ended. -/
def payloadOf : CallOutcome → String
  | .returned payload => payload
  | .refused error => failurePayload ("Uncaught exception:\n" ++ error)
  | .crashed text? =>
      failurePayload ("Uncaught exception:\n" ++ text?.getD "backend panicked")

/-- The answer of a call. -/
def ofCall
    (call : Call) : Answer :=
  ⟨payloadOf call.outcome, distinct call.requested⟩

/-- The answer to a job whose worker has no backend. -/
def notReady : Answer := ⟨failurePayload Failure.noBackend.message, []⟩

end Answer

namespace Backend

/-- Compile the text of a bundle. -/
def answer
    (backend : Backend)
    (moment : Nat)
    (input : String) : Answer :=
  .ofCall (backend.compile moment input)

end Backend

/-- How the load of a backend ends, if it does. -/
inductive LoadResult where
  | ready (backend : Backend)
  | failed (message : String)
  | crashed
  | endless

/-- The two ways of running a backend. -/
inductive Mode where
  | inline
  | worker
  deriving Repr, DecidableEq

namespace Mode

/-- The name of a mode. -/
def name : Mode → String
  | .inline => "inline"
  | .worker => "worker"

/-- Whether a backend runs in a worker of its own. -/
def isWorker (mode : Mode) : Bool := mode == .worker

end Mode

end CompilerSession
