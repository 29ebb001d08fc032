import CompilerSession.Backend.Basic
import CompilerSession.Docket

namespace CompilerSession

/-!
# Workers

A worker loads one backend and compiles the jobs posted to it.  It first says
how the load went and then answers jobs, and what it has not been asked for yet
waits in its outbox.  A job is taken up when it is posted.

The worker of a loader that crashes accepts jobs until it next runs and is gone
from then on; the jobs it accepted are never answered.  The worker of a load
that does not end accepts jobs and says nothing.
-/

/-- What a worker says. -/
inductive Message where
  | loaded (version : String)
  | failed (message : String)
  | compiled (ticket : Ticket) (answer : Answer)
  deriving Repr, DecidableEq

/-- A worker by how its load goes. -/
inductive Worker where
  | serving (backend : Backend) (outbox : List Message)
  | withoutBackend (outbox : List Message)
  | doomed
  | gone
  | endless

namespace Worker

/-- The failure of a worker that is not there any more. -/
def goneFailure : Failure := .workerFailed "worker is no longer running"

/-- Start a worker on a load. -/
def start (url : String) : LoadResult → Worker
  | .ready backend => .serving backend [.loaded backend.version]
  | .failed message =>
      .withoutBackend [.failed ("failed to load " ++ url ++ ": " ++ message)]
  | .crashed => .doomed
  | .endless => .endless

/-- Let the worker run until it can do nothing more. -/
def run : Worker → Worker
  | .doomed => .gone
  | worker => worker

/--
How a posted job is received: refused, or accepted with the answer of the call
it led to.
-/
inductive Posting where
  | refused
  | accepted (worker : Worker) (answer? : Option Answer)

/-- Post the text of a bundle as a job. -/
def post
    (worker : Worker)
    (moment : Nat)
    (ticket : Ticket)
    (input : String) : Posting :=
  match worker with
  | .serving backend outbox =>
    let answer := backend.answer moment input
    .accepted (.serving backend (outbox ++ [.compiled ticket answer]))
      (some answer)
  | .withoutBackend outbox =>
    .accepted (.withoutBackend (outbox ++ [.compiled ticket .notReady])) none
  | .doomed => .accepted .doomed none
  | .endless => .accepted .endless none
  | .gone => .refused

/--
Take one message out of an outbox.  News of the load comes first; of the answers
to jobs any may come next, and a position past the end means the last one.
-/
def pick
    (position : Nat)
    (outbox : List Message) : Option (Message × List Message) :=
  match outbox with
  | [] => none
  | .loaded version :: rest => some (.loaded version, rest)
  | .failed message :: rest => some (.failed message, rest)
  | first :: rest =>
    let place := min position rest.length
    some ((first :: rest).getD place first, (first :: rest).eraseIdx place)

/--
What comes of waiting for a worker: a message, the end of the worker, or nothing
ever.
-/
inductive Delivery where
  | message (message : Message) (worker : Worker)
  | gone
  | never

/--
Wait for a message; a worker without a backend answers jobs in the order of
posting.
-/
def receive
    (worker : Worker)
    (position : Nat) : Delivery :=
  match worker.run with
  | .serving backend outbox =>
    match pick position outbox with
    | some (message, rest) => .message message (.serving backend rest)
    | none => .never
  | .withoutBackend outbox =>
    match pick 0 outbox with
    | some (message, rest) => .message message (.withoutBackend rest)
    | none => .never
  | .doomed => .gone
  | .gone => .gone
  | .endless => .never

/-- The number of messages that are ready. -/
def ready : Worker → Nat
  | .serving _ outbox => outbox.length
  | .withoutBackend outbox => outbox.length
  | _ => 0

/-- Running makes no message and loses none. -/
@[simp] theorem ready_run
    (worker : Worker) :
    worker.run.ready = worker.ready := by
  cases worker <;> rfl

/-- Posting a job makes one message at most. -/
theorem ready_of_post
    {worker after : Worker}
    {moment : Nat}
    {ticket : Ticket}
    {input : String}
    {answer? : Option Answer}
    (posted : worker.post moment ticket input = .accepted after answer?) :
    after.ready ≤ worker.ready + 1 := by
  cases worker <;> cases posted <;> simp [ready]

/-- Picking a message out leaves fewer behind, so reading an outbox ends. -/
private theorem length_of_pick
    {position : Nat}
    {outbox rest : List Message}
    {message : Message}
    (picked : pick position outbox = some (message, rest)) :
    rest.length < outbox.length := by
  unfold pick at picked
  split at picked
  · cases picked
  · cases picked
    simp
  · cases picked
    simp
  · cases picked
    simp only [List.length_eraseIdx, List.length_cons]
    split <;> omega

/-- Receiving a message leaves one less. -/
theorem ready_of_receive
    {worker after : Worker}
    {position : Nat}
    {message : Message}
    (received : worker.receive position = .message message after) :
    after.ready < worker.ready := by
  unfold receive at received
  cases worker with
  | serving backend outbox =>
      simp only [run] at received
      split at received
      · rename_i picked
        cases received
        exact length_of_pick picked
      · cases received
  | withoutBackend outbox =>
      simp only [run] at received
      split at received
      · rename_i picked
        cases received
        exact length_of_pick picked
      · cases received
  | doomed =>
      cases received
  | gone =>
      cases received
  | endless =>
      cases received

end Worker

end CompilerSession
