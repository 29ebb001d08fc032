import CompilerSession.Backend.Worker

namespace CompilerSession

/-!
# The toolchain

The toolchain owns the backend in use and the way to reach it.  Loading another
one drops all that belonged to the one before: its load if that was still going
on, its worker, and every answer still to come.

An inline load goes on in the background; that it has arrived is noticed by
`poll` or by `next`, whichever comes first.
-/

/-- A backend in use. -/
structure ActiveBackend where
  version : String
  mode : Mode
  deriving Repr, DecidableEq

/-- The way to reach a backend. -/
inductive Link where
  | unloaded
  | loading (url : String) (outcome : LoadResult) (arrived : Bool)
  | inline (backend : Backend)
  | worker (worker : Worker) (awaitingVersion : Bool)

/-- The backend in use, if any, and the way to reach it. -/
structure Toolchain where
  link : Link
  active? : Option ActiveBackend

/-- News from the backend. -/
inductive News where
  | loaded (version : String)
  | failed (failure : Failure)
  | terminated (failure : Failure)
  | compiled (ticket : Ticket) (answer : Answer)
  deriving Repr, DecidableEq

/--
What comes of waiting for news: news, none to wait for, or waiting without end.
-/
inductive Wait where
  | news (news : News)
  | nothing
  | blocked
  deriving Repr, DecidableEq

namespace Toolchain

/-- The toolchain before any load. -/
def unloaded : Toolchain := ⟨.unloaded, none⟩

/-- Start loading a backend in place of the one before. -/
def load
    (url : String)
    (mode : Mode)
    (outcome : LoadResult) : Toolchain :=
  match mode with
  | .inline => ⟨.loading url outcome false, none⟩
  | .worker => ⟨.worker (Worker.start url outcome) true, none⟩

/-- The version of the backend in use. -/
def version? (toolchain : Toolchain) : Option String :=
  toolchain.active?.map ActiveBackend.version

/-- The mode of the backend that is loaded or being loaded. -/
def mode? (toolchain : Toolchain) : Option Mode :=
  match toolchain.link with
  | .unloaded => none
  | .loading _ _ _ => some .inline
  | .inline _ => some .inline
  | .worker _ _ => some .worker

/-- Whether a load is going on. -/
def isLoading (toolchain : Toolchain) : Bool :=
  match toolchain.link with
  | .unloaded => false
  | .loading _ _ _ => true
  | .inline _ => false
  | .worker _ awaitingVersion => awaitingVersion

/-- Whether a load comes to an end. -/
def ends : LoadResult → Bool
  | .endless => false
  | _ => true

/-- Let the background work run until it can do nothing more. -/
def run (toolchain : Toolchain) : Toolchain :=
  match toolchain.link with
  | .loading url outcome arrived =>
    { toolchain with link := .loading url outcome (arrived || ends outcome) }
  | .worker worker awaitingVersion =>
    { toolchain with link := .worker worker.run awaitingVersion }
  | _ => toolchain

/-- What a loader that crashes leaves to be said. -/
def abandonedLoad : String := "loader finished without producing a backend"

/-- Take over the end of an inline load: the version, or why there is none. -/
def settle
    (toolchain : Toolchain)
    (url : String) :
    LoadResult → Option (Except Failure String × Toolchain)
  | .ready backend =>
    some
      (.ok backend.version, ⟨.inline backend, some ⟨backend.version, .inline⟩⟩)
  | .failed message =>
    some
      (.error (.loadFailed url message), { toolchain with link := .unloaded })
  | .crashed =>
    some
      (.error (.loadFailed url abandonedLoad),
        { toolchain with link := .unloaded })
  | .endless => none

/-- Take over an inline load that has arrived, without waiting for it. -/
def poll (toolchain : Toolchain) : Option (Except Failure String × Toolchain) :=
  match toolchain.link with
  | .loading url outcome true => toolchain.settle url outcome
  | _ => none

/-- Call the inline backend, if there is one. -/
def answer?
    (toolchain : Toolchain)
    (moment : Nat)
    (input : String) : Option Answer :=
  match toolchain.link with
  | .inline backend => some (backend.answer moment input)
  | _ => none

/--
Post a job to the worker; the call it led to, if any, comes with the new
toolchain.
-/
def post
    (toolchain : Toolchain)
    (moment : Nat)
    (ticket : Ticket)
    (input : String) :
    Except Failure (Toolchain × Option Answer) :=
  match toolchain.link with
  | .worker worker awaitingVersion =>
    match worker.post moment ticket input with
    | .accepted next answer? =>
      .ok ({ toolchain with link := .worker next awaitingVersion }, answer?)
    | .refused => .error Worker.goneFailure
  | _ => .error .noBackend

/-- What a message of the worker means. -/
def hear
    (toolchain : Toolchain)
    (worker : Worker)
    (awaitingVersion : Bool) :
    Message → News × Toolchain
  | .loaded version =>
    (.loaded version, ⟨.worker worker false, some ⟨version, .worker⟩⟩)
  | .failed message =>
    (.failed (.workerFailed message),
      { toolchain with link := .worker worker false })
  | .compiled ticket answer =>
    (.compiled ticket answer,
      { toolchain with link := .worker worker awaitingVersion })

/--
Wait for the next news, given how many jobs wait for an answer.  There is
something to wait for while a load goes on or, with a worker, while a job waits.
-/
def next
    (toolchain : Toolchain)
    (pending position : Nat) : Wait × Toolchain :=
  match toolchain.link with
  | .unloaded => (.nothing, toolchain)
  | .inline _ => (.nothing, toolchain)
  | .loading url outcome _ =>
    match toolchain.settle url outcome with
    | some (.ok version, settled) => (.news (.loaded version), settled)
    | some (.error failure, settled) => (.news (.failed failure), settled)
    | none => (.blocked, toolchain)
  | .worker worker awaitingVersion =>
    if !awaitingVersion && pending == 0 then (.nothing, toolchain)
    else
      match worker.receive position with
      | .message message next =>
        let (news, heard) := toolchain.hear next awaitingVersion message
        (.news news, heard)
      | .gone => (.news (.terminated Worker.goneFailure), unloaded)
      | .never => (.blocked, toolchain)

/--
The number of pieces of news that can come without a new job: one for a load,
one for the end of a worker, and one for each message that is ready.
-/
def waiting (toolchain : Toolchain) : Nat :=
  match toolchain.link with
  | .unloaded => 0
  | .loading _ _ _ => 1
  | .inline _ => 0
  | .worker worker _ => worker.ready + 1

/-- Background work makes no news and loses none. -/
@[simp] theorem waiting_run (toolchain : Toolchain) :
    toolchain.run.waiting = toolchain.waiting := by
  unfold run
  split <;> simp_all [waiting]

/-- Posting a job makes one piece of news at most. -/
theorem waiting_of_post
    {toolchain after : Toolchain}
    {moment : Nat}
    {ticket : Ticket}
    {input : String}
    {answer? : Option Answer}
    (posted : toolchain.post moment ticket input = .ok (after, answer?)) :
    after.waiting ≤ toolchain.waiting + 1 := by
  unfold post at posted
  split at posted
  · rename_i worker awaitingVersion link
    split at posted
    · rename_i accepted
      cases posted
      have more := Worker.ready_of_post accepted
      simp only [waiting, link]
      omega
    · cases posted
  · cases posted

private theorem waiting_of_settle
    {toolchain settled : Toolchain}
    {url : String}
    {outcome : LoadResult}
    {result : Except Failure String}
    (arrival : toolchain.settle url outcome = some (result, settled)) :
    settled.waiting = 0 := by
  unfold settle at arrival
  split at arrival <;> cases arrival <;> rfl

/-- Taking over an inline load leaves no news. -/
theorem waiting_of_poll
    {toolchain settled : Toolchain}
    {result : Except Failure String}
    (arrival : toolchain.poll = some (result, settled)) :
    settled.waiting = 0 := by
  unfold poll at arrival
  split at arrival
  · exact waiting_of_settle arrival
  · cases arrival

/-- Taking news leaves less of it. -/
theorem waiting_of_next
    {toolchain after : Toolchain}
    {pending position : Nat}
    {news : News}
    (taken : toolchain.next pending position = (.news news, after)) :
    after.waiting < toolchain.waiting := by
  unfold next at taken
  split at taken
  · cases taken
  · cases taken
  · rename_i url outcome arrived link
    split at taken
    · rename_i version settled arrival
      cases taken
      rw [waiting_of_settle arrival]
      simp [waiting, link]
    · rename_i failure settled arrival
      cases taken
      rw [waiting_of_settle arrival]
      simp [waiting, link]
    · cases taken
  · rename_i worker awaitingVersion link
    split at taken
    · cases taken
    · split at taken
      · rename_i message remaining received
        have fewer := Worker.ready_of_receive received
        cases message <;>
        · cases taken
          simp only [waiting, link]
          omega
      · cases taken
        simp [waiting, link, unloaded]
      · cases taken

end Toolchain

end CompilerSession
