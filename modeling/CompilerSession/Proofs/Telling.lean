import CompilerSession.Proofs.Stage
import CompilerSession.Proofs.Views

namespace CompilerSession

/-!
# What a session tells on its way

Every step and every opening tells listeners nothing, or one event on its own,
or the end of a request, which its duration follows.  `Session.Speaks` lists
these with what becomes of the snapshot and of the number of requests; the main
statements say that nothing else happens.  What is known of events alone
therefore needs no more cases.
-/

open Session

/-- The ways in which a session goes on to another one, by what it tells. -/
inductive Session.Speaks (session : Session) : Session → Prop where
  | silent
      (after : Session)
      (added : List Observation)
      (logged : after.log = session.log ++ added)
      (untold : View.events.of added = [])
      (kept : after.snapshot? = session.snapshot?)
      (requests : after.requests = session.requests) :
      Speaks session after
  | tells
      (current : Session)
      (request? : Option Nat)
      (event : Event)
      (unended : event.isEnd = false)
      (noDuration : event.isDuration = false)
      (logged : current.log = session.log)
      (kept : current.snapshot? = session.snapshot?)
      (requests :
        current.requests = session.requests + if event.isStart then 1 else 0) :
      Speaks session (current.emit request? event)
  | fails
      (current : Session)
      (failure : Failure)
      (logged : current.log = session.log)
      (requests : current.requests = session.requests) :
      Speaks session (current.announceFailure failure)
  | ends
      (current : Session)
      (added : List Observation)
      (success : Bool)
      (report : Report)
      (job : Job)
      (logged : current.log = session.log ++ added)
      (untold : View.events.of added = [])
      (left :
        current.snapshot? = if success then
          some ⟨report, job.program⟩ else none)
      (requests : current.requests = session.requests) :
      Speaks session (current.finish success report job)

namespace Session.Speaks

variable {session after : Session}

/-- Where nothing at all is observed. -/
private theorem unseen
    (logged : after.log = session.log)
    (kept : after.snapshot? = session.snapshot?)
    (requests : after.requests = session.requests) :
    session.Speaks after :=
  .silent after [] (logged.trans (List.append_nil _).symm) rfl kept requests

/-- Recording fetches is silent. -/
private theorem recordFetches
    (session : Session)
    (request : Nat)
    (resolution : Resolution) :
    session.Speaks (session.recordFetches request resolution) :=
  .silent _ _ (log_recordFetches _ _ _) (by simp) (by simp) (by simp)

end Session.Speaks

/-- Every step goes on in one of these ways. -/
theorem WorkStep.speaks
    {host : Host}
    {stage next : Stage}
    (taken : WorkStep host stage next) :
    stage.session.Speaks next.session := by
  cases taken with
  | stick session job stuck =>
      exact .unseen rfl rfl rfl
  | resolve session job going succeeds =>
      exact .recordFetches _ _ _
  | lack session job failure going fails =>
      exact .recordFetches _ _ _
  | arriveLoaded session job version toolchain arrival =>
      exact .tells { session with toolchain } none (.loaded version) rfl rfl
        rfl rfl rfl
  | arriveFailed session job failure toolchain arrival =>
      exact .fails { session with toolchain } failure rfl rfl
  | arriveNot session job noArrival =>
      exact .unseen rfl rfl rfl
  | postCalled session job toolchain answer accepted =>
      exact .silent _ [.called _ _ answer] rfl rfl rfl rfl
  | postUncalled session job toolchain accepted =>
      exact .unseen rfl rfl rfl
  | postRefused session job failure worker refused =>
      exact .unseen rfl rfl rfl
  | call session job answer called =>
      exact .silent _ [.called _ _ answer] rfl rfl rfl rfl
  | lackBackend session job inline uncalled =>
      exact .unseen rfl rfl rfl
  | retry session job answer missing =>
      exact .silent _ [.answered _ answer] rfl rfl rfl rfl
  | reject session job answer complete fatal =>
      exact .ends _ [.answered _ answer] false _ job rfl rfl rfl rfl
  | accept session job answer complete sound =>
      exact .ends _ [.answered _ answer] true _ job rfl rfl rfl rfl
  | fail session failure job rest =>
      exact
        .ends { session with snapshot? := none } [] false _ job
          (List.append_nil _).symm rfl
          rfl rfl

/-- The opening of an operation goes on in one of these ways. -/
theorem Opening.speaks
    {host : Host}
    {session : Session}
    {operation : Operation}
    {stage : Stage}
    (opens : Opening host session operation stage) :
    session.Speaks stage.session := by
  cases opens with
  | load url mode =>
      exact
        .tells
          { session with
            docket := (session.load host url mode).docket
            toolchain := (session.load host url mode).toolchain }
          none (.loading url mode) rfl rfl rfl rfl rfl
  | compile files target =>
      exact
        .tells { session with requests := session.requests + 1 } _ .started
          rfl rfl rfl
          rfl rfl
  | loaded position version toolchain heard =>
      exact .tells { session with toolchain } none (.loaded version) rfl rfl
        rfl rfl rfl
  | failed position failure toolchain heard =>
      exact .fails { session with toolchain } failure rfl rfl
  | terminated position failure toolchain heard nobody =>
      exact
        .fails { session with toolchain, docket := session.docket.drain.2 }
          failure rfl rfl
  | _ =>
      exact .unseen rfl rfl rfl

end CompilerSession
