import CompilerSession.Report.Modernisation
import CompilerSession.Report.Payload
import CompilerSession.Session.Basic

namespace CompilerSession.Session

/-!
# From a request to its end

A pass resolves the imports of a job, makes its bundle and hands it to the
backend.  An inline backend answers at once: the answer ends the request, or it
names missing inputs and the job goes through another pass.  A worker answers
later, so a pass ends with the job waiting in the docket.

A job that comes back only with inputs that its files already have is stuck and
ends with a failure.  Any other pass over missing inputs has to fetch one of
them, which is why the passes of a request come to an end.
-/

/-- Whether all that the backend misses is already there. -/
def isStuck (job : Job) : Bool :=
  !job.missing.isEmpty && job.missing.all job.sources.contains

/--
Log the fetches of a resolution, in which the background work may have gone on.
-/
def recordFetches
    (session : Session)
    (request : Nat)
    (resolution : Resolution) : Session :=
  let fetched := resolution.requests.map fun made =>
    Observation.fetched request made.path made.fetch.answer
  let logged := { session with log := session.log ++ fetched }
  if resolution.suspends then logged.settle else logged

/-- Take over an inline load that has arrived. -/
def announceArrival (session : Session) : Session :=
  match session.toolchain.poll with
  | some (outcome, toolchain) => { session with toolchain }.announce outcome
  | none => session

/-- A report in the form that the version of the backend in use calls for. -/
def modernReport
    (session : Session)
    (report : Report) : Report :=
  match session.version? with
  | some version => report.modernised version
  | none => report

/-- End a request with what the backend made of it. -/
def conclude
    (session : Session)
    (job : Job)
    (report : Report) : Session :=
  if report.verdict.isFatal then
    { session with snapshot? := none }.finish false report job
  else
    let modern := session.modernReport report
    { session with snapshot? := some ⟨modern, job.program⟩ }.finish true
      modern job

/--
Take an answer of the backend: the job goes on if inputs are missing, and
otherwise the request ends.
-/
def takeAnswer
    (session : Session)
    (job : Job)
    (answer : Answer) : Session × Option Job :=
  let answered := session.note (.answered job.request answer)
  if answer.missing.isEmpty then
    (answered.conclude job (.ofPayload answer.payload), none)
  else (answered, some (job.withMissing answer.missing))

/-- Log the call of a backend. -/
def recordCall
    (session : Session)
    (job : Job)
    (bundle : Bundle)
    (answer : Answer) :
    Session :=
  session.note (.called job.request bundle answer)

/-- Post a job to the worker, where it waits for its answer. -/
def postJob
    (session : Session)
    (job : Job)
    (bundle : Bundle) : Session :=
  let (ticket, docket) := session.docket.enter job
  match session.toolchain.post session.now ticket bundle.text with
  | .ok (toolchain, answer?) =>
    let posted := { session with docket, toolchain }
    match answer? with
    | some answer => posted.recordCall job bundle answer
    | none => posted
  | .error failure =>
    { session with docket := (docket.take ticket).2 }.fail failure job

/-- Hand a job whose imports are resolved to the backend. -/
def dispatch
    (session : Session)
    (job : Job) : Session × Option Job :=
  let bundle : Bundle := ⟨job.sources, session.configuration⟩
  if session.toolchain.mode? = some .worker then
    (session.postJob job bundle, none)
  else
    match session.toolchain.answer? session.now bundle.text with
    | some answer =>
        (session.recordCall job bundle answer).takeAnswer job answer
    | none => (session.fail .noBackend job, none)

/-- One pass over a job; the job is returned if it needs another one. -/
def pass
    (host : Host)
    (session : Session)
    (job : Job) : Session × Option Job :=
  if isStuck job then (session.fail (.missingImports job.missing) job, none)
  else
    let resolution :=
      host.library.resolve session.now job.sources job.target job.missing
    let fetched := session.recordFetches job.request resolution
    let resolved := { job with sources := resolution.files, missing := [] }
    match resolution.failure? with
    | some failure => (fetched.fail failure resolved, none)
    | none => fetched.announceArrival.dispatch resolved

/--
The number of further passes that a job can need, with the first one counted in.
-/
def remaining
    (host : Host)
    (job : Job) : Nat :=
  2 * host.library.absent job.sources + if job.missing.isEmpty then 1 else 0

/-- A job that goes on has the same files and something missing. -/
theorem takeAnswer_retry
    {session : Session}
    {job next : Job}
    {answer : Answer}
    (retried : (session.takeAnswer job answer).2 = some next) :
    next.sources = job.sources ∧ next.missing.isEmpty = false := by
  unfold takeAnswer at retried
  dsimp only at retried
  split at retried
  · cases retried
  · rename_i missing
    cases retried
    exact ⟨rfl, Bool.eq_false_iff.mpr missing⟩

private theorem dispatch_retry
    {session : Session}
    {job next : Job}
    (retried : (session.dispatch job).2 = some next) :
    next.sources = job.sources ∧ next.missing.isEmpty = false := by
  unfold dispatch at retried
  dsimp only at retried
  split at retried
  · cases retried
  · split at retried
    · exact takeAnswer_retry retried
    · cases retried

/--
A job that is not stuck fetches one of its missing inputs, if its resolution
succeeds.
-/
theorem absent_resolve_of_missing
    (host : Host)
    (session : Session)
    {job : Job}
    (missing : job.missing.isEmpty = false)
    (going : ¬ isStuck job = true)
    (succeeds :
      (host.library.resolve session.now job.sources job.target
        job.missing).failure? = none) :
    host.library.absent
        (host.library.resolve session.now job.sources job.target
          job.missing).files <
      host.library.absent job.sources := by
  have unfinished : ¬ job.missing.all job.sources.contains = true := by
    simpa [isStuck, missing] using going
  obtain ⟨hint, member, lacking⟩ :
      ∃ hint ∈ job.missing, job.sources.contains hint = false := by
    simpa using unfinished
  exact host.library.absent_resolve_lt session.now job.sources job.target
    job.missing
    member lacking succeeds

/-- A job that needs another pass has something missing. -/
theorem missing_of_pass
    {host : Host}
    {session : Session}
    {job next : Job}
    (retried : (pass host session job).2 = some next) :
    next.missing.isEmpty = false := by
  unfold pass at retried
  split at retried
  · cases retried
  · dsimp only at retried
    split at retried
    · cases retried
    · exact (dispatch_retry retried).2

/-- A job that needs another pass lacks no more files than before. -/
theorem absent_of_pass
    {host : Host}
    {session : Session}
    {job next : Job}
    (retried : (pass host session job).2 = some next) :
    host.library.absent next.sources ≤ host.library.absent job.sources := by
  unfold pass at retried
  split at retried
  · cases retried
  · dsimp only at retried
    split at retried
    · cases retried
    · rw [(dispatch_retry retried).1]
      exact host.library.absent_resolve_le ..

/-- A job that needs another pass has less left to fetch. -/
theorem remaining_of_pass
    {host : Host}
    {session : Session}
    {job next : Job}
    (retried : (pass host session job).2 = some next) :
    remaining host next < remaining host job := by
  have fewer := absent_of_pass retried
  have missing := missing_of_pass retried
  unfold pass at retried
  split at retried
  · cases retried
  · rename_i going
    dsimp only at retried
    split at retried
    · cases retried
    · rename_i succeeds
      cases first : job.missing.isEmpty with
      | true =>
          simp only [remaining, first, missing, Bool.false_eq_true, ↓reduceIte]
          omega
      | false =>
          have less :=
            absent_resolve_of_missing host session first going succeeds
          simp only [remaining, first, missing, (dispatch_retry retried).1,
            Bool.false_eq_true, ↓reduceIte]
          omega

/--
Take a job through its passes until it waits for a worker or its request has
ended.
-/
def submit
    (host : Host)
    (session : Session)
    (job : Job) : Session :=
  match retried : pass host session job with
  | (after, none) => after
  | (after, some next) =>
    have _less := remaining_of_pass (congrArg Prod.snd retried)
    submit host after next
termination_by remaining host job
decreasing_by exact _less

end CompilerSession.Session
