import CompilerSession.Session.Compilation

namespace CompilerSession.Session

/-!
# Taking news

A session learns how its loads and its posted jobs went by taking news, one
piece at a time.  There is some to wait for while a load goes on or a job waits
for a worker.

`outstanding` bounds the news that can still come without a new request.  The
main statement says that every piece taken lowers it, also when an answer sends
its job back to the worker; so an editor that takes news until there is none
comes to an end.
-/

/-- Take one piece of news. -/
def handle
    (host : Host)
    (session : Session) : News → Session
  | .loaded version => session.emit none (.loaded version)
  | .failed failure => session.announceFailure failure
  | .terminated failure => session.failWaiting failure
  | .compiled ticket answer =>
    match session.docket.take ticket with
    | (some job, docket) =>
      match { session with docket }.takeAnswer job answer with
      | (after, some next) => after.submit host next
      | (after, none) => after
    | (none, _) => session

/-- What came of asking for news. -/
inductive Progress where
  | handled
  | nothing
  | blocked
  deriving Repr, DecidableEq

/--
Take the next news, waiting for it if need be.  The position chooses among the
answers that a worker has ready.
-/
def next
    (host : Host)
    (session : Session)
    (position : Nat) : Progress × Session :=
  match session.toolchain.next session.waitingJobs position with
  | (.nothing, _) => (.nothing, session)
  | (.blocked, _) => (.blocked, session)
  | (.news news, toolchain) =>
      (.handled, { session with toolchain }.handle host news)

/-- The number of passes that waiting jobs may still take together. -/
def passesOf (host : Host) : List (Ticket × Job) → Nat
  | [] => 0
  | waiting :: rest =>
      host.library.absent waiting.2.sources + 1 + passesOf host rest

/-- The number of passes that the jobs of a docket may still take. -/
def passesLeft
    (host : Host)
    (docket : Docket Job) : Nat :=
  passesOf host docket.pending

/--
The largest number of pieces of news that can come without a new request: one
for each pass that a waiting job may still need, and those that the backend has
to say.
-/
def outstanding
    (host : Host)
    (session : Session) : Nat :=
  passesLeft host session.docket + session.toolchain.waiting

/-! ## What the parts of a session leave alone -/

@[simp] theorem docket_emit
    (session : Session)
    (request? : Option Nat)
    (event : Event) :
    (session.emit request? event).docket = session.docket :=
  rfl

@[simp] theorem toolchain_emit
    (session : Session)
    (request? : Option Nat)
    (event : Event) :
    (session.emit request? event).toolchain = session.toolchain :=
  rfl

@[simp] theorem outstanding_emit
    (host : Host)
    (session : Session)
    (request? : Option Nat)
    (event : Event) :
    (session.emit request? event).outstanding host = session.outstanding host :=
  rfl

@[simp] theorem outstanding_fail
    (host : Host)
    (session : Session)
    (failure : Failure)
    (job : Job) :
    (session.fail failure job).outstanding host = session.outstanding host :=
  rfl

@[simp] theorem outstanding_announceFailure
    (host : Host)
    (session : Session)
    (failure : Failure) :
    (session.announceFailure failure).outstanding host =
      session.outstanding host :=
  rfl

@[simp] theorem outstanding_announce
    (host : Host)
    (session : Session)
    (outcome : Except Failure String) :
    (session.announce outcome).outstanding host = session.outstanding host := by
  cases outcome <;> rfl

@[simp] theorem outstanding_recordCall
    (host : Host)
    (session : Session)
    (job : Job)
    (bundle : Bundle)
    (answer : Answer) :
    (session.recordCall job bundle answer).outstanding host =
      session.outstanding host :=
  rfl

@[simp] theorem outstanding_takeAnswer
    (host : Host)
    (session : Session)
    (job : Job)
    (answer : Answer) :
    (session.takeAnswer job answer).1.outstanding host =
      session.outstanding host := by
  unfold takeAnswer conclude
  dsimp only
  split
  · split <;> rfl
  · rfl

@[simp] theorem outstanding_settle
    (host : Host)
    (session : Session) :
    session.settle.outstanding host = session.outstanding host := by
  simp [settle, outstanding]

@[simp] theorem outstanding_recordFetches
    (host : Host)
    (session : Session)
    (request : Nat)
    (resolution : Resolution) :
    (session.recordFetches request resolution).outstanding host =
      session.outstanding host := by
  unfold recordFetches
  dsimp only
  split
  · rw [outstanding_settle]
    rfl
  · rfl

/-- Announcing an arrival leaves no more news outstanding. -/
theorem outstanding_announceArrival_le
    (host : Host)
    (session : Session) :
    session.announceArrival.outstanding host ≤ session.outstanding host := by
  unfold announceArrival
  split
  · rename_i arrival
    rw [outstanding_announce]
    simp [outstanding, Toolchain.waiting_of_poll arrival]
  · exact Nat.le_refl _

/-- Failing all that waits leaves no more news outstanding. -/
theorem outstanding_failWaiting_le
    (host : Host)
    (session : Session)
    (failure : Failure) :
    (session.failWaiting failure).outstanding host ≤
      session.outstanding host := by
  have drained : ∀ (jobs : List Job) (current : Session),
      (jobs.foldl (fun current job => current.fail failure job)
        current).outstanding host =
        current.outstanding host := by
    intro jobs
    induction jobs with
    | nil =>
        exact fun _ => rfl
    | cons job rest inductionHypothesis =>
        exact fun current => (inductionHypothesis _).trans (outstanding_fail ..)
  unfold failWaiting
  dsimp only
  split
  · rw [outstanding_announceFailure]
    simp [outstanding, passesLeft, passesOf, Docket.drain]
  · rw [drained]
    simp [outstanding, passesLeft, passesOf, Docket.drain]

/-! ## Every piece of news leaves less outstanding -/

/-- The passes of two dockets in a row add up. -/
private theorem passesOf_append
    (host : Host)
    (earlier later : List (Ticket × Job)) :
    passesOf host (earlier ++ later) =
      passesOf host earlier + passesOf host later := by
  induction earlier with
  | nil =>
      simp [passesOf]
  | cons head rest inductionHypothesis =>
      simp only [List.cons_append, passesOf, inductionHypothesis]
      omega

/-- Fewer jobs have no more passes left. -/
private theorem passesOf_filter_le
    (host : Host)
    (pending : List (Ticket × Job))
    (keep : Ticket × Job → Bool) :
    passesOf host (pending.filter keep) ≤ passesOf host pending := by
  induction pending with
  | nil =>
      exact Nat.le_refl _
  | cons head rest inductionHypothesis =>
      rw [List.filter_cons]
      split
      · exact Nat.add_le_add_left inductionHypothesis _
      · exact Nat.le_trans inductionHypothesis (Nat.le_add_left ..)

/-- A job that enters brings its passes. -/
private theorem passesLeft_enter
    (host : Host)
    (docket : Docket Job)
    (job : Job) :
    passesLeft host (docket.enter job).2 =
      passesLeft host docket + (host.library.absent job.sources + 1) :=
  passesOf_append host docket.pending [(docket.nextTicket, job)]

/-- A job that enters and is taken leaves no pass behind. -/
private theorem passesLeft_take_enter_le
    (host : Host)
    (docket : Docket Job)
    (job : Job) :
    passesLeft host ((docket.enter job).2.take (docket.enter job).1).2 ≤
      passesLeft host docket := by
  have gone : [(docket.nextTicket, job)].filter
      (fun waiting => waiting.1 != docket.nextTicket) = [] := by
    simp
  simp only [passesLeft, Docket.enter, Docket.take, List.filter_append, gone,
    List.append_nil]
  exact passesOf_filter_le host docket.pending _

/-- A job that is taken gives up its passes. -/
private theorem passesLeft_take
    (host : Host)
    (docket rest : Docket Job)
    {ticket : Ticket}
    {job : Job}
    (taken : docket.take ticket = (some job, rest)) :
    passesLeft host rest + (host.library.absent job.sources + 1) ≤
      passesLeft host docket := by
  simp only [Docket.take, Prod.mk.injEq, Option.map_eq_some_iff] at taken
  obtain ⟨⟨waiting, found, same⟩, kept⟩ := taken
  subst same
  subst kept
  simp only [passesLeft]
  generalize docket.pending = pending at found ⊢
  induction pending with
  | nil =>
      cases found
  | cons head others inductionHypothesis =>
      rw [List.find?_cons] at found
      rw [List.filter_cons]
      split at found
      · rename_i matching
        cases found
        have kept :=
          passesOf_filter_le host others fun entry => entry.1 != ticket
        have dropped : (waiting.1 != ticket) = false := by simpa using matching
        simp only [dropped, Bool.false_eq_true, ↓reduceIte, passesOf]
        omega
      · rename_i other
        have kept : (head.1 != ticket) = true := by simpa using other
        have smaller := inductionHypothesis found
        simp only [kept, ↓reduceIte, passesOf]
        omega

/-- Posting a job adds its passes and one reply at most. -/
private theorem outstanding_postJob_le
    (host : Host)
    (session : Session)
    (job : Job)
    (bundle : Bundle) :
    (session.postJob job bundle).outstanding host ≤
      session.outstanding host + host.library.absent job.sources + 2 := by
  unfold postJob
  dsimp only
  split
  · rename_i toolchain answer? posted
    have more := Toolchain.waiting_of_post posted
    have passes := passesLeft_enter host session.docket job
    cases answer? with
    | none =>
        simp only [outstanding]
        omega
    | some answer =>
        rw [outstanding_recordCall]
        simp only [outstanding]
        omega
  · rw [outstanding_fail]
    have fewer := passesLeft_take_enter_le host session.docket job
    simp only [outstanding]
    omega

/-- Dispatching a job adds its passes and one reply at most. -/
private theorem outstanding_dispatch_le
    (host : Host)
    (session : Session)
    (job : Job) :
    (session.dispatch job).1.outstanding host ≤
      session.outstanding host + host.library.absent job.sources + 2 := by
  unfold dispatch
  dsimp only
  split
  · exact outstanding_postJob_le ..
  · split
    · rw [outstanding_takeAnswer, outstanding_recordCall]
      omega
    · rw [outstanding_fail]
      omega

/-- A job that goes on at once leaves as much news outstanding as before. -/
private theorem outstanding_dispatch_retry
    (host : Host)
    (session : Session)
    {job next : Job}
    (retried : (session.dispatch job).2 = some next) :
    (session.dispatch job).1.outstanding host = session.outstanding host := by
  unfold dispatch at retried ⊢
  dsimp only at retried ⊢
  split at retried
  · cases retried
  · rename_i inline
    simp only [inline, ↓reduceIte]
    split at retried
    · rw [outstanding_takeAnswer, outstanding_recordCall]
    · cases retried

/--
A pass over missing inputs adds no more than what its job could still need.
-/
private theorem outstanding_pass_le
    (host : Host)
    (session : Session)
    {job : Job}
    (missing : job.missing.isEmpty = false) :
    (pass host session job).1.outstanding host ≤
      session.outstanding host + host.library.absent job.sources + 1 := by
  unfold pass
  split
  · rw [outstanding_fail]
    omega
  · rename_i going
    dsimp only
    split
    · rw [outstanding_fail, outstanding_recordFetches]
      omega
    · rename_i succeeds
      have less := absent_resolve_of_missing host session missing going succeeds
      have arrival :=
        outstanding_announceArrival_le host (session.recordFetches job.request
        (host.library.resolve session.now job.sources job.target job.missing))
      rw [outstanding_recordFetches] at arrival
      refine Nat.le_trans (outstanding_dispatch_le ..) ?_
      dsimp only
      omega

/-- A pass that calls for another one adds nothing. -/
private theorem outstanding_pass_retry
    (host : Host)
    (session : Session)
    {job next : Job}
    (retried : (pass host session job).2 = some next) :
    (pass host session job).1.outstanding host ≤ session.outstanding host := by
  unfold pass at retried ⊢
  split at retried
  · cases retried
  · rename_i going
    dsimp only at retried
    simp only [going, Bool.false_eq_true, ↓reduceIte]
    split at retried
    · cases retried
    · rw [outstanding_dispatch_retry _ _ retried]
      refine Nat.le_trans (outstanding_announceArrival_le ..) ?_
      exact Nat.le_of_eq (outstanding_recordFetches ..)

/--
Submitting a job with missing inputs adds no more than what it could still need.
-/
private theorem outstanding_submit_le
    (host : Host)
    (session : Session)
    {job : Job}
    (missing : job.missing.isEmpty = false) :
    (submit host session job).outstanding host ≤
      session.outstanding host + host.library.absent job.sources + 1 := by
  fun_induction submit host session job with
  | case1 session job after ended =>
      have bound := outstanding_pass_le host session missing
      rw [ended] at bound
      exact bound
  | case2 session job after next retried less inductionHypothesis =>
      have again : (pass host session job).2 = some next :=
        congrArg Prod.snd retried
      have kept := outstanding_pass_retry host session again
      have nextMissing := missing_of_pass again
      have fewer := absent_of_pass again
      have bound := inductionHypothesis nextMissing
      rw [retried] at kept
      dsimp only at kept
      omega

/-- What a piece of news leads to adds nothing to what is outstanding. -/
theorem outstanding_handle_le
    (host : Host)
    (session : Session)
    (news : News) :
    (session.handle host news).outstanding host ≤ session.outstanding host := by
  unfold handle
  split
  · exact Nat.le_refl _
  · exact Nat.le_refl _
  · exact outstanding_failWaiting_le ..
  · rename_i ticket answer
    split
    · rename_i job rest taken
      have fewer := passesLeft_take host session.docket rest taken
      have kept :=
        outstanding_takeAnswer host { session with docket := rest } job answer
      split
      · rename_i after next completed
        have retry := takeAnswer_retry (congrArg Prod.snd completed)
        have bound := outstanding_submit_le host after retry.2
        rw [completed] at kept
        rw [retry.1] at bound
        simp only [outstanding] at *
        omega
      · rename_i after completed
        rw [completed] at kept
        simp only [outstanding] at *
        omega
    · exact Nat.le_refl _

/-- Every piece of news that is taken lowers what is outstanding. -/
theorem outstanding_of_next
    {host : Host}
    {session after : Session}
    {position : Nat}
    (taken : session.next host position = (.handled, after)) :
    after.outstanding host < session.outstanding host := by
  unfold next at taken
  split at taken
  · cases taken
  · cases taken
  · rename_i news toolchain heard
    cases taken
    have less := Toolchain.waiting_of_next heard
    have bound := outstanding_handle_le host { session with toolchain } news
    simp only [outstanding] at *
    omega

/-- Take news, that of the oldest job first, until there is none to wait for. -/
def untilIdle
    (host : Host)
    (session : Session) : Progress × Session :=
  match taken : session.next host 0 with
  | (.handled, after) =>
    have _less := outstanding_of_next taken
    untilIdle host after
  | (.nothing, after) => (.nothing, after)
  | (.blocked, after) => (.blocked, after)
termination_by outstanding host session

end CompilerSession.Session
