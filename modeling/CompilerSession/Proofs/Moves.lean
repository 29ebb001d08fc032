import CompilerSession.Proofs.Alignment

namespace CompilerSession

/-!
# How a request moves on

A task may be in hand, or it may be owed: a job that waits in the docket is owed
the reply that its worker holds for it or, if the worker will never say
anything, a failure.  Seen from one request there is no difference between a
backend that answers at once and a worker that answers later.  `Move` lists what
can happen to a request; the main statements say that every step moves the
request of one task and leaves all others alone, and that an opening only starts
a request.
-/

open Session

/--
What waits for a job in the docket: its reply, or a failure if none will come.
-/
inductive Session.Owes (session : Session) : Task → Prop where
  | reply
      (ticket : Ticket)
      (job : Job)
      (answer : Answer)
      (held : (ticket, answer) ∈ session.toolchain.replies)
      (waits : (ticket, job) ∈ session.docket.pending) :
      Owes session (.take job answer)
  | failure
      (ticket : Ticket)
      (job : Job)
      (silent : session.toolchain.replies = [])
      (waits : (ticket, job) ∈ session.docket.pending) :
      Owes session (.fail Worker.goneFailure job)

/-- A stage carries the tasks in hand and those that are owed. -/
def Stage.Carries
    (stage : Stage)
    (task : Task) : Prop :=
  task ∈ stage.tasks ∨ stage.session.Owes task

/--
One move of a request: the task before it, what is seen of it, and the task
after it.
-/
inductive Move
    (host : Host)
    (session : Session) :
    Task → List Observation → Option Task → Prop where
  | stick
      (job : Job)
      (stuck : isStuck job = true) :
      Move host session (.pass job) []
        (some (.fail (.missingImports job.missing) job))
  | resolve
      (job : Job)
      (going : ¬ isStuck job = true)
      (succeeds : (session.resolution host job).failure? = none) :
      Move host session (.pass job)
        ((session.resolution host job).observations job.request)
        (some (.arrive (session.resolved host job)))
  | lack
      (job : Job)
      (failure : Failure)
      (going : ¬ isStuck job = true)
      (fails : (session.resolution host job).failure? = some failure) :
      Move host session (.pass job)
        ((session.resolution host job).observations job.request)
        (some (.fail failure (session.resolved host job)))
  | arrive (job : Job) :
      Move host session (.arrive job) [] (some (.dispatch job))
  | call
      (job : Job)
      (backend : Backend)
      (installed : session.toolchain.backend? = some backend) :
      Move host session (.dispatch job)
        [.called job.request (session.bundleFor job)
          (backend.answer session.now (session.bundleFor job).text)]
        (some
          (.take job (backend.answer session.now (session.bundleFor job).text)))
  | miss
      (job : Job)
      (missing : session.toolchain.backend? = none) :
      Move host session (.dispatch job) [] (some (.take job .notReady))
  | lose
      (job : Job)
      (failure : Failure)
      (missing : session.toolchain.backend? = none)
      (cause : failure = .noBackend ∨ failure = Worker.goneFailure) :
      Move host session (.dispatch job) [] (some (.fail failure job))
  | retry
      (job : Job)
      (answer : Answer)
      (missing : answer.missing ≠ []) :
      Move host session (.take job answer) [.answered job.request answer]
        (some (.pass (job.withMissing answer.missing)))
  | reject
      (job : Job)
      (answer : Answer)
      (complete : answer.missing = [])
      (fatal : (Report.ofPayload answer.payload).verdict.isFatal = true) :
      Move host session (.take job answer)
        [.answered job.request answer,
          .emitted job.request
            (.finished false (.ofPayload answer.payload) (some job.program))
            none,
          .emitted job.request .duration none]
        none
  | accept
      (job : Job)
      (answer : Answer)
      (modern : Report)
      (complete : answer.missing = [])
      (sound : ¬ (Report.ofPayload answer.payload).verdict.isFatal = true)
      (isModern : modern = session.modernReport (.ofPayload answer.payload)) :
      Move host session (.take job answer)
        [.answered job.request answer,
          .emitted job.request (.finished true modern (some job.program))
            (some ⟨modern, job.program⟩),
          .emitted job.request .duration (some ⟨modern, job.program⟩)]
        none
  | fail
      (failure : Failure)
      (job : Job) :
      Move host session (.fail failure job)
        [.emitted job.request
            (.finished false (.ofError failure.diagnostic) (some job.program))
            none,
          .emitted job.request .duration none]
        none

theorem Move.same_request
    {host : Host}
    {session : Session}
    {task later : Task}
    {seen : List Observation}
    (move : Move host session task seen (some later)) :
    later.job.request = task.job.request := by
  cases move <;> rfl

/-- A move that goes on tells of no end. -/
theorem Move.untold
    {host : Host}
    {session : Session}
    {task later : Task}
    {seen : List Observation}
    (move : Move host session task seen (some later)) :
    View.endings.of seen = [] := by
  cases move <;> simp

theorem Move.same_target
    {host : Host}
    {session : Session}
    {task later : Task}
    {seen : List Observation}
    (move : Move host session task seen (some later)) :
    later.job.target = task.job.target := by
  cases move <;> rfl

/-- A call is made with the settings of the session. -/
theorem Move.settings
    {host : Host}
    {session : Session}
    {task : Task}
    {seen : List Observation}
    {later? : Option Task}
    {request : Nat}
    {bundle : Bundle}
    {answer : Answer}
    (move : Move host session task seen later?)
    (called : .called request bundle answer ∈ seen) :
    bundle.configuration = session.configuration := by
  cases move with
  | call job backend installed =>
      cases List.mem_singleton.mp called
      rfl
  | _ =>
      simp [Resolution.observations] at called

/-- An answer that is seen to be taken is the one in hand. -/
theorem Move.take_of_answered
    {host : Host}
    {session : Session}
    {task : Task}
    {seen : List Observation}
    {later? : Option Task}
    {request : Nat}
    {answer : Answer}
    (move : Move host session task seen later?)
    (told : .answered request answer ∈ seen) :
    ∃ job, task = .take job answer ∧ request = job.request := by
  cases move with
  | retry job reply missing =>
      simp only [List.mem_singleton, Observation.answered.injEq] at told
      exact ⟨job, by rw [told.2], told.1⟩
  | reject job reply complete fatal =>
      simp only [List.mem_cons, Observation.answered.injEq, reduceCtorEq,
        List.not_mem_nil, or_false] at told
      exact ⟨job, by rw [told.2], told.1⟩
  | accept job reply modern complete sound isModern =>
      simp only [List.mem_cons, Observation.answered.injEq, reduceCtorEq,
        List.not_mem_nil, or_false] at told
      exact ⟨job, by rw [told.2], told.1⟩
  | _ =>
      simp [Resolution.observations] at told

/-- A task that may wait in the docket. -/
def Task.Waits : Task → Prop
  | .take _ _ => True
  | .fail failure _ => failure = Worker.goneFailure
  | _ => False

/-- No load begins in a log. -/
def LoadFree (log : List Observation) : Prop :=
  ∀ url mode, .loading url mode ∉ View.events.of log

/--
What is seen of one request among the observations that are added to a log.
Loads do not begin there, and a call stands there alone.
-/
structure Shows
    (request : Nat)
    (seen added : List Observation) : Prop where
  course :
    ∀ asked,
      (View.course asked).of added = if request = asked then seen else []
  endings : View.endings.of added = View.endings.of seen
  quiet : LoadFree added
  called : ∀ observation ∈ seen, observation.isCall = true → added = seen

/--
A step works on the first task in hand.  It logs what is seen of the request and
perhaps something that belongs to no request, and carries nothing new but what
the task becomes.
-/
structure Moved
    (host : Host)
    (stage next : Stage)
    (task : Task)
    (rest : List Task)
    (seen added : List Observation)
    (later? : Option Task) : Prop where
  hand : stage.tasks = task :: rest
  move : Move host stage.session task seen later?
  logged : next.session.log = stage.session.log ++ added
  shows : Shows task.job.request seen added
  carried :
    ∀ other,
      next.Carries other → other ∈ rest ∨ stage.session.Owes other ∨
        later? = some other
  lands : ∀ later, later? = some later → later ∈ next.tasks ∨ later.Waits
  stays : ∀ other ∈ rest, other ∈ next.tasks

/-! ## What is owed after a change of the docket or the toolchain -/

namespace Session.Owes

variable {session after : Session} {task : Task}

/-- What is owed is a matter of the replies and the docket alone. -/
theorem congr
    (owes : after.Owes task)
    (replies : after.toolchain.replies = session.toolchain.replies)
    (docket : after.docket.pending = session.docket.pending) :
    session.Owes task := by
  cases owes with
  | reply ticket job answer held waits =>
      exact .reply ticket job answer (replies ▸ held) (docket ▸ waits)
  | failure ticket job silent waits =>
      exact .failure ticket job (replies ▸ silent) (docket ▸ waits)

/-- Nothing is owed if nothing waits. -/
theorem nobody
    (owes : session.Owes task)
    (nobody : session.docket.pending = []) :
    False := by
  cases owes with
  | reply ticket job answer held waits =>
      simp [nobody] at waits
  | failure ticket job silent waits =>
      simp [nobody] at waits

/--
A job that is posted and answered is owed its reply, and the others what they
were.
-/
theorem of_posted
    {job : Job}
    {answer : Answer}
    (aligned : session.Aligned)
    (replies :
      after.toolchain.replies =
        session.toolchain.replies ++ [(session.docket.nextTicket, answer)])
    (docket : after.docket = (session.docket.enter job).2)
    (owes : after.Owes task) :
    session.Owes task ∨ task = .take job answer := by
  cases owes with
  | failure ticket other silent waits =>
      simp [replies] at silent
  | reply ticket other reply held waits =>
      simp only [docket, replies, Docket.enter, List.mem_append,
        List.mem_singleton, Prod.mk.injEq] at held waits
      rcases held with before | ⟨isTicket, isReply⟩
      · rcases waits with old | ⟨isTicket, _⟩
        · exact Or.inl (.reply ticket other reply before old)
        · have issued :=
            aligned.ordered.issued ticket
              (aligned.toolchain.waiting_of_reply before)
          exact absurd isTicket (Nat.ne_of_lt issued)
      · rcases waits with old | ⟨_, isJob⟩
        · have issued := aligned.ordered.issued ticket (List.mem_map_of_mem old)
          exact absurd isTicket (Nat.ne_of_lt issued)
        · rw [isReply, isJob]
          exact Or.inr rfl

/-- A job that is posted to a worker that will not answer is owed a failure. -/
theorem of_posted_silent
    {job : Job}
    (silent : session.toolchain.replies = [])
    (stillSilent : after.toolchain.replies = [])
    (docket : after.docket = (session.docket.enter job).2)
    (owes : after.Owes task) :
    session.Owes task ∨ task = .fail Worker.goneFailure job := by
  cases owes with
  | reply ticket other reply held waits =>
      simp [stillSilent] at held
  | failure ticket other _ waits =>
      rw [docket] at waits
      rcases List.mem_append.mp waits with before | new
      · exact Or.inl (.failure ticket other silent before)
      · cases List.mem_singleton.mp new
        exact Or.inr rfl


/-- What is still owed after a reply has been taken out was owed before. -/
theorem of_taken
    {ticket : Ticket}
    {job : Job}
    {answer : Answer}
    {earlier later : List (Ticket × Answer)}
    (aligned : session.Aligned)
    (waiting :
      session.docket.tickets =
        (earlier ++ (ticket, answer) :: later).map Prod.fst)
    (found : (session.docket.take ticket).1 = some job)
    (before : session.toolchain.replies = earlier ++ (ticket, answer) :: later)
    (replies : after.toolchain.replies = earlier ++ later)
    (docket : after.docket = (session.docket.take ticket).2)
    (owes : after.Owes task) :
    session.Owes task := by
  cases owes with
  | reply other waitingJob reply held waits =>
      rw [docket] at waits
      refine .reply other waitingJob reply ?_ (Docket.mem_of_mem_take waits)
      rw [replies] at held
      rw [before]
      simp only [List.mem_append, List.mem_cons] at held ⊢
      rcases held with first | second
      · exact Or.inl first
      · exact Or.inr (Or.inr second)
  | failure other waitingJob silent waits =>
      rw [replies] at silent
      have nobody := Session.Aligned.tickets_take aligned.ordered waiting found
      rw [silent, List.map_nil, Docket.tickets, List.map_eq_nil_iff,
        ← docket] at nobody
      simp [nobody] at waits

end Session.Owes

/-! ## What is seen of a request -/

namespace Shows

variable {host : Host} {session : Session} {request : Nat}

/-- What belongs to a request is seen of it. -/
theorem mem_seen
    {seen added : List Observation}
    {observation : Observation}
    {owner : Nat}
    (shows : Shows request seen added)
    (member : observation ∈ added)
    (own : observation.request? = some owner) :
    observation ∈ seen := by
  have visible : observation ∈ (View.course owner).of added :=
    List.mem_filterMap.mpr ⟨observation, member, if_pos own⟩
  rw [shows.course owner] at visible
  split at visible
  · exact visible
  · cases visible

/-- What is seen to belong to a request belongs to the one that moves. -/
theorem owner
    {seen added : List Observation}
    {observation : Observation}
    {owner : Nat}
    (shows : Shows request seen added)
    (member : observation ∈ added)
    (own : observation.request? = some owner) :
    owner = request := by
  have visible : observation ∈ (View.course owner).of added :=
    List.mem_filterMap.mpr ⟨observation, member, if_pos own⟩
  rw [shows.course owner] at visible
  split at visible
  · rename_i same
    exact same.symm
  · cases visible

private theorem nothing :
    Shows request [] [] where
  course asked := by
    simp
  endings :=
    rfl
  quiet url mode := by
    simp
  called observation member := by
    cases member

/-- Of a resolution its request sees all, and no other request sees anything. -/
private theorem resolution
    (resolution : Resolution) :
    Shows request (resolution.observations request)
      (resolution.observations request) where
  course asked :=
    View.course_observations resolution request asked
  endings :=
    rfl
  quiet url mode := by
    simp
  called _ _ _ :=
    rfl

/-- Of an event beside the requests no request sees anything. -/
private theorem aside
    (event : Event)
    (noLoad : ∀ url mode, event ≠ .loading url mode)
    (noEnding : event.program? = none) :
    Shows request []
      (.emitted none event session.snapshot? :: session.echo event) where
  course asked := by
    simp
  endings := by
    cases event with
    | finished success report program? =>
        cases noEnding
        simp
    | _ =>
        simp
  quiet url mode := by
    simpa using (noLoad url mode).symm
  called observation member := by
    cases member

private theorem call
    (bundle : Bundle)
    (answer : Answer) :
    Shows request [.called request bundle answer]
      [.called request bundle answer] where
  course asked := by
    by_cases same : request = asked <;> simp [same]
  endings :=
    rfl
  quiet url mode := by
    simp
  called _ _ _ :=
    rfl

private theorem answer
    (answer : Answer) :
    Shows request [.answered request answer] [.answered request answer] where
  course asked := by
    by_cases same : request = asked <;> simp [same]
  endings :=
    rfl
  quiet url mode := by
    simp
  called _ _ _ :=
    rfl

/--
An ending and its duration are seen by their own request, and their echoes by
none.
-/
private theorem ending
    (first second : Session)
    (success : Bool)
    (report : Report)
    (program : Program)
    (snapshot? : Option Snapshot) :
    let finished := Event.finished success report (some program)
    Shows request
      [.emitted (some request) finished snapshot?,
        .emitted (some request) .duration snapshot?]
      (.emitted (some request) finished snapshot? :: first.echo finished ++
        .emitted (some request) .duration snapshot? :: second.echo .duration)
          where
  course asked := by
    by_cases same : request = asked <;> simp [same]
  endings := by
    simp
  quiet url mode := by
    simp
  called observation member isCall := by
    simp only [List.mem_cons, List.not_mem_nil, or_false] at member
    rcases member with rfl | rfl <;> cases isCall

/-- An answer that is followed by the end of the request. -/
private theorem cons_answer
    {seen added : List Observation}
    (shows : Shows request seen added)
    (uncalled : ∀ observation ∈ seen, observation.isCall = false)
    (answer : Answer) :
    Shows request (.answered request answer :: seen)
      (.answered request answer :: added) where
  course asked := by
    rw [View.of_cons, shows.course asked]
    by_cases same : request = asked <;> simp [same]
  endings := by
    simpa using shows.endings
  quiet url mode := by
    simpa using shows.quiet url mode
  called observation member isCall := by
    rcases List.mem_cons.mp member with rfl | later
    · cases isCall
    · rw [uncalled observation later] at isCall
      cases isCall

end Shows

/-! ## Every step is a move -/

namespace Moved

variable {host : Host} {stage next : Stage}

/-- The task that a step works on was carried. -/
theorem carried_task
    {task : Task}
    {rest : List Task}
    {seen added : List Observation}
    {later? : Option Task}
    (moved : Moved host stage next task rest seen added later?) :
    stage.Carries task :=
  Or.inl (by simp [moved.hand])

/--
Whatever is carried after a step was carried before, or is what the task became.
-/
theorem carried_before
    {task other : Task}
    {rest : List Task}
    {seen added : List Observation}
    {later? : Option Task}
    (moved : Moved host stage next task rest seen added later?)
    (carries : next.Carries other) :
    stage.Carries other ∨ later? = some other := by
  rcases moved.carried other carries with inRest | owes | becomes
  · exact Or.inl (Or.inl (by simp [moved.hand, inRest]))
  · exact Or.inl (Or.inr owes)
  · exact Or.inr becomes

/-- A step that leaves docket and replies alone moves the task in hand only. -/
private theorem of_kept
    {task : Task}
    {rest : List Task}
    {seen added : List Observation}
    {later? : Option Task}
    (hand : stage.tasks = task :: rest)
    (move : Move host stage.session task seen later?)
    (logged : next.session.log = stage.session.log ++ added)
    (shows : Shows task.job.request seen added)
    (replies : next.session.toolchain.replies = stage.session.toolchain.replies)
    (docket : next.session.docket.pending = stage.session.docket.pending)
    (left : next.tasks = later?.toList ++ rest) :
    Moved host stage next task rest seen added later? where
  hand :=
    hand
  move :=
    move
  logged :=
    logged
  shows :=
    shows
  carried other carries := by
    rcases carries with inHand | owes
    · rw [left] at inHand
      rcases List.mem_append.mp inHand with new | old
      · exact Or.inr (Or.inr (Option.mem_toList.mp new))
      · exact Or.inl old
    · exact Or.inr (Or.inl (owes.congr replies docket))
  lands later isLater := by
    simp [left, isLater]
  stays other member := by
    simp [left, member]

/-- A step that posts a job, which is owed what it becomes. -/
private theorem of_posted
    {session : Session}
    {job : Job}
    {seen added : List Observation}
    {later : Task}
    (move : Move host session (.dispatch job) seen (some later))
    (logged : next.session.log = session.log ++ added)
    (shows : Shows job.request seen added)
    (owed : ∀ task, next.session.Owes task → session.Owes task ∨ task = later)
    (waits : later.Waits)
    (left : next.tasks = []) :
    Moved host ⟨session, [.dispatch job]⟩ next (.dispatch job) [] seen added
      (some later) where
  hand :=
    rfl
  move :=
    move
  logged :=
    logged
  shows :=
    shows
  carried other carries := by
    rcases carries with inHand | owes
    · simp [left] at inHand
    · rcases owed other owes with before | new
      · exact Or.inr (Or.inl before)
      · exact Or.inr (Or.inr (congrArg some new.symm))
  lands _ isLater := by
    cases isLater
    exact Or.inr waits
  stays other member := by
    cases member

end Moved

/--
Every step works on the first task in hand and moves the request of that task.
-/
theorem WorkStep.moves
    {host : Host}
    {stage next : Stage}
    (taken : WorkStep host stage next)
    (aligned : stage.session.Aligned) :
    ∃ task rest seen added later?,
      Moved host stage next task rest seen added later? := by
  cases taken with
  | stick session job stuck =>
      exact
        ⟨_, _, _, _, _,
          .of_kept rfl (.stick job stuck) (List.append_nil _).symm .nothing
          rfl rfl rfl⟩
  | resolve session job going succeeds =>
      exact
        ⟨_, _, _, _, _,
          .of_kept rfl (.resolve job going succeeds) (log_recordFetches _ _ _)
          (.resolution _) (replies_recordFetches _ _ _) (by simp) rfl⟩
  | lack session job failure going fails =>
      exact
        ⟨_, _, _, _, _,
          .of_kept rfl (.lack job failure going fails) (log_recordFetches _ _ _)
          (.resolution _) (replies_recordFetches _ _ _) (by simp) rfl⟩
  | arriveLoaded session job version toolchain arrival =>
      obtain ⟨_, silent, backend, _, shape⟩ :=
        aligned.toolchain.poll_loaded arrival
      subst shape
      exact
        ⟨_, _, _, _, _, .of_kept rfl (.arrive job) rfl
          (.aside (.loaded version) (fun _ _ => nofun) rfl) silent.symm rfl rfl⟩
  | arriveFailed session job failure toolchain arrival =>
      obtain ⟨_, silent, shape⟩ := aligned.toolchain.poll_failed arrival
      subst shape
      exact
        ⟨_, _, _, _, _, .of_kept rfl (.arrive job) rfl
          (.aside (.finished false (.ofError failure.diagnostic) none)
            (fun _ _ => nofun) rfl)
          silent.symm rfl rfl⟩
  | arriveNot session job noArrival =>
      exact
        ⟨_, _, _, _, _,
          .of_kept rfl (.arrive job) (List.append_nil _).symm .nothing
          rfl rfl rfl⟩
  | postCalled session job toolchain answer accepted =>
      obtain ⟨_, replies, _, backend, installed, _, isAnswer⟩ :=
        aligned.toolchain.post_called accepted
      subst isAnswer
      exact
        ⟨_, _, _, _, _, .of_posted (.call job backend installed) rfl (.call _ _)
          (fun _ owes => owes.of_posted aligned replies rfl) trivial rfl⟩
  | postUncalled session job toolchain accepted =>
      obtain ⟨_, replies, _, missing, _⟩ :=
        aligned.toolchain.post_uncalled accepted
      -- Such a worker is gone or will be, or it answers that it has no backend.
      rcases replies with ⟨silent, stillSilent⟩ | replies
      · exact
          ⟨_, _, _, _, _, .of_posted (.lose job _ missing (Or.inr rfl))
            (List.append_nil _).symm .nothing
            (fun _ owes => owes.of_posted_silent silent stillSilent rfl)
              rfl rfl⟩
      · exact
          ⟨_, _, _, _, _,
            .of_posted (.miss job missing) (List.append_nil _).symm .nothing
            (fun _ owes => owes.of_posted aligned replies rfl) trivial rfl⟩
  | postRefused session job failure worker refused =>
      obtain ⟨missing, isGone⟩ := aligned.toolchain.post_refused worker refused
      exact
        ⟨_, _, _, _, _, .of_kept rfl (.lose job failure missing (Or.inr isGone))
          (List.append_nil _).symm .nothing rfl
          (aligned.ordered.take_enter job) rfl⟩
  | call session job answer called =>
      obtain ⟨backend, installed, isAnswer⟩ :=
        Toolchain.backend_of_answer called
      subst isAnswer
      exact
        ⟨_, _, _, _, _,
          .of_kept rfl (.call job backend installed) rfl (.call _ _)
          rfl rfl rfl⟩
  | lackBackend session job inline uncalled =>
      exact
        ⟨_, _, _, _, _, .of_kept rfl
          (.lose job .noBackend (Toolchain.no_backend inline uncalled)
            (Or.inl rfl))
          (List.append_nil _).symm .nothing rfl rfl rfl⟩
  | retry session job answer missing =>
      exact
        ⟨_, _, _, _, _,
          .of_kept rfl (.retry job answer missing) rfl (.answer answer)
          rfl rfl rfl⟩
  | reject session job answer complete fatal =>
      exact
        ⟨_, _, _, _, _, .of_kept rfl (.reject job answer complete fatal)
          (by simp only [log_finish, answered, note, List.append_assoc]; rfl)
          ((Shows.ending _ _ false (.ofPayload answer.payload) job.program
            none).cons_answer
            (by simp [Observation.isCall]) answer)
          rfl rfl rfl⟩
  | accept session job answer complete sound =>
      exact
        ⟨_, _, _, _, _, .of_kept rfl (.accept job answer _ complete sound rfl)
          (by simp only [log_finish, answered, note, List.append_assoc]; rfl)
          ((Shows.ending _ _ true
            (session.modernReport (.ofPayload answer.payload)) job.program
            _).cons_answer (by simp [Observation.isCall]) answer)
          rfl rfl rfl⟩
  | fail session failure job rest =>
      exact
        ⟨_, _, _, _, _, .of_kept rfl (.fail failure job) (log_finish _ _ _ _)
          (.ending _ _ false (.ofError failure.diagnostic) job.program none)
          rfl rfl rfl⟩

theorem WorkStep.configuration
    {host : Host}
    {stage next : Stage}
    (taken : WorkStep host stage next) :
    next.session.configuration = stage.session.configuration := by
  cases taken <;> simp

/-- No step makes a request. -/
theorem WorkStep.requests
    {host : Host}
    {stage next : Stage}
    (taken : WorkStep host stage next) :
    next.session.requests = stage.session.requests := by
  cases taken <;> simp

/-! ## An opening starts a request or takes what is owed -/

/-- A task after an opening is that of a new request, or it was owed. -/
theorem Opening.carries
    {host : Host}
    {session : Session}
    {operation : Operation}
    {stage : Stage}
    {task : Task}
    (opens : Opening host session operation stage)
    (aligned : session.Aligned)
    (carries : stage.Carries task) :
    session.Owes task ∨
      ∃ files target,
        operation = .compile files target ∧
          task = .pass (.new session.requests files target) := by
  have noTask :
      ∀ {after : Session},
        Stage.Carries ⟨after, []⟩ task →
        (after.Owes task → session.Owes task) →
        session.Owes task := by
    intro after carried owed
    rcases carried with inHand | owes
    · cases inHand
    · exact owed owes
  cases opens with
  | compile files target =>
      rcases carries with inHand | owes
      · exact Or.inr ⟨files, target, rfl, List.mem_singleton.mp inHand⟩
      · exact Or.inl (owes.congr rfl rfl)
  | load url mode =>
      exact Or.inl (noTask carries fun owes => (owes.nobody rfl).elim)
  | withOptimizer optimize =>
      exact Or.inl (noTask carries fun owes => owes.congr rfl rfl)
  | settle =>
      exact Or.inl (noTask carries fun owes => owes.congr (by simp) rfl)
  | subscribe label =>
      exact Or.inl (noTask carries fun owes => owes.congr rfl rfl)
  | unsubscribe subscription =>
      exact Or.inl (noTask carries fun owes => owes.congr rfl rfl)
  | quiet position noNews =>
      exact Or.inl (noTask carries id)
  | loaded position version toolchain heard =>
      cases aligned.toolchain.heard_of_next heard with
      | loaded backend inactive kept after replies installed known =>
          exact Or.inl (noTask carries fun owes => owes.congr replies rfl)
  | failed position failure toolchain heard =>
      cases aligned.toolchain.heard_of_next heard with
      | failed failure inactive before after replies missing unknown =>
          exact Or.inl (noTask carries fun owes => owes.congr replies rfl)
  | terminated position failure toolchain heard nobody =>
      exact Or.inl (noTask carries fun owes => (owes.nobody rfl).elim)
  | abandoned position failure toolchain heard somebody =>
      cases aligned.toolchain.heard_of_next heard with
      | terminated inactive before silent =>
          rcases carries with inHand | owes
          · obtain ⟨job, drained, isFail⟩ := List.mem_map.mp inHand
            obtain ⟨entry, waits, isJob⟩ := List.mem_map.mp drained
            rw [← isFail, ← isJob]
            exact Or.inl (.failure entry.1 entry.2 silent waits)
          · exact (owes.nobody rfl).elim
  | compiled position ticket answer toolchain job heard found =>
      cases aligned.toolchain.heard_of_next heard with
      | compiled earlier ticket answer later waiting after before replies same
          active known =>
          rcases carries with inHand | owes
          · rw [List.mem_singleton.mp inHand]
            exact
              Or.inl
                (.reply ticket job answer (by simp [before])
                  (aligned.ordered.mem_of_take found))
          · exact
              Or.inl (owes.of_taken aligned waiting found before replies rfl)
  | discarded position ticket answer toolchain heard unknown =>
      cases aligned.toolchain.heard_of_next heard with
      | compiled earlier ticket answer later waiting after before replies same
          active known =>
          have member : ticket ∈ session.docket.tickets := by
            simp [waiting]
          obtain ⟨job, found⟩ := Docket.take_isSome member
          rw [unknown] at found
          cases found

/-- An opening never lowers the number of requests. -/
theorem Opening.requests_le
    {host : Host}
    {session : Session}
    {operation : Operation}
    {stage : Stage}
    (opens : Opening host session operation stage) :
    session.requests ≤ stage.session.requests := by
  cases opens with
  | compile files target =>
      exact Nat.le_succ session.requests
  | _ =>
      exact Nat.le_refl session.requests

/--
What an opening logs shows the start of a request if it makes one and otherwise
nothing of any, and only a load begins a load.
-/
theorem Opening.logs
    {host : Host}
    {session : Session}
    {operation : Operation}
    {stage : Stage}
    (opens : Opening host session operation stage) :
    ∃ added,
      stage.session.log = session.log ++ added ∧
        (∀ request,
          (View.course request).of added =
            if operation.program?.isSome ∧ request = session.requests then
              [.emitted (some request) .started session.snapshot?]
            else []) ∧
        View.endings.of added = [] ∧
        (LoadFree added ∨ ∃ url mode, operation = .load url mode) := by
  cases opens with
  | compile files target =>
      refine ⟨_, log_emit _ _ _, ?_, by simp, Or.inl fun url mode => by simp⟩
      intro request
      by_cases same : request = session.requests
      · simp [same, Operation.program?]
      · simp [same, Ne.symm same, Operation.program?]
  | load url mode =>
      exact
        ⟨_, log_emit _ _ _,
          by simp [Operation.program?], by simp, Or.inr ⟨url, mode, rfl⟩⟩
  | loaded position version toolchain heard =>
      exact
        ⟨_, log_emit _ _ _,
          by simp [Operation.program?], by simp, Or.inl fun url mode => by simp⟩
  | failed position failure toolchain heard =>
      exact
        ⟨_, log_emit _ _ _,
          by simp [Operation.program?], by simp, Or.inl fun url mode => by simp⟩
  | terminated position failure toolchain heard nobody =>
      exact
        ⟨_, log_emit _ _ _,
          by simp [Operation.program?], by simp, Or.inl fun url mode => by simp⟩
  | _ =>
      exact
        ⟨[], (List.append_nil _).symm, by simp [Operation.program?], rfl,
          Or.inl fun url mode => by simp⟩

end CompilerSession
