import CompilerSession.Proofs.Docket
import CompilerSession.Proofs.Stage
import CompilerSession.Proofs.Views

namespace CompilerSession

/-!
# Dockets and workers in step

A worker that answers holds one reply for every entry of the docket, in the
order of the tickets.  A worker that crashed or never loads holds none, and
every other toolchain leaves the docket empty.  `Session.Aligned` says so,
together with what is known of the version; the main statements are that every
operation preserves it and what each piece of news takes out of it.
-/

/-- The ticket and the answer of a reply to a job. -/
def Message.reply? : Message → Option (Ticket × Answer)
  | .compiled ticket answer => some (ticket, answer)
  | _ => none

@[simp] theorem Message.reply?_loaded
    (version : String) :
    reply? (.loaded version) = none :=
  rfl

@[simp] theorem Message.reply?_failed
    (message : String) :
    reply? (.failed message) = none :=
  rfl

@[simp] theorem Message.reply?_compiled
    (ticket : Ticket)
    (answer : Answer) :
    reply? (.compiled ticket answer) = some (ticket, answer) :=
  rfl

/-- Replies as a worker holds them. -/
def Message.replies (answers : List (Ticket × Answer)) : List Message :=
  answers.map fun reply => .compiled reply.1 reply.2

@[simp] theorem Message.filterMap_replies
    (answers : List (Ticket × Answer)) :
    (replies answers).filterMap reply? = answers := by
  induction answers with
  | nil =>
      rfl
  | cons reply rest inductionHypothesis =>
      simpa [replies] using inductionHypothesis

namespace Toolchain

/-- The replies that wait to be heard. -/
def replies (toolchain : Toolchain) : List (Ticket × Answer) :=
  match toolchain.link with
  | .worker (.serving _ outbox) _ => outbox.filterMap Message.reply?
  | .worker (.withoutBackend outbox) _ => outbox.filterMap Message.reply?
  | _ => []

/-- Whether a load goes on that does not end. -/
def isEndless (toolchain : Toolchain) : Bool :=
  match toolchain.link with
  | .loading _ .endless _ => true
  | .worker .endless _ => true
  | _ => false

/-- The backend that can be called. -/
def backend? (toolchain : Toolchain) : Option Backend :=
  match toolchain.link with
  | .inline backend => some backend
  | .worker (.serving backend _) _ => some backend
  | _ => none

/-- A toolchain agrees with the tickets of the entries that wait. -/
inductive Aligned : Toolchain → List Ticket → Prop where
  | unloaded :
      Aligned ⟨.unloaded, none⟩ []
  | loading (url : String) (outcome : LoadResult) (arrived : Bool) :
      Aligned ⟨.loading url outcome arrived, none⟩ []
  | inline (backend : Backend) :
      Aligned ⟨.inline backend, some ⟨backend.version, .inline⟩⟩ []
  | announcing (backend : Backend) (answers : List (Ticket × Answer)) :
      Aligned
        ⟨.worker
          (.serving backend
            (.loaded backend.version :: Message.replies answers)) true, none⟩
        (answers.map Prod.fst)
  | serving (backend : Backend) (answers : List (Ticket × Answer)) :
      Aligned
        ⟨.worker (.serving backend (Message.replies answers)) false,
          some ⟨backend.version, .worker⟩⟩
        (answers.map Prod.fst)
  | regretting (message : String) (tickets : List Ticket) :
      Aligned
        ⟨.worker
            (.withoutBackend (.failed message ::
              Message.replies (tickets.map fun ticket => (ticket, .notReady))))
            true, none⟩
        tickets
  | refusing (tickets : List Ticket) :
      Aligned
        ⟨.worker
            (.withoutBackend
              (Message.replies (tickets.map fun ticket => (ticket, .notReady))))
            false, none⟩
        tickets
  | doomed (tickets : List Ticket) :
      Aligned ⟨.worker .doomed true, none⟩ tickets
  | gone (tickets : List Ticket) :
      Aligned ⟨.worker .gone true, none⟩ tickets
  | endless (tickets : List Ticket) :
      Aligned ⟨.worker .endless true, none⟩ tickets

/-- A toolchain that just began to load owes no replies. -/
theorem aligned_load
    (url : String)
    (mode : Mode)
    (outcome : LoadResult) :
    Aligned (load url mode outcome) [] := by
  cases mode with
  | inline =>
      exact .loading url outcome false
  | worker =>
      cases outcome with
      | ready backend =>
          exact .announcing backend []
      | failed message =>
          exact .regretting _ []
      | crashed =>
          exact .doomed []
      | endless =>
          exact .endless []

/-! ## What background work leaves alone -/

@[simp] theorem replies_run
    (toolchain : Toolchain) :
    toolchain.run.replies = toolchain.replies := by
  rcases toolchain with ⟨link, active?⟩
  cases link with
  | worker worker awaitingVersion =>
      cases worker <;> rfl
  | _ =>
      rfl

@[simp] theorem backend?_run
    (toolchain : Toolchain) :
    toolchain.run.backend? = toolchain.backend? := by
  rcases toolchain with ⟨link, active?⟩
  cases link with
  | worker worker awaitingVersion =>
      cases worker <;> rfl
  | _ =>
      rfl

@[simp] theorem active?_run
    (toolchain : Toolchain) :
    toolchain.run.active? = toolchain.active? := by
  rcases toolchain with ⟨link, active?⟩
  cases link <;> rfl

/-- A load that arrives finds no backend installed. -/
theorem backend?_of_poll
    {toolchain after : Toolchain}
    {outcome : Except Failure String}
    (arrival : toolchain.poll = some (outcome, after)) :
    toolchain.backend? = none := by
  rcases toolchain with ⟨link, active?⟩
  cases link with
  | loading url outcome arrived =>
      rfl
  | _ =>
      cases arrival

/-- Whatever answers at once is the backend. -/
theorem backend_of_answer
    {toolchain : Toolchain}
    {moment : Nat}
    {input : String}
    {answer : Answer}
    (called : toolchain.answer? moment input = some answer) :
    ∃ backend, toolchain.backend? = some backend ∧
      answer = backend.answer moment input := by
  rcases toolchain with ⟨link, active?⟩
  cases link with
  | inline backend =>
      cases called
      exact ⟨backend, rfl, rfl⟩
  | _ =>
      cases called

/-- Without a worker there is no backend but one that answers at once. -/
theorem no_backend
    {toolchain : Toolchain}
    {moment : Nat}
    {input : String}
    (inline : toolchain.mode? ≠ some .worker)
    (uncalled : toolchain.answer? moment input = none) :
    toolchain.backend? = none := by
  rcases toolchain with ⟨link, active?⟩
  cases link with
  | unloaded =>
      rfl
  | loading url outcome arrived =>
      rfl
  | inline backend =>
      cases uncalled
  | worker worker awaitingVersion =>
      exact absurd rfl inline

namespace Aligned

variable {toolchain after : Toolchain} {tickets : List Ticket}

/-- A worker that runs owes replies to the same tickets. -/
theorem run
    (aligned : Aligned toolchain tickets) :
    Aligned toolchain.run tickets := by
  cases aligned with
  | loading url outcome arrived =>
      exact .loading url outcome _
  | doomed tickets =>
      exact .gone tickets
  | unloaded =>
      exact .unloaded
  | inline backend =>
      exact .inline backend
  | announcing backend answers =>
      exact .announcing backend answers
  | serving backend answers =>
      exact .serving backend answers
  | regretting message tickets =>
      exact .regretting message tickets
  | refusing tickets =>
      exact .refusing tickets
  | gone tickets =>
      exact .gone tickets
  | endless tickets =>
      exact .endless tickets

/-- A reply is one to an entry that waits. -/
theorem waiting_of_reply
    {ticket : Ticket}
    {answer : Answer}
    (aligned : Aligned toolchain tickets)
    (held : (ticket, answer) ∈ toolchain.replies) :
    ticket ∈ tickets := by
  cases aligned with
  | announcing backend answers =>
      simp only [replies, List.filterMap_cons, Message.reply?_loaded,
        Message.filterMap_replies] at held
      exact List.mem_map_of_mem held
  | serving backend answers =>
      simp only [replies, Message.filterMap_replies] at held
      exact List.mem_map_of_mem held
  | regretting message tickets =>
      simp only [replies, List.filterMap_cons, Message.reply?_failed,
        Message.filterMap_replies] at held
      obtain ⟨waiting, waits, same⟩ := List.mem_map.mp held
      cases same
      exact waits
  | refusing tickets =>
      simp only [replies, Message.filterMap_replies] at held
      obtain ⟨waiting, waits, same⟩ := List.mem_map.mp held
      cases same
      exact waits
  | _ =>
      cases held

/-- An entry that waits has a reply, unless there is none for any. -/
theorem reply_of_waiting
    {ticket : Ticket}
    (aligned : Aligned toolchain tickets)
    (waits : ticket ∈ tickets) :
    toolchain.replies = [] ∨
      ∃ answer, (ticket, answer) ∈ toolchain.replies := by
  cases aligned with
  | announcing backend answers =>
      obtain ⟨⟨_, answer⟩, held, rfl⟩ := List.mem_map.mp waits
      exact Or.inr ⟨answer, by simpa [replies, List.filterMap_cons] using held⟩
  | serving backend answers =>
      obtain ⟨⟨_, answer⟩, held, rfl⟩ := List.mem_map.mp waits
      exact Or.inr ⟨answer, by simpa [replies] using held⟩
  | regretting message tickets =>
      exact
        Or.inr ⟨.notReady, by simpa [replies, List.filterMap_cons] using waits⟩
  | refusing tickets =>
      exact Or.inr ⟨.notReady, by simpa [replies] using waits⟩
  | _ =>
      exact Or.inl rfl

/-- An inline load that arrived leaves its backend. -/
theorem settle_loaded
    {url version : String}
    {outcome : LoadResult}
    {arrived : Bool}
    (arrival :
      settle ⟨.loading url outcome arrived, none⟩ url outcome =
        some (.ok version, after)) :
    ∃ backend,
      outcome = .ready backend ∧
        version = backend.version ∧
        after = ⟨.inline backend, some ⟨backend.version, .inline⟩⟩ := by
  cases outcome with
  | ready backend =>
      cases arrival
      exact ⟨backend, rfl, rfl, rfl⟩
  | failed message =>
      cases arrival
  | crashed =>
      cases arrival
  | endless =>
      cases arrival

/-- An inline load that failed leaves nothing. -/
theorem settle_failed
    {url : String}
    {outcome : LoadResult}
    {arrived : Bool}
    {failure : Failure}
    (arrival :
      settle ⟨.loading url outcome arrived, none⟩ url outcome =
        some (.error failure, after)) :
    after = ⟨.unloaded, none⟩ := by
  cases outcome <;> cases arrival <;> rfl

/--
Taking over an inline load needs an empty docket and keeps the toolchain
aligned.
-/
theorem poll_loaded
    {version : String}
    (aligned : Aligned toolchain tickets)
    (arrival : toolchain.poll = some (.ok version, after)) :
    tickets = [] ∧
      toolchain.replies = [] ∧
      ∃ backend,
        version = backend.version ∧
          after = ⟨.inline backend, some ⟨backend.version, .inline⟩⟩ := by
  cases aligned with
  | loading url outcome arrived =>
      cases arrived with
      | false =>
          cases arrival
      | true =>
          obtain ⟨backend, _, same, shape⟩ := settle_loaded arrival
          exact ⟨rfl, rfl, backend, same, shape⟩
  | _ =>
      cases arrival

/--
Where a load turns out to have failed, no ticket waits and no toolchain is left.
-/
theorem poll_failed
    {failure : Failure}
    (aligned : Aligned toolchain tickets)
    (arrival : toolchain.poll = some (.error failure, after)) :
    tickets = [] ∧ toolchain.replies = [] ∧ after = ⟨.unloaded, none⟩ := by
  cases aligned with
  | loading url outcome arrived =>
      cases arrived with
      | false =>
          cases arrival
      | true =>
          exact ⟨rfl, rfl, settle_failed arrival⟩
  | _ =>
      cases arrival

/-- A posted job that is called adds its answer to the replies. -/
theorem post_called
    {moment : Nat}
    {ticket : Ticket}
    {input : String}
    {answer : Answer}
    (aligned : Aligned toolchain tickets)
    (accepted : toolchain.post moment ticket input = .ok (after, some answer)) :
    Aligned after (tickets ++ [ticket]) ∧
      after.replies = toolchain.replies ++ [(ticket, answer)] ∧
      after.active? = toolchain.active? ∧
      ∃ backend,
        toolchain.backend? = some backend ∧
          after.backend? = some backend ∧
          answer = backend.answer moment input := by
  cases aligned with
  | announcing backend answers =>
      cases accepted
      refine ⟨?_,
        by simp [replies, List.filterMap_cons], rfl, backend, rfl, rfl, rfl⟩
      simpa [Message.replies] using
        announcing backend (answers ++ [(ticket, backend.answer moment input)])
  | serving backend answers =>
      cases accepted
      refine ⟨?_, by simp [replies], rfl, backend, rfl, rfl, rfl⟩
      simpa [Message.replies] using
        serving backend (answers ++ [(ticket, backend.answer moment input)])
  | _ =>
      cases accepted

/-- A posted job that is not called is answered without a backend, or never. -/
theorem post_uncalled
    {moment : Nat}
    {ticket : Ticket}
    {input : String}
    (aligned : Aligned toolchain tickets)
    (accepted : toolchain.post moment ticket input = .ok (after, none)) :
    Aligned after (tickets ++ [ticket]) ∧
      (toolchain.replies = [] ∧ after.replies = [] ∨
        after.replies = toolchain.replies ++ [(ticket, .notReady)]) ∧
      after.active? = toolchain.active? ∧
      toolchain.backend? = none ∧
      after.backend? = none := by
  cases aligned with
  | regretting message tickets =>
      cases accepted
      refine
        ⟨?_, Or.inr (by simp [replies, List.filterMap_cons]), rfl, rfl, rfl⟩
      simpa [Message.replies] using regretting message (tickets ++ [ticket])
  | refusing tickets =>
      cases accepted
      refine ⟨?_, Or.inr (by simp [replies]), rfl, rfl, rfl⟩
      simpa [Message.replies] using refusing (tickets ++ [ticket])
  | doomed tickets =>
      cases accepted
      exact ⟨.doomed _, Or.inl ⟨rfl, rfl⟩, rfl, rfl, rfl⟩
  | endless tickets =>
      cases accepted
      exact ⟨.endless _, Or.inl ⟨rfl, rfl⟩, rfl, rfl, rfl⟩
  | _ =>
      cases accepted

/-- Only a worker that is gone refuses a job. -/
theorem post_refused
    {moment : Nat}
    {ticket : Ticket}
    {input : String}
    {failure : Failure}
    (aligned : Aligned toolchain tickets)
    (worker : toolchain.mode? = some .worker)
    (refused : toolchain.post moment ticket input = .error failure) :
    toolchain.backend? = none ∧ failure = Worker.goneFailure := by
  cases aligned with
  | gone tickets =>
      cases refused
      exact ⟨rfl, rfl⟩
  | unloaded =>
      cases worker
  | loading url outcome arrived =>
      cases worker
  | inline backend =>
      cases worker
  | _ =>
      cases refused

/-- One reply is taken out of a row of replies, wherever it stands. -/
private theorem pick_replies
    {position : Nat}
    {answers : List (Ticket × Answer)}
    {message : Message}
    {rest : List Message}
    (picked :
      Worker.pick position (Message.replies answers) = some (message, rest)) :
    ∃ earlier ticket answer later,
      answers = earlier ++ (ticket, answer) :: later ∧
        message = .compiled ticket answer ∧
        rest = Message.replies (earlier ++ later) := by
  cases answers with
  | nil =>
      cases picked
  | cons first others =>
      simp only [Message.replies, List.map_cons, Worker.pick, List.length_map,
        Option.some.injEq, Prod.mk.injEq] at picked
      obtain ⟨isMessage, isRest⟩ := picked
      have inside : min position others.length < (first :: others).length := by
        simp only [List.length_cons]
        omega
      change (Message.replies (first :: others)).getD _ _ = message at isMessage
      change (Message.replies (first :: others)).eraseIdx _ = rest at isRest
      generalize min position others.length = place at inside isMessage isRest
      generalize first :: others = answers at inside isMessage isRest
      refine ⟨answers.take place, answers[place].1, answers[place].2,
        answers.drop (place + 1), ?_, ?_, ?_⟩
      · rw [List.getElem_cons_drop, List.take_append_drop]
      · rw [← isMessage]
        simp [Message.replies, inside]
      · rw [← isRest]
        simp [Message.replies, List.eraseIdx_eq_take_drop_succ]

/--
A worker that has only replies to give gives one of them and keeps the others.
-/
theorem reply_of_next
    (worker : List Message → Worker)
    (place : Nat)
    {answers : List (Ticket × Answer)}
    {active? : Option ActiveBackend}
    {pending position : Nat}
    {news : News}
    (receives :
      (worker (Message.replies answers)).receive position =
        match Worker.pick place (Message.replies answers) with
        | some (message, rest) => .message message (worker rest)
        | none => .never)
    (heard :
      next ⟨.worker (worker (Message.replies answers)) false, active?⟩
          pending position =
        (.news news, after)) :
    ∃ earlier ticket answer later,
      answers = earlier ++ (ticket, answer) :: later ∧
        news = .compiled ticket answer ∧
        after =
          ⟨.worker (worker (Message.replies (earlier ++ later))) false,
            active?⟩ := by
  simp only [next, Bool.not_false, Bool.true_and, receives] at heard
  split at heard
  · cases heard
  · cases picked : Worker.pick place (Message.replies answers) with
    | none =>
        rw [picked] at heard
        cases heard
    | some message =>
        obtain ⟨message, rest⟩ := message
        obtain ⟨earlier, ticket, answer, later, whole, rfl, rfl⟩ :=
          pick_replies picked
        rw [picked] at heard
        cases heard
        exact ⟨earlier, ticket, answer, later, whole, rfl, rfl⟩

/-- What a piece of news says of an aligned toolchain, and what it leaves. -/
inductive Heard
    (toolchain : Toolchain)
    (tickets : List Ticket) :
    News → Toolchain → Prop where
  | loaded
      {after : Toolchain}
      (backend : Backend)
      (inactive : toolchain.active? = none)
      (kept : toolchain.backend? = none ∨ toolchain.backend? = some backend)
      (aligned : Aligned after tickets)
      (replies : after.replies = toolchain.replies)
      (installed : after.backend? = some backend)
      (known : after.version? = some backend.version) :
      Heard toolchain tickets (.loaded backend.version) after
  | failed
      {after : Toolchain}
      (failure : Failure)
      (inactive : toolchain.active? = none)
      (before : toolchain.backend? = none)
      (aligned : Aligned after tickets)
      (replies : after.replies = toolchain.replies)
      (missing : after.backend? = none)
      (unknown : after.version? = none) :
      Heard toolchain tickets (.failed failure) after
  | terminated
      (inactive : toolchain.active? = none)
      (before : toolchain.backend? = none)
      (silent : toolchain.replies = []) :
      Heard toolchain tickets (.terminated Worker.goneFailure) .unloaded
  | compiled
      {after : Toolchain}
      (earlier : List (Ticket × Answer))
      (ticket : Ticket)
      (answer : Answer)
      (later : List (Ticket × Answer))
      (waiting : tickets = (earlier ++ (ticket, answer) :: later).map Prod.fst)
      (aligned : Aligned after ((earlier ++ later).map Prod.fst))
      (before : toolchain.replies = earlier ++ (ticket, answer) :: later)
      (replies : after.replies = earlier ++ later)
      (same : after.backend? = toolchain.backend?)
      (active : after.active? = toolchain.active?)
      (known : toolchain.version? = toolchain.backend?.map Backend.version) :
      Heard toolchain tickets (.compiled ticket answer) after

/-- Replies without a backend are those of the entries that wait. -/
private theorem notReady_split
    {tickets : List Ticket}
    {earlier later : List (Ticket × Answer)}
    {ticket : Ticket}
    {answer : Answer}
    (split :
      (tickets.map fun ticket => (ticket, Answer.notReady)) =
        earlier ++ (ticket, answer) :: later) :
    tickets = (earlier ++ (ticket, answer) :: later).map Prod.fst ∧
      ((earlier ++ later).map Prod.fst).map
        (fun ticket => (ticket, Answer.notReady)) =
        earlier ++ later := by
  have alike :
      ∀ reply ∈ earlier ++ (ticket, answer) :: later, reply.2 = .notReady := by
    intro reply member
    rw [← split] at member
    obtain ⟨ticket, _, rfl⟩ := List.mem_map.mp member
    rfl
  refine ⟨?_, ?_⟩
  · rw [← split]
    simp [Function.comp_def]
  · rw [List.map_map]
    conv_rhs => rw [← List.map_id (earlier ++ later)]
    apply List.map_congr_left
    intro reply member
    have isNotReady := alike reply (by
      rcases List.mem_append.mp member with before | after
      · exact List.mem_append_left _ before
      · exact List.mem_append_right _ (List.mem_cons_of_mem _ after))
    exact Prod.ext rfl isNotReady.symm

/--
Every piece of news is heard from an aligned toolchain in one of four ways.
-/
theorem heard_of_next
    {pending position : Nat}
    {news : News}
    (aligned : Aligned toolchain tickets)
    (heard : toolchain.next pending position = (.news news, after)) :
    Heard toolchain tickets news after := by
  cases aligned with
  | unloaded =>
      cases heard
  | inline backend =>
      cases heard
  | loading url outcome arrived =>
      simp only [next] at heard
      split at heard
      · rename_i version settled arrival
        cases heard
        obtain ⟨backend, _, same, shape⟩ := settle_loaded arrival
        subst shape same
        exact .loaded backend rfl (Or.inl rfl) (.inline backend) rfl rfl rfl
      · rename_i failure settled arrival
        cases heard
        rw [settle_failed arrival]
        exact .failed failure rfl rfl .unloaded rfl rfl rfl
      · cases heard
  | announcing backend answers =>
      cases heard
      exact
        .loaded backend rfl (Or.inr rfl) (.serving backend answers)
          (by simp [replies, List.filterMap_cons]) rfl rfl
  | regretting message tickets =>
      cases heard
      exact
        .failed _ rfl rfl (.refusing tickets)
          (by simp [replies, List.filterMap_cons]) rfl rfl
  | serving backend answers =>
      obtain ⟨earlier, ticket, answer, later, rfl, rfl, rfl⟩ :=
        reply_of_next (.serving backend) position rfl heard
      exact
        .compiled earlier ticket answer later rfl
          (.serving backend (earlier ++ later))
          (by simp [replies]) (by simp [replies]) rfl rfl rfl
  | refusing tickets =>
      obtain ⟨earlier, ticket, answer, later, whole, rfl, rfl⟩ :=
        reply_of_next .withoutBackend 0 rfl heard
      obtain ⟨isTickets, rest⟩ := notReady_split whole
      refine
        .compiled earlier ticket answer later isTickets ?_
          (by simp [replies, whole]) (by simp [replies]) rfl rfl rfl
      have others := Aligned.refusing ((earlier ++ later).map Prod.fst)
      rw [rest] at others
      exact others
  | doomed tickets =>
      cases heard
      exact .terminated rfl rfl rfl
  | gone tickets =>
      cases heard
      exact .terminated rfl rfl rfl
  | endless tickets =>
      cases heard

/-- A backend that answers at once has been announced. -/
theorem version_of_answer
    {moment : Nat}
    {input : String}
    {answer : Answer}
    (aligned : Aligned toolchain tickets)
    (called : toolchain.answer? moment input = some answer) :
    toolchain.version? = toolchain.backend?.map Backend.version := by
  cases aligned with
  | inline backend =>
      rfl
  | _ =>
      cases called

/-- No entry waits for a backend that answers at once. -/
theorem nobody_of_inline
    {version : String}
    (aligned : Aligned toolchain tickets)
    (active : toolchain.active? = some ⟨version, .inline⟩) :
    tickets = [] := by
  cases aligned with
  | inline backend =>
      rfl
  | _ =>
      cases active

/--
A worker with jobs that wait, or one that still loads, is worth waiting for.
-/
private theorem worker_waits
    {worker : Worker}
    {awaitingVersion : Bool}
    {active? : Option ActiveBackend}
    {pending position : Nat}
    (nothing :
      (next ⟨.worker worker awaitingVersion, active?⟩ pending position).1 =
        .nothing) :
    awaitingVersion = false ∧ pending = 0 := by
  simp only [next] at nothing
  split at nothing
  · rename_i idle
    simpa using idle
  · split at nothing <;> cases nothing

/-- A load that goes on is worth waiting for. -/
theorem settled_of_nothing
    {pending position : Nat}
    (nothing : (toolchain.next pending position).1 = .nothing) :
    toolchain.isLoading = false := by
  rcases toolchain with ⟨link, active?⟩
  cases link with
  | loading url outcome arrived =>
      simp only [next] at nothing
      split at nothing <;> cases nothing
  | worker worker awaitingVersion =>
      exact (worker_waits nothing).1
  | _ =>
      rfl

/-- Without a worker no entry waits. -/
theorem nobody_of_workerless
    (aligned : Aligned toolchain tickets)
    (workerless : toolchain.mode? ≠ some .worker) :
    tickets = [] := by
  cases aligned with
  | unloaded =>
      rfl
  | loading url outcome arrived =>
      rfl
  | inline backend =>
      rfl
  | _ =>
      exact absurd rfl workerless

/-- Where there is nothing to wait for, no entry waits. -/
theorem nobody_of_nothing
    {position : Nat}
    (aligned : Aligned toolchain tickets)
    (nothing : (toolchain.next tickets.length position).1 = .nothing) :
    tickets = [] := by
  cases aligned with
  | unloaded =>
      rfl
  | loading url outcome arrived =>
      rfl
  | inline backend =>
      rfl
  | _ =>
      exact List.length_eq_zero_iff.mp (worker_waits nothing).2

/-- Waiting is in vain only for a load that does not end. -/
theorem endless_of_blocked
    {position : Nat}
    (aligned : Aligned toolchain tickets)
    (blocked : (toolchain.next tickets.length position).1 = .blocked) :
    toolchain.isEndless = true := by
  cases aligned with
  | loading url outcome arrived =>
      cases outcome with
      | endless =>
          rfl
      | _ =>
          cases blocked
  | endless tickets =>
      rfl
  | serving backend answers =>
      cases answers with
      | nil =>
          cases blocked
      | cons first rest =>
          cases blocked
  | refusing tickets =>
      cases tickets with
      | nil =>
          cases blocked
      | cons first rest =>
          cases blocked
  | _ =>
      cases blocked

end Aligned

end Toolchain

namespace Session

@[simp] theorem replies_recordFetches
    (session : Session)
    (request : Nat)
    (resolution : Resolution) :
    (session.recordFetches request resolution).toolchain.replies =
      session.toolchain.replies := by
  rcases toolchain_recordFetches session request resolution with same | ran
  · rw [same]
  · rw [ran, Toolchain.replies_run]

@[simp] theorem backend?_recordFetches
    (session : Session)
    (request : Nat)
    (resolution : Resolution) :
    (session.recordFetches request resolution).toolchain.backend? =
      session.toolchain.backend? := by
  rcases toolchain_recordFetches session request resolution with same | ran
  · rw [same]
  · rw [ran, Toolchain.backend?_run]

@[simp] theorem active?_recordFetches
    (session : Session)
    (request : Nat)
    (resolution : Resolution) :
    (session.recordFetches request resolution).toolchain.active? =
      session.toolchain.active? := by
  rcases toolchain_recordFetches session request resolution with same | ran
  · rw [same]
  · rw [ran, Toolchain.active?_run]

end Session

/-- The docket is in order, and the toolchain agrees with it. -/
structure Session.Aligned (session : Session) : Prop where
  ordered : session.docket.Ordered
  toolchain : session.toolchain.Aligned session.docket.tickets

namespace Session.Aligned

variable {host : Host} {session : Session} {stage next : Stage}

/-- Alignment is a matter of the docket and the toolchain alone. -/
theorem congr
    {after : Session}
    (aligned : session.Aligned)
    (docket : after.docket = session.docket)
    (toolchain : after.toolchain = session.toolchain) :
    after.Aligned where
  ordered := by
    rw [docket]
    exact aligned.ordered
  toolchain := by
    rw [docket, toolchain]
    exact aligned.toolchain

/-- A new session is aligned, with nothing loaded and nobody waiting. -/
theorem new
    (configuration : Configuration) :
    (Session.new configuration).Aligned where
  ordered :=
    Docket.ordered_empty
  toolchain :=
    .unloaded

/-- Recording fetches keeps a session aligned. -/
theorem recordFetches
    (aligned : session.Aligned)
    (request : Nat)
    (resolution : Resolution) :
    (session.recordFetches request resolution).Aligned where
  ordered := by
    simpa using aligned.ordered
  toolchain := by
    rw [docket_recordFetches]
    rcases toolchain_recordFetches session request resolution with same | ran
    · rw [same]
      exact aligned.toolchain
    · rw [ran]
      exact aligned.toolchain.run

/-- An empty docket agrees with a toolchain that nothing waits for. -/
theorem of_nobody
    (nobody : session.docket.pending = [])
    (toolchain : session.toolchain.Aligned []) :
    session.Aligned where
  ordered :=
    Docket.ordered_of_nobody nobody
  toolchain := by
    simpa [Docket.tickets, nobody] using toolchain

/-- Every step keeps a session aligned. -/
theorem step
    (step : WorkStep host stage next)
    (aligned : stage.session.Aligned) :
    next.session.Aligned := by
  cases step with
  | stick session job stuck =>
      exact aligned
  | resolve session job going succeeds =>
      exact aligned.recordFetches _ _
  | lack session job failure going fails =>
      exact aligned.recordFetches _ _
  | arriveLoaded session job version toolchain arrival =>
      obtain ⟨nobody, _, backend, _, shape⟩ :=
        aligned.toolchain.poll_loaded arrival
      exact of_nobody (List.map_eq_nil_iff.mp nobody) (shape ▸ .inline backend)
  | arriveFailed session job failure toolchain arrival =>
      obtain ⟨nobody, _, shape⟩ := aligned.toolchain.poll_failed arrival
      exact of_nobody (List.map_eq_nil_iff.mp nobody) (shape ▸ .unloaded)
  | arriveNot session job noArrival =>
      exact aligned
  | postCalled session job toolchain answer accepted =>
      exact
        { ordered := aligned.ordered.enter job
          toolchain := by
            simpa using (aligned.toolchain.post_called accepted).1 }
  | postUncalled session job toolchain accepted =>
      exact
        { ordered := aligned.ordered.enter job
          toolchain := by
            simpa using (aligned.toolchain.post_uncalled accepted).1 }
  | postRefused session job failure worker refused =>
      have kept := aligned.ordered.take_enter job
      exact
        { ordered := (aligned.ordered.enter job).take _
          toolchain := by
            simpa only [Docket.tickets, kept] using aligned.toolchain }
  | call session job answer called =>
      exact aligned.congr rfl rfl
  | lackBackend session job inline uncalled =>
      exact aligned
  | retry session job answer missing =>
      exact aligned.congr rfl rfl
  | reject session job answer complete fatal =>
      exact aligned.congr rfl rfl
  | accept session job answer complete sound =>
      exact aligned.congr rfl rfl
  | fail session failure job rest =>
      exact aligned.congr rfl rfl

/-- The tickets left are those of the replies left. -/
theorem tickets_take
    {docket : Docket Job}
    (ordered : docket.Ordered)
    {ticket : Ticket}
    {job : Job}
    {answer : Answer}
    {earlier later : List (Ticket × Answer)}
    (waiting :
      docket.tickets = (earlier ++ (ticket, answer) :: later).map Prod.fst)
    (found : (docket.take ticket).1 = some job) :
    (docket.take ticket).2.tickets = (earlier ++ later).map Prod.fst := by
  obtain ⟨before, after, shape, rest⟩ := ordered.take_split found
  have distinct := ordered.nodup
  simp only [Docket.tickets, shape, List.map_append,
    List.map_cons] at waiting distinct
  obtain ⟨_, fromTicket, apart⟩ := List.nodup_append.mp distinct
  have notBefore : ticket ∉ before.map Prod.fst := by
    intro member
    exact apart ticket member ticket List.mem_cons_self rfl
  have notAfter : ticket ∉ after.map Prod.fst :=
    (List.nodup_cons.mp fromTicket).1
  obtain ⟨sameBefore, _, sameAfter⟩ :=
    (List.append_cons_inj_of_notMem notBefore notAfter).mp waiting
  simp only [Docket.tickets, rest, List.map_append, sameBefore, sameAfter]

/-- The opening of an operation keeps a session aligned. -/
theorem opening
    {operation : Operation}
    (opening : Opening host session operation stage)
    (aligned : session.Aligned) :
    stage.session.Aligned := by
  cases opening with
  | load url mode =>
      exact of_nobody rfl (Toolchain.aligned_load url mode _)
  | compile files target =>
      exact aligned.congr rfl rfl
  | withOptimizer optimize =>
      exact aligned.congr rfl rfl
  | settle =>
      exact ⟨aligned.ordered, aligned.toolchain.run⟩
  | subscribe label =>
      exact aligned.congr rfl rfl
  | unsubscribe subscription =>
      exact aligned.congr rfl rfl
  | quiet position noNews =>
      exact aligned
  | loaded position version toolchain heard =>
      cases aligned.toolchain.heard_of_next heard with
      | loaded backend inactive kept after replies installed known =>
          exact ⟨aligned.ordered, after⟩
  | failed position failure toolchain heard =>
      cases aligned.toolchain.heard_of_next heard with
      | failed failure inactive before after replies missing unknown =>
          exact ⟨aligned.ordered, after⟩
  | terminated position failure toolchain heard nobody =>
      cases aligned.toolchain.heard_of_next heard with
      | terminated inactive before silent =>
          exact of_nobody rfl .unloaded
  | abandoned position failure toolchain heard somebody =>
      cases aligned.toolchain.heard_of_next heard with
      | terminated inactive before silent =>
          exact of_nobody rfl .unloaded
  | compiled position ticket answer toolchain job heard found =>
      cases aligned.toolchain.heard_of_next heard with
      | compiled earlier ticket answer later waiting after before replies same
          active known =>
          refine ⟨aligned.ordered.take ticket, ?_⟩
          rw [tickets_take aligned.ordered waiting found]
          exact after
  | discarded position ticket answer toolchain heard unknown =>
      cases aligned.toolchain.heard_of_next heard with
      | compiled earlier ticket answer later waiting after before replies same
          active known =>
          have member : ticket ∈ session.docket.tickets := by
            simp [waiting]
          obtain ⟨job, found⟩ := Docket.take_isSome member
          rw [unknown] at found
          cases found

/-- The jobs that wait are as many as the tickets that are out. -/
private theorem waitingJobs_eq :
    session.waitingJobs = session.docket.tickets.length := by
  simp [waitingJobs, Docket.size, Docket.tickets]

/--
Where a session has nothing to wait for, its toolchain has nothing to tell.
-/
private theorem nothing_of_idle
    {position : Nat}
    (idle : (session.next host position).1 = .nothing) :
    (session.toolchain.next session.waitingJobs position).1 = .nothing := by
  unfold Session.next at idle
  split at idle
  · rename_i heard
    rw [heard]
  · cases idle
  · cases idle

/-- Where there is no news to wait for, no job waits. -/
theorem nobody_of_idle
    {position : Nat}
    (aligned : session.Aligned)
    (idle : (session.next host position).1 = .nothing) :
    session.docket.pending = [] := by
  have noNews := nothing_of_idle idle
  rw [waitingJobs_eq] at noNews
  exact List.map_eq_nil_iff.mp (aligned.toolchain.nobody_of_nothing noNews)

/-- Where there is no news to wait for, no load goes on. -/
theorem settled_of_idle
    {position : Nat}
    (idle : (session.next host position).1 = .nothing) :
    session.toolchain.isLoading = false :=
  Toolchain.Aligned.settled_of_nothing (nothing_of_idle idle)

/-- A session blocks only on a load that does not end. -/
theorem endless_of_blocked
    {position : Nat}
    (aligned : session.Aligned)
    (blocked : (session.next host position).1 = .blocked) :
    session.toolchain.isEndless = true := by
  have stalled :
      (session.toolchain.next session.waitingJobs position).1 = .blocked := by
    unfold Session.next at blocked
    split at blocked
    · cases blocked
    · rename_i heard
      rw [heard]
    · cases blocked
  rw [waitingJobs_eq] at stalled
  exact aligned.toolchain.endless_of_blocked stalled

/-- There is no news to wait for if nothing loads and no job waits. -/
theorem idle_of_nobody
    (host : Host)
    (session : Session)
    (position : Nat)
    (settled : session.toolchain.isLoading = false)
    (nobody : session.waitingJobs = 0) :
    (session.next host position).1 = .nothing := by
  have nothing :
      session.toolchain.next session.waitingJobs position =
        (.nothing, session.toolchain) := by
    rw [nobody]
    rcases session with
      ⟨⟨link, active?⟩, docket, snapshot?, configuration, audience,
        requests, log⟩
    cases link with
    | loading url outcome arrived =>
        cases settled
    | worker worker awaitingVersion =>
        cases settled
        rfl
    | _ =>
        rfl
  unfold Session.next
  rw [nothing]

/-- Every operation keeps a session aligned. -/
theorem apply
    (aligned : session.Aligned)
    (host : Host)
    (operation : Operation) :
    (session.apply host operation).Aligned :=
  apply_induction host session operation (fun stage => stage.session.Aligned)
    (fun opens => aligned.opening opens) (fun kept taken => kept.step taken)

theorem runAll
    (aligned : session.Aligned)
    (host : Host)
    (operations : List Operation) :
    (session.runAll host operations).Aligned :=
  List.foldlRecOn operations (Session.apply host) aligned
    fun _ aligned operation _ => aligned.apply host operation

end Session.Aligned

end CompilerSession
