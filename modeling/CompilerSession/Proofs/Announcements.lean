import CompilerSession.Proofs.Moves
import Mathlib.Data.List.DropRight

namespace CompilerSession

/-!
# What is announced of loads

The toolchain owes one announcement for a load that goes on: the version of the
backend, or why there is none.  Whatever happens to a session leaves the
announcement owed, makes it, or gives it up, and a load owes a new one in place
of the old.  `Toolchain.Tells` says so of one change; of a whole run it follows
that each load is announced once at most, as it ended, before the next one
begins, and that a version is known just when it has been announced since the
latest load began.
-/

open Session

namespace Event

/-- Whether a load begins. -/
def isLoading : Event → Bool
  | .loading _ _ => true
  | _ => false

/-- Whether the event tells of a load, that it begins or how it ended. -/
def isOfLoad : Event → Bool
  | .loading _ _ => true
  | .loaded _ => true
  | .finished _ _ none => true
  | _ => false

end Event

/-- The events that tell of loads. -/
def View.loads : View Event where
  see observation := observation.event?.filter Event.isOfLoad
  deaf _ := rfl

@[simp] theorem View.see_loads (observation : Observation) :
    View.loads.see observation = observation.event?.filter Event.isOfLoad :=
  rfl

@[simp] theorem View.loads_observations
    (resolution : Resolution)
    (request : Nat) :
    View.loads.of (resolution.observations request) = [] := by
  simp [View.of, Resolution.observations, View.loads, Observation.event?]

/-- What is told of loads is what all events tell of them. -/
theorem View.loads_of_events (log : List Observation) :
    View.loads.of log = (View.events.of log).filter Event.isOfLoad := by
  induction log with
  | nil =>
      rfl
  | cons observation rest inductionHypothesis =>
      rw [View.of_cons, View.of_cons, List.filter_append, inductionHypothesis,
        View.see_loads, View.see_events]
      cases observation.event? with
      | none =>
          rfl
      | some event =>
          cases told : event.isOfLoad <;> simp [Option.filter, told]

/-- The loads of a log are those of its events that tell of a load. -/
theorem View.mem_loads
    {log : List Observation}
    {event : Event} :
    event ∈ View.loads.of log ↔
      event ∈ View.events.of log ∧ event.isOfLoad = true := by
  rw [loads_of_events, List.mem_filter]

/-- The events since the latest load began. -/
def sinceLoad (events : List Event) : List Event :=
  events.rtakeWhile fun event => !event.isLoading

/-- Where no load begins, the events since the latest one grow. -/
theorem sinceLoad_append
    {events added : List Event}
    (quiet : ∀ event ∈ added, event.isLoading = false) :
    sinceLoad (events ++ added) = sinceLoad events ++ added := by
  simp only [sinceLoad, List.rtakeWhile, List.reverse_append]
  rw [List.takeWhile_append_of_pos (by simpa using quiet), List.reverse_append,
    List.reverse_reverse]

/-- Nothing has been told since a load that has only begun. -/
@[simp] theorem sinceLoad_loading
    (events : List Event)
    (url : String)
    (mode : Mode) :
    sinceLoad (events ++ [.loading url mode]) = [] :=
  List.rtakeWhile_concat_neg _ _ _ (by simp [Event.isLoading])

/-! ## The announcement that a toolchain owes -/

/-- How a failure that belongs to no request is told. -/
def Failure.announcement (failure : Failure) : Event :=
  .finished false (.ofError failure.diagnostic) none

/-- How the end of an inline load is told. -/
def announcementOf : Except Failure String → Event
  | .ok version => .loaded version
  | .error failure => failure.announcement

/-- A load as it was asked for, and how it goes. -/
structure Loading where
  url : String
  mode : Mode
  outcome : LoadResult

/--
What is told of a load in the end: the version of its backend, or why there is
none.
-/
def Loading.announcement? (loading : Loading) : Option Event :=
  match loading.mode, loading.outcome with
  | _, .ready backend => some (.loaded backend.version)
  | .inline, .failed message =>
      some (Failure.loadFailed loading.url message).announcement
  | .inline, .crashed =>
      some (Failure.loadFailed loading.url Toolchain.abandonedLoad).announcement
  | .worker, .failed message =>
      some (Failure.workerFailed
        ("failed to load " ++ loading.url ++ ": " ++ message)).announcement
  | .worker, .crashed => some Worker.goneFailure.announcement
  | _, .endless => none

namespace Toolchain

/-- What is still to be told of the load that goes on. -/
def announcement? (toolchain : Toolchain) : Option Event :=
  match toolchain.link with
  | .loading url outcome _ => Loading.announcement? ⟨url, .inline, outcome⟩
  | .worker (.serving _ (.loaded version :: _)) _ => some (.loaded version)
  | .worker (.withoutBackend (.failed message :: _)) _ =>
      some (Failure.workerFailed message).announcement
  | .worker .doomed _ => some Worker.goneFailure.announcement
  | .worker .gone _ => some Worker.goneFailure.announcement
  | _ => none

/-- What a load owes when it begins is the announcement of its outcome. -/
theorem announcement?_load
    (url : String)
    (mode : Mode)
    (outcome : LoadResult) :
    (load url mode outcome).announcement? =
      Loading.announcement? ⟨url, mode, outcome⟩ := by
  cases mode <;> cases outcome <;> rfl

@[simp] theorem version?_load
    (url : String)
    (mode : Mode)
    (outcome : LoadResult) :
    (load url mode outcome).version? = none := by
  cases mode <;> rfl

@[simp] theorem announcement?_run
    (toolchain : Toolchain) :
    toolchain.run.announcement? = toolchain.announcement? := by
  rcases toolchain with ⟨link, active?⟩
  cases link with
  | worker worker awaitingVersion =>
      cases worker <;> rfl
  | _ =>
      rfl

@[simp] theorem version?_run
    (toolchain : Toolchain) :
    toolchain.run.version? = toolchain.version? := by
  simp [version?]

/-- A worker that has only replies to give owes no announcement. -/
private theorem announcement?_serving
    (backend : Backend)
    (answers : List (Ticket × Answer))
    (awaitingVersion : Bool)
    (active? : Option ActiveBackend) :
    announcement?
      ⟨.worker (.serving backend (Message.replies answers)) awaitingVersion,
        active?⟩ = none := by
  cases answers <;> rfl

/-- A worker without a backend owes no announcement. -/
private theorem announcement?_withoutBackend
    (answers : List (Ticket × Answer))
    (awaitingVersion : Bool)
    (active? : Option ActiveBackend) :
    announcement?
      ⟨.worker (.withoutBackend (Message.replies answers)) awaitingVersion,
        active?⟩ = none := by
  cases answers <;> rfl

/--
What a change of the toolchain tells of the load that goes on: nothing, how it
ended, or nothing any more.
-/
inductive Tells (before after : Toolchain) : List Event → Prop where
  | nothing
      (same : after.announcement? = before.announcement?)
      (version : after.version? = before.version?) :
      Tells before after []
  | loaded
      (version : String)
      (unknown : before.version? = none)
      (owed : before.announcement? = some (.loaded version))
      (paid : after.announcement? = none)
      (known : after.version? = some version) :
      Tells before after [.loaded version]
  | failed
      (failure : Failure)
      (unknown : before.version? = none)
      (owed : before.announcement? = some failure.announcement)
      (paid : after.announcement? = none)
      (stillUnknown : after.version? = none) :
      Tells before after [failure.announcement]
  | forgone
      (unknown : before.version? = none)
      (paid : after.announcement? = none)
      (stillUnknown : after.version? = none) :
      Tells before after []

namespace Tells

variable {before after : Toolchain} {told : List Event}

/-- A toolchain that stays as it is need tell nothing. -/
theorem refl (toolchain : Toolchain) : Tells toolchain toolchain [] :=
  .nothing rfl rfl

/-- Of a failure that could be told nothing need be told. -/
theorem forgo
    {failure : Failure}
    (tells : Tells before after [failure.announcement]) :
    Tells before after [] := by
  generalize same : [failure.announcement] = told at tells
  cases tells with
  | failed other unknown owed paid stillUnknown =>
      exact .forgone unknown paid stillUnknown
  | loaded version unknown owed paid known =>
      cases same
  | nothing same version =>
      cases same
  | forgone unknown paid stillUnknown =>
      cases same

/-- What is told and what is still owed stay within what was owed. -/
theorem fits
    {earlier expected : List Event}
    (tells : Tells before after told)
    (fits : earlier ++ before.announcement?.toList <+: expected) :
    (earlier ++ told) ++ after.announcement?.toList <+: expected := by
  cases tells with
  | nothing same version =>
      rw [List.append_nil, same]
      exact fits
  | loaded version unknown owed paid known =>
      rw [paid, Option.toList_none, List.append_nil]
      rwa [owed] at fits
  | failed failure unknown owed paid stillUnknown =>
      rw [paid, Option.toList_none, List.append_nil]
      rwa [owed] at fits
  | forgone unknown paid stillUnknown =>
      rw [paid, Option.toList_none, List.append_nil, List.append_nil]
      exact (List.prefix_append earlier _).trans fits

/-- No load begins in what is told. -/
theorem quiet
    (tells : Tells before after told) :
    ∀ event ∈ told, event.isLoading = false := by
  intro event member
  cases tells with
  | nothing same version =>
      cases member
  | loaded version unknown owed paid known =>
      rw [List.mem_singleton.mp member]
      rfl
  | failed failure unknown owed paid stillUnknown =>
      rw [List.mem_singleton.mp member]
      rfl
  | forgone unknown paid stillUnknown =>
      cases member

/-- A version is known after a change if it was known before or is told now. -/
theorem version?_iff
    (tells : Tells before after told)
    (version : String) :
    after.version? = some version ↔
      before.version? = some version ∨ .loaded version ∈ told := by
  cases tells with
  | nothing same kept =>
      simp [kept]
  | loaded announced unknown owed paid known =>
      simp [unknown, known, eq_comm]
  | failed failure unknown owed paid stillUnknown =>
      simp [unknown, stillUnknown, Failure.announcement]
  | forgone unknown paid stillUnknown =>
      simp [unknown, stillUnknown]

end Tells

namespace Aligned

variable {toolchain after : Toolchain} {tickets : List Ticket}

/-- An inline load that is taken over is told as it ended. -/
theorem tells_of_settle
    {url : String}
    {outcome : LoadResult}
    {arrived : Bool}
    {ending : Except Failure String}
    (arrival :
      settle ⟨.loading url outcome arrived, none⟩ url outcome =
        some (ending, after)) :
    Tells ⟨.loading url outcome arrived, none⟩ after
      [announcementOf ending] := by
  cases outcome with
  | ready backend =>
      cases arrival
      exact .loaded backend.version rfl rfl rfl rfl
  | failed message =>
      cases arrival
      exact .failed _ rfl rfl rfl rfl
  | crashed =>
      cases arrival
      exact .failed _ rfl rfl rfl rfl
  | endless =>
      cases arrival

/-- Polling that finds the end of a load tells that end. -/
theorem tells_of_poll
    {ending : Except Failure String}
    (aligned : Aligned toolchain tickets)
    (arrival : toolchain.poll = some (ending, after)) :
    Tells toolchain after [announcementOf ending] := by
  cases aligned with
  | loading url outcome arrived =>
      cases arrived with
      | false =>
          cases arrival
      | true =>
          exact tells_of_settle arrival
  | _ =>
      cases arrival

/-- A job that is posted makes no difference to what is told of loads. -/
theorem tells_of_post
    {moment : Nat}
    {ticket : Ticket}
    {input : String}
    {answer? : Option Answer}
    (aligned : Aligned toolchain tickets)
    (accepted : toolchain.post moment ticket input = .ok (after, answer?)) :
    Tells toolchain after [] := by
  have more :
      ∀ (answers : List (Ticket × Answer)) (answer : Answer),
        Message.replies answers ++ [.compiled ticket answer] =
          Message.replies (answers ++ [(ticket, answer)]) := by
    simp [Message.replies]
  cases aligned with
  | serving backend answers =>
      cases accepted
      refine .nothing ?_ rfl
      rw [more, announcement?_serving, announcement?_serving]
  | refusing tickets =>
      cases accepted
      refine .nothing ?_ rfl
      rw [more, announcement?_withoutBackend, announcement?_withoutBackend]
  | announcing backend answers =>
      cases accepted
      exact .nothing rfl rfl
  | regretting message tickets =>
      cases accepted
      exact .nothing rfl rfl
  | doomed tickets =>
      cases accepted
      exact .nothing rfl rfl
  | endless tickets =>
      cases accepted
      exact .nothing rfl rfl
  | _ =>
      cases accepted

end Aligned
end Toolchain

/-- What is told of loads on a piece of news, if it is told on its own. -/
def News.announcement? : News → Option Event
  | .loaded version => some (.loaded version)
  | .failed failure => some failure.announcement
  | .terminated failure => some failure.announcement
  | .compiled _ _ => none

namespace Toolchain.Aligned

variable {toolchain after : Toolchain} {tickets : List Ticket}

/-- Every piece of news tells of a load what was owed. -/
theorem tells_of_next
    {pending position : Nat}
    {news : News}
    (aligned : Aligned toolchain tickets)
    (heard : toolchain.next pending position = (.news news, after)) :
    Tells toolchain after news.announcement?.toList := by
  cases aligned with
  | loading url outcome arrived =>
      simp only [next] at heard
      split at heard
      · rename_i version settled arrival
        cases heard
        exact tells_of_settle arrival
      · rename_i failure settled arrival
        cases heard
        exact tells_of_settle arrival
      · cases heard
  | announcing backend answers =>
      cases heard
      exact .loaded backend.version rfl rfl (announcement?_serving ..) rfl
  | regretting message tickets =>
      cases heard
      exact .failed _ rfl rfl (announcement?_withoutBackend ..) rfl
  | doomed tickets =>
      cases heard
      exact .failed _ rfl rfl rfl rfl
  | gone tickets =>
      cases heard
      exact .failed _ rfl rfl rfl rfl
  | serving backend answers =>
      obtain ⟨earlier, ticket, answer, later, _, rfl, rfl⟩ :=
        reply_of_next (.serving backend) position rfl heard
      exact .nothing (by rw [announcement?_serving, announcement?_serving]) rfl
  | refusing tickets =>
      obtain ⟨earlier, ticket, answer, later, _, rfl, rfl⟩ :=
        reply_of_next .withoutBackend 0 rfl heard
      exact .nothing
        (by rw [announcement?_withoutBackend, announcement?_withoutBackend]) rfl
  | _ =>
      cases heard

end Toolchain.Aligned

/-! ## What is told from one stage to the next -/

/-- A session has gone on to another, and of loads what that tells. -/
def Session.TellsOn (session after : Session) : Prop :=
  ∃ added,
    after.log = session.log ++ added ∧
      session.toolchain.Tells after.toolchain (View.loads.of added)

namespace Session.TellsOn

variable {session after : Session}

/-- Where nothing is told of loads. -/
private theorem silent
    {added : List Observation}
    (logged : after.log = session.log ++ added)
    (unheard : View.loads.of added = [])
    (tells : session.toolchain.Tells after.toolchain []) :
    session.TellsOn after :=
  ⟨added, logged, by rwa [unheard]⟩

/-- Where nothing at all is observed. -/
private theorem unseen
    (logged : after.log = session.log)
    (tells : session.toolchain.Tells after.toolchain []) :
    session.TellsOn after :=
  .silent (logged.trans (List.append_nil _).symm) rfl tells

/-- Recording fetches tells of no load. -/
private theorem recordFetches
    (session : Session)
    (request : Nat)
    (resolution : Resolution) :
    session.TellsOn (session.recordFetches request resolution) := by
  refine .silent (log_recordFetches _ _ _) (by simp) ?_
  rcases toolchain_recordFetches session request resolution with same | ran
  · rw [same]
    exact .refl _
  · rw [ran]
    exact .nothing (by simp) (by simp)

/-- The end of a request tells nothing of loads. -/
private theorem finish
    (session current : Session)
    (added : List Observation)
    (logged : current.log = session.log ++ added)
    (unheard : View.loads.of added = [])
    (same : current.toolchain = session.toolchain)
    (success : Bool)
    (report : Report)
    (job : Job) :
    session.TellsOn (current.finish success report job) := by
  have told := log_finish current success report job
  simp only [logged, List.append_assoc] at told
  refine .silent told (by simp [unheard, Option.filter, Event.isOfLoad]) ?_
  exact .nothing (congrArg Toolchain.announcement? same)
    (congrArg Toolchain.version? same)

/-- Where one event is told that is of loads. -/
private theorem emit
    {toolchain : Toolchain}
    {event : Event}
    (ofLoad : event.isOfLoad = true)
    (tells : session.toolchain.Tells toolchain [event])
    (logged :
      after.log =
        session.log ++
          .emitted none event after.snapshot? ::
            Session.echo { session with toolchain } event)
    (same : after.toolchain = toolchain) :
    session.TellsOn after := by
  refine ⟨_, logged, ?_⟩
  rw [same]
  simpa [Option.filter, ofLoad] using tells

end Session.TellsOn

/-- Every step tells of loads what its change of the toolchain tells. -/
theorem WorkStep.tells
    {host : Host}
    {stage next : Stage}
    (taken : WorkStep host stage next)
    (aligned : stage.session.Aligned) :
    stage.session.TellsOn next.session := by
  cases taken with
  | stick session job stuck =>
      exact .unseen rfl (.refl _)
  | resolve session job going succeeds =>
      exact .recordFetches _ _ _
  | lack session job failure going fails =>
      exact .recordFetches _ _ _
  | arriveLoaded session job version toolchain arrival =>
      exact .emit rfl (aligned.toolchain.tells_of_poll arrival) rfl rfl
  | arriveFailed session job failure toolchain arrival =>
      exact .emit rfl (aligned.toolchain.tells_of_poll arrival) rfl rfl
  | arriveNot session job noArrival =>
      exact .unseen rfl (.refl _)
  | postCalled session job toolchain answer accepted =>
      exact .silent rfl rfl (aligned.toolchain.tells_of_post accepted)
  | postUncalled session job toolchain accepted =>
      exact .unseen rfl (aligned.toolchain.tells_of_post accepted)
  | postRefused session job failure worker refused =>
      exact .unseen rfl (.refl _)
  | call session job answer called =>
      exact .silent rfl rfl (.refl _)
  | lackBackend session job inline uncalled =>
      exact .unseen rfl (.refl _)
  | retry session job answer missing =>
      exact .silent rfl rfl (.refl _)
  | reject session job answer complete fatal =>
      exact
        .finish session { session.answered job answer with snapshot? := none }
          [.answered job.request answer] rfl rfl rfl _ _ _
  | accept session job answer complete sound =>
      exact
        .finish session { session.answered job answer with snapshot? := some _ }
          [.answered job.request answer] rfl rfl rfl _ _ _
  | fail session failure job rest =>
      exact
        .finish session { session with snapshot? := none } []
          (List.append_nil _).symm rfl rfl
          _ _ _

/-- An opening that is no load tells of the load that goes on. -/
theorem Opening.tells
    {host : Host}
    {session : Session}
    {operation : Operation}
    {stage : Stage}
    (opens : Opening host session operation stage)
    (aligned : session.Aligned)
    (noLoad : ∀ url mode, operation ≠ .load url mode) :
    session.TellsOn stage.session := by
  cases opens with
  | load url mode =>
      exact absurd rfl (noLoad url mode)
  | compile files target =>
      exact .silent (log_emit _ _ _) (by simp [Option.filter, Event.isOfLoad])
        (.refl _)
  | withOptimizer optimize =>
      exact .unseen rfl (.refl _)
  | settle =>
      exact .unseen rfl (.nothing (by simp) (by simp))
  | subscribe label =>
      exact .unseen rfl (.refl _)
  | unsubscribe subscription =>
      exact .unseen rfl (.refl _)
  | quiet position noNews =>
      exact .unseen rfl (.refl _)
  | loaded position version toolchain heard =>
      exact .emit rfl (aligned.toolchain.tells_of_next heard) rfl rfl
  | failed position failure toolchain heard =>
      exact .emit rfl (aligned.toolchain.tells_of_next heard) rfl rfl
  | terminated position failure toolchain heard nobody =>
      exact .emit rfl (aligned.toolchain.tells_of_next heard) rfl rfl
  | abandoned position failure toolchain heard somebody =>
      exact .unseen rfl (aligned.toolchain.tells_of_next heard).forgo
  | compiled position ticket answer toolchain job heard found =>
      exact .unseen rfl (aligned.toolchain.tells_of_next heard)
  | discarded position ticket answer toolchain heard unknown =>
      exact .unseen rfl (aligned.toolchain.tells_of_next heard)

/-! ## Versions since the latest load -/

/--
While no load begins, what has been told since the latest one is added to.
-/
theorem Session.TellsOn.sinceLoad_events
    {session after : Session}
    (tells : session.TellsOn after) :
    ∃ added,
      sinceLoad after.events =
        sinceLoad session.events ++ View.events.of added ∧
        session.toolchain.Tells after.toolchain (View.loads.of added) := by
  obtain ⟨added, logged, tells⟩ := tells
  have quiet : ∀ event ∈ View.events.of added, event.isLoading = false := by
    intro event member
    by_contra begins
    have ofLoad : event.isOfLoad = true := by
      cases event <;> simp_all [Event.isLoading, Event.isOfLoad]
    exact begins (tells.quiet event (View.mem_loads.mpr ⟨member, ofLoad⟩))
  have events : after.events = session.events ++ View.events.of added := by
    simp [Session.events, logged]
  exact ⟨added, events ▸ sinceLoad_append quiet, tells⟩

/--
A version is known just when it has been announced since the latest load began.
-/
def Session.Informed (session : Session) : Prop :=
  ∀ version,
    session.version? = some version ↔ .loaded version ∈ sinceLoad session.events

namespace Session.Informed

variable {host : Host} {session after : Session} {stage next : Stage}

/-- A new session knows no version, and none has been announced. -/
theorem new
    (configuration : Configuration) :
    (Session.new configuration).Informed := by
  intro version
  constructor
  · intro known
    cases known
  · intro told
    cases told

/-- What is told of loads keeps a session informed. -/
theorem congr
    (informed : session.Informed)
    (tells : session.TellsOn after) :
    after.Informed := by
  obtain ⟨added, grown, tells⟩ := tells.sinceLoad_events
  intro version
  have announced :
      Event.loaded version ∈ View.loads.of added ↔
        Event.loaded version ∈ View.events.of added :=
    View.mem_loads.trans (and_iff_left rfl)
  rw [grown, List.mem_append, ← informed version, ← announced]
  exact tells.version?_iff version

theorem opening
    {operation : Operation}
    (opens : Opening host session operation stage)
    (aligned : session.Aligned)
    (informed : session.Informed) :
    stage.session.Informed := by
  by_cases isLoad : ∃ url mode, operation = .load url mode
  · obtain ⟨url, mode, rfl⟩ := isLoad
    cases opens
    intro version
    have unknown : (session.load host url mode).version? = none :=
      Toolchain.version?_load ..
    have events : (session.load host url mode).events =
      session.events ++ [.loading url mode] := by
      simp [Session.events, Session.load]
    simp [unknown, events]
  · exact informed.congr
      (opens.tells aligned fun url mode same => isLoad ⟨url, mode, same⟩)

theorem runAll
    (host : Host)
    (configuration : Configuration)
    (operations : List Operation) :
    ((Session.new configuration).runAll host operations).Informed := by
  have kept :=
    runAll_induction host (.new configuration)
      (fun _ stage => stage.session.Aligned ∧ stage.session.Informed)
      ⟨.new configuration, new configuration⟩
      (fun ⟨aligned, informed⟩ opens =>
        ⟨aligned.opening opens, opening opens aligned informed⟩)
      (fun ⟨aligned, informed⟩ taken =>
        ⟨aligned.step taken, informed.congr (taken.tells aligned)⟩)
      operations
  exact kept.2

end Session.Informed

/-! ## The loads of a run and what is told of each -/

namespace Session

/-- A load that begins in a session. -/
def loading
    (host : Host)
    (session : Session)
    (url : String)
    (mode : Mode) : Loading :=
  ⟨url, mode, host.load (session.emit none (.loading url mode)).now url⟩

/-- The load that an operation begins, if any. -/
def begun
    (host : Host)
    (session : Session) : Operation → List Loading
  | .load url mode => [session.loading host url mode]
  | _ => []

/-- The loads that begin in a run, in their order. -/
def loadings
    (host : Host)
    (session : Session) : List Operation → List Loading
  | [] => []
  | operation :: rest =>
      session.begun host operation ++
        (session.apply host operation).loadings host rest

/--
The loads of two runs in a row are those of the first and then of the second.
-/
theorem loadings_append
    (host : Host)
    (session : Session)
    (earlier later : List Operation) :
    session.loadings host (earlier ++ later) =
      session.loadings host earlier ++
        (session.runAll host earlier).loadings host later := by
  induction earlier generalizing session with
  | nil =>
      rfl
  | cons first rest inductionHypothesis =>
      simp only [List.cons_append, loadings, inductionHypothesis,
        List.append_assoc]
      rfl

end Session

/-- Only loads begin loads. -/
theorem Session.loadings_of_loadless
    (host : Host)
    (session : Session)
    {operations : List Operation}
    (loadless : ∀ operation ∈ operations, operation.isLoad = false) :
    session.loadings host operations = [] := by
  induction operations generalizing session with
  | nil =>
      rfl
  | cons operation rest inductionHypothesis =>
      have others :=
        inductionHypothesis (session.apply host operation)
          fun later member => loadless later (List.mem_cons_of_mem _ member)
      have first := loadless operation List.mem_cons_self
      rw [loadings, others]
      cases operation with
      | load url mode =>
          cases first
      | _ =>
          rfl

/--
What is told of the loads of a run, one after the other: of each its
announcement at most, before the next one begins.  The load that went on before
the run comes first, and what is owed in the end is still to be told of the
latest one.
-/
inductive Heralded (first? : Option Event) :
    List Loading → List Event → Option Event → Prop where
  | first
      (told : List Event)
      (owed? : Option Event)
      (fits : told ++ owed?.toList <+: first?.toList) :
      Heralded first? [] told owed?
  | load
      (loading : Loading)
      (loads : List Loading)
      (events told : List Event)
      (unpaid? owed? : Option Event)
      (earlier : Heralded first? loads events unpaid?)
      (fits : told ++ owed?.toList <+: loading.announcement?.toList) :
      Heralded first? (loads ++ [loading])
        (events ++ .loading loading.url loading.mode :: told) owed?

namespace Heralded

variable
  {first? : Option Event}
  {loads : List Loading}
  {events : List Event}

/-- Where no load begins, only the one that went on before is told of. -/
theorem fits_of_loadless
    {owed? : Option Event}
    (heralded : Heralded first? [] events owed?) :
    events ++ owed?.toList <+: first?.toList := by
  generalize loadless : ([] : List Loading) = loads at heralded
  cases heralded with
  | first told owed? fits =>
      exact fits
  | load loading loads events told unpaid? owed? earlier fits =>
      simp at loadless

/-- Loads stay heralded by what a change of the toolchain tells. -/
theorem tells
    {before after : Toolchain}
    {told : List Event}
    (heralded : Heralded first? loads events before.announcement?)
    (tells : before.Tells after told) :
    Heralded first? loads (events ++ told) after.announcement? := by
  generalize owed : before.announcement? = owed? at heralded
  cases heralded with
  | first earlier _ fits =>
      subst owed
      exact .first _ _ (tells.fits fits)
  | load loading loads events earlier unpaid? _ before fits =>
      subst owed
      rw [List.append_assoc, List.cons_append]
      exact .load loading loads events _ unpaid? _ before (tells.fits fits)

/--
Loads stay heralded when another one begins, and its announcement is owed.
-/
theorem begin
    {owed? : Option Event}
    (heralded : Heralded first? loads events owed?)
    (loading : Loading) :
    Heralded first? (loads ++ [loading])
      (events ++ [.loading loading.url loading.mode]) loading.announcement? :=
  .load loading loads events [] owed? _ heralded (List.prefix_refl _)

end Heralded

/--
What is told of loads from a session to a later one, with the loads that began
meanwhile.
-/
def Session.Heralds
    (start : Session)
    (loads : List Loading)
    (session : Session) : Prop :=
  ∃ since,
    session.log = start.log ++ since ∧
      Heralded start.toolchain.announcement? loads (View.loads.of since)
        session.toolchain.announcement?

namespace Session.Heralds

variable
  {host : Host}
  {start session after : Session}
  {stage : Stage}
  {loads : List Loading}

theorem congr
    (heralds : start.Heralds loads session)
    (tells : session.TellsOn after) :
    start.Heralds loads after := by
  obtain ⟨since, logged, heralded⟩ := heralds
  obtain ⟨added, further, tells⟩ := tells
  refine ⟨since ++ added, by rw [further, logged, List.append_assoc], ?_⟩
  rw [View.of_append]
  exact heralded.tells tells

theorem opening
    {operation : Operation}
    (opens : Opening host session operation stage)
    (aligned : session.Aligned)
    (heralds : start.Heralds loads session) :
    start.Heralds (loads ++ session.begun host operation) stage.session := by
  cases operation with
  | load url mode =>
      cases opens
      obtain ⟨since, logged, heralded⟩ := heralds
      have further := log_emit session none (.loading url mode)
      rw [logged, List.append_assoc] at further
      have owed :
          (session.load host url mode).toolchain.announcement? =
            (session.loading host url mode).announcement? :=
        Toolchain.announcement?_load ..
      refine ⟨_, further, ?_⟩
      rw [owed]
      simpa [Option.filter, Event.isOfLoad, begun, loading] using
        heralded.begin (session.loading host url mode)
  | _ =>
      have told := heralds.congr (opens.tells aligned fun _ _ => nofun)
      simpa [begun] using told

/-- Over every run each load is told of in its turn. -/
theorem runAll
    (aligned : start.Aligned)
    (host : Host)
    (operations : List Operation) :
    start.Heralds (start.loadings host operations)
      (start.runAll host operations) := by
  have kept :=
    runAll_induction host start
      (fun operations stage =>
        stage.session.Aligned ∧
          start.Heralds (start.loadings host operations) stage.session)
      ⟨aligned, [], (List.append_nil _).symm, .first [] _ (List.prefix_refl _)⟩
      (by
        intro operations operation stage ⟨stillAligned, heralds⟩ opens
        refine ⟨stillAligned.opening opens, ?_⟩
        rw [loadings_append]
        simpa [loadings] using heralds.opening opens stillAligned)
      (fun ⟨stillAligned, heralds⟩ taken =>
        ⟨stillAligned.step taken, heralds.congr (taken.tells stillAligned)⟩)
      operations
  exact kept.2

end Session.Heralds

end CompilerSession
