import CompilerSession.Proofs.Accounting
import CompilerSession.Proofs.Settling
import CompilerSession.Session.Script

namespace CompilerSession

/-!
# Workers do what an inline backend does

As long as one backend stays in use and the settings stay as they are, every
request keeps its promise whatever else goes on, so a worker that answers many
requests in any order ends each of them as an inline backend does that has
nothing else to do.
-/

open Session

/-- The operation neither loads a backend nor changes the settings. -/
def Session.Operation.Undisturbing : Operation → Prop
  | .load _ _ => False
  | .withOptimizer _ => False
  | _ => True

namespace Session.Uses

variable
  {host : Host}
  {backend : Backend}
  {mode : Mode}
  {session after : Session}
  {stage next : Stage}

theorem congr
    (uses : session.Uses backend mode)
    (backends : after.toolchain.backend? = session.toolchain.backend?)
    (active : after.toolchain.active? = session.toolchain.active?) :
    after.Uses backend mode where
  installed := by
    rw [backends]
    exact uses.installed
  active := by
    rw [active]
    exact uses.active

theorem step
    (taken : WorkStep host stage next)
    (aligned : stage.session.Aligned)
    (uses : stage.session.Uses backend mode) :
    next.session.Uses backend mode := by
  have noArrival :
      ∀ {outcome toolchain},
        stage.session.toolchain.poll = some (outcome, toolchain) → False := by
    intro outcome toolchain arrival
    have missing := Toolchain.backend?_of_poll arrival
    rw [uses.installed] at missing
    cases missing
  cases taken with
  | resolve session job going succeeds =>
      exact uses.congr (by simp) (by simp)
  | lack session job failure going fails =>
      exact uses.congr (by simp) (by simp)
  | arriveLoaded session job version toolchain arrival =>
      exact (noArrival arrival).elim
  | arriveFailed session job failure toolchain arrival =>
      exact (noArrival arrival).elim
  | postCalled session job toolchain answer accepted =>
      obtain ⟨_, _, active, other, installed, stays, _⟩ :=
        aligned.toolchain.post_called accepted
      exact uses.congr (stays.trans installed.symm) active
  | postUncalled session job toolchain accepted =>
      obtain ⟨_, _, active, missing, stillMissing⟩ :=
        aligned.toolchain.post_uncalled accepted
      exact uses.congr (stillMissing.trans missing.symm) active
  | _ =>
      exact uses.congr rfl rfl

/-- No opening takes the backend away but that of a load. -/
theorem opening
    {operation : Operation}
    (opens : Opening host session operation stage)
    (undisturbing : operation.Undisturbing)
    (aligned : session.Aligned)
    (uses : session.Uses backend mode) :
    stage.session.Uses backend mode := by
  have active : session.toolchain.active? ≠ none := by
    simp [uses.active]
  cases opens with
  | load url mode =>
      exact undisturbing.elim
  | settle =>
      exact uses.congr (by simp) (by simp)
  | loaded position version toolchain heard =>
      cases aligned.toolchain.heard_of_next heard with
      | loaded backend inactive kept after replies installed known =>
          exact absurd inactive active
  | failed position failure toolchain heard =>
      cases aligned.toolchain.heard_of_next heard with
      | failed failure inactive before after replies missing unknown =>
          exact absurd inactive active
  | terminated position failure toolchain heard nobody =>
      cases aligned.toolchain.heard_of_next heard with
      | terminated inactive before silent =>
          exact absurd inactive active
  | abandoned position failure toolchain heard somebody =>
      cases aligned.toolchain.heard_of_next heard with
      | terminated inactive before silent =>
          exact absurd inactive active
  | compiled position ticket answer toolchain job heard found =>
      cases aligned.toolchain.heard_of_next heard with
      | compiled earlier ticket answer later waiting after before replies same
          active known =>
          exact uses.congr same active
  | discarded position ticket answer toolchain heard unknown =>
      cases aligned.toolchain.heard_of_next heard with
      | compiled earlier ticket answer later waiting after before replies same
          active known =>
          exact uses.congr same active
  | _ =>
      exact uses.congr rfl rfl

end Session.Uses

/-- Only an opening that sets the optimizer changes the settings. -/
theorem Opening.configuration
    {host : Host}
    {session : Session}
    {operation : Operation}
    {stage : Stage}
    (opens : Opening host session operation stage)
    (undisturbing : operation.Undisturbing) :
    stage.session.configuration = session.configuration := by
  cases opens with
  | withOptimizer optimize =>
      exact undisturbing.elim
  | _ =>
      rfl

/-- A step tells of the end of a request where its move does. -/
theorem Moved.conclusions
    {host : Host}
    {stage next : Stage}
    {task : Task}
    {rest : List Task}
    {seen added : List Observation}
    {later? : Option Task}
    (moved : Moved host stage next task rest seen added later?)
    (request : Nat) :
    next.session.conclusions request =
      stage.session.conclusions request ++
        if task.job.request = request then
          (View.endings.of seen).map Prod.snd else [] := by
  simp only [Session.conclusions, moved.logged, View.of_append,
    moved.shows.course, List.map_append]
  split <;> rfl

/-- An opening ends no request. -/
theorem Opening.conclusions
    {host : Host}
    {session : Session}
    {operation : Operation}
    {stage : Stage}
    (opens : Opening host session operation stage)
    (request : Nat) :
    stage.session.conclusions request = session.conclusions request := by
  obtain ⟨added, logged, course, _⟩ := opens.logs
  simp only [Session.conclusions, logged, course request, View.of_append,
    List.map_append]
  split <;> simp

/-- The end of the request of a number is that of its program by itself. -/
def Foretells
    (library : Library)
    (backend : Backend)
    (configuration : Configuration)
    (asked : List Program)
    (request : Nat)
    (ending : Conclusion) : Prop :=
  ∃ program,
    asked[request]? = some program ∧
      ending = settled library backend configuration program []

/--
While a backend is in use, whatever is carried for the requests made since then
promises the end of their programs by themselves, and whatever was told of them
kept it.
-/
structure Foretold
    (library : Library)
    (backend : Backend)
    (mode : Mode)
    (configuration : Configuration)
    (since : Nat)
    (asked : List Program)
    (stage : Stage) : Prop where
  uses : stage.session.Uses backend mode
  settings : stage.session.configuration = configuration
  carried :
    ∀ task,
      stage.Carries task →
      since ≤ task.job.request →
      Foretells library backend configuration asked task.job.request
        (promise library backend configuration task)
  told :
    ∀ request,
      since ≤ request →
      ∀ ending ∈ stage.session.conclusions request,
        Foretells library backend configuration asked request ending

namespace Foretold

variable
  {host : Host}
  {backend : Backend}
  {mode : Mode}
  {configuration : Configuration}
  {since : Nat}
  {asked : List Program}
  {session : Session}
  {stage next : Stage}

/-- Every step keeps the promises, and tells of an end as it was promised. -/
theorem step
    (taken : WorkStep host stage next)
    (aligned : stage.session.Aligned)
    (library : host.library.Steady)
    (steady : backend.Steady)
    (foretold :
      Foretold host.library backend mode configuration since asked stage) :
    Foretold host.library backend mode configuration since asked next := by
  obtain ⟨task, rest, seen, added, later?, moved⟩ := taken.moves aligned
  refine
    { uses := foretold.uses.step taken aligned
      settings := taken.configuration.trans foretold.settings
      carried := ?_
      told := ?_ }
  · intro other carries recent
    rcases moved.carried_before carries with before | becomes
    · exact foretold.carried other before recent
    · subst becomes
      have same := moved.move.same_request
      have kept :=
        moved.move.promise_kept library steady foretold.uses foretold.settings
      rw [same] at recent ⊢
      rw [kept]
      exact foretold.carried task moved.carried_task recent
  · intro request recent ending told
    rw [moved.conclusions] at told
    rcases List.mem_append.mp told with before | new
    · exact foretold.told request recent ending before
    · split at new
      · rename_i own
        -- Only a move without a later task tells of an end.
        subst own
        cases later? with
        | some later =>
            simp [moved.move.untold] at new
        | none =>
            rw [moved.move.promise_told foretold.uses] at new
            rw [List.mem_singleton.mp new]
            exact foretold.carried task moved.carried_task recent
      · cases new

/-- A new request is promised the end of its program by itself. -/
theorem opening
    {operation : Operation}
    (opens : Opening host session operation stage)
    (undisturbing : operation.Undisturbing)
    (aligned : session.Aligned)
    (numbered : asked.length = session.requests)
    (foretold :
      Foretold host.library backend mode configuration since asked
        ⟨session, []⟩) :
    Foretold host.library backend mode configuration since
      (asked ++ operation.program?.toList) stage := by
  have more :
      ∀ {request ending},
        Foretells host.library backend configuration asked request ending →
        Foretells host.library backend configuration
          (asked ++ operation.program?.toList)
          request ending := by
    rintro request ending ⟨program, found, same⟩
    have inside := (List.getElem?_eq_some_iff.mp found).1
    exact ⟨program, by rw [List.getElem?_append_left inside, found], same⟩
  refine
    { uses := foretold.uses.opening opens undisturbing aligned
      settings := (opens.configuration undisturbing).trans foretold.settings
      carried := ?_
      told := ?_ }
  · intro task carries recent
    rcases opens.carries aligned carries with
      owes | ⟨files, target, isCompile, isNew⟩
    · exact more (foretold.carried task (Or.inr owes) recent)
    · subst isCompile isNew
      refine ⟨⟨files, target⟩, ?_, rfl⟩
      simp [Task.job, Job.new, Operation.program?, ← numbered]
  · intro request recent ending told
    rw [opens.conclusions] at told
    exact more (foretold.told request recent ending told)

/-- As long as nothing disturbs the backend in use, all promises are kept. -/
theorem runAll
    (host : Host)
    (configuration : Configuration)
    (earlier operations : List Operation)
    (library : host.library.Steady)
    (steady : backend.Steady)
    (uses : ((Session.new configuration).runAll host earlier).Uses backend mode)
    (undisturbing : ∀ operation ∈ operations, operation.Undisturbing) :
    let before := (Session.new configuration).runAll host earlier
    Foretold host.library backend mode before.configuration before.requests
      (requested (earlier ++ operations))
      ⟨before.runAll host operations, []⟩ := by
  intro before
  have balanced := Balanced.runAll host configuration earlier
  have kept :=
    runAll_induction host before
      (fun operations stage =>
        (∀ operation ∈ operations, operation.Undisturbing) →
          stage.session.Aligned ∧
            Foretold host.library backend mode before.configuration
              before.requests
              (requested (earlier ++ operations)) stage)
      (by
        refine
          fun _ =>
            ⟨(Session.Aligned.new configuration).runAll host earlier, uses,
              rfl, ?_, ?_⟩
        · intro task carries recent
          exact
            absurd (balanced.made_of_carried carries) (Nat.not_lt.mpr recent)
        · intro request recent ending told
          exact absurd (balanced.made_of_told told) (Nat.not_lt.mpr recent))
      (by
        intro operations operation stage holds opens undisturbing
        obtain ⟨aligned, foretold⟩ :=
          holds fun earlier member =>
            undisturbing earlier (List.mem_append_left _ member)
        have last :=
          undisturbing operation (List.mem_append_right _ List.mem_cons_self)
        have numbered :=
          (Faithful.runAll host configuration (earlier ++ operations)).numbered
        rw [runAll_append] at numbered
        refine ⟨aligned.opening opens, ?_⟩
        rw [← List.append_assoc, requested_append, requested_singleton]
        exact foretold.opening opens last aligned numbered)
      (by
        intro operations stage next holds taken undisturbing
        obtain ⟨aligned, foretold⟩ := holds undisturbing
        exact ⟨aligned.step taken, foretold.step taken aligned library steady⟩)
      operations
  exact (kept undisturbing).2

end Foretold

/-- An operation that leaves backend and settings alone is no load. -/
private theorem loadless_of_undisturbing
    {operations : List Operation}
    (undisturbing : ∀ operation ∈ operations, operation.Undisturbing) :
    ∀ operation ∈ operations, operation.isLoad = false := by
  intro operation member
  cases operation with
  | load url mode =>
      exact (undisturbing _ member).elim
  | _ =>
      rfl

/--
Once no job waits, every request made meanwhile has ended as its program does by
itself.
-/
private theorem conclusions_of_nobody
    {backend : Backend}
    {mode : Mode}
    (host : Host)
    (configuration : Configuration)
    (earlier operations : List Operation)
    (library : host.library.Steady)
    (steady : backend.Steady)
    (uses : ((Session.new configuration).runAll host earlier).Uses backend mode)
    (undisturbing : ∀ operation ∈ operations, operation.Undisturbing)
    (nobody :
      ((Session.new configuration).runAll host
        (earlier ++ operations)).docket.pending = [])
    {place : Nat}
    {program : Program}
    (asked : (requested operations)[place]? = some program) :
    let before := (Session.new configuration).runAll host earlier
    ((Session.new configuration).runAll host
      (earlier ++ operations)).conclusions
        (before.requests + place) =
      [settled host.library backend before.configuration program []] := by
  intro before
  have foretold :=
    Foretold.runAll host configuration earlier operations library steady uses
      undisturbing
  have balanced := Balanced.runAll host configuration (earlier ++ operations)
  have numbered : (requested earlier).length = before.requests :=
    (Faithful.runAll host configuration earlier).numbered
  have numberedAfter :
      (requested (earlier ++ operations)).length =
        ((Session.new configuration).runAll host
          (earlier ++ operations)).requests :=
    (Faithful.runAll host configuration (earlier ++ operations)).numbered
  have found : (requested (earlier ++ operations))[before.requests + place]? =
    some program := by
    rw [requested_append, List.getElem?_append_right (by omega), ← asked]
    congr 1
    omega
  have made :
      before.requests + place <
        ((Session.new configuration).runAll host
          (earlier ++ operations)).requests := by
    have inside := (List.getElem?_eq_some_iff.mp found).1
    omega
  have kept :
      before.requests + place ∉
        (Session.new configuration).dropped host (earlier ++ operations) := by
    rw [dropped_append,
      dropped_of_loadless host _ (loadless_of_undisturbing undisturbing),
      List.append_nil]
    intro lost
    have old : before.requests + place < before.requests :=
      (Balanced.runAll host configuration earlier).made_of_lost lost
    omega
  obtain ⟨ending, once⟩ := balanced.ended_once made nobody kept
  rw [runAll_append] at once ⊢
  obtain ⟨other, isProgram, same⟩ :=
    foretold.told _ (Nat.le_add_right _ _) ending
      (by rw [once]; exact List.mem_cons_self)
  rw [found] at isProgram
  cases isProgram
  rw [once, same]

/--
A worker does what an inline backend does.  From any session whose worker has
announced its backend, let requests and news come in any order and let the
worker hand back its replies in any order: once there is no news to wait for,
each request has ended once, and with the end of the same request in a session
of its own.
-/
theorem worker_refines_inline
    (host : Host)
    (backend : Backend)
    (configuration : Configuration)
    (earlier operations : List Operation)
    (position : Nat)
    (library : host.library.Steady)
    (steady : backend.Steady)
    (uses :
      ((Session.new configuration).runAll host earlier).Uses backend .worker)
    (undisturbing : ∀ operation ∈ operations, operation.Undisturbing)
    (idle :
      (((Session.new configuration).runAll host (earlier ++ operations)).next
        host position).1 = .nothing) :
    let before := (Session.new configuration).runAll host earlier
    let after := (Session.new configuration).runAll host (earlier ++ operations)
    let alone : Host := ⟨host.library, fun _ _ => .ready backend⟩
    ∀ place program url,
      (requested operations)[place]? = some program →
      ∃ ending,
        after.conclusions (before.requests + place) = [ending] ∧
          ((Session.new before.configuration).runAll alone
            [.load url .inline, .next 0,
              .compile program.sources program.target]).conclusions
              0 = [ending] := by
  intro before after alone place program url asked
  have aligned : after.Aligned :=
    (Session.Aligned.new configuration).runAll host (earlier ++ operations)
  have together :=
    conclusions_of_nobody host configuration earlier operations library
      steady uses
      undisturbing (aligned.nobody_of_idle idle) asked
  refine ⟨_, together, ?_⟩
  have inline :
      ((Session.new before.configuration).runAll alone
        [.load url .inline, .next 0]).Uses
        backend .inline :=
    ⟨rfl, rfl⟩
  have compiling :
      ∀ operation ∈ [Operation.compile program.sources program.target],
        operation.Undisturbing := by
    simp [Operation.Undisturbing]
  have stays :=
    (Foretold.runAll alone before.configuration [.load url .inline, .next 0] _
      library steady
      inline compiling).uses
  have nobody :=
    ((Session.Aligned.new before.configuration).runAll alone
      [.load url .inline, .next 0,
        .compile program.sources program.target]).toolchain
        |>.nobody_of_inline stays.active
  have first :
      (requested [.compile program.sources program.target])[0]? =
        some program :=
    rfl
  exact
    conclusions_of_nobody alone before.configuration
      [.load url .inline, .next 0]
      [.compile program.sources program.target] library steady inline compiling
      (List.map_eq_nil_iff.mp nobody) first

/-- A backend that has nothing to say of any bundle. -/
def Backend.quiet : Backend :=
  .ofRules "0.8.1" []

/-- A host without files whose loads end with the quiet backend. -/
def Host.quiet : Host :=
  .scripted [] [("url", .ready .quiet)]

/-- Two requests of which the later is answered first. -/
theorem worker_refines_inline_out_of_order :
    ∃ ending,
      ((Session.new .standard).runAll .quiet
          [.load "url" .worker, .next 0,
            .compile (.ofList [("a.sol", "")]) "a.sol", .compile
              (.ofList [("b.sol", "")]) "b.sol", .next 1, .next 0]).conclusions
          (0 + 1) = [ending] ∧
        ((Session.new .standard).runAll
          ⟨Host.quiet.library, fun _ _ => .ready .quiet⟩
          [.load "url" .inline, .next 0,
            .compile (.ofList [("b.sol", "")]) "b.sol"]).conclusions
            0 = [ending] :=
  worker_refines_inline .quiet .quiet .standard [.load "url" .worker, .next 0]
    [.compile (.ofList [("a.sol", "")]) "a.sol",
      .compile (.ofList [("b.sol", "")]) "b.sol", .next 1, .next 0]
    0 (fun _ _ _ => rfl) (fun _ _ _ => rfl) ⟨rfl, rfl⟩
    (by simp [Operation.Undisturbing])
    (Session.Aligned.idle_of_nobody _ _ 0 (by decide +kernel)
      (by decide +kernel))
    1 ⟨.ofList [("b.sol", "")], "b.sol"⟩ "url" rfl

end CompilerSession
