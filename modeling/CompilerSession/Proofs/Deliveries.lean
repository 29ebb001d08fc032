import CompilerSession.Audience
import Mathlib.Data.List.Nodup

namespace CompilerSession

/-!
# Deliveries to an audience

What is asked of an audience and what comes of it make a transcript.  From the
transcript alone it can be told who hears an event: those who subscribed before
and have not been removed since, each in the state that the events since its
subscription have left it in.  `standing` reads that off, and the main statement
says that an audience keeps to it.
-/

/-- What is asked of an audience. -/
inductive AudienceRequest (ε σ ρ : Type) where
  | subscribe (listener : Listener ε σ ρ)
  | unsubscribe (subscription : Subscription)
  | emit (event : ε)

/-- A request with what came of it. -/
inductive AudienceOccurrence (ε σ ρ : Type) where
  | subscribed (listener : Listener ε σ ρ) (subscription : Subscription)
  | unsubscribed (subscription : Subscription) (found : Bool)
  | emitted (event : ε) (reactions : List ρ)

variable {ε σ ρ : Type}

namespace AudienceOccurrence

/-- The request of an occurrence. -/
def request : AudienceOccurrence ε σ ρ → AudienceRequest ε σ ρ
  | .subscribed listener _ => .subscribe listener
  | .unsubscribed subscription _ => .unsubscribe subscription
  | .emitted event _ => .emit event

/-- The subscription that was given. -/
def given? : AudienceOccurrence ε σ ρ → Option Subscription
  | .subscribed _ subscription => some subscription
  | _ => none

/-- The subscription that was to be removed. -/
def removed? : AudienceOccurrence ε σ ρ → Option Subscription
  | .unsubscribed subscription _ => some subscription
  | _ => none

/-- The event that was emitted. -/
def event? : AudienceOccurrence ε σ ρ → Option ε
  | .emitted event _ => some event
  | _ => none

/--
What an occurrence makes of those who stand: a new one comes last, one is
removed and no other, or all have heard an event.
-/
def update (known : List (Subscription × Listener ε σ ρ)) :
    AudienceOccurrence ε σ ρ → List (Subscription × Listener ε σ ρ)
  | .subscribed listener subscription => known ++ [(subscription, listener)]
  | .unsubscribed subscription _ => known.filter fun entry =>
      entry.1 != subscription
  | .emitted event _ => known.map fun entry => (entry.1, (entry.2.hear event).1)

end AudienceOccurrence

/-- The listener after it has heard events one after the other. -/
def Listener.after
    (listener : Listener ε σ ρ)
    (events : List ε) : Listener ε σ ρ :=
  events.foldl (fun listener event => (listener.hear event).1) listener

/--
What was asked of an audience and what came of it, from the first to the latest.
-/
abbrev Transcript (ε σ ρ : Type) := List (AudienceOccurrence ε σ ρ)

namespace Transcript

/-- The subscriptions that were given. -/
def given (transcript : Transcript ε σ ρ) : List Subscription :=
  transcript.filterMap AudienceOccurrence.given?

/-- The subscriptions that were to be removed. -/
def removed (transcript : Transcript ε σ ρ) : List Subscription :=
  transcript.filterMap AudienceOccurrence.removed?

/-- The events that were emitted. -/
def events (transcript : Transcript ε σ ρ) : List ε :=
  transcript.filterMap AudienceOccurrence.event?

/-- The subscription was given and was not to be removed since. -/
def Open
    (transcript : Transcript ε σ ρ)
    (subscription : Subscription) : Prop :=
  ∃ earlier listener since,
    transcript = earlier ++ .subscribed listener subscription :: since ∧
      subscription ∉ removed since

/--
The subscriptions that are open, in their order, each with its listener as the
events since have left it.
-/
def standing : Transcript ε σ ρ → List (Subscription × Listener ε σ ρ)
  | [] => []
  | .subscribed listener subscription :: since =>
    if subscription ∈ removed since then standing since
    else (subscription, listener.after (events since)) :: standing since
  | _ :: since => standing since

/-! ## Who stands -/

/-- A subscription is open by the first occurrence or by what follows it. -/
theorem open_cons
    {first : AudienceOccurrence ε σ ρ}
    {since : Transcript ε σ ρ}
    {subscription : Subscription} :
    Open (first :: since) subscription ↔
      (first.given? = some subscription ∧ subscription ∉ removed since) ∨
        Open since subscription := by
  constructor
  · rintro ⟨earlier, listener, later, shape, kept⟩
    cases earlier with
    | nil =>
        obtain ⟨rfl, rfl⟩ := List.cons.inj shape
        exact Or.inl ⟨rfl, kept⟩
    | cons other earlier =>
        obtain ⟨-, shape⟩ := List.cons.inj shape
        exact Or.inr ⟨earlier, listener, later, shape, kept⟩
  · rintro (⟨isGiven, kept⟩ | ⟨earlier, listener, later, rfl, kept⟩)
    · cases first with
      | subscribed listener other =>
          cases isGiven
          exact ⟨[], listener, since, rfl, kept⟩
      | unsubscribed other found =>
          cases isGiven
      | emitted event reactions =>
          cases isGiven
    · exact ⟨first :: earlier, listener, later, rfl, kept⟩

/-- Those who stand are those whose subscriptions are open. -/
theorem mem_standing
    {transcript : Transcript ε σ ρ}
    {subscription : Subscription} :
    subscription ∈ (standing transcript).map Prod.fst ↔
      Open transcript subscription := by
  induction transcript with
  | nil =>
      simp [standing, Open]
  | cons first since inductionHypothesis =>
      rw [open_cons, ← inductionHypothesis]
      cases first with
      | subscribed listener other =>
          rw [standing]
          split
          · rename_i gone
            simp only [AudienceOccurrence.given?, Option.some.injEq]
            grind
          · simp only [AudienceOccurrence.given?, Option.some.injEq,
              List.map_cons, List.mem_cons]
            grind
      | unsubscribed other found =>
          simp [standing, AudienceOccurrence.given?]
      | emitted event reactions =>
          simp [standing, AudienceOccurrence.given?]

/-- They stand in the order of their subscriptions, each once. -/
theorem standing_sublist (transcript : Transcript ε σ ρ) :
    ((standing transcript).map Prod.fst).Sublist (given transcript) := by
  induction transcript with
  | nil =>
      exact List.Sublist.slnil
  | cons first since inductionHypothesis =>
      cases first with
      | subscribed listener subscription =>
          rw [standing]
          split
          · exact inductionHypothesis.cons _
          · exact inductionHypothesis.cons_cons _
      | unsubscribed subscription found =>
          exact inductionHypothesis
      | emitted event reactions =>
          exact inductionHypothesis

/-! ## What an occurrence changes -/

/-- The last item of a list is filtered after all others. -/
private theorem filterMap_concat
    {α β : Type}
    (see : α → Option β)
    (items : List α)
    (last : α) :
    (items ++ [last]).filterMap see =
      items.filterMap see ++ (see last).toList := by
  cases seen : see last <;> simp [seen]

theorem given_concat
    (transcript : Transcript ε σ ρ)
    (occurrence : AudienceOccurrence ε σ ρ) :
    given (transcript ++ [occurrence]) =
      given transcript ++ occurrence.given?.toList :=
  filterMap_concat _ transcript occurrence

theorem removed_concat
    (transcript : Transcript ε σ ρ)
    (occurrence : AudienceOccurrence ε σ ρ) :
    removed (transcript ++ [occurrence]) =
      removed transcript ++ occurrence.removed?.toList :=
  filterMap_concat _ transcript occurrence

theorem events_concat
    (transcript : Transcript ε σ ρ)
    (occurrence : AudienceOccurrence ε σ ρ) :
    events (transcript ++ [occurrence]) =
      events transcript ++ occurrence.event?.toList :=
  filterMap_concat _ transcript occurrence

/-- Who stands after an occurrence can be told from who stood before it. -/
theorem standing_concat
    (transcript : Transcript ε σ ρ)
    (occurrence : AudienceOccurrence ε σ ρ) :
    standing (transcript ++ [occurrence]) =
      occurrence.update (standing transcript) := by
  induction transcript with
  | nil =>
      cases occurrence <;> rfl
  | cons first since inductionHypothesis =>
      cases first with
      | subscribed listener subscription =>
          rw [List.cons_append, standing, standing, removed_concat,
            events_concat, inductionHypothesis]
          by_cases gone : subscription ∈ removed since
          · simp [gone]
          · cases occurrence with
            | subscribed other latest =>
                simp [gone, AudienceOccurrence.removed?,
                  AudienceOccurrence.event?, AudienceOccurrence.update]
            | unsubscribed latest found =>
                by_cases same : subscription = latest
                · subst same
                  simp [gone, AudienceOccurrence.removed?,
                    AudienceOccurrence.update]
                · simp [gone, same, AudienceOccurrence.removed?,
                    AudienceOccurrence.event?, AudienceOccurrence.update]
            | emitted event reactions =>
                simp [gone, Listener.after, AudienceOccurrence.removed?,
                  AudienceOccurrence.event?, AudienceOccurrence.update]
      | _ =>
          exact inductionHypothesis

end Transcript

/-! ## The audience and its transcript -/

namespace Audience

/-- What comes of a request, and the audience after it. -/
def serve (audience : Audience ε σ ρ) :
    AudienceRequest ε σ ρ → AudienceOccurrence ε σ ρ × Audience ε σ ρ
  | .subscribe listener =>
    let (subscription, after) := audience.subscribe listener
    (.subscribed listener subscription, after)
  | .unsubscribe subscription =>
    let (found, after) := audience.unsubscribe subscription
    (.unsubscribed subscription found, after)
  | .emit event =>
    let (reactions, after) := audience.emit event
    (.emitted event reactions, after)

/-- What comes of requests one after the other. -/
def transcript
    (audience : Audience ε σ ρ) :
    List (AudienceRequest ε σ ρ) → Transcript ε σ ρ
  | [] => []
  | request :: rest =>
      (audience.serve request).1 :: (audience.serve request).2.transcript rest

/-- The audience after requests one after the other. -/
def serveAll
    (audience : Audience ε σ ρ)
    (requests : List (AudienceRequest ε σ ρ)) :
    Audience ε σ ρ :=
  requests.foldl (fun audience request => (audience.serve request).2) audience

/--
An audience is what its transcript makes of it, and it has used its numbers in a
row.
-/
structure Tells
    (audience : Audience ε σ ρ)
    (past : Transcript ε σ ρ) : Prop where
  standing : audience.listeners = past.standing
  given : past.given = (List.range audience.nextNumber).map Subscription.mk

/-- What the transcript so far calls for. -/
def Due (past : Transcript ε σ ρ) : AudienceOccurrence ε σ ρ → Prop
  | .subscribed _ subscription => subscription ∉ past.given
  | .unsubscribed subscription found => found = true ↔ past.Open subscription
  | .emitted event reactions =>
    reactions = past.standing.map fun entry => (entry.2.hear event).2

variable
  {audience : Audience ε σ ρ}
  {past : Transcript ε σ ρ}

/-- An audience without listeners has the empty transcript. -/
theorem Tells.new : (empty : Audience ε σ ρ).Tells [] :=
  ⟨rfl, rfl⟩

/-- No subscription is given twice. -/
theorem Tells.given_nodup (tells : audience.Tells past) : past.given.Nodup := by
  rw [tells.given]
  exact List.nodup_range.map fun _ _ same => Subscription.mk.inj same

/-- An audience has a subscription exactly if it is open. -/
theorem Tells.found_iff
    (tells : audience.Tells past)
    (subscription : Subscription) :
    (audience.unsubscribe subscription).1 = true ↔ past.Open subscription := by
  rw [← Transcript.mem_standing, ← tells.standing, List.mem_map]
  simp only [unsubscribe, bne_iff_ne, ne_eq, List.length_filter_eq_length_iff]
  simp

/--
What comes of a request is due, and the audience goes on telling its transcript.
-/
theorem Tells.step
    (tells : audience.Tells past)
    (request : AudienceRequest ε σ ρ) :
    Due past (audience.serve request).1 ∧
      (audience.serve request).2.Tells
        (past ++ [(audience.serve request).1]) := by
  cases request with
  | subscribe listener =>
      refine ⟨?_, ?_, ?_⟩
      · show Subscription.mk audience.nextNumber ∉ past.given
        simp [tells.given]
      · rw [Transcript.standing_concat, ← tells.standing]
        rfl
      · rw [Transcript.given_concat, tells.given]
        show _ = (List.range (audience.nextNumber + 1)).map Subscription.mk
        rw [List.range_succ, List.map_append]
        rfl
  | unsubscribe subscription =>
      refine ⟨tells.found_iff subscription, ?_, ?_⟩
      · rw [Transcript.standing_concat, ← tells.standing]
        rfl
      · rw [Transcript.given_concat, tells.given]
        exact List.append_nil _
  | emit event =>
      refine ⟨?_, ?_, ?_⟩
      · show (audience.listeners.map _).map Prod.snd = _
        rw [tells.standing, List.map_map]
        rfl
      · rw [Transcript.standing_concat, ← tells.standing]
        show (audience.listeners.map _).map Prod.fst = _
        rw [List.map_map]
        rfl
      · rw [Transcript.given_concat, tells.given]
        exact List.append_nil _

/-- So it is with requests one after the other. -/
theorem Tells.run
    (tells : audience.Tells past)
    (requests : List (AudienceRequest ε σ ρ)) :
    (∀ before occurrence later,
      audience.transcript requests = before ++ occurrence :: later →
        Due (past ++ before) occurrence) ∧
      (audience.serveAll requests).Tells
        (past ++ audience.transcript requests) := by
  induction requests generalizing audience past with
  | nil =>
      refine ⟨fun before occurrence later shape => ?_, ?_⟩
      · simp [transcript] at shape
      · rw [transcript, List.append_nil]
        exact tells
  | cons request rest inductionHypothesis =>
      obtain ⟨due, after⟩ := tells.step request
      obtain ⟨dueLater, afterAll⟩ := inductionHypothesis after
      refine ⟨fun before occurrence later shape => ?_, ?_⟩
      · cases before with
        | nil =>
            obtain ⟨rfl, -⟩ := List.cons.inj shape
            rw [List.append_nil]
            exact due
        | cons first before =>
            obtain ⟨rfl, shapeLater⟩ := List.cons.inj shape
            rw [List.append_cons]
            exact dueLater before occurrence later shapeLater
      · rw [transcript, List.append_cons]
        exact afterAll

/-- The transcript is about the requests. -/
theorem requests_transcript
    (audience : Audience ε σ ρ)
    (requests : List (AudienceRequest ε σ ρ)) :
    (audience.transcript requests).map AudienceOccurrence.request =
      requests := by
  induction requests generalizing audience with
  | nil =>
      rfl
  | cons request rest inductionHypothesis =>
      rw [transcript, List.map_cons, inductionHypothesis]
      cases request <;> rfl

/--
An audience delivers as it should.  Whatever is asked of it, no subscription is
given twice.  A removal finds its subscription exactly if that was given before
and not removed since.  An event gets the reactions of those whose subscriptions
are open at that moment, each once and in the order in which they subscribed,
and each of them is in the state in which the events since its subscription have
left it.  So are those who are left in the end.
-/
theorem delivers (requests : List (AudienceRequest ε σ ρ)) :
    let transcript := empty.transcript requests
    transcript.map AudienceOccurrence.request = requests ∧
      transcript.given.Nodup ∧
      (∀ before subscription found later,
        transcript = before ++ .unsubscribed subscription found :: later →
          (found = true ↔ Transcript.Open before subscription)) ∧
      (∀ before event reactions later,
        transcript = before ++ .emitted event reactions :: later →
          reactions =
              (Transcript.standing before).map
                (fun entry => (entry.2.hear event).2) ∧
            ((Transcript.standing before).map Prod.fst).Sublist
              (Transcript.given before) ∧
            ∀ subscription,
              subscription ∈ (Transcript.standing before).map Prod.fst ↔
                Transcript.Open before subscription) ∧
      (empty.serveAll requests).listeners = transcript.standing := by
  intro transcript
  have new : (empty : Audience ε σ ρ).Tells [] := Tells.new
  obtain ⟨due, tells⟩ := new.run requests
  rw [List.nil_append] at tells
  refine ⟨requests_transcript empty requests, tells.given_nodup, ?_, ?_,
    tells.standing⟩
  · intro before subscription found later shape
    exact due before _ later shape
  · intro before event reactions later shape
    exact
      ⟨due before _ later shape, Transcript.standing_sublist before,
        fun _ => Transcript.mem_standing⟩

end Audience

end CompilerSession
