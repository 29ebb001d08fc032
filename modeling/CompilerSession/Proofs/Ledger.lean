import CompilerSession.Proofs.Docket
import Mathlib.Data.List.Nodup

namespace CompilerSession

/-!
# The ledger of a docket

What is asked of a docket and what comes of it make a ledger.  From the ledger
alone it can be told what waits: the entries that were let in and have not been
taken, forgotten or drained since.  The main statement says that a docket keeps
to it, so an entry leaves once at most, and nothing leaves in its place.
-/

/-- What is asked of a docket. -/
inductive DocketRequest (α : Type) where
  | enter (entry : α)
  | take (ticket : Ticket)
  | clear
  | drain

/-- A request with what came of it. -/
inductive DocketOccurrence (α : Type) where
  | entered (ticket : Ticket) (entry : α)
  | taken (ticket : Ticket) (found? : Option α)
  | cleared (count : Nat)
  | drained (entries : List α)

variable {α : Type}

namespace DocketOccurrence

/-- The request of an occurrence. -/
def request : DocketOccurrence α → DocketRequest α
  | .entered _ entry => .enter entry
  | .taken ticket _ => .take ticket
  | .cleared _ => .clear
  | .drained _ => .drain

/-- The ticket that was given out. -/
def issued? : DocketOccurrence α → Option Ticket
  | .entered ticket _ => some ticket
  | _ => none

/-- After the occurrence nothing waits under the ticket any more. -/
def Removes (ticket : Ticket) : DocketOccurrence α → Prop
  | .entered _ _ => False
  | .taken wanted _ => wanted = ticket
  | .cleared _ => True
  | .drained _ => True

/-- How many entries left, by what the docket said. -/
def departures : DocketOccurrence α → Nat
  | .entered _ _ => 0
  | .taken _ found? => found?.toList.length
  | .cleared count => count
  | .drained entries => entries.length

end DocketOccurrence

/--
What was asked of a docket and what came of it, from the first to the latest.
-/
abbrev Ledger (α : Type) := List (DocketOccurrence α)

namespace Ledger

/-- The tickets that were given out. -/
def tickets (ledger : Ledger α) : List Ticket :=
  ledger.filterMap DocketOccurrence.issued?

/-- How many entries left. -/
def departures : Ledger α → Nat
  | [] => 0
  | occurrence :: rest => occurrence.departures + departures rest

/-- The entry was let in under the ticket and has not been removed since. -/
def Waits
    (ledger : Ledger α)
    (ticket : Ticket)
    (entry : α) : Prop :=
  ∃ earlier since,
    ledger = earlier ++ .entered ticket entry :: since ∧
      ∀ occurrence ∈ since, ¬ occurrence.Removes ticket

/-- All that waits, in the order in which it was let in. -/
structure Lists
    (ledger : Ledger α)
    (waiting : List (Ticket × α)) : Prop where
  ascending : (waiting.map Prod.fst).Pairwise (· < ·)
  waits : ∀ ticket entry, (ticket, entry) ∈ waiting ↔ ledger.Waits ticket entry

/-- The occurrence removes an entry that waits. -/
def Departs
    (ledger : Ledger α)
    (occurrence : DocketOccurrence α)
    (ticket : Ticket) : Prop :=
  (∃ entry, ledger.Waits ticket entry) ∧ occurrence.Removes ticket

/-! ## What an occurrence changes -/

/--
The tickets of two ledgers in a row are those of the first and then the second.
-/
theorem tickets_append (ledger more : Ledger α) :
    tickets (ledger ++ more) = tickets ledger ++ tickets more :=
  List.filterMap_append

theorem tickets_concat
    (ledger : Ledger α)
    (occurrence : DocketOccurrence α) :
    tickets (ledger ++ [occurrence]) =
      tickets ledger ++ occurrence.issued?.toList := by
  rw [tickets_append]
  cases occurrence <;> rfl

theorem departures_concat
    (ledger : Ledger α)
    (occurrence : DocketOccurrence α) :
    departures (ledger ++ [occurrence]) =
      departures ledger + occurrence.departures := by
  induction ledger with
  | nil =>
      exact Nat.add_comm _ _
  | cons first rest inductionHypothesis =>
      rw [List.cons_append, departures, departures, inductionHypothesis,
        Nat.add_assoc]

/--
What waits in the end waited before and was left, or was let in later and was
left.
-/
theorem waits_append
    {ledger more : Ledger α}
    {ticket : Ticket}
    {entry : α} :
    Waits (ledger ++ more) ticket entry ↔
      (ledger.Waits ticket entry ∧
        ∀ occurrence ∈ more, ¬ occurrence.Removes ticket) ∨
        more.Waits ticket entry := by
  constructor
  · rintro ⟨earlier, since, shape, kept⟩
    -- The entry was let in behind the first ledger, or in it, or just where the
    -- second begins.
    rcases List.append_eq_append_iff.mp shape with
      ⟨middle, rfl, isMore⟩ | ⟨middle, isLedger, tail⟩
    · exact Or.inr ⟨middle, since, isMore, kept⟩
    · cases middle with
      | nil =>
          exact Or.inr ⟨[], since, tail.symm, kept⟩
      | cons first middle =>
          obtain ⟨rfl, rfl⟩ := List.cons.inj tail
          have ⟨keptBefore, keptLater⟩ := List.forall_mem_append.mp kept
          exact Or.inl ⟨⟨earlier, middle, isLedger, keptBefore⟩, keptLater⟩
  · rintro (⟨⟨earlier, since, rfl, kept⟩, left⟩ | ⟨earlier, since, rfl, kept⟩)
    · exact ⟨earlier, since ++ more,
        by simp, List.forall_mem_append.mpr ⟨kept, left⟩⟩
    · exact ⟨ledger ++ earlier, since, by simp, kept⟩

theorem waits_singleton
    {occurrence : DocketOccurrence α}
    {ticket : Ticket}
    {entry : α} :
    Waits [occurrence] ticket entry ↔ occurrence = .entered ticket entry := by
  constructor
  · rintro ⟨earlier, since, shape, -⟩
    cases earlier with
    | nil =>
        exact (List.cons.inj shape).1
    | cons first earlier =>
        simp at shape
  · rintro rfl
    exact ⟨[], [], rfl, List.forall_mem_nil _⟩

/--
What waits after an occurrence waited before and was left, or has just been let
in.
-/
theorem waits_concat
    {ledger : Ledger α}
    {occurrence : DocketOccurrence α}
    {ticket : Ticket}
    {entry : α} :
    Waits (ledger ++ [occurrence]) ticket entry ↔
      (ledger.Waits ticket entry ∧ ¬ occurrence.Removes ticket) ∨
        occurrence = .entered ticket entry := by
  rw [waits_append, waits_singleton, List.forall_mem_singleton]

/-- What waits has been given a ticket. -/
theorem Waits.issued
    {ledger : Ledger α}
    {ticket : Ticket}
    {entry : α}
    (waits : ledger.Waits ticket entry) :
    ticket ∈ ledger.tickets := by
  obtain ⟨earlier, since, rfl, -⟩ := waits
  exact List.mem_filterMap.mpr ⟨.entered ticket entry, by simp, rfl⟩

/--
What has been removed is not there to be removed again, if no ticket is given
out twice.
-/
theorem Departs.once
    {before between : Ledger α}
    {first second : DocketOccurrence α}
    {ticket : Ticket}
    (distinct : (tickets (before ++ first :: between)).Nodup)
    (departs : before.Departs first ticket) :
    ¬ Departs (before ++ first :: between) second ticket := by
  rintro ⟨⟨entry, waits⟩, -⟩
  obtain ⟨⟨old, waited⟩, removes⟩ := departs
  rcases waits_append.mp waits with ⟨-, left⟩ | anew
  · exact left first List.mem_cons_self removes
  · -- An entry that came later under the ticket would have it a second time.
    rw [tickets_append, List.nodup_append] at distinct
    exact distinct.2.2 ticket waited.issued ticket anew.issued rfl

end Ledger

namespace Docket

/-- What comes of a request, and the docket after it. -/
def serve (docket : Docket α) : DocketRequest α → DocketOccurrence α × Docket α
  | .enter entry =>
    let (ticket, after) := docket.enter entry
    (.entered ticket entry, after)
  | .take ticket =>
    let (found?, after) := docket.take ticket
    (.taken ticket found?, after)
  | .clear =>
    let (count, after) := docket.clear
    (.cleared count, after)
  | .drain =>
    let (entries, after) := docket.drain
    (.drained entries, after)

/-- What comes of requests one after the other. -/
def ledger (docket : Docket α) : List (DocketRequest α) → Ledger α
  | [] => []
  | request :: rest =>
      (docket.serve request).1 :: (docket.serve request).2.ledger rest

/-- The docket after requests one after the other. -/
def serveAll
    (docket : Docket α)
    (requests : List (DocketRequest α)) : Docket α :=
  requests.foldl (fun docket request => (docket.serve request).2) docket

/-- Taking finds just the entry that waits under the ticket. -/
theorem Ordered.take_eq_some_iff
    {docket : Docket α}
    (ordered : docket.Ordered)
    {ticket : Ticket}
    {entry : α} :
    (docket.take ticket).1 = some entry ↔ (ticket, entry) ∈ docket.pending := by
  constructor
  · exact ordered.mem_of_take
  · intro member
    obtain ⟨other, found⟩ :=
      take_isSome (List.mem_map_of_mem (f := Prod.fst) member)
    have same : (ticket, other) = (ticket, entry) :=
      List.inj_on_of_nodup_map ordered.nodup (ordered.mem_of_take found)
        member rfl
    exact found.trans (congrArg (some ∘ Prod.snd) same)

/-- Taking what does not wait leaves the docket as it is. -/
theorem take_of_none
    {docket : Docket α}
    {ticket : Ticket}
    (nothing : (docket.take ticket).1 = none) :
    (docket.take ticket).2 = docket := by
  have absent := List.find?_eq_none.mp (Option.map_eq_none_iff.mp nothing)
  have kept : (docket.pending.filter fun waiting => waiting.1 != ticket) =
    docket.pending :=
    List.filter_eq_self.mpr fun waiting member => by
      simpa using absent waiting member
  rw [Docket.take, kept]

/-- Taking removes one entry, or none if it finds none. -/
theorem Ordered.size_take
    {docket : Docket α}
    (ordered : docket.Ordered)
    (ticket : Ticket) :
    docket.size =
      (docket.take ticket).2.size + (docket.take ticket).1.toList.length := by
  cases found : (docket.take ticket).1 with
  | none =>
      rw [take_of_none found]
      rfl
  | some entry =>
      obtain ⟨earlier, later, before, after⟩ := ordered.take_split found
      simp [size, before, after, Nat.add_assoc]

/--
A docket has what waits by its ledger, and has given out its tickets in a row.
-/
structure Keeps
    (docket : Docket α)
    (past : Ledger α) : Prop where
  lists : past.Lists docket.pending
  issued : past.tickets = List.range docket.nextTicket
  counted : docket.size + past.departures = past.tickets.length

/-- What the ledger so far calls for. -/
def Due (past : Ledger α) : DocketOccurrence α → Prop
  | .entered _ _ => True
  | .taken ticket found? => ∀ entry, found? = some entry ↔
      past.Waits ticket entry
  | .cleared count => ∃ waiting, past.Lists waiting ∧ count = waiting.length
  | .drained entries => ∃ waiting, past.Lists waiting ∧
      entries = waiting.map Prod.snd

variable
  {docket : Docket α}
  {past : Ledger α}

theorem Keeps.new : (empty : Docket α).Keeps [] where
  lists := ⟨.nil, fun ticket entry => by simp [empty, Ledger.Waits]⟩
  issued := rfl
  counted := rfl

/-- A docket that keeps a ledger is ordered. -/
theorem Keeps.ordered (keeps : docket.Keeps past) : docket.Ordered where
  ascending := keeps.lists.ascending
  issued ticket member := by
    obtain ⟨waiting, waits, rfl⟩ := List.mem_map.mp member
    have given := ((keeps.lists.waits _ _).mp waits).issued
    rw [keeps.issued] at given
    exact List.mem_range.mp given

/-- Entering keeps the ledger that tells of it. -/
theorem Keeps.enter
    (keeps : docket.Keeps past)
    (entry : α) :
    (docket.enter entry).2.Keeps
      (past ++ [.entered docket.nextTicket entry]) where
  lists :=
    { ascending := (keeps.ordered.enter entry).ascending
      waits := fun ticket other => by
        rw [Ledger.waits_concat, ← keeps.lists.waits]
        simp [Docket.enter, DocketOccurrence.Removes, eq_comm] }
  issued := by
    rw [Ledger.tickets_append, keeps.issued]
    exact List.range_succ.symm
  counted := by
    have before := keeps.counted
    simp only [size] at before
    simp only [Ledger.tickets_concat, Ledger.departures_concat,
      DocketOccurrence.issued?, DocketOccurrence.departures, size, Docket.enter,
      Option.toList_some, List.length_append, List.length_singleton]
    omega

/-- Taking keeps the ledger that tells of it. -/
theorem Keeps.take
    (keeps : docket.Keeps past)
    (ticket : Ticket) :
    (docket.take ticket).2.Keeps
      (past ++ [.taken ticket (docket.take ticket).1]) where
  lists :=
    { ascending := (keeps.ordered.take ticket).ascending
      waits := fun other entry => by
        rw [Ledger.waits_concat, ← keeps.lists.waits]
        simp [Docket.take, DocketOccurrence.Removes, @eq_comm _ ticket] }
  issued := by
    rw [Ledger.tickets_append, keeps.issued]
    exact List.append_nil _
  counted := by
    have before := keeps.counted
    have fewer := keeps.ordered.size_take ticket
    simp only [Ledger.tickets_concat, Ledger.departures_concat,
      DocketOccurrence.issued?, DocketOccurrence.departures, Option.toList_none,
      List.append_nil]
    omega

/-- Nothing waits any more after an occurrence that removes all that waited. -/
theorem Keeps.emptied
    (keeps : docket.Keeps past)
    {occurrence : DocketOccurrence α}
    (removes : ∀ ticket, occurrence.Removes ticket)
    (all : occurrence.departures = docket.size) :
    Keeps { docket with pending := [] } (past ++ [occurrence]) := by
  have ungiven : occurrence.issued? = none := by
    cases occurrence with
    | entered ticket entry =>
        exact (removes ticket).elim
    | _ =>
        rfl
  have unentered : ∀ ticket entry, occurrence ≠ .entered ticket entry := by
    rintro ticket entry rfl
    exact removes ticket
  have tickets : Ledger.tickets (past ++ [occurrence]) = past.tickets := by
    simp [Ledger.tickets, ungiven]
  refine ⟨⟨.nil, fun ticket entry => ?_⟩, tickets.trans keeps.issued, ?_⟩
  · simp [Ledger.waits_concat, removes, unentered]
  · rw [tickets, ← keeps.counted, Ledger.departures_concat, all,
      Nat.add_comm past.departures]
    exact Nat.zero_add _

/--
What comes of a request is due, and the docket goes on keeping to its ledger.
-/
theorem Keeps.step
    (keeps : docket.Keeps past)
    (request : DocketRequest α) :
    Due past (docket.serve request).1 ∧
      (docket.serve request).2.Keeps (past ++ [(docket.serve request).1]) := by
  cases request with
  | enter entry =>
      exact ⟨trivial, keeps.enter entry⟩
  | take ticket =>
      refine ⟨fun entry => ?_, keeps.take ticket⟩
      exact
        keeps.ordered.take_eq_some_iff.trans (keeps.lists.waits ticket entry)
  | clear =>
      refine ⟨⟨docket.pending, keeps.lists, rfl⟩, ?_⟩
      exact keeps.emptied (fun _ => trivial) rfl
  | drain =>
      refine ⟨⟨docket.pending, keeps.lists, rfl⟩, ?_⟩
      exact keeps.emptied (fun _ => trivial) (List.length_map _)

/-- So it is with requests one after the other. -/
theorem Keeps.run
    (keeps : docket.Keeps past)
    (requests : List (DocketRequest α)) :
    (∀ before occurrence later,
      docket.ledger requests = before ++ occurrence :: later →
        Due (past ++ before) occurrence) ∧
      (docket.serveAll requests).Keeps (past ++ docket.ledger requests) := by
  induction requests generalizing docket past with
  | nil =>
      refine ⟨fun before occurrence later shape => ?_, ?_⟩
      · simp [ledger] at shape
      · rw [ledger, List.append_nil]
        exact keeps
  | cons request rest inductionHypothesis =>
      obtain ⟨due, after⟩ := keeps.step request
      obtain ⟨dueLater, afterAll⟩ := inductionHypothesis after
      refine ⟨fun before occurrence later shape => ?_, ?_⟩
      · cases before with
        | nil =>
            obtain ⟨rfl, -⟩ := List.cons.inj shape
            rw [List.append_nil]
            exact due
        | cons first before =>
            obtain ⟨rfl, shapeLater⟩ := List.cons.inj shape
            rw [List.append_cons]
            exact dueLater before occurrence later shapeLater
      · rw [ledger, List.append_cons]
        exact afterAll

/-- The ledger is about the requests. -/
theorem requests_ledger
    (docket : Docket α)
    (requests : List (DocketRequest α)) :
    (docket.ledger requests).map DocketOccurrence.request = requests := by
  induction requests generalizing docket with
  | nil =>
      rfl
  | cons request rest inductionHypothesis =>
      rw [ledger, List.map_cons, inductionHypothesis]
      cases request <;> rfl

/--
What is let in leaves once.  Whatever is asked of a docket, its tickets ascend,
also where it has been emptied meanwhile.  Taking by a ticket gives an entry
exactly if it was let in under that ticket and has not been removed since, and
removes it from among the others, which stay in their places; without an entry
it removes nothing.  Draining gives what waits, in the order of the tickets, and
leaves nothing.  No entry is removed twice, and at any time as many wait as have
been let in and have not left.
-/
theorem entries_leave_once (requests : List (DocketRequest α)) :
    let ledger := empty.ledger requests
    let docket := empty.serveAll requests
    ledger.map DocketOccurrence.request = requests ∧
      ledger.tickets.Pairwise (· < ·) ∧
      (∀ before ticket found? later,
        ledger = before ++ .taken ticket found? :: later →
          ∀ entry, found? = some entry ↔ Ledger.Waits before ticket entry) ∧
      (∀ before entries later,
        ledger = before ++ .drained entries :: later →
          ∃ waiting, Ledger.Lists before waiting ∧
            entries = waiting.map Prod.snd) ∧
      (∀ before count later,
        ledger = before ++ .cleared count :: later →
          ∃ waiting, Ledger.Lists before waiting ∧ count = waiting.length) ∧
      (∀ before first between second later ticket,
        ledger = before ++ first :: (between ++ second :: later) →
          Ledger.Departs before first ticket →
            ¬ Ledger.Departs (before ++ first :: between) second ticket) ∧
      ledger.Lists docket.pending ∧
      docket.size + ledger.departures = ledger.tickets.length ∧
      (∀ ticket entry,
        (docket.take ticket).1 = some entry →
          ∃ earlier later,
            docket.pending = earlier ++ (ticket, entry) :: later ∧
              (docket.take ticket).2.pending = earlier ++ later) ∧
      (∀ ticket, (docket.take ticket).1 = none →
        (docket.take ticket).2 = docket) ∧
      docket.drain.2.size = 0 := by
  intro ledger docket
  have new : (empty : Docket α).Keeps [] := Keeps.new
  obtain ⟨due, keeps⟩ := new.run requests
  rw [List.nil_append] at keeps
  have ascending : ledger.tickets.Pairwise (· < ·) := by
    rw [keeps.issued]
    exact List.pairwise_lt_range
  refine ⟨requests_ledger empty requests, ascending, ?_, ?_, ?_, ?_,
    keeps.lists, keeps.counted, fun _ _ => keeps.ordered.take_split, fun _ =>
      take_of_none, rfl⟩
  · intro before ticket found? later shape
    exact due before _ later shape
  · intro before entries later shape
    exact due before _ later shape
  · intro before count later shape
    exact due before _ later shape
  · intro before first between second later ticket shape departs
    refine departs.once ?_
    rw [show ledger = _ from shape, ← List.cons_append, ← List.append_assoc,
      Ledger.tickets_append] at ascending
    exact (ascending.imp Nat.ne_of_lt).sublist (List.sublist_append_left _ _)

end Docket

end CompilerSession
