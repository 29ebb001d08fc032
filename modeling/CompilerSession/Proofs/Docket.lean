import CompilerSession.Docket
import Mathlib.Data.List.Basic

namespace CompilerSession.Docket

/-!
# Dockets in the order of their tickets

The entries of a docket wait in the order in which they were entered, each under
a ticket of its own that lies below the next one.  Taking an entry out therefore
removes that entry only, and leaves the others in their places.
-/

variable {α : Type}

/-- Ascending numbers still ascend with a larger one behind them. -/
theorem ascending_concat
    {numbers : List Nat}
    {last : Nat}
    (ascending : numbers.Pairwise (· < ·))
    (below : ∀ number ∈ numbers, number < last) :
    (numbers ++ [last]).Pairwise (· < ·) := by
  rw [List.pairwise_append]
  refine ⟨ascending, List.pairwise_singleton _ _, ?_⟩
  intro number member other isLast
  rw [List.mem_singleton.mp isLast]
  exact below number member

/-- The tickets of the entries that wait, in their order. -/
def tickets (docket : Docket α) : List Ticket :=
  docket.pending.map Prod.fst

/--
Entries wait in the order of their tickets, all of which have been given out.
-/
structure Ordered (docket : Docket α) : Prop where
  ascending : docket.tickets.Pairwise (· < ·)
  issued : ∀ ticket ∈ docket.tickets, ticket < docket.nextTicket

theorem ordered_empty :
    (empty : Docket α).Ordered where
  ascending :=
    .nil
  issued _ member := by
    cases member

/-- No two entries wait under one ticket. -/
theorem Ordered.nodup
    {docket : Docket α}
    (ordered : docket.Ordered) :
    docket.tickets.Nodup :=
  ordered.ascending.imp Nat.ne_of_lt

@[simp] theorem tickets_enter
    (docket : Docket α)
    (entry : α) :
    (docket.enter entry).2.tickets = docket.tickets ++ [docket.nextTicket] := by
  simp [tickets, enter]

/--
Entering keeps a docket ordered, since the new ticket is above all others.
-/
theorem Ordered.enter
    {docket : Docket α}
    (ordered : docket.Ordered)
    (entry : α) :
    (docket.enter entry).2.Ordered where
  ascending := by
    rw [tickets_enter]
    exact ascending_concat ordered.ascending ordered.issued
  issued ticket member := by
    rw [tickets_enter] at member
    rcases List.mem_append.mp member with before | new
    · exact Nat.lt_succ_of_lt (ordered.issued ticket before)
    · rw [List.mem_singleton.mp new]
      exact Nat.lt_succ_self docket.nextTicket

/-- Taking an entry out keeps a docket ordered. -/
theorem Ordered.take
    {docket : Docket α}
    (ordered : docket.Ordered)
    (ticket : Ticket) :
    (docket.take ticket).2.Ordered := by
  have fewer : (docket.take ticket).2.tickets.Sublist docket.tickets :=
    List.filter_sublist.map Prod.fst
  exact
    { ascending := ordered.ascending.sublist fewer
      issued :=
        fun waiting member => ordered.issued waiting (fewer.subset member) }

/-- A docket where nobody waits is ordered, whatever its next ticket. -/
theorem ordered_of_nobody
    {docket : Docket α}
    (nobody : docket.pending = []) :
    docket.Ordered where
  ascending := by
    simp [tickets, nobody]
  issued ticket member := by
    simp [tickets, nobody] at member

/-- Filtering a ticket out changes nothing where nobody holds it. -/
private theorem filter_other
    {ticket : Ticket}
    {entries : List (Ticket × α)}
    (others : ∀ entry ∈ entries, entry.1 ≠ ticket) :
    (entries.filter fun waiting => waiting.1 != ticket) = entries := by
  rw [List.filter_eq_self]
  intro entry member
  simpa using others entry member

/-- The entry that is taken out stood between others, which close up. -/
theorem Ordered.take_split
    {docket : Docket α}
    (ordered : docket.Ordered)
    {ticket : Ticket}
    {entry : α}
    (found : (docket.take ticket).1 = some entry) :
    ∃ earlier later,
      docket.pending = earlier ++ (ticket, entry) :: later ∧
        (docket.take ticket).2.pending = earlier ++ later := by
  simp only [Docket.take, Option.map_eq_some_iff] at found
  obtain ⟨waiting, found, same⟩ := found
  obtain ⟨matching, earlier, later, shape, others⟩ :=
    List.find?_eq_some_iff_append.mp found
  have isTicket : waiting.1 = ticket := by
    simpa using matching
  have distinct := ordered.nodup
  simp only [tickets, shape, List.map_append, List.map_cons,
    isTicket] at distinct
  have notLater : ticket ∉ later.map Prod.fst :=
    (List.nodup_cons.mp (List.nodup_append.mp distinct).2.1).1
  refine ⟨earlier, later, ?_, ?_⟩
  · rw [shape, ← isTicket, ← same]
  · simp only [Docket.take, shape, List.filter_append, List.filter_cons,
      isTicket, bne_self_eq_false, Bool.false_eq_true, ↓reduceIte]
    rw [filter_other, filter_other]
    · intro entry member same
      exact notLater (List.mem_map.mpr ⟨entry, member, same⟩)
    · intro entry member
      simpa using others entry member

/-- What is found under a ticket waited there. -/
theorem Ordered.mem_of_take
    {docket : Docket α}
    (ordered : docket.Ordered)
    {ticket : Ticket}
    {entry : α}
    (found : (docket.take ticket).1 = some entry) :
    (ticket, entry) ∈ docket.pending := by
  obtain ⟨earlier, later, shape, _⟩ := ordered.take_split found
  simp [shape]

/-- Whatever waits can be taken out by its ticket. -/
theorem take_isSome
    {docket : Docket α}
    {ticket : Ticket}
    (member : ticket ∈ docket.tickets) :
    ∃ entry, (docket.take ticket).1 = some entry := by
  obtain ⟨waiting, waits, same⟩ := List.mem_map.mp member
  have found :
      (docket.pending.find? fun waiting => waiting.1 == ticket).isSome := by
    rw [List.find?_isSome]
    exact ⟨waiting, waits, by simpa using same⟩
  obtain ⟨entry, isEntry⟩ := Option.isSome_iff_exists.mp found
  exact ⟨entry.2, by simp [Docket.take, isEntry]⟩

/-- What is left after taking an entry out waited before. -/
theorem mem_of_mem_take
    {docket : Docket α}
    {ticket : Ticket}
    {waiting : Ticket × α}
    (member : waiting ∈ (docket.take ticket).2.pending) :
    waiting ∈ docket.pending :=
  (List.mem_filter.mp member).1

/-- An entry that is taken out at once leaves the others as they were. -/
theorem Ordered.take_enter
    {docket : Docket α}
    (ordered : docket.Ordered)
    (entry : α) :
    ((docket.enter entry).2.take docket.nextTicket).2.pending =
      docket.pending := by
  simp only [Docket.take, Docket.enter, List.filter_append]
  rw [filter_other]
  · simp
  · intro waiting member same
    have below := ordered.issued waiting.1 (List.mem_map_of_mem member)
    exact Nat.lt_irrefl _ (same ▸ below)

end CompilerSession.Docket
