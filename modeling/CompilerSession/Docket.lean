namespace CompilerSession

/-!
# Dockets

A docket lists what was handed over and is not answered yet, each entry under
the ticket that was given out for it.  Tickets only grow, also when the docket
is emptied, so a late answer can never be taken for that of another entry.

Entries are put in at the end, so the order of the list is that of the tickets,
which `Docket.Ordered` states and `Docket.Ordered.enter` and
`Docket.Ordered.take` keep.  Draining therefore has nothing to sort.
-/

/-- The number under which an entry waits. -/
abbrev Ticket := Nat

/--
Entries that wait for an answer, the oldest and so the lowest ticket first.
-/
structure Docket (α : Type) where
  nextTicket : Ticket
  pending : List (Ticket × α)

namespace Docket

variable {α : Type}

/-- The docket on which nothing ever waited. -/
def empty : Docket α := ⟨0, []⟩

/-- Let an entry wait under a new ticket. -/
def enter
    (docket : Docket α)
    (entry : α) : Ticket × Docket α :=
  (docket.nextTicket,
    ⟨docket.nextTicket + 1, docket.pending ++ [(docket.nextTicket, entry)]⟩)

/-- Take the entry of a ticket out, if it waits. -/
def take
    (docket : Docket α)
    (ticket : Ticket) : Option α × Docket α :=
  ((docket.pending.find? fun waiting => waiting.1 == ticket).map Prod.snd,
    { docket with
      pending := docket.pending.filter fun waiting => waiting.1 != ticket })

/-- Forget all entries and tell how many there were. -/
def clear (docket : Docket α) : Nat × Docket α :=
  (docket.pending.length, { docket with pending := [] })

/-- Take all entries out, in the order of their tickets. -/
def drain (docket : Docket α) : List α × Docket α :=
  (docket.pending.map Prod.snd, { docket with pending := [] })

/-- The number of entries that wait. -/
def size (docket : Docket α) : Nat := docket.pending.length

/-- Whether no entry waits. -/
def isEmpty (docket : Docket α) : Bool := docket.pending.isEmpty

end Docket

end CompilerSession
