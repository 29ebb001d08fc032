import Mathlib.Data.List.TakeWhile

namespace CompilerSession.Text

/-!
# Where a property of the characters ends

A reader takes characters off the front of a text as long as they have a
property. What it takes and what it leaves is the one cut of the text where all
characters of the front have the property and the rest does not begin with one
that has it.
-/

/-- A text that does not begin with a character of some kind. -/
def NoneLeads
    (holds : Char → Bool)
    (rest : List Char) : Prop :=
  ∀ next ∈ rest.head?, holds next = false

/-- A text is cut where a property of its characters ends. -/
structure CutAt
    (holds : Char → Bool)
    (text front rest : List Char) : Prop where
  whole : text = front ++ rest
  front : ∀ character ∈ front, holds character = true
  rest : NoneLeads holds rest

variable {holds : Char → Bool} {text front rest : List Char}

@[simp] theorem noneLeads_nil : NoneLeads holds [] :=
  nofun

/-- The first character of a text leads it. -/
@[simp] theorem noneLeads_cons
    {next : Char}
    {later : List Char} :
    NoneLeads holds (next :: later) ↔ holds next = false := by
  simp [NoneLeads]

/-- Where none leads, nothing is dropped. -/
theorem NoneLeads.dropWhile_eq
    (none : NoneLeads holds rest) :
    rest.dropWhile holds = rest := by
  cases rest with
  | nil =>
      rfl
  | cons next later =>
      exact List.dropWhile_cons_of_neg (by simpa using none)

/-- Where none leads, nothing is taken. -/
theorem NoneLeads.takeWhile_eq
    (none : NoneLeads holds rest) :
    rest.takeWhile holds = [] := by
  cases rest with
  | nil =>
      rfl
  | cons next later =>
      exact List.takeWhile_cons_of_neg (by simpa using none)

/-- Every text has such a cut. -/
theorem cutAt_span
    (holds : Char → Bool)
    (text : List Char) :
    CutAt holds text (text.takeWhile holds) (text.dropWhile holds) where
  whole := List.takeWhile_append_dropWhile.symm
  front _ member := List.mem_takeWhile_imp member
  rest next first := by
    have ends := List.head?_dropWhile_not holds text
    rw [Option.mem_def.mp first] at ends
    exact ends

namespace CutAt

/-- The front of a cut is what is taken while the property holds. -/
theorem takeWhile_eq
    (cut : CutAt holds text front rest) :
    text.takeWhile holds = front := by
  rw [cut.whole, List.takeWhile_append_of_pos cut.front, cut.rest.takeWhile_eq,
    List.append_nil]

/-- The rest of a cut is what is left when it no longer holds. -/
theorem dropWhile_eq
    (cut : CutAt holds text front rest) :
    text.dropWhile holds = rest := by
  rw [cut.whole, List.dropWhile_append_of_pos cut.front, cut.rest.dropWhile_eq]

end CutAt

/-- What is left of a text is what a cut leaves. -/
theorem dropWhile_eq_iff :
    text.dropWhile holds = rest ↔ ∃ front, CutAt holds text front rest := by
  constructor
  · rintro rfl
    exact ⟨_, cutAt_span holds text⟩
  · rintro ⟨front, cut⟩
    exact cut.dropWhile_eq

end CompilerSession.Text
