import CompilerSession.Source.SourceSet

namespace CompilerSession

/-!
# Libraries

A library is where missing files are fetched from.  What it answers may differ
from one moment to the next, but only finitely many paths ever have a content,
so that fetching comes to an end.  Nothing is lost by that for a run that does
come to an end, since it has fetched finitely many files.  `absent` counts the
listed paths that a source set still lacks; a file that was fetched lowers it.
-/

/--
The answer to one fetch, and whether other work could go on before it came.
-/
structure Fetch where
  answer : Except String String
  suspends : Bool

/--
What can be fetched, with a list of all the paths that may have a content.
-/
structure Library where
  paths : List String
  fetch : (moment : Nat) → (path : String) → Fetch
  listed : ∀ moment path content, (fetch moment path).answer = .ok content →
    path ∈ paths

namespace Library

/-- The number of listed paths that are not among the files. -/
def absent
    (library : Library)
    (files : SourceSet) : Nat :=
  library.paths.countP fun path => !files.contains path

/--
A count goes down when a member is no longer counted and none is newly counted.
-/
private theorem countP_lt
    {α : Type}
    {fewer more : α → Bool}
    {values : List α}
    {value : α}
    (member : value ∈ values)
    (kept : ∀ other, fewer other = true → more other = true)
    (gone : fewer value = false)
    (there : more value = true) :
    values.countP fewer < values.countP more := by
  induction values with
  | nil =>
      cases member
  | cons head rest inductionHypothesis =>
      have rest_le : rest.countP fewer ≤ rest.countP more :=
        List.countP_mono_left fun other _ => kept other
      rcases List.mem_cons.mp member with same | later
      · subst same
        simp only [List.countP_cons, gone, there]
        simp
        omega
      · have rest_lt := inductionHypothesis later
        by_cases counted : fewer head = true
        · simp only [List.countP_cons, counted, kept head counted]
          omega
        · simp only [List.countP_cons, counted]
          simp
          omega

/-- A listed file that was missing lowers the number of absent paths. -/
theorem absent_insert_lt
    (library : Library)
    {files : SourceSet}
    {path : String}
    (content : String)
    (member : path ∈ library.paths)
    (missing : files.contains path = false) :
    library.absent (files.insert path content) < library.absent files := by
  refine countP_lt member ?_ ?_ ?_
  · intro other
    simp only [SourceSet.contains_insert, Bool.not_eq_true',
      Bool.or_eq_false_iff]
    exact fun both => both.2
  · simp
  · simpa using missing

end Library

end CompilerSession
