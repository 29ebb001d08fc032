import CompilerSession.Failure
import CompilerSession.Source.Import
import CompilerSession.Source.Library

namespace CompilerSession

/-!
# Resolving imports

Resolution fetches what a source set lacks: the hints it is given and everything
that the files and the fetched files import.  Paths still to be looked at wait
in a row, the latest first, and no path waits there twice.  The first fetch that
fails ends the resolution; the files fetched before it stay.

The main statements bound the work: no resolution raises the number of absent
paths, and one that succeeds lowers it if some hint was missing.
-/

/-- One fetch with its answer. -/
structure Request where
  path : String
  fetch : Fetch

/--
The files after a resolution, the fetches that it made, and what ended it early.
-/
structure Resolution where
  files : SourceSet
  requests : List Request
  failure? : Option Failure

namespace Resolution

/-- Let paths wait in front of those that wait already, each once. -/
def enqueue (pending paths : List String) : List String :=
  paths.foldl
    (fun waiting path => if path ∈ waiting then waiting else path :: waiting)
    pending

/-- The number of files that a resolution added, if it did not fail. -/
def added (resolution : Resolution) : Nat := resolution.requests.length

/-- Whether some fetch let other work go on. -/
def suspends (resolution : Resolution) : Bool :=
  resolution.requests.any fun request => request.fetch.suspends

/-- A waiting path goes on waiting, and a path given starts to. -/
theorem mem_enqueue
    {pending paths : List String}
    {path : String} :
    path ∈ enqueue pending paths ↔ path ∈ pending ∨ path ∈ paths := by
  unfold enqueue
  induction paths generalizing pending with
  | nil =>
      simp
  | cons head rest inductionHypothesis =>
      rw [List.foldl_cons, inductionHypothesis]
      split
      · rename_i known
        constructor
        · rintro (before | later)
          · exact Or.inl before
          · exact Or.inr (List.mem_cons_of_mem _ later)
        · rintro (before | given)
          · exact Or.inl before
          · rcases List.mem_cons.mp given with same | later
            · exact Or.inl (same ▸ known)
            · exact Or.inr later
      · simp only [List.mem_cons]
        constructor
        · rintro ((same | before) | later)
          · exact Or.inr (Or.inl same)
          · exact Or.inl before
          · exact Or.inr (Or.inr later)
        · rintro (before | same | later)
          · exact Or.inl (Or.inr before)
          · exact Or.inl (Or.inl same)
          · exact Or.inr later

end Resolution

namespace Library

/-- If all paths are passed over, all are present. -/
theorem contains_of_dropWhile
    {files : SourceSet}
    {pending : List String}
    {path : String}
    (done : pending.dropWhile files.contains = [])
    (member : path ∈ pending) :
    files.contains path = true := by
  induction pending with
  | nil =>
      cases member
  | cons head rest inductionHypothesis =>
      rw [List.dropWhile_cons] at done
      split at done
      · rename_i present
        rcases List.mem_cons.mp member with same | later
        · exact same ▸ present
        · exact inductionHypothesis done later
      · cases done

/-- A path that is not passed over is missing. -/
theorem not_contains_of_dropWhile
    {files : SourceSet}
    {pending rest : List String}
    {path : String}
    (found : pending.dropWhile files.contains = path :: rest) :
    files.contains path = false := by
  have head :=
    List.head_dropWhile_not files.contains (l := pending) (by simp [found])
  simpa [found] using head

/--
Look at the waiting paths until none is left.  Paths that are present are passed
over; the first that is not is fetched, and what its content imports waits next.
-/
def explore
    (library : Library)
    (target : String)
    (moment : Nat)
    (files : SourceSet)
    (pending : List String) : Resolution :=
  match found : pending.dropWhile files.contains with
  | [] => ⟨files, [], none⟩
  | path :: rest =>
    match answered : (library.fetch moment path).answer with
    | .error message =>
      ⟨files, [⟨path, library.fetch moment path⟩],
        some (.fetchFailed path message)⟩
    | .ok content =>
      have _fewer :=
        library.absent_insert_lt content
          (library.listed moment path content answered)
        (not_contains_of_dropWhile found)
      let others :=
        library.explore target (moment + 1) (files.insert path content)
        (Resolution.enqueue rest (Import.scan content target))
      { others with
        requests := ⟨path, library.fetch moment path⟩ :: others.requests }
termination_by library.absent files

/--
The paths that wait at first: the hints, and the imports of the files in path
order.
-/
def initial
    (files : SourceSet)
    (target : String)
    (hints : List String) : List String :=
  files.toList.foldl
    (fun pending file =>
      Resolution.enqueue pending (Import.scan file.content target))
    (Resolution.enqueue [] hints)

/-- Fetch everything that the files and the hints need. -/
def resolve
    (library : Library)
    (moment : Nat)
    (files : SourceSet)
    (target : String)
    (hints : List String) : Resolution :=
  library.explore target moment files (initial files target hints)

/-- Every hint waits at first. -/
theorem mem_initial_of_hint
    {files : SourceSet}
    {target hint : String}
    {hints : List String}
    (member : hint ∈ hints) :
    hint ∈ initial files target hints := by
  unfold initial
  have start : hint ∈ Resolution.enqueue [] hints :=
    Resolution.mem_enqueue.mpr (Or.inr member)
  generalize Resolution.enqueue [] hints = pending at start
  induction files.toList generalizing pending with
  | nil =>
      exact start
  | cons file rest inductionHypothesis =>
      exact inductionHypothesis _ (Resolution.mem_enqueue.mpr (Or.inl start))

/-- Exploring never makes more paths absent. -/
theorem absent_explore_le
    (library : Library)
    (target : String)
    (moment : Nat)
    (files : SourceSet)
    (pending : List String) :
    library.absent (library.explore target moment files pending).files ≤
      library.absent files := by
  fun_induction library.explore target moment files pending with
  | case1 =>
      exact Nat.le_refl _
  | case2 =>
      exact Nat.le_refl _
  | case3 _ _ _ _ _ _ _ _ fewer _ inductionHypothesis =>
      exact Nat.le_trans inductionHypothesis (Nat.le_of_lt fewer)

/-- Exploring a missing path makes fewer paths absent, if it succeeds. -/
theorem absent_explore_lt
    (library : Library)
    (target : String)
    (moment : Nat)
    (files : SourceSet)
    (pending : List String)
    {path : String}
    (member : path ∈ pending)
    (missing : files.contains path = false)
    (succeeds : (library.explore target moment files pending).failure? = none) :
    library.absent (library.explore target moment files pending).files <
      library.absent files := by
  fun_induction library.explore target moment files pending with
  | case1 _ _ _ allPresent =>
      have present := contains_of_dropWhile allPresent member
      rw [missing] at present
      cases present
  | case2 =>
      cases succeeds
  | case3 _ _ _ _ _ _ _ _ fewer _ _ =>
      exact Nat.lt_of_le_of_lt (absent_explore_le library _ _ _ _) fewer

/-- A resolution never makes more paths absent. -/
theorem absent_resolve_le
    (library : Library)
    (moment : Nat)
    (files : SourceSet)
    (target : String)
    (hints : List String) :
    library.absent (library.resolve moment files target hints).files ≤
      library.absent files :=
  absent_explore_le ..

/--
A resolution that succeeds makes fewer paths absent if a hint was missing.
-/
theorem absent_resolve_lt
    (library : Library)
    (moment : Nat)
    (files : SourceSet)
    (target : String)
    (hints : List String)
    {hint : String}
    (member : hint ∈ hints)
    (missing : files.contains hint = false)
    (succeeds : (library.resolve moment files target hints).failure? = none) :
    library.absent (library.resolve moment files target hints).files <
      library.absent files :=
  absent_explore_lt library target moment files _ (mem_initial_of_hint member)
    missing succeeds

end Library

end CompilerSession
