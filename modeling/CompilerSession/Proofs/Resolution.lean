import CompilerSession.Source.Resolution
import Mathlib.Data.List.TakeWhile

namespace CompilerSession

/-!
# What a resolution leads to

A resolution keeps every file that it is given, and if it succeeds, its files
are closed under the imports that begin a line and have every hint among them.
-/

namespace Entries

variable {α : Type}

/-- In ascending entries a value is found exactly where it stands. -/
theorem Ascending.find?_eq_some_iff
    {entries : Entries α}
    (ascending : entries.Ascending)
    {key : String}
    {value : α} :
    entries.find? key = some value ↔ (key, value) ∈ entries := by
  induction entries with
  | nil =>
      simp [find?]
  | cons head rest inductionHypothesis =>
      obtain ⟨known, old⟩ := head
      obtain ⟨below, restAscending⟩ := List.pairwise_cons.mp ascending
      simp only [find?, List.mem_cons, Prod.mk.injEq]
      split
      · rename_i same
        subst same
        constructor
        · intro found
          exact Or.inl ⟨rfl, (Option.some.inj found).symm⟩
        · rintro (⟨_, same⟩ | later)
          · rw [same]
          · have less : key < key := below (key, value) later
            exact (String.lt_irrefl key less).elim
      · rename_i other
        simp [other, inductionHypothesis restAscending]

end Entries

namespace SourceSet

/-- The units of a source set are its paths with their contents. -/
theorem mem_toList
    {files : SourceSet}
    {path content : String} :
    ⟨path, content⟩ ∈ files.toList ↔ files.content? path = some content := by
  rw [content?, OrderedMap.find?, files.contents.ascending.find?_eq_some_iff]
  simp [toList]

/-- A path that has content is one of the files. -/
theorem contains_of_content?
    {files : SourceSet}
    {path content : String}
    (found : files.content? path = some content) :
    files.contains path = true := by
  simp [contains, found]

/-- Every file is among the others, with its content. -/
def Within (files more : SourceSet) : Prop :=
  ∀ path content, files.content? path = some content →
    more.content? path = some content

theorem Within.refl
    (files : SourceSet) :
    files.Within files :=
  fun _ _ found => found

theorem Within.trans
    {files more most : SourceSet}
    (first : files.Within more)
    (second : more.Within most) :
    files.Within most :=
  fun path content found => second path content (first path content found)

/-- A larger set has every file of a smaller one. -/
theorem Within.contains
    {files more : SourceSet}
    (within : files.Within more)
    {path : String}
    (present : files.contains path = true) :
    more.contains path = true := by
  obtain ⟨content, found⟩ := Option.isSome_iff_exists.mp present
  exact contains_of_content? (within path content found)

/-- Insertion loses no file, for it leaves a known one alone. -/
theorem within_insert
    (files : SourceSet)
    (path content : String) :
    files.Within (files.insert path content) := by
  intro known old found
  rw [content?_insert]
  split
  · rename_i fresh
    have present := contains_of_content? found
    rw [fresh.1, fresh.2] at present
    cases present
  · exact found

/-- Every path that a file imports at the start of a line is present. -/
def Closed
    (files : SourceSet)
    (target : String) : Prop :=
  ∀ path content,
    files.content? path = some content →
    ∀ imported ∈ Import.scan content target, files.contains imported = true

end SourceSet

namespace Library

/--
A path that waits is present, is the next to be fetched, or goes on waiting.
-/
theorem waiting_cases
    {files : SourceSet}
    {pending rest : List String}
    {path waiting : String}
    (found : pending.dropWhile files.contains = path :: rest)
    (member : waiting ∈ pending) :
    files.contains waiting = true ∨ waiting = path ∨ waiting ∈ rest := by
  rw [← List.takeWhile_append_dropWhile (p := files.contains) (l := pending),
    found] at member
  rcases List.mem_append.mp member with passed | left
  · exact Or.inl (List.mem_takeWhile_imp passed)
  · exact Or.inr (List.mem_cons.mp left)

theorem within_explore
    (library : Library)
    (target : String)
    (moment : Nat)
    (files : SourceSet)
    (pending : List String) :
    files.Within (library.explore target moment files pending).files := by
  fun_induction library.explore target moment files pending with
  | case1 =>
      exact .refl _
  | case2 =>
      exact .refl _
  | case3 moment files pending path rest found content answered _ _
      inductionHypothesis =>
      exact (files.within_insert path content).trans inductionHypothesis

/-- Exploring brings in every path that waits, if it succeeds. -/
theorem contains_explore
    (library : Library)
    (target : String)
    (moment : Nat)
    (files : SourceSet)
    (pending : List String)
    {waiting : String}
    (member : waiting ∈ pending)
    (succeeds : (library.explore target moment files pending).failure? = none) :
    (library.explore target moment files pending).files.contains waiting =
      true := by
  fun_induction library.explore target moment files pending with
  | case1 _ _ _ allPresent =>
      exact contains_of_dropWhile allPresent member
  | case2 =>
      cases succeeds
  | case3 moment files pending path rest found content answered _ others
      inductionHypothesis =>
      rcases waiting_cases found member with present | next | later
      · have kept :=
          within_explore library target (moment + 1) (files.insert path content)
          (Resolution.enqueue rest (Import.scan content target))
        exact ((files.within_insert path content).trans kept).contains present
      · have kept :=
          within_explore library target (moment + 1) (files.insert path content)
          (Resolution.enqueue rest (Import.scan content target))
        exact kept.contains (by simp [next])
      · exact
          inductionHypothesis (Resolution.mem_enqueue.mpr (Or.inl later))
            succeeds

/-- Exploring closes the files under their imports, if it succeeds. -/
theorem closed_explore
    (library : Library)
    (target : String)
    (moment : Nat)
    (files : SourceSet)
    (pending : List String)
    (awaited :
      ∀ path content,
        files.content? path = some content →
        ∀ imported ∈ Import.scan content target,
          imported ∈ pending ∨ files.contains imported = true)
    (succeeds : (library.explore target moment files pending).failure? = none) :
    (library.explore target moment files pending).files.Closed target := by
  fun_induction library.explore target moment files pending with
  | case1 _ _ _ allPresent =>
      intro path content found imported member
      rcases awaited path content found imported member with waits | present
      · exact contains_of_dropWhile allPresent waits
      · exact present
  | case2 =>
      cases succeeds
  | case3 moment files pending path rest found content answered _ others
      inductionHypothesis =>
      refine inductionHypothesis ?_ succeeds
      intro known old isContent imported member
      rw [SourceSet.content?_insert] at isContent
      rw [Resolution.mem_enqueue, SourceSet.contains_insert]
      split at isContent
      · cases isContent
        exact Or.inl (Or.inr member)
      · rcases awaited known old isContent imported member with waits | present
        · rcases waiting_cases found waits with present | next | later
          · simp [present]
          · simp [next]
          · exact Or.inl (Or.inl later)
        · simp [present]

/--
A path waits after a row of files if it did before or if one of the files
imports it.
-/
theorem mem_foldl_enqueue
    {units : List SourceUnit}
    {pending : List String}
    {target path : String} :
    path ∈
        units.foldl
          (fun waiting file =>
            Resolution.enqueue waiting (Import.scan file.content target))
          pending ↔
      path ∈ pending ∨
        ∃ file ∈ units, path ∈ Import.scan file.content target := by
  induction units generalizing pending with
  | nil =>
      simp
  | cons file rest inductionHypothesis =>
      rw [List.foldl_cons, inductionHypothesis, Resolution.mem_enqueue,
        or_assoc]
      simp

/-- The paths that wait at first are the hints and all that the files import. -/
theorem mem_initial
    {files : SourceSet}
    {target : String}
    {hints : List String}
    {path : String} :
    path ∈ initial files target hints ↔
      path ∈ hints ∨
        ∃ importer content,
          files.content? importer = some content ∧
            path ∈ Import.scan content target := by
  rw [initial, mem_foldl_enqueue, Resolution.mem_enqueue]
  constructor
  · rintro ((nothing | hinted) | ⟨file, listed, member⟩)
    · cases nothing
    · exact Or.inl hinted
    · exact
        Or.inr ⟨file.path, file.content, SourceSet.mem_toList.mp listed, member⟩
  · rintro (hinted | ⟨importer, content, found, member⟩)
    · exact Or.inl (Or.inr hinted)
    · exact Or.inr ⟨⟨importer, content⟩, SourceSet.mem_toList.mpr found, member⟩

theorem within_resolve
    (library : Library)
    (moment : Nat)
    (files : SourceSet)
    (target : String)
    (hints : List String) :
    files.Within (library.resolve moment files target hints).files :=
  library.within_explore target moment files _

/-- A resolution that succeeds has every hint among its files. -/
theorem contains_resolve
    (library : Library)
    (moment : Nat)
    (files : SourceSet)
    (target : String)
    (hints : List String)
    {hint : String}
    (member : hint ∈ hints)
    (succeeds : (library.resolve moment files target hints).failure? = none) :
    (library.resolve moment files target hints).files.contains hint = true :=
  contains_explore library target moment files _ (mem_initial_of_hint member)
    succeeds

/--
A resolution that succeeds leaves files that are closed under their imports.
-/
theorem closed_resolve
    (library : Library)
    (moment : Nat)
    (files : SourceSet)
    (target : String)
    (hints : List String)
    (succeeds : (library.resolve moment files target hints).failure? = none) :
    (library.resolve moment files target hints).files.Closed target :=
  closed_explore library target moment files _
    (fun _ _ found _ member =>
      Or.inl (mem_initial.mpr (Or.inr ⟨_, _, found, member⟩))) succeeds

/-- Every fetch of a resolution that succeeds has a content. -/
theorem fetched_resolve
    (library : Library)
    (moment : Nat)
    (files : SourceSet)
    (target : String)
    (hints : List String)
    (succeeds : (library.resolve moment files target hints).failure? = none) :
    ∀ made ∈ (library.resolve moment files target hints).requests,
      ∃ content, made.fetch.answer = .ok content := by
  unfold resolve at succeeds ⊢
  generalize initial files target hints = pending at succeeds ⊢
  fun_induction library.explore target moment files pending with
  | case1 =>
      intro made member
      cases member
  | case2 =>
      cases succeeds
  | case3 moment files pending path rest found content answered _ others
      inductionHypothesis =>
      intro made member
      rcases List.mem_cons.mp member with rfl | later
      · exact ⟨content, answered⟩
      · exact inductionHypothesis succeeds made later

/-- A resolution that succeeds without a fetch leaves the files as they are. -/
theorem files_of_no_request
    (library : Library)
    (moment : Nat)
    (files : SourceSet)
    (target : String)
    (hints : List String)
    (nothing : (library.resolve moment files target hints).requests = []) :
    (library.resolve moment files target hints).files = files := by
  unfold resolve at nothing ⊢
  generalize initial files target hints = pending at nothing ⊢
  fun_induction library.explore target moment files pending with
  | case1 =>
      rfl
  | case2 =>
      rfl
  | case3 =>
      cases nothing

/-- A resolution fails only where a fetch does. -/
theorem failure_resolve
    (library : Library)
    (moment : Nat)
    (files : SourceSet)
    (target : String)
    (hints : List String)
    {failure : Failure}
    (fails :
      (library.resolve moment files target hints).failure? = some failure) :
    ∃ path message, failure = .fetchFailed path message := by
  unfold resolve at fails
  generalize initial files target hints = pending at fails
  fun_induction library.explore target moment files pending with
  | case1 =>
      cases fails
  | case2 _ _ _ path _ _ message _ =>
      cases fails
      exact ⟨path, message, rfl⟩
  | case3 moment files pending path rest found content answered _ others
      inductionHypothesis =>
      exact inductionHypothesis fails

end Library

end CompilerSession
