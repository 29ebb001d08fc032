import CompilerSession.Proofs.Resolution
import CompilerSession.Report.Snapshot

namespace CompilerSession

/-!
# Numbers of sources

A backend gives its sources numbers, by which it refers to them, and an editor
asks for the source of a number.  Where the backend has given the number, it is
told a source that has it.  Where it has not, it is told the source at that
place in path order, which is no answer to the question unless the backend has
given no numbers at all.

So the look-up undoes the numbering just if the numbers leave no gap below the
number of sources.
-/

namespace Snapshot

variable {snapshot : Snapshot} {path : String} {index : Nat}

/-- The backend has given a source the number. -/
def Numbered
    (snapshot : Snapshot)
    (path : String)
    (index : Nat) : Prop :=
  ∃ description,
    snapshot.report.sources.find? path = some description ∧
      (description.member? "id").bind Json.natural? = some index

/-- No two sources have one number. -/
def Distinct (snapshot : Snapshot) : Prop :=
  ∀ first second index,
    snapshot.Numbered first index → snapshot.Numbered second index →
      first = second

/-- A path has a number if its source reports that number. -/
theorem numbered_iff :
    snapshot.Numbered path index ↔
      ∃ entry ∈ snapshot.report.sources.entries,
        entry.1 = path ∧ hasNumber index entry.2 = true := by
  have found :
      ∀ description,
        snapshot.report.sources.find? path = some description ↔
          (path, description) ∈ snapshot.report.sources.entries :=
    fun _ => snapshot.report.sources.ascending.find?_eq_some_iff
  simp only [Numbered, found, hasNumber, beq_iff_eq, Prod.exists]
  constructor
  · rintro ⟨description, member, number⟩
    exact ⟨path, description, member, rfl, number⟩
  · rintro ⟨_, description, member, rfl, number⟩
    exact ⟨description, member, number⟩

/-- A number that was given leads to the first source that has it. -/
theorem pathNumbered?_of_numbered
    (numbered : snapshot.Numbered path index) :
    ∃ found,
      snapshot.pathNumbered? index = some found ∧
        snapshot.Numbered found index ∧
        ∀ other, snapshot.Numbered other index → found ≤ other := by
  cases first :
      List.find? (fun entry => hasNumber index entry.2)
        snapshot.report.sources.entries with
  | none =>
      obtain ⟨entry, member, _, has⟩ := numbered_iff.mp numbered
      exact absurd has (List.find?_eq_none.mp first entry member)
  | some entry =>
      obtain ⟨has, earlier, later, shape, before⟩ :=
        List.find?_eq_some_iff_append.mp first
      refine ⟨entry.1, by rw [pathNumbered?, first]; rfl, ?_, ?_⟩
      · exact numbered_iff.mpr ⟨entry, by simp [shape], rfl, has⟩
      · intro other alsoNumbered
        obtain ⟨_, member, rfl, alsoHas⟩ := numbered_iff.mp alsoNumbered
        have ascending := snapshot.report.sources.ascending
        rw [shape] at member
        rw [shape, Entries.Ascending, List.pairwise_append,
          List.pairwise_cons] at ascending
        rcases List.mem_append.mp member with inFront | inRest
        · simpa [alsoHas] using before _ inFront
        · rcases List.mem_cons.mp inRest with rfl | inLater
          · exact String.le_refl _
          · have less : entry.1 < _ := ascending.2.1.1 _ inLater
            exact String.not_lt.mp fun above =>
              String.lt_irrefl _ (String.lt_trans less above)

/-- A number that was not given leads to a place in path order. -/
theorem pathNumbered?_of_unnumbered
    (unnumbered : ∀ path, ¬ snapshot.Numbered path index) :
    snapshot.pathNumbered? index = snapshot.report.sources.keys[index]? := by
  have nobody :
      List.find? (fun entry => hasNumber index entry.2)
        snapshot.report.sources.entries =
        none := by
    refine List.find?_eq_none.mpr fun entry member has => ?_
    exact unnumbered entry.1 (numbered_iff.mpr ⟨entry, member, rfl, has⟩)
  simp [pathNumbered?, nobody, OrderedMap.keys]

/--
A look-up tells a source of the number just if there is one, or nothing to be
told.
-/
theorem told_numbered_iff :
    (∀ path, snapshot.pathNumbered? index = some path →
      snapshot.Numbered path index) ↔
      (∃ path, snapshot.Numbered path index) ∨
        snapshot.report.sources.size ≤ index := by
  constructor
  · intro told
    by_cases given : ∃ path, snapshot.Numbered path index
    · exact Or.inl given
    · refine Or.inr (Nat.le_of_not_lt fun within => ?_)
      have unnumbered : ∀ path, ¬ snapshot.Numbered path index :=
        fun path numbered => given ⟨path, numbered⟩
      have place : index < snapshot.report.sources.keys.length := by
        simpa [OrderedMap.keys, OrderedMap.size] using within
      refine unnumbered snapshot.report.sources.keys[index] (told _ ?_)
      rw [pathNumbered?_of_unnumbered unnumbered,
        List.getElem?_eq_getElem place]
  · intro given path told
    by_cases anybody : ∃ path, snapshot.Numbered path index
    · obtain ⟨other, numbered⟩ := anybody
      obtain ⟨found, isFound, alsoNumbered, _⟩ :=
        pathNumbered?_of_numbered numbered
      cases told.symm.trans isFound
      exact alsoNumbered
    · have unnumbered : ∀ path, ¬ snapshot.Numbered path index :=
        fun path numbered => anybody ⟨path, numbered⟩
      have past : snapshot.report.sources.keys.length ≤ index := by
        simpa [OrderedMap.keys, OrderedMap.size] using
          given.resolve_left anybody
      rw [pathNumbered?_of_unnumbered unnumbered,
        List.getElem?_eq_none past] at told
      cases told

/-- A number leads to its path if no two paths have it. -/
theorem pathNumbered?_of_distinct
    (distinct : snapshot.Distinct)
    (numbered : snapshot.Numbered path index) :
    snapshot.pathNumbered? index = some path := by
  obtain ⟨found, isFound, alsoNumbered, _⟩ := pathNumbered?_of_numbered numbered
  rw [isFound, distinct _ _ _ alsoNumbered numbered]

/--
What the look-up of a number tells.  A number that a source has leads to the
first source in path order that has it; any other leads to the source at that
place in path order, if there is one.  So what is told has the number just if
some source has it or there are not that many sources.

Where no two sources have one number, the look-up undoes the numbering of the
sources that have a number, and it tells nothing else just if the numbers leave
no gap.
-/
theorem numbers_lead_to_sources (snapshot : Snapshot) :
    (∀ index,
        ((∃ path, snapshot.Numbered path index) →
          ∃ found,
            snapshot.pathNumbered? index = some found ∧
              snapshot.Numbered found index ∧
              ∀ other, snapshot.Numbered other index → found ≤ other) ∧
        ((∀ path, ¬ snapshot.Numbered path index) →
          snapshot.pathNumbered? index = snapshot.report.sources.keys[index]?) ∧
        ((∀ path,
            snapshot.pathNumbered? index = some path →
              snapshot.Numbered path index) ↔
          (∃ path, snapshot.Numbered path index) ∨
            snapshot.report.sources.size ≤ index)) ∧
      (snapshot.Distinct →
        (∀ index path, snapshot.Numbered path index →
          snapshot.pathNumbered? index = some path) ∧
        ((∀ index path,
            snapshot.pathNumbered? index = some path ↔
              snapshot.Numbered path index) ↔
          ∀ index,
            index < snapshot.report.sources.size →
              ∃ path, snapshot.Numbered path index)) := by
  refine ⟨fun index => ⟨?_, pathNumbered?_of_unnumbered, told_numbered_iff⟩,
    fun distinct => ?_⟩
  · rintro ⟨path, numbered⟩
    exact pathNumbered?_of_numbered numbered
  · refine ⟨fun index path => pathNumbered?_of_distinct distinct, ?_, ?_⟩
    · intro undone index within
      have told := told_numbered_iff.mp fun path => (undone index path).mp
      exact told.resolve_right (Nat.not_le_of_lt within)
    · intro gapless index path
      refine ⟨fun told => ?_, pathNumbered?_of_distinct distinct⟩
      refine told_numbered_iff.mpr ?_ path told
      exact (Nat.lt_or_ge index snapshot.report.sources.size).imp_left
        (gapless index)

/-- Two sources that are numbered from one on. -/
def countedFromOne : Snapshot where
  report :=
    { Report.empty with
      sources :=
        .ofList
          [("a.sol", .object [("id", .natural 1)]),
            ("b.sol", .object [("id", .natural 2)])] }
  program :=
    ⟨.ofList [("a.sol", "contract A {}"), ("b.sol", "contract B {}")], "a.sol"⟩

theorem countedFromOne_numbered_iff :
    countedFromOne.Numbered path index ↔
      path = "a.sol" ∧ index = 1 ∨ path = "b.sol" ∧ index = 2 := by
  have entries :
      countedFromOne.report.sources.entries =
        [("a.sol", .object [("id", .natural 1)]),
          ("b.sol", .object [("id", .natural 2)])] :=
    rfl
  have first : hasNumber index (.object [("id", .natural 1)]) =
    (some 1 == some index) := rfl
  have second : hasNumber index (.object [("id", .natural 2)]) =
    (some 2 == some index) := rfl
  rw [numbered_iff, entries]
  simp [first, second, @eq_comm _ _ path, @eq_comm _ _ index]

/-- A number that no source has leads to one all the same. -/
theorem number_of_nobody_shows_source :
    (∀ path ∈ countedFromOne.report.sources.keys,
        ∃ index, countedFromOne.Numbered path index) ∧
      countedFromOne.Distinct ∧
      (∀ path, ¬ countedFromOne.Numbered path 0) ∧
      countedFromOne.pathNumbered? 0 = some "a.sol" := by
  have unnumbered : ∀ path, ¬ countedFromOne.Numbered path 0 := by
    simp [countedFromOne_numbered_iff]
  refine ⟨?_, ?_, unnumbered, ?_⟩
  · intro path member
    have listed : path = "a.sol" ∨ path = "b.sol" := by
      have member : path ∈ ["a.sol", "b.sol"] := member
      simpa using member
    simp only [countedFromOne_numbered_iff]
    rcases listed with rfl | rfl
    · exact ⟨1, Or.inl ⟨rfl, rfl⟩⟩
    · exact ⟨2, Or.inr ⟨rfl, rfl⟩⟩
  · intro first second index numbered alsoNumbered
    rw [countedFromOne_numbered_iff] at numbered alsoNumbered
    rcases numbered with ⟨rfl, rfl⟩ | ⟨rfl, rfl⟩ <;>
      simpa [eq_comm] using alsoNumbered
  · exact pathNumbered?_of_unnumbered unnumbered

end Snapshot

end CompilerSession
