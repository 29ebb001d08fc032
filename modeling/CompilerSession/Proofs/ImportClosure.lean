import CompilerSession.Proofs.BundleText
import CompilerSession.Proofs.Settling
import Mathlib.Data.Finset.Card

namespace CompilerSession

/-!
# Resolution as a closure

What files need and lack is a least set: the hints, what the files import, and
what the needed files import in their turn.  `Needed` is that set, and it says
nothing of rows that paths wait in.  A `Discovery` fetches needed files one
after the other in any order at all until none is lacking or a fetch fails.

Fetching one needed file takes its path out of the set and leaves the rest of it
as it is.  So every discovery fetches paths of the set only, each once, and all
of them if it succeeds.  A resolution is one of the discoveries, namely the one
that takes the path that waits last.
-/

namespace Library

/-- What a steady library answers to a path, whenever it is asked. -/
def answer
    (library : Library)
    (path : String) : Except String String :=
  (library.fetch 0 path).answer

/-- A steady library answers the same at every moment. -/
theorem Steady.answer_eq
    {library : Library}
    (steady : library.Steady)
    (moment : Nat)
    (path : String) :
    (library.fetch moment path).answer = library.answer path :=
  steady moment 0 path

end Library

namespace Import

variable
  (answer : String → Except String String)
  (target : String)
  (hints : List String)

/--
The paths that files need and lack, for the hints and for what they import.
-/
inductive Needed (files : SourceSet) : String → Prop
  | hint {path : String} :
      path ∈ hints →
      files.contains path = false →
      Needed files path
  | imported {importer content path : String} :
      files.content? importer = some content →
      path ∈ scan content target →
      files.contains path = false →
      Needed files path
  | discovered {importer content path : String} :
      Needed files importer →
      answer importer = .ok content →
      path ∈ scan content target →
      files.contains path = false →
      Needed files path

/--
A path that is no file yet is lacking if it is a hint or if a file imports it.
-/
def Lacking
    (files : SourceSet)
    (path : String) : Prop :=
  files.contains path = false ∧
    (path ∈ hints ∨
      ∃ importer content,
        files.content? importer = some content ∧ path ∈ scan content target)

/--
Lacking files are fetched in some order, until none is lacking or a fetch fails.
-/
inductive Discovery :
  SourceSet → List String → SourceSet → Option Failure → Prop
  | done {files : SourceSet} :
      (∀ path, ¬ Lacking target hints files path) →
      Discovery files [] files none
  | failed {files : SourceSet} {path message : String} :
      Lacking target hints files path →
      answer path = .error message →
      Discovery files [path] files (some (.fetchFailed path message))
  | fetched {files after : SourceSet} {path content : String}
      {later : List String}
      {failure? : Option Failure} :
      Lacking target hints files path →
      answer path = .ok content →
      Discovery (files.insert path content) later after failure? →
      Discovery files (path :: later) after failure?

variable
  {answer : String → Except String String}
  {target : String}
  {hints : List String}
  {files : SourceSet}

/-! ## The set of needed paths -/

theorem Needed.missing
    {path : String}
    (needed : Needed answer target hints files path) :
    files.contains path = false := by
  cases needed with
  | hint _ missing =>
      exact missing
  | imported _ _ missing =>
      exact missing
  | discovered _ _ _ missing =>
      exact missing

theorem Lacking.needed
    {path : String}
    (lacking : Lacking target hints files path) :
    Needed answer target hints files path := by
  obtain ⟨missing, hinted | ⟨importer, content, found, member⟩⟩ := lacking
  · exact .hint hinted missing
  · exact .imported found member missing

/-- Only the members of the hints matter. -/
theorem Needed.of_hints
    {others : List String}
    {path : String}
    (needed : Needed answer target hints files path)
    (included : hints ⊆ others) :
    Needed answer target others files path := by
  induction needed with
  | hint hinted missing =>
      exact .hint (included hinted) missing
  | imported found member missing =>
      exact .imported found member missing
  | discovered _ succeeds member missing inductionHypothesis =>
      exact .discovered inductionHypothesis succeeds member missing

/-- Where nothing is lacking nothing is needed. -/
theorem not_needed_of_complete
    (complete : ∀ path, ¬ Lacking target hints files path)
    (path : String) :
    ¬ Needed answer target hints files path := by
  intro needed
  induction needed with
  | hint hinted missing =>
      exact complete _ ⟨missing, Or.inl hinted⟩
  | imported found member missing =>
      exact complete _ ⟨missing, Or.inr ⟨_, _, found, member⟩⟩
  | discovered _ _ _ _ inductionHypothesis =>
      exact inductionHypothesis

/-- A file after an insertion is the inserted one or was there before. -/
theorem content?_insert_cases
    {path content known old : String}
    (found : (files.insert path content).content? known = some old) :
    known = path ∧ old = content ∨ files.content? known = some old := by
  rw [SourceSet.content?_insert] at found
  split at found
  · rename_i fresh
    exact Or.inl ⟨fresh.1, (Option.some.inj found).symm⟩
  · exact Or.inr found

/--
A path is missing after an insertion if it was missing and is another one.
-/
theorem contains_insert_eq_false
    {path content other : String} :
    (files.insert path content).contains other = false ↔
      other ≠ path ∧ files.contains other = false := by
  rw [SourceSet.contains_insert, Bool.or_eq_false_iff, decide_eq_false_iff_not]

/--
Fetching a needed file takes its path out of the needed ones, and no other path.
-/
theorem needed_insert
    {path content : String}
    (needed : Needed answer target hints files path)
    (answered : answer path = .ok content)
    (other : String) :
    Needed answer target hints (files.insert path content) other ↔
      Needed answer target hints files other ∧ other ≠ path := by
  constructor
  · intro neededAfter
    refine ⟨?_, (contains_insert_eq_false.mp neededAfter.missing).1⟩
    induction neededAfter with
    | hint hinted missing =>
        exact .hint hinted (contains_insert_eq_false.mp missing).2
    | imported found member missing =>
        have absent := (contains_insert_eq_false.mp missing).2
        rcases content?_insert_cases found with ⟨rfl, rfl⟩ | before
        · exact .discovered needed answered member absent
        · exact .imported before member absent
    | discovered _ succeeds member missing inductionHypothesis =>
        have absent := (contains_insert_eq_false.mp missing).2
        exact .discovered inductionHypothesis succeeds member absent
  · rintro ⟨neededBefore, differs⟩
    have found : (files.insert path content).content? path = some content := by
      rw [SourceSet.content?_insert, if_pos ⟨rfl, needed.missing⟩]
    induction neededBefore with
    | hint hinted missing =>
        exact .hint hinted (contains_insert_eq_false.mpr ⟨differs, missing⟩)
    | imported before member missing =>
        exact .imported (files.within_insert path content _ _ before) member
          (contains_insert_eq_false.mpr ⟨differs, missing⟩)
    | @discovered importer imports _ _ succeeds member missing
        inductionHypothesis =>
        have absent : (files.insert path content).contains _ = false :=
          contains_insert_eq_false.mpr ⟨differs, missing⟩
        by_cases same : importer = path
        · -- The file that has just come in is what needs the path.
          subst same
          cases answered.symm.trans succeeds
          exact .imported found member absent
        · exact .discovered (inductionHypothesis same) succeeds member absent

/-! ## What a discovery comes to -/

namespace Discovery

variable
  {fetched : List String}
  {after : SourceSet}
  {failure? : Option Failure}

/-- A discovery fetches needed paths only, and none of them twice. -/
theorem fetches
    (discovery : Discovery answer target hints files fetched after failure?) :
    fetched.Nodup ∧
      ∀ path ∈ fetched, Needed answer target hints files path := by
  induction discovery with
  | done complete =>
      exact ⟨.nil, List.forall_mem_nil _⟩
  | failed lacking refused =>
      exact
        ⟨List.nodup_singleton _, List.forall_mem_singleton.mpr lacking.needed⟩
  | fetched lacking answered _ inductionHypothesis =>
      obtain ⟨once, needed⟩ := inductionHypothesis
      have others := fun path member =>
        (needed_insert lacking.needed answered path).mp (needed path member)
      refine
        ⟨List.nodup_cons.mpr ⟨fun again => (others _ again).2 rfl, once⟩, ?_⟩
      exact List.forall_mem_cons.mpr
        ⟨lacking.needed, fun path member => (others path member).1⟩

/--
The files afterwards are those before and, beside them, those that were fetched.
-/
theorem content?_iff
    (discovery : Discovery answer target hints files fetched after failure?)
    (path content : String) :
    after.content? path = some content ↔
      files.content? path = some content ∨
        path ∈ fetched ∧ answer path = .ok content := by
  induction discovery with
  | done complete =>
      simp
  | @failed files failing message lacking refused =>
      constructor
      · exact Or.inl
      · rintro (before | ⟨member, answered⟩)
        · exact before
        · cases List.mem_singleton.mp member
          cases refused.symm.trans answered
  | @fetched files after new newContent later failure? lacking answered _
      inductionHypothesis =>
      rw [inductionHypothesis, SourceSet.content?_insert]
      constructor
      · rintro (present | ⟨member, succeeds⟩)
        · split at present
          · rename_i fresh
            cases present
            exact Or.inr ⟨fresh.1 ▸ List.mem_cons_self, fresh.1 ▸ answered⟩
          · exact Or.inl present
        · exact Or.inr ⟨List.mem_cons_of_mem _ member, succeeds⟩
      · rintro (present | ⟨member, succeeds⟩)
        · refine Or.inl ?_
          rw [if_neg]
          · exact present
          · rintro ⟨rfl, -⟩
            cases lacking.1.symm.trans (SourceSet.contains_of_content? present)
        · rcases List.mem_cons.mp member with rfl | inLater
          · cases answered.symm.trans succeeds
            exact Or.inl (if_pos ⟨rfl, lacking.1⟩)
          · exact Or.inr ⟨inLater, succeeds⟩

/--
A discovery that succeeds has fetched all that is needed, each with a content.
-/
theorem all_of_succeeds
    (discovery : Discovery answer target hints files fetched after none) :
    ∀ path,
      Needed answer target hints files path →
        path ∈ fetched ∧ ∃ content, answer path = .ok content := by
  generalize isNone : (none : Option Failure) = failure? at discovery
  induction discovery with
  | done complete =>
      exact fun path needed =>
        absurd needed (not_needed_of_complete complete path)
  | failed lacking refused =>
      cases isNone
  | @fetched files after new content later failure? lacking answered _
      inductionHypothesis =>
      intro path needed
      by_cases same : path = new
      · subst same
        exact ⟨List.mem_cons_self, content, answered⟩
      · obtain ⟨member, succeeds⟩ :=
          inductionHypothesis isNone path
            ((needed_insert lacking.needed answered path).mpr ⟨needed, same⟩)
        exact ⟨List.mem_cons_of_mem _ member, succeeds⟩

/--
A discovery that fails ends with the fetch that fails, and all before it have
succeeded.
-/
theorem last_of_fails
    {failure : Failure}
    (discovery :
      Discovery answer target hints files fetched after (some failure)) :
    ∃ earlier path message,
      fetched = earlier ++ [path] ∧
        answer path = .error message ∧
        failure = .fetchFailed path message ∧
        ∀ other ∈ earlier, ∃ content, answer other = .ok content := by
  generalize isFailure : some failure = failure? at discovery
  induction discovery with
  | done complete =>
      cases isFailure
  | @failed files path message lacking refused =>
      cases isFailure
      exact ⟨[], path, message, rfl, refused, rfl, List.forall_mem_nil _⟩
  | @fetched files after new content later failure? lacking answered _
      inductionHypothesis =>
      obtain ⟨earlier, path, message, rfl, refused, same, succeeded⟩ :=
        inductionHypothesis isFailure
      exact
        ⟨new :: earlier, path, message, rfl, refused, same,
          List.forall_mem_cons.mpr ⟨⟨content, answered⟩, succeeded⟩⟩

/-- A discovery succeeds just where every needed path has a content. -/
theorem succeeds_iff
    (discovery : Discovery answer target hints files fetched after failure?) :
    failure? = none ↔
      ∀ path, Needed answer target hints files path →
        ∃ content, answer path = .ok content := by
  cases failure? with
  | none =>
      exact ⟨fun _ path needed => (discovery.all_of_succeeds path needed).2,
        fun _ => rfl⟩
  | some failure =>
      refine ⟨nofun, fun allAnswered => ?_⟩
      obtain ⟨earlier, path, message, rfl, refused, -, -⟩ :=
        discovery.last_of_fails
      obtain ⟨content, answered⟩ :=
        allAnswered path (discovery.fetches.2 path (by simp))
      cases refused.symm.trans answered

/-- What has been fetched by a discovery that succeeds is what was needed. -/
theorem mem_fetched_iff
    (discovery : Discovery answer target hints files fetched after none)
    (path : String) :
    path ∈ fetched ↔ Needed answer target hints files path :=
  ⟨discovery.fetches.2 path,
    fun needed => (discovery.all_of_succeeds path needed).1⟩

/--
With the same hints in any order all discoveries succeed, and to the same end,
or none does.
-/
theorem alike
    {others otherFetched : List String}
    {otherAfter : SourceSet}
    {otherFailure? : Option Failure}
    (sameHints : ∀ hint, hint ∈ others ↔ hint ∈ hints)
    (discovery : Discovery answer target hints files fetched after failure?)
    (other :
      Discovery answer target others files otherFetched otherAfter
        otherFailure?) :
    (otherFailure? = none ↔ failure? = none) ∧
      (otherFailure? = none →
        otherAfter = after ∧ otherFetched.Perm fetched) := by
  have sameNeeds :
      ∀ path,
        Needed answer target others files path ↔
          Needed answer target hints files path :=
    fun path =>
      ⟨fun needed => needed.of_hints fun hint => (sameHints hint).mp,
        fun needed => needed.of_hints fun hint => (sameHints hint).mpr⟩
  have sameSuccess : otherFailure? = none ↔ failure? = none := by
    rw [other.succeeds_iff, discovery.succeeds_iff]
    exact forall_congr' fun path => imp_congr_left (sameNeeds path)
  refine ⟨sameSuccess, fun otherSucceeds => ?_⟩
  cases otherSucceeds
  cases sameSuccess.mp rfl
  have sameFetches : ∀ path, path ∈ otherFetched ↔ path ∈ fetched :=
    fun path => by
    rw [other.mem_fetched_iff, discovery.mem_fetched_iff, sameNeeds]
  constructor
  · refine SourceSet.eq_of_content? fun path => Option.ext fun content => ?_
    rw [other.content?_iff, discovery.content?_iff, sameFetches]
  · exact (List.perm_ext_iff_of_nodup other.fetches.1 discovery.fetches.1).mpr
      sameFetches

end Discovery

end Import

/-! ## A resolution is a discovery -/

namespace Resolution

/-- The paths that a resolution fetches, in their order. -/
def fetched
    (resolution : Resolution) :
    List String :=
  resolution.requests.map Request.path

end Resolution

namespace Library

open Import (Lacking Discovery Needed)

variable {library : Library}

/--
A row of paths is just what files lack, apart from files that are there already.
-/
structure Awaits
    (files : SourceSet)
    (target : String)
    (hints pending : List String) : Prop where
  lacking : ∀ path ∈ pending, files.contains path = false →
    Lacking target hints files path
  waiting : ∀ path, Lacking target hints files path → path ∈ pending

theorem awaits_initial
    (files : SourceSet)
    (target : String)
    (hints : List String) :
    Awaits files target hints (initial files target hints) where
  lacking _ waits missing := ⟨missing, mem_initial.mp waits⟩
  waiting _ lacking := mem_initial.mpr lacking.2

namespace Awaits

variable
  {files : SourceSet}
  {target path : String}
  {hints pending rest : List String}

/--
What is left of a row when files that are there have been passed over was in the
row.
-/
theorem mem_of_left
    {other : String}
    (found : pending.dropWhile files.contains = path :: rest)
    (left : other ∈ path :: rest) :
    other ∈ pending :=
  (List.dropWhile_suffix files.contains).subset (found ▸ left)

/-- If everything that waits is there, nothing is lacking. -/
theorem complete
    (awaits : Awaits files target hints pending)
    (allPresent : pending.dropWhile files.contains = []) :
    ∀ path, ¬ Lacking target hints files path := by
  intro path lacking
  have present := contains_of_dropWhile allPresent (awaits.waiting path lacking)
  cases lacking.1.symm.trans present

/-- The path that is fetched next is lacking. -/
theorem next
    (awaits : Awaits files target hints pending)
    (found : pending.dropWhile files.contains = path :: rest) :
    Lacking target hints files path :=
  awaits.lacking path (mem_of_left found List.mem_cons_self)
    (not_contains_of_dropWhile found)

/--
When a path has been fetched, what is left of the row and what the path imports
wait.
-/
theorem fetch
    (awaits : Awaits files target hints pending)
    (found : pending.dropWhile files.contains = path :: rest)
    (content : String) :
    Awaits (files.insert path content) target hints
      (Resolution.enqueue rest (Import.scan content target)) := by
  have inserted : (files.insert path content).content? path = some content := by
    rw [SourceSet.content?_insert,
      if_pos ⟨rfl, not_contains_of_dropWhile found⟩]
  constructor
  · intro other waits missing
    refine ⟨missing, ?_⟩
    rcases Resolution.mem_enqueue.mp waits with left | imported
    · have before := mem_of_left found (List.mem_cons_of_mem _ left)
      have absent := (Import.contains_insert_eq_false.mp missing).2
      rcases (awaits.lacking other before absent).2 with
        hinted | ⟨importer, old, isContent, member⟩
      · exact Or.inl hinted
      · exact Or.inr
          ⟨importer, old,
            files.within_insert path content _ _ isContent, member⟩
    · exact Or.inr ⟨path, content, inserted, imported⟩
  · rintro other ⟨missing, needs⟩
    obtain ⟨differs, absent⟩ := Import.contains_insert_eq_false.mp missing
    have waited :
        Lacking target hints files other →
          other ∈ Resolution.enqueue rest (Import.scan content target) := by
      intro lacking
      rcases waiting_cases found (awaits.waiting other lacking) with
        present | next | left
      · cases absent.symm.trans present
      · exact absurd next differs
      · exact Resolution.mem_enqueue.mpr (Or.inl left)
    rcases needs with hinted | ⟨importer, old, isContent, member⟩
    · exact waited ⟨absent, Or.inl hinted⟩
    · rcases Import.content?_insert_cases isContent with ⟨rfl, rfl⟩ | before
      · exact Resolution.mem_enqueue.mpr (Or.inr member)
      · exact waited ⟨absent, Or.inr ⟨importer, old, before, member⟩⟩

end Awaits

/-- Looking through a row of what is lacking is a discovery. -/
theorem discovery_explore
    (steady : library.Steady)
    (target : String)
    (hints : List String)
    (moment : Nat)
    (files : SourceSet)
    (pending : List String)
    (awaits : Awaits files target hints pending) :
    let outcome := library.explore target moment files pending
    Discovery library.answer target hints files outcome.fetched outcome.files
      outcome.failure? := by
  intro outcome
  unfold outcome
  fun_induction library.explore target moment files pending with
  | case1 moment files pending allPresent =>
      exact .done (awaits.complete allPresent)
  | case2 moment files pending path rest found message answered =>
      exact
        .failed (awaits.next found) (steady.answer_eq moment path ▸ answered)
  | case3 moment files pending path rest found content answered _ others
      inductionHypothesis =>
      exact
        .fetched (awaits.next found) (steady.answer_eq moment path ▸ answered)
          (inductionHypothesis (awaits.fetch found content))

theorem discovery_resolve
    (steady : library.Steady)
    (moment : Nat)
    (files : SourceSet)
    (target : String)
    (hints : List String) :
    let outcome := library.resolve moment files target hints
    Discovery library.answer target hints files outcome.fetched outcome.files
      outcome.failure? :=
  discovery_explore steady target hints moment files _
    (awaits_initial files target hints)

/-- A resolution makes at most one fetch more than it can bring in files. -/
theorem length_fetched_le
    (library : Library)
    (target : String)
    (moment : Nat)
    (files : SourceSet)
    (pending : List String) :
    (library.explore target moment files pending).fetched.length ≤
      library.absent files + 1 := by
  fun_induction library.explore target moment files pending with
  | case1 =>
      exact Nat.zero_le _
  | case2 =>
      exact Nat.le_add_left 1 _
  | case3 moment files pending path rest found content answered fewer others
      inductionHypothesis =>
      exact Nat.succ_le_succ (inductionHypothesis.trans fewer)

end Library

/-! ## What a resolution comes to -/

/--
What a resolution comes to, where some paths are needed and each has an answer.
-/
structure Resolution.Closes
    (answer : String → Except String String)
    (needed : String → Prop)
    (files : SourceSet)
    (outcome : Resolution) : Prop where
  once : outcome.fetched.Nodup
  within : ∀ path ∈ outcome.fetched, needed path
  succeeds :
    (∀ path, needed path → ∃ content, answer path = .ok content) →
      outcome.failure? = none ∧
        (∃ all : Finset String,
          (∀ path, path ∈ all ↔ needed path) ∧
            outcome.added = all.card ∧ outcome.fetched.Perm all.toList) ∧
        ∀ path content,
          outcome.files.content? path = some content ↔
            files.content? path = some content ∨
              needed path ∧ answer path = .ok content
  fails :
    (∃ path message, needed path ∧ answer path = .error message) →
      ∃ earlier path message,
        outcome.fetched = earlier ++ [path] ∧
          answer path = .error message ∧
          outcome.failure? = some (.fetchFailed path message) ∧
          (∀ other ∈ earlier, ∃ content, answer other = .ok content) ∧
          ∀ other content,
            outcome.files.content? other = some content ↔
              files.content? other = some content ∨
                other ∈ outcome.fetched ∧ answer other = .ok content

/-- Any discovery comes to the closure of its files. -/
theorem Import.Discovery.closes
    {answer : String → Except String String}
    {target : String}
    {hints : List String}
    {files : SourceSet}
    {outcome : Resolution}
    (discovery :
      Discovery answer target hints files outcome.fetched outcome.files
        outcome.failure?) :
    outcome.Closes answer (Needed answer target hints files) files where
  once := discovery.fetches.1
  within := discovery.fetches.2
  succeeds allAnswered := by
    have isNone := discovery.succeeds_iff.mpr allAnswered
    rw [isNone] at discovery
    have once := discovery.fetches.1
    refine ⟨isNone, ⟨outcome.fetched.toFinset, ?_, ?_, ?_⟩, ?_⟩
    · intro path
      rw [List.mem_toFinset, discovery.mem_fetched_iff]
    · rw [List.toFinset_card_of_nodup once, Resolution.fetched, List.length_map,
        Resolution.added]
    · exact (List.toFinset_toList once).symm
    · intro path content
      rw [discovery.content?_iff, discovery.mem_fetched_iff]
  fails := by
    rintro ⟨path, message, needed, refused⟩
    cases isFailure : outcome.failure? with
    | none =>
        obtain ⟨content, answered⟩ :=
          discovery.succeeds_iff.mp isFailure path needed
        cases refused.symm.trans answered
    | some failure =>
        have alsoFiles := discovery.content?_iff
        rw [isFailure] at discovery
        obtain ⟨earlier, last, reason, isFetched, lastRefused, rfl,
          succeeded⟩ :=
          discovery.last_of_fails
        exact ⟨earlier, last, reason, isFetched, lastRefused, rfl, succeeded,
          alsoFiles⟩

/--
A resolution computes the closure of its files under imports.  Where the library
answers alike at every moment, whatever files and hints are given: it fetches no
more often than there are paths to bring in and once more, no path twice, and
only what is needed.  If all that is needed has a content, the resolution
fetches just that and adds it to the files; otherwise it ends with a fetch that
fails.

Whether it succeeds, and its files if it does, depend neither on the order of
the hints nor on the order in which files are discovered.
-/
theorem resolution_closes
    (library : Library)
    (steady : library.Steady)
    (moment : Nat)
    (files : SourceSet)
    (target : String)
    (hints : List String) :
    let outcome := library.resolve moment files target hints
    outcome.Closes library.answer
      (Import.Needed library.answer target hints files) files ∧
      outcome.fetched.length ≤ library.absent files + 1 ∧
      ∀ others : List String,
        (∀ hint, hint ∈ others ↔ hint ∈ hints) →
        ∀ fetched after failure?,
          Import.Discovery library.answer target others files fetched after
            failure? →
            (failure? = none ↔ outcome.failure? = none) ∧
              (failure? = none →
                after = outcome.files ∧ fetched.Perm outcome.fetched) := by
  intro outcome
  have discovery := Library.discovery_resolve steady moment files target hints
  refine ⟨discovery.closes, library.length_fetched_le target moment files _, ?_⟩
  intro others sameHints fetched after failure? other
  exact discovery.alike sameHints other

/--
Files that import each other, one that is only hinted at, and one that cannot be
fetched.
-/
def Library.entangled : Library :=
  .ofCatalogue
    [("a.sol", ⟨.ok "import 'b.sol';", false⟩),
      ("b.sol", ⟨.ok "import 'a.sol';", true⟩),
      ("c.sol", ⟨.ok "import './gone.sol';", false⟩)]

theorem resolution_closes_entangled :
    let files := SourceSet.ofList [("lib/main.sol", "import 'a.sol';")]
    let outcome :=
      Library.entangled.resolve 0 files "lib/main.sol" ["c.sol", "b.sol"]
    Library.entangled.Steady ∧
      outcome.Closes Library.entangled.answer
          (Import.Needed Library.entangled.answer "lib/main.sol"
            ["c.sol", "b.sol"] files) files ∧
        outcome.fetched.length ≤ Library.entangled.absent files + 1 ∧
        ∀ others : List String,
          (∀ hint, hint ∈ others ↔ hint ∈ ["c.sol", "b.sol"]) →
          ∀ fetched after failure?,
            Import.Discovery Library.entangled.answer "lib/main.sol" others
                files fetched after failure? →
              (failure? = none ↔ outcome.failure? = none) ∧
                (failure? = none →
                  after = outcome.files ∧ fetched.Perm outcome.fetched) :=
  have steady : Library.entangled.Steady := fun _ _ _ => rfl
  ⟨steady,
    resolution_closes .entangled steady 0
      (.ofList [("lib/main.sol", "import 'a.sol';")])
      "lib/main.sol" ["c.sol", "b.sol"]⟩

end CompilerSession
