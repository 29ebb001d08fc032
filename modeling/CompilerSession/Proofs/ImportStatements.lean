import CompilerSession.Proofs.TextCuts
import CompilerSession.Source.Import

namespace CompilerSession.Import

open Text

/-!
# Which import statements a scan finds

`Statement` says how a statement is written and `StandsIn` that one stands in a
text at some place.  Statements may begin inside each other, since a path can
run over lines, so not all of them are taken: `Chosen` takes them from left to
right and passes over what begins inside one that is taken.

The main statement says that a scan reports just the chosen ones, and that there
is only one way to choose.
-/

/-! ## How a statement is written -/

/-- The written forms of a statement that names a path. -/
inductive Statement (path : List Char) : List Char → Prop where
  | written
      (before between : List Char)
      (opening closing : Char)
      (indented : ∀ character ∈ before, character = ' ' ∨ character = '\t')
      (spaced : ∀ character ∈ between, character = ' ' ∨ character = '\t')
      (opens : opening = '\x27' ∨ opening = '"')
      (closes : closing = '\x27' ∨ closing = '"')
      (named : path ≠ [])
      (unquoted : ∀ character ∈ path, character ≠ '\x27' ∧ character ≠ '"') :
      Statement path
        (before ++ ['i', 'm', 'p', 'o', 'r', 't'] ++ between ++
          [opening] ++ path ++
          [closing, ';'])

/--
The whole of a statement in a text: where it begins, where it ends, and its
path.
-/
structure Occurrence where
  start : Nat
  stop : Nat
  path : List Char
  deriving Repr, DecidableEq

/-- What follows a text is at the start of a line. -/
def BeginsLine (before : List Char) : Prop :=
  before = [] ∨ before.getLast? = some '\n'

/-- A statement stands in a text, at the start of a line. -/
inductive StandsIn (text : List Char) : Occurrence → Prop where
  | between
      {path written : List Char}
      (before after : List Char)
      (whole : text = before ++ written ++ after)
      (line : BeginsLine before)
      (statement : Statement path written) :
      StandsIn text ⟨before.length, before.length + written.length, path⟩

theorem isGap_iff {character : Char} :
    isGap character = true ↔ character = ' ' ∨ character = '\t' := by
  simp [isGap]

theorem isQuote_iff {character : Char} :
    isQuote character = true ↔ character = '\x27' ∨ character = '"' := by
  simp [isQuote]

theorem not_isQuote_iff {character : Char} :
    (!isQuote character) = true ↔ character ≠ '\x27' ∧ character ≠ '"' := by
  simp [isQuote]

theorem afterKeyword?_eq_some_iff {text rest : List Char} :
    afterKeyword? text = some rest ↔
      text = ['i', 'm', 'p', 'o', 'r', 't'] ++ rest := by
  constructor
  · intro found
    unfold afterKeyword? at found
    split at found
    · cases found
      rfl
    · cases found
  · rintro rfl
    rfl

/-- A quoted path is read up to the quote after it. -/
theorem quotedPath?_eq_some_iff {text path rest : List Char} :
    quotedPath? text = some (path, rest) ↔
      ∃ opening closing,
        text = [opening] ++ path ++ [closing, ';'] ++ rest ∧
          isQuote opening = true ∧
          isQuote closing = true ∧
          path ≠ [] ∧
          ∀ character ∈ path, (!isQuote character) = true := by
  constructor
  · intro found
    unfold quotedPath? at found
    split at found
    · cases found
    · rename_i opening body
      have cut := cutAt_span (fun character => !isQuote character) body
      split at found
      · rename_i first others closing after isPath isRest
        rw [isPath, isRest] at cut
        split at found
        · rename_i opens
          cases found
          have closes : (!isQuote closing) = false := cut.rest closing rfl
          exact
            ⟨opening, closing,
              by simp [cut.whole], opens, by
                simpa using closes, List.cons_ne_nil _ _, cut.front⟩
        · cases found
      · cases found
  · rintro ⟨opening, closing, rfl, opens, closes, named, unquoted⟩
    have cut :
        CutAt (fun character => !isQuote character)
          (path ++ closing :: ';' :: rest) path
          (closing :: ';' :: rest) :=
      ⟨rfl, unquoted, by simp [closes]⟩
    obtain ⟨first, others, rfl⟩ := List.exists_cons_of_ne_nil named
    have shape :
        [opening] ++ first :: others ++ [closing, ';'] ++ rest =
          opening :: (first :: others ++ closing :: ';' :: rest) := by
      simp
    rw [shape]
    unfold quotedPath?
    dsimp only
    rw [cut.takeWhile_eq, cut.dropWhile_eq]
    exact if_pos opens

/-- A statement is read off the front of a text just if one is written there. -/
theorem statement?_eq_some_iff {text path rest : List Char} :
    statement? text = some (path, rest) ↔
      ∃ written, Statement path written ∧ text = written ++ rest := by
  constructor
  · intro found
    unfold statement? at found
    split at found
    · rename_i body keyword
      have indent := cutAt_span isGap text
      have gap := cutAt_span isGap body
      obtain ⟨opening, closing, quoted, opens, closes, named, unquoted⟩ :=
        quotedPath?_eq_some_iff.mp found
      refine
        ⟨_, .written _ _ opening closing
          (fun _ member => isGap_iff.mp (indent.front _ member))
          (fun _ member => isGap_iff.mp (gap.front _ member))
          (isQuote_iff.mp opens) (isQuote_iff.mp closes) named
          (fun _ member => not_isQuote_iff.mp (unquoted _ member)), ?_⟩
      calc
        text = text.takeWhile isGap ++ text.dropWhile isGap := indent.whole
        _ = text.takeWhile isGap ++ (['i', 'm', 'p', 'o', 'r', 't'] ++
              (body.takeWhile isGap ++ body.dropWhile isGap)) := by
          rw [afterKeyword?_eq_some_iff.mp keyword, ← gap.whole]
        _ = _ := by
          rw [quoted]
          simp only [List.append_assoc]
    · cases found
  · rintro ⟨_,
      ⟨before, between, opening, closing, indented, spaced, opens, closes,
        named, unquoted⟩, rfl⟩
    have opensQuote := isQuote_iff.mpr opens
    have quoted :
        quotedPath? ([opening] ++ path ++ [closing, ';'] ++ rest) =
          some (path, rest) :=
      quotedPath?_eq_some_iff.mpr
        ⟨opening, closing, rfl, opensQuote, isQuote_iff.mpr closes, named,
          fun _ member => not_isQuote_iff.mpr (unquoted _ member)⟩
    have gap :
        CutAt isGap
          (between ++ ([opening] ++ path ++ [closing, ';'] ++ rest)) between
          ([opening] ++ path ++ [closing, ';'] ++ rest) :=
      ⟨rfl, fun _ member => isGap_iff.mpr (spaced _ member), by
        rcases opens with rfl | rfl <;> simp [isGap]⟩
    have indent :
        CutAt isGap
          (before ++ ['i', 'm', 'p', 'o', 'r', 't'] ++ between ++
            [opening] ++ path ++
            [closing, ';'] ++ rest)
          before
          (['i', 'm', 'p', 'o', 'r', 't'] ++
            (between ++ ([opening] ++ path ++ [closing, ';'] ++ rest))) :=
      ⟨by simp, fun _ member => isGap_iff.mpr (indented _ member), by
        simp [isGap]⟩
    unfold statement?
    rw [indent.dropWhile_eq, afterKeyword?_eq_some_iff.mpr rfl]
    dsimp only
    rw [gap.dropWhile_eq, quoted]

/-! ## Where statements stand -/

namespace StandsIn

variable {text before left : List Char} {occurrence : Occurrence}

/--
A statement that is read off the rest of a text at the start of a line stands
there.
-/
theorem of_statement?
    {path rest : List Char}
    (line : BeginsLine before)
    (found : statement? left = some (path, rest)) :
    ∃ written,
      left = written ++ rest ∧
        Statement path written ∧
        StandsIn (before ++ left)
          ⟨before.length, before.length + written.length, path⟩ := by
  obtain ⟨written, statement, rfl⟩ := statement?_eq_some_iff.mp found
  exact
    ⟨written, rfl, statement, .between before rest (by simp) line statement⟩

/--
A statement that stands in a text can be read off the text from where it begins.
-/
theorem statement?_eq
    (stands : StandsIn (before ++ left) occurrence)
    (start : occurrence.start = before.length) :
    BeginsLine before ∧
      ∃ rest,
        statement? left = some (occurrence.path, rest) ∧
          occurrence.stop + rest.length = before.length + left.length := by
  obtain ⟨front, after, whole, line, statement⟩ := stands
  rw [List.append_assoc] at whole
  obtain ⟨rfl, rfl⟩ := List.append_inj whole start.symm
  refine ⟨line, after, statement?_eq_some_iff.mpr ⟨_, statement, rfl⟩, ?_⟩
  simp [Nat.add_assoc]

/-- A statement takes up some of the text. -/
theorem start_lt_stop
    (stands : StandsIn text occurrence) :
    occurrence.start < occurrence.stop ∧ occurrence.stop ≤ text.length := by
  obtain ⟨before, after, rfl, line, statement⟩ := stands
  cases statement
  simp only [List.length_append, List.length_cons, List.length_nil]
  omega

/-- At one place there is one statement at most. -/
theorem unique
    {first second : Occurrence}
    (one : StandsIn text first)
    (other : StandsIn text second)
    (same : first.start = second.start) :
    first = second := by
  have shape : text = text.take first.start ++ text.drop first.start :=
    (List.take_append_drop _ _).symm
  have within : first.start ≤ text.length :=
    Nat.le_of_lt (Nat.lt_of_lt_of_le one.start_lt_stop.1 one.start_lt_stop.2)
  have length : (text.take first.start).length = first.start :=
    List.length_take_of_le within
  rw [shape] at one other
  obtain ⟨_, rest, read, stop⟩ := one.statement?_eq length.symm
  obtain ⟨_, otherRest, otherRead, otherStop⟩ :=
    other.statement?_eq (same.symm.trans length.symm)
  obtain ⟨samePath, rfl⟩ :=
    Prod.mk.inj (Option.some.inj (read.symm.trans otherRead))
  rcases first with ⟨start, end₁, path⟩
  rcases second with ⟨_, end₂, _⟩
  cases same
  cases samePath
  have sameStop : end₁ = end₂ :=
    Nat.add_right_cancel (stop.trans otherStop.symm)
  rw [sameStop]

end StandsIn

/-! ## Which statements are chosen -/

/--
The statements of a text that are chosen from a position on: the leftmost one,
and then those that are chosen from its end on.
-/
inductive Chosen (text : List Char) : Nat → List Occurrence → Prop where
  | done
      {position : Nat}
      (none :
        ∀ occurrence, StandsIn text occurrence → occurrence.start < position) :
      Chosen text position []
  | next
      {position : Nat}
      {first : Occurrence}
      {others : List Occurrence}
      (stands : StandsIn text first)
      (after : position ≤ first.start)
      (leftmost :
        ∀ occurrence,
          StandsIn text occurrence →
          position ≤ occurrence.start → first.start ≤ occurrence.start)
      (rest : Chosen text first.stop others) :
      Chosen text position (first :: others)

namespace Chosen

variable {text : List Char} {position : Nat} {chosen : List Occurrence}

/-- Where no statement begins, choosing goes on with the next place. -/
theorem skip
    (choice : Chosen text (position + 1) chosen)
    (nothing :
      ∀ occurrence, StandsIn text occurrence → occurrence.start ≠ position) :
    Chosen text position chosen := by
  have further :
      ∀ occurrence,
        StandsIn text occurrence →
        position ≤ occurrence.start → position + 1 ≤ occurrence.start :=
    fun occurrence stands after =>
      Nat.lt_of_le_of_ne after (nothing occurrence stands).symm
  cases choice with
  | done none =>
      exact .done fun occurrence stands =>
        Nat.lt_of_not_le fun after =>
          Nat.not_le_of_lt (none occurrence stands)
            (further occurrence stands after)
  | next stands after leftmost rest =>
      exact
        .next stands (Nat.le_of_succ_le after)
          (fun occurrence other later =>
            leftmost occurrence other (further occurrence other later))
          rest

/-- There is one way to choose. -/
theorem unique
    {others : List Occurrence}
    (choice : Chosen text position chosen)
    (other : Chosen text position others) :
    others = chosen := by
  induction choice generalizing others with
  | done none =>
      cases other with
      | done =>
          rfl
      | next stands after =>
          exact absurd after (Nat.not_le_of_lt (none _ stands))
  | next stands after leftmost rest inductionHypothesis =>
      cases other with
      | done none =>
          exact absurd after (Nat.not_le_of_lt (none _ stands))
      | next alsoStands alsoAfter alsoLeftmost alsoRest =>
          have same :=
            Nat.le_antisymm (alsoLeftmost _ stands after)
              (leftmost _ alsoStands alsoAfter)
          cases alsoStands.unique stands same
          rw [inductionHypothesis alsoRest]

/-- Whatever is chosen stands in the text from the position on. -/
theorem stands
    (choice : Chosen text position chosen) :
    ∀ occurrence ∈ chosen,
      StandsIn text occurrence ∧ position ≤ occurrence.start := by
  induction choice with
  | done none =>
      exact nofun
  | next stands after leftmost rest inductionHypothesis =>
      intro occurrence member
      rcases List.mem_cons.mp member with rfl | later
      · exact ⟨stands, after⟩
      · obtain ⟨alsoStands, alsoAfter⟩ := inductionHypothesis occurrence later
        exact
          ⟨alsoStands,
            Nat.le_trans after
              (Nat.le_trans (Nat.le_of_lt stands.start_lt_stop.1) alsoAfter)⟩

/-- Of two chosen statements the one ends before the other begins. -/
theorem apart
    (choice : Chosen text position chosen) :
    chosen.Pairwise fun earlier later => earlier.stop ≤ later.start := by
  induction choice with
  | done none =>
      exact .nil
  | next stands after leftmost rest inductionHypothesis =>
      exact .cons (fun later member => (rest.stands later member).2)
        inductionHypothesis

/-- A statement that is not chosen begins inside one that is. -/
theorem missed
    (choice : Chosen text position chosen)
    {occurrence : Occurrence}
    (stands : StandsIn text occurrence)
    (after : position ≤ occurrence.start) :
    occurrence ∈ chosen ∨
      ∃ other ∈ chosen,
        other.start < occurrence.start ∧ occurrence.start < other.stop := by
  induction choice with
  | done none =>
      exact absurd after (Nat.not_le_of_lt (none occurrence stands))
  | next firstStands firstAfter leftmost rest inductionHypothesis =>
      rename_i first others
      rcases Nat.lt_or_ge occurrence.start first.stop with inside | past
      · rcases Nat.eq_or_lt_of_le (leftmost occurrence stands after) with
          same | later
        · exact
            Or.inl (stands.unique firstStands same.symm ▸ List.mem_cons_self)
        · exact Or.inr ⟨first, List.mem_cons_self, later, inside⟩
      · rcases inductionHypothesis past with
          member | ⟨other, member, begins, ends⟩
        · exact Or.inl (List.mem_cons_of_mem _ member)
        · exact Or.inr ⟨other, List.mem_cons_of_mem _ member, begins, ends⟩

end Chosen

/-! ## A scan chooses -/

/-- Right after a statement there is no start of a line. -/
theorem Statement.not_beginsLine
    {path written : List Char}
    (statement : Statement path written)
    (before : List Char) :
    ¬ BeginsLine (before ++ written) := by
  have ends : written.getLast? = some ';' := by
    cases statement
    exact List.getLast?_append
  rintro (nothing | newline)
  · rw [(List.append_eq_nil_iff.mp nothing).2] at ends
    cases ends
  · rw [List.getLast?_append, ends] at newline
    cases newline

/--
Reading the statements of the rest of a text chooses those of the text from
there on.
-/
theorem chosen_statements
    (before left : List Char)
    (lineStart : Bool)
    (line : lineStart = true ↔ BeginsLine before) :
    ∃ chosen,
      Chosen (before ++ left) before.length chosen ∧
        statements lineStart left = chosen.map Occurrence.path := by
  fun_induction statements lineStart left generalizing before with
  | case1 lineStart left path rest found _ inductionHypothesis =>
      unfold statementAt? at found
      split at found
      · rename_i starts
        obtain ⟨written, rfl, statement, stands⟩ :=
          StandsIn.of_statement? (line.mp starts) found
        obtain ⟨chosen, choice, same⟩ :=
          inductionHypothesis (before ++ written)
            (by simpa using statement.not_beginsLine before)
        rw [List.append_assoc, List.length_append] at choice
        refine ⟨_ :: chosen,
          .next stands (Nat.le_refl _) (fun _ _ after => after) choice, ?_⟩
        rw [List.map_cons, same]
      · cases found
  | case2 lineStart found =>
      refine ⟨[], .done fun occurrence stands => ?_, rfl⟩
      have within := stands.start_lt_stop
      rw [List.append_nil] at within
      exact Nat.lt_of_lt_of_le within.1 within.2
  | case3 lineStart character rest found inductionHypothesis =>
      obtain ⟨chosen, choice, same⟩ :=
        inductionHypothesis (before ++ [character]) (by simp [BeginsLine])
      rw [List.append_assoc, List.length_append] at choice
      refine ⟨chosen, choice.skip fun occurrence stands start => ?_, same⟩
      obtain ⟨begins, after, read, _⟩ := stands.statement?_eq start
      rw [statementAt?, if_pos (line.mpr begins)] at found
      cases found.symm.trans read

/--
A scan recognises just the statements of a text.  No two of them begin at one
place.  There is one way to choose statements from left to right, and the scan
reports the paths of the chosen ones in their order, each as it is found from
the target: those all stand in the text and do not overlap, and any statement
that is not among them begins inside one.
-/
theorem scan_recognises_statements (content target : String) :
    let text := content.toList
    (∀ first second,
        StandsIn text first → StandsIn text second →
          first.start = second.start →
          first = second) ∧
      ∃ chosen,
        (∀ others, Chosen text 0 others ↔ others = chosen) ∧
          scan content target =
            chosen.map
              (fun occurrence =>
                rooted (String.ofList occurrence.path) target) ∧
          (∀ occurrence ∈ chosen, StandsIn text occurrence) ∧
          chosen.Pairwise (fun earlier later => earlier.stop ≤ later.start) ∧
          ∀ occurrence,
            StandsIn text occurrence →
            occurrence ∈ chosen ∨
              ∃ other ∈ chosen,
                other.start < occurrence.start ∧
                  occurrence.start < other.stop := by
  intro text
  obtain ⟨chosen, choice, same⟩ :=
    chosen_statements [] text true (iff_of_true rfl (Or.inl rfl))
  have choice : Chosen text 0 chosen := choice
  refine
    ⟨fun first second one other start => one.unique other start, chosen,
      fun others =>
        ⟨choice.unique, fun isChosen => isChosen ▸ choice⟩, ?_,
        fun occurrence member =>
          (choice.stands occurrence member).1, choice.apart,
          fun occurrence stands => choice.missed stands (Nat.zero_le _)⟩
  rw [scan, same, List.map_map]
  rfl

/--
A statement whose path runs over a line hides the one that begins inside it.
-/
example : scan "import 'a\nimport \";b\";" "main.sol" = ["a\nimport "] := by
  decide +kernel

end CompilerSession.Import
