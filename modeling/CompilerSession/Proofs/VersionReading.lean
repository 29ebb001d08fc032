import CompilerSession.Proofs.JsonDecoding
import CompilerSession.Proofs.TextCuts
import CompilerSession.Version.Parsing
import Mathlib.Data.List.Induction

namespace CompilerSession

/-!
# Which versions are read

A version is read by two readers that do not agree on what a digit is: the first
takes three rows of digits of any script off an undecorated text, and the second
takes numerals in ASCII alone.  `Bare` says what it is to take the decoration
off and `Triple` what the first reader looks for.

The main statement says what the two read together, and that nothing is lost
between them: what the first reader leaves whole the second never takes.
-/

open Text

/-! ## Digits, blanks and marks -/

namespace Text

/-- No digit of any script is white space. -/
theorem isBlank_of_isDecimalDigit
    {character : Char}
    (digit : isDecimalDigit character = true) :
    isBlank character = false := by
  obtain ⟨first, script, within⟩ := List.any_eq_true.mp digit
  have apart :
      ∀ first ∈ scriptZeros,
        ∀ range ∈
          [(0x9, 0xD), (0x20, 0x20), (0x85, 0x85), (0xA0, 0xA0),
            (0x1680, 0x1680), (0x2000, 0x200A), (0x2028, 0x202F),
            (0x205F, 0x205F), (0x3000, 0x3000)],
          first + 9 < range.1 ∨ range.2 < first := by
    decide
  have outside := apart first script
  simp only [List.forall_mem_cons] at outside
  simp only [Bool.and_eq_true, decide_eq_true_eq] at within
  simp only [isBlank, Bool.or_eq_false_iff, Bool.and_eq_false_iff,
    decide_eq_false_iff_not, beq_eq_false_iff_ne]
  omega

theorem not_isDecimalDigit_dot : isDecimalDigit '.' = false := by
  decide

theorem ne_v_of_isDecimalDigit
    {character : Char}
    (digit : isDecimalDigit character = true) :
    character ≠ 'v' := by
  rintro rfl
  exact absurd digit (by decide)

end Text

/-! ## Decoration -/

namespace Version

/--
A text with its decoration taken off: the white space around it and then letters
v.
-/
inductive Bare : List Char → List Char → Prop where
  | within
      (left letters core right : List Char)
      (blankLeft : ∀ character ∈ left, isBlank character = true)
      (blankRight : ∀ character ∈ right, isBlank character = true)
      (lettered : ∀ character ∈ letters, character = 'v')
      (first : NoneLeads isBlank (letters ++ core))
      (last :
        ∀ character ∈ (letters ++ core).getLast?, isBlank character = false)
      (unlettered : core.head? ≠ some 'v') :
      Bare (left ++ (letters ++ core) ++ right) core

/-- What is left of a text between the white space at its ends. -/
theorem trim_eq_iff {text middle : List Char} :
    trim text = middle ↔
      ∃ left right,
        text = left ++ middle ++ right ∧
          (∀ character ∈ left, isBlank character = true) ∧
          (∀ character ∈ right, isBlank character = true) ∧
          NoneLeads isBlank middle ∧
          ∀ character ∈ middle.getLast?, isBlank character = false := by
  constructor
  · rintro rfl
    have front := cutAt_span isBlank text
    have back := cutAt_span isBlank (text.dropWhile isBlank).reverse
    have shape :
        text.dropWhile isBlank =
          trim text ++
            ((text.dropWhile isBlank).reverse.takeWhile isBlank).reverse := by
      rw [trim, ← List.reverse_append, ← back.whole, List.reverse_reverse]
    refine ⟨_, _, ?_, front.front,
      fun _ member => back.front _ (List.mem_reverse.mp member), ?_, ?_⟩
    · exact front.whole.trans (by rw [List.append_assoc, ← shape])
    · intro character leads
      refine front.rest character ?_
      rw [shape, List.head?_append, Option.mem_def.mp leads]
      rfl
    · intro character ends
      rw [trim, List.getLast?_reverse] at ends
      exact back.rest character ends
  · rintro ⟨left, right, rfl, blankLeft, blankRight, first, last⟩
    have leads : NoneLeads isBlank middle.reverse := by
      intro character member
      exact last character (List.head?_reverse ▸ member)
    unfold trim
    rw [List.append_assoc, List.dropWhile_append_of_pos blankLeft]
    cases middle with
    | nil =>
        rw [List.nil_append, List.dropWhile_eq_nil_iff.mpr blankRight]
        rfl
    | cons head tail =>
        have stays : NoneLeads isBlank (head :: tail ++ right) := by
          simpa using first
        rw [stays.dropWhile_eq, List.reverse_append,
          List.dropWhile_append_of_pos fun _ member =>
            blankRight _ (List.mem_reverse.mp member), leads.dropWhile_eq,
            List.reverse_reverse]

/-- A text is undecorated in one way. -/
theorem bare_iff {text core : List Char} :
    Bare text core ↔ undecorated text = core := by
  unfold undecorated
  rw [dropWhile_eq_iff]
  constructor
  · rintro ⟨left, letters, core, right, blankLeft, blankRight, lettered, first,
      last, unlettered⟩
    refine ⟨letters, ?_, fun _ member => beq_iff_eq.mpr (lettered _ member), ?_⟩
    · exact
        trim_eq_iff.mpr ⟨left, right, rfl, blankLeft, blankRight, first, last⟩
    · intro character leads
      exact beq_eq_false_iff_ne.mpr fun same => unlettered (same ▸ leads)
  · rintro ⟨letters, whole, lettered, rest⟩
    obtain ⟨left, right, rfl, blankLeft, blankRight, first, last⟩ :=
      trim_eq_iff.mp whole
    refine
      .within left letters core right blankLeft blankRight
        (fun _ member => beq_iff_eq.mp (lettered _ member)) first last
        fun leads => ?_
    exact absurd (rest 'v' leads) (by decide)

/-! ## Three rows of digits -/

/-- A row of digits of any script, of one at least. -/
structure DigitRow (digits : List Char) : Prop where
  nonempty : digits ≠ []
  digits : ∀ digit ∈ digits, isDecimalDigit digit = true

/-- Three rows of digits with dots between them. -/
inductive Triple : List Char → Prop where
  | dotted
      {major minor patch : List Char}
      (first : DigitRow major)
      (second : DigitRow minor)
      (third : DigitRow patch) :
      Triple (major ++ '.' :: (minor ++ '.' :: patch))

/-- Digits are read up to where they end, and there has to be one. -/
theorem digits?_eq_some_iff {text digits rest : List Char} :
    digits? text = some (digits, rest) ↔
      digits ≠ [] ∧ CutAt isDecimalDigit text digits rest := by
  have cut := cutAt_span isDecimalDigit text
  constructor
  · intro found
    unfold digits? at found
    split at found
    · cases found
    · rename_i nonempty
      cases found
      exact ⟨nonempty, cut⟩
  · rintro ⟨nonempty, cut⟩
    unfold digits?
    rw [cut.takeWhile_eq, cut.dropWhile_eq]
    split
    · exact absurd rfl nonempty
    · rfl

theorem afterDot?_eq_some_iff {text rest : List Char} :
    afterDot? text = some rest ↔ text = '.' :: rest := by
  constructor
  · intro found
    unfold afterDot? at found
    split at found
    · cases found
      rfl
    · cases found
  · rintro rfl
    rfl

/-- The three rows are taken as far as they go. -/
theorem leadingRelease?_eq_some_iff {core release : List Char} :
    leadingRelease? core = some release ↔
      Triple release ∧ ∃ rest, core = release ++ rest ∧
        NoneLeads isDecimalDigit rest := by
  constructor
  · intro found
    simp only [leadingRelease?, Option.bind_eq_bind, Option.bind_eq_some_iff,
      Prod.exists, Option.pure_def, Option.some.injEq] at found
    obtain ⟨major, afterMajor, isMajor, minorOn, dot, minor, afterMinor,
      isMinor, patchOn, secondDot, patch, rest, isPatch, rfl⟩ := found
    obtain ⟨someMajor, cutMajor⟩ := digits?_eq_some_iff.mp isMajor
    obtain ⟨someMinor, cutMinor⟩ := digits?_eq_some_iff.mp isMinor
    obtain ⟨somePatch, cutPatch⟩ := digits?_eq_some_iff.mp isPatch
    refine
      ⟨.dotted ⟨someMajor, cutMajor.front⟩ ⟨someMinor, cutMinor.front⟩
        ⟨somePatch, cutPatch.front⟩, rest, ?_, cutPatch.rest⟩
    rw [cutMajor.whole, afterDot?_eq_some_iff.mp dot, cutMinor.whole,
      afterDot?_eq_some_iff.mp secondDot, cutPatch.whole]
    simp
  · rintro ⟨⟨first, second, third⟩, rest, rfl, none⟩
    rename_i major minor patch
    have dotLeads :
        ∀ later : List Char, NoneLeads isDecimalDigit ('.' :: later) :=
      fun later => noneLeads_cons.mpr not_isDecimalDigit_dot
    have isMajor :
        digits? (major ++ '.' :: (minor ++ '.' :: patch) ++ rest) =
          some (major, '.' :: (minor ++ '.' :: patch) ++ rest) :=
      digits?_eq_some_iff.mpr
        ⟨first.nonempty, List.append_assoc .., first.digits, dotLeads _⟩
    have isMinor :
        digits? (minor ++ '.' :: patch ++ rest) =
          some (minor, '.' :: patch ++ rest) :=
      digits?_eq_some_iff.mpr
        ⟨second.nonempty, List.append_assoc .., second.digits, dotLeads _⟩
    have isPatch : digits? (patch ++ rest) = some (patch, rest) :=
      digits?_eq_some_iff.mpr ⟨third.nonempty, rfl, third.digits, none⟩
    rw [leadingRelease?, isMajor]
    show (digits? (minor ++ '.' :: patch ++ rest) >>= _) = _
    rw [isMinor]
    show (digits? (patch ++ rest) >>= _) = _
    rw [isPatch]
    rfl

namespace Triple

/-- A triple begins and ends with a digit. -/
theorem ends
    {release : List Char}
    (triple : Triple release) :
    (∃ first others, release = first :: others ∧ isDecimalDigit first = true) ∧
      ∃ front last, release = front ++ [last] ∧ isDecimalDigit last = true := by
  obtain ⟨first, second, third⟩ := triple
  rename_i major minor patch
  constructor
  · obtain ⟨head, tail, rfl⟩ := List.exists_cons_of_ne_nil first.nonempty
    exact ⟨head, _, rfl, first.digits head List.mem_cons_self⟩
  · refine
      ⟨major ++ '.' :: (minor ++ '.' :: patch.dropLast),
        patch.getLast third.nonempty, ?_,
        third.digits _ (List.getLast_mem third.nonempty)⟩
    simp [List.dropLast_concat_getLast]

/--
A triple is not decorated, and decoration in front of more text is not
decoration.
-/
theorem bare_self
    {release : List Char}
    (triple : Triple release) :
    Bare release release := by
  obtain ⟨⟨first, others, starts, leading⟩, front, last, stops, trailing⟩ :=
    triple.ends
  have blankless : NoneLeads isBlank release := by
    rw [starts]
    exact noneLeads_cons.mpr (isBlank_of_isDecimalDigit leading)
  have endless : ∀ character ∈ release.getLast?, isBlank character = false := by
    simp [stops, isBlank_of_isDecimalDigit trailing]
  have unlettered : release.head? ≠ some 'v' := by
    simpa [starts] using ne_v_of_isDecimalDigit leading
  simpa using
    Bare.within [] [] release [] nofun nofun nofun blankless endless unlettered

/-- What follows a triple may go on with its last row. -/
theorem extend
    {release : List Char}
    (triple : Triple release)
    (tail : List Char) :
    ∃ longer rest,
      release ++ tail = longer ++ rest ∧ Triple longer ∧
        NoneLeads isDecimalDigit rest := by
  obtain ⟨first, second, third⟩ := triple
  have cut := cutAt_span isDecimalDigit tail
  refine
    ⟨_, tail.dropWhile isDecimalDigit, ?_,
      .dotted first second
        ⟨List.append_ne_nil_of_left_ne_nil third.nonempty
          (tail.takeWhile isDecimalDigit),
            List.forall_mem_append.mpr ⟨third.digits, cut.front⟩⟩,
      cut.rest⟩
  simp only [List.append_assoc, List.cons_append,
    List.takeWhile_append_dropWhile]

/--
A text that begins with a triple has nothing to be taken off in front of it.
-/
theorem exists_release
    {release tail core : List Char}
    (triple : Triple release)
    (bare : Bare (release ++ tail) core) :
    ∃ longer, leadingRelease? core = some longer := by
  obtain ⟨longer, rest, whole, isTriple, none⟩ := triple.extend tail
  obtain ⟨⟨first, others, starts, leading⟩, front, last, stops, trailing⟩ :=
    isTriple.ends
  rw [whole] at bare
  generalize shape : longer ++ rest = text at bare
  obtain ⟨left, letters, core, right, blankLeft, blankRight, lettered, _, _,
    _⟩ := bare
  have noLeft : left = [] := by
    cases left with
    | nil =>
        rfl
    | cons blank later =>
        rw [starts] at shape
        obtain ⟨rfl, _⟩ := List.cons.inj shape
        exact
          absurd (blankLeft first List.mem_cons_self)
            (by simp [isBlank_of_isDecimalDigit leading])
  have noLetters : letters = [] := by
    cases letters with
    | nil =>
        rfl
    | cons letter later =>
        rw [starts, noLeft] at shape
        obtain ⟨rfl, _⟩ := List.cons.inj shape
        exact absurd (lettered first List.mem_cons_self)
          (ne_v_of_isDecimalDigit leading)
  subst noLeft noLetters
  -- The white space at the end cannot reach into the triple, which ends with a
  -- digit.
  rcases List.append_eq_append_iff.mp shape with
    ⟨kept, isCore, isRest⟩ | ⟨lost, isLonger, isRight⟩
  · have isCore : core = longer ++ kept := isCore
    refine
      ⟨longer, leadingRelease?_eq_some_iff.mpr ⟨isTriple, kept, isCore, ?_⟩⟩
    intro next leads
    refine none next ?_
    rw [isRest, List.head?_append, Option.mem_def.mp leads]
    rfl
  · have isLonger : longer = core ++ lost := isLonger
    have noLost : lost = [] := by
      rcases List.eq_nil_or_concat lost with nothing | ⟨earlier, final, rfl⟩
      · exact nothing
      · have same : last = final := by
          have lasts := congrArg List.getLast? (stops.symm.trans isLonger)
          simpa using lasts
        have blank := blankRight final (by simp [isRight])
        rw [← same, isBlank_of_isDecimalDigit trailing] at blank
        cases blank
    subst noLost
    refine ⟨longer,
      leadingRelease?_eq_some_iff.mpr ⟨isTriple, [], ?_, noneLeads_nil⟩⟩
    simpa using isLonger.symm

end Triple

/-! ## Numerals -/

open Json.NumberLiteral (Row row_toDigits head?_toDigits)

/-- An ASCII digit is the one that stands for its value. -/
theorem digitChar_value
    {digit : Char}
    (isDigit : digit.isDigit = true) :
    digit.toNat - 48 < 10 ∧ Nat.digitChar (digit.toNat - 48) = digit := by
  simp only [Char.isDigit, ge_iff_le, Bool.and_eq_true,
    decide_eq_true_eq] at isDigit
  have lower : 48 ≤ digit.toNat := isDigit.1
  have upper : digit.toNat ≤ 57 := isDigit.2
  have shown :
      ∀ offset < 10, Nat.digitChar offset = Char.ofNat (48 + offset) := by
    decide
  have small : digit.toNat - 48 < 10 := by omega
  have same : 48 + (digit.toNat - 48) = digit.toNat := by omega
  exact ⟨small, by rw [shown _ small, same, Char.ofNat_toNat]⟩

/--
A row of ASCII digits without a superfluous zero is the numeral of its value.
-/
theorem toDigits_numeral
    {digits : List Char}
    (row : Row digits)
    (lone : digits.head? = some '0' → digits = ['0']) :
    Nat.toDigits 10 (numeral digits) = digits := by
  induction digits using List.reverseRecOn with
  | nil =>
      exact absurd rfl row.nonempty
  | append_singleton front last inductionHypothesis =>
      obtain ⟨small, shown⟩ := digitChar_value (row.digits last (by simp))
      have value : numeral (front ++ [last]) =
        10 * numeral front + (last.toNat - 48) := by
        simp [numeral, Nat.ofDigitChars_append, Nat.ofDigitChars_cons]
      have single : Nat.toDigits 10 (last.toNat - 48) = [last] := by
        rw [Nat.toDigits_of_lt_base small, shown]
      by_cases isFirst : front = []
      · subst isFirst
        rw [value]
        simpa [numeral] using single
      · have frontRow : Row front :=
          ⟨isFirst,
            fun _ member => row.digits _ (List.mem_append_left _ member)⟩
        have noZero : front.head? ≠ some '0' := by
          intro zero
          have whole := lone (by rw [frontRow.head?_append, zero])
          simp [List.append_eq_singleton_iff, isFirst] at whole
        have earlier :=
          inductionHypothesis frontRow fun zero => absurd zero noZero
        have positive : 0 < numeral front := by
          refine Nat.pos_of_ne_zero fun zero => noZero ?_
          rw [← earlier, zero]
          rfl
        rw [value, ← Nat.toDigits_append_toDigits (by decide) positive small,
          earlier, single]

/-- A number is read just if its numeral stands at the front of the text. -/
theorem number_eq_ok_iff
    {part : Part}
    {text rest : List Char}
    {value : Nat} :
    number part text = .ok (value, rest) ↔
      value < UInt64.size ∧
        CutAt Char.isDigit text (Nat.toDigits 10 value) rest := by
  have cut := cutAt_span Char.isDigit text
  constructor
  · intro read
    unfold number at read
    split at read
    · split at read <;> cases read
    · cases read
    · rename_i nonempty more
      split at read
      · rename_i fits
        cases read
        have lone :
            (text.takeWhile Char.isDigit).head? = some '0' →
              text.takeWhile Char.isDigit = ['0'] := by
          intro zero
          cases isRow : text.takeWhile Char.isDigit with
          | nil =>
              exact absurd isRow nonempty
          | cons first others =>
              rw [isRow] at zero
              cases zero
              cases others with
              | nil =>
                  rfl
              | cons second later =>
                  exact (more second later isRow).elim
        rw [toDigits_numeral ⟨nonempty, cut.front⟩ lone]
        exact ⟨fits, cut⟩
      · cases read
  · rintro ⟨fits, cut⟩
    have isValue : numeral (Nat.toDigits 10 value) = value :=
      Nat.ofDigitChars_toDigits (by decide) (by decide)
    unfold number
    rw [cut.takeWhile_eq, cut.dropWhile_eq]
    split
    · rename_i nothing
      exact absurd nothing Nat.toDigits_ne_nil
    · rename_i second others more
      have lone :=
        (Json.NumberLiteral.Spelling.ofNat value).lone
          (congrArg List.head? more)
      cases more.symm.trans lone
    · rw [isValue, if_pos fits]

theorem dotAfter_eq_ok_iff
    {part : Part}
    {text rest : List Char} :
    dotAfter part text = .ok rest ↔ text = '.' :: rest := by
  constructor
  · intro read
    unfold dotAfter at read
    split at read
    · cases read
    · split at read
      · rename_i isDot
        cases read
        rw [isDot]
      · cases read
  · rintro rfl
    rfl

/-- The text of a release is three numerals with dots between them. -/
theorem toList_text_release (major minor patch : Nat) :
    (release major minor patch).text.toList =
      Nat.toDigits 10 major ++
        '.' :: (Nat.toDigits 10 minor ++ '.' :: Nat.toDigits 10 patch) := by
  simp [text, release, Nat.toString_eq_repr, Nat.toList_repr]

theorem triple_text_release (major minor patch : Nat) :
    Triple (release major minor patch).text.toList := by
  have row : ∀ value, DigitRow (Nat.toDigits 10 value) := fun value =>
    ⟨(row_toDigits value).nonempty, fun digit member =>
      isDecimalDigit_of_isDigit ((row_toDigits value).digits digit member)⟩
  rw [toList_text_release]
  exact .dotted (row major) (row minor) (row patch)

/--
A strict reader takes the texts of releases below `2 ^ 64` and nothing else.
-/
theorem ofRelease_eq_ok_iff
    {text : List Char}
    {version : Version} :
    ofRelease text = .ok version ↔
      ∃ major minor patch,
        (major < UInt64.size ∧ minor < UInt64.size ∧ patch < UInt64.size) ∧
          version = release major minor patch ∧
          text = (release major minor patch).text.toList := by
  constructor
  · intro read
    unfold ofRelease at read
    split at read
    · cases read
    · simp only [bind_eq_ok, Prod.exists] at read
      obtain ⟨major, afterMajor, isMajor, minorOn, dot, minor, afterMinor,
        isMinor, patchOn, secondDot, patch, rest, isPatch, ends⟩ := read
      obtain ⟨fitsMajor, cutMajor⟩ := number_eq_ok_iff.mp isMajor
      obtain ⟨fitsMinor, cutMinor⟩ := number_eq_ok_iff.mp isMinor
      obtain ⟨fitsPatch, cutPatch⟩ := number_eq_ok_iff.mp isPatch
      split at ends
      · cases ends
        refine ⟨major, minor, patch, ⟨fitsMajor, fitsMinor, fitsPatch⟩, rfl, ?_⟩
        rw [toList_text_release, cutMajor.whole, dotAfter_eq_ok_iff.mp dot,
          cutMinor.whole, dotAfter_eq_ok_iff.mp secondDot, cutPatch.whole,
          List.append_nil]
      · cases ends
  · rintro ⟨major, minor, patch, ⟨fitsMajor, fitsMinor, fitsPatch⟩, rfl, rfl⟩
    have cut :
        ∀ (value : Nat) (rest : List Char),
          NoneLeads Char.isDigit rest →
          CutAt Char.isDigit (Nat.toDigits 10 value ++ rest)
            (Nat.toDigits 10 value) rest :=
      fun value rest none => ⟨rfl, (row_toDigits value).digits, none⟩
    have dot : ∀ rest, NoneLeads Char.isDigit ('.' :: rest) :=
      fun rest => noneLeads_cons.mpr (by decide)
    have isPatch : number .patch (Nat.toDigits 10 patch) = .ok (patch, []) := by
      refine number_eq_ok_iff.mpr ⟨fitsPatch, ?_⟩
      simpa using cut patch [] noneLeads_nil
    rw [toList_text_release, ofRelease, if_neg (by simp)]
    simp only [bind_eq_ok, Prod.exists]
    exact
      ⟨major, _, number_eq_ok_iff.mpr ⟨fitsMajor, cut major _ (dot _)⟩,
        _, dotAfter_eq_ok_iff.mpr rfl,
        minor, _, number_eq_ok_iff.mpr ⟨fitsMinor, cut minor _ (dot _)⟩,
        _, dotAfter_eq_ok_iff.mpr rfl,
        patch, [], isPatch, rfl⟩

/-! ## What is read -/

/--
A text is a release with decoration around it; no more digits follow its
numbers.
-/
def Decorates
    (text : String)
    (version : Version) : Prop :=
  ∃ rest,
    Bare text.toList (version.text.toList ++ rest) ∧
      NoneLeads isDecimalDigit rest

/--
A text that begins with a triple, apart from its decoration, is truncated to it.
-/
theorem truncate_of_triple
    {text : String}
    {release rest : List Char}
    (triple : Triple release)
    (bare : Bare text.toList (release ++ rest))
    (none : NoneLeads isDecimalDigit rest) :
    truncate text = String.ofList release := by
  have found := leadingRelease?_eq_some_iff.mpr ⟨triple, rest, rfl, none⟩
  rw [truncate, bare_iff.mp bare, found]

/-- A triple is what is left of it. -/
theorem truncate_ofList
    {release : List Char}
    (triple : Triple release) :
    truncate (String.ofList release) = String.ofList release := by
  refine truncate_of_triple triple ?_ noneLeads_nil
  simpa using triple.bare_self

/-- A text is truncated to its triple, or has none and is left whole. -/
theorem truncate_cases (text : String) :
    (∃ release rest,
        Triple release ∧
          Bare text.toList (release ++ rest) ∧
          NoneLeads isDecimalDigit rest ∧
          truncate text = String.ofList release) ∨
      (leadingRelease? (undecorated text.toList) = none ∧
        truncate text = text) := by
  cases found : leadingRelease? (undecorated text.toList) with
  | none =>
      exact Or.inr ⟨rfl, by rw [truncate, found]⟩
  | some release =>
      obtain ⟨triple, rest, whole, none⟩ := leadingRelease?_eq_some_iff.mp found
      have bare := bare_iff.mpr whole
      exact Or.inl
        ⟨release, rest, triple, bare, none, truncate_of_triple triple bare none⟩

/-- What is left of a text is all that is left of it. -/
theorem truncate_truncate (text : String) :
    truncate (truncate text) = truncate text := by
  rcases truncate_cases text with
    ⟨release, rest, triple, _, _, same⟩ | ⟨_, same⟩
  · rw [same, truncate_ofList triple]
  · rw [same, same]

theorem parse_eq_ok_iff
    {text : String}
    {version : Version} :
    parse text = .ok version ↔
      ofRelease (truncate text).toList = .ok version := by
  unfold parse
  cases ofRelease (truncate text).toList with
  | error reason =>
      exact ⟨nofun, nofun⟩
  | ok found =>
      simp [Except.mapError]

/-- What cannot be read is a failure that says what was being done. -/
theorem parse_cases (text : String) :
    (∃ major minor patch,
        (major < UInt64.size ∧ minor < UInt64.size ∧ patch < UInt64.size) ∧
          parse text = .ok (release major minor patch)) ∨
      ∃ detail, parse text =
        .error (.during "Failed to parse compiler version" detail) := by
  have activity :
      ∀ cause,
        Failure.whileDoing "Failed to parse compiler version" cause =
          .during "Failed to parse compiler version" cause :=
    fun cause => congrArg (Failure.during · cause) (by decide +kernel)
  cases read : ofRelease (truncate text).toList with
  | error reason =>
      refine Or.inr ⟨reason.message, ?_⟩
      rw [parse, read, ← activity]
      rfl
  | ok version =>
      obtain ⟨major, minor, patch, fits, isRelease, _⟩ :=
        ofRelease_eq_ok_iff.mp read
      exact
        Or.inl ⟨major, minor, patch, fits, isRelease ▸ parse_eq_ok_iff.mpr read⟩

/-- A text that is left whole does not begin with the numerals of a release. -/
theorem ne_of_leadingRelease?_eq_none
    {text release tail : List Char}
    (nothing : leadingRelease? (undecorated text) = none)
    (triple : Triple release) :
    text ≠ release ++ tail := by
  rintro rfl
  obtain ⟨longer, found⟩ := triple.exists_release (bare_iff.mpr rfl)
  rw [nothing] at found
  cases found

/-- A release is read just where it stands with decoration around it. -/
theorem parse_eq_release_iff
    {text : String}
    {major minor patch : Nat}
    (fits : major < UInt64.size ∧ minor < UInt64.size ∧ patch < UInt64.size) :
    parse text = .ok (release major minor patch) ↔
      Decorates text (release major minor patch) := by
  have triple := triple_text_release major minor patch
  rw [parse_eq_ok_iff, ofRelease_eq_ok_iff]
  constructor
  · rintro ⟨_, _, _, _, same, isText⟩
    rw [← same] at isText
    rcases truncate_cases text with
      ⟨found, rest, _, bare, none, left⟩ | ⟨nothing, left⟩
    · rw [left, String.toList_ofList] at isText
      exact ⟨rest, isText ▸ bare, none⟩
    · rw [left] at isText
      exact
        absurd (isText.trans (List.append_nil _).symm)
          (ne_of_leadingRelease?_eq_none nothing triple)
  · rintro ⟨rest, bare, none⟩
    refine ⟨major, minor, patch, fits, rfl, ?_⟩
    rw [truncate_of_triple triple bare none, String.toList_ofList]

/-- The characters of a triple are digits and dots. -/
theorem Triple.mem
    {release : List Char}
    (triple : Triple release)
    {character : Char}
    (member : character ∈ release) :
    isDecimalDigit character = true ∨ character = '.' := by
  obtain ⟨first, second, third⟩ := triple
  simp only [List.mem_append, List.mem_cons] at member
  rcases member with inFirst | rfl | inSecond | rfl | inThird
  · exact Or.inl (first.digits _ inFirst)
  · exact Or.inr rfl
  · exact Or.inl (second.digits _ inSecond)
  · exact Or.inr rfl
  · exact Or.inl (third.digits _ inThird)

/--
What is left of a text is no release with a tag, which begins with a sign.
-/
theorem untagged_truncate
    {text : String}
    {release tail : List Char}
    {sign : Char}
    (triple : Triple release)
    (isSign : sign = '-' ∨ sign = '+') :
    (truncate text).toList ≠ release ++ sign :: tail := by
  intro shape
  rcases truncate_cases text with
    ⟨found, rest, isTriple, _, _, left⟩ | ⟨nothing, left⟩
  · rw [left, String.toList_ofList] at shape
    have member : sign ∈ found := by
      simp [shape]
    rcases isSign with rfl | rfl
    · exact absurd (isTriple.mem member) (by decide)
    · exact absurd (isTriple.mem member) (by decide)
  · rw [left] at shape
    exact ne_of_leadingRelease?_eq_none nothing triple shape

/--
Only decorated releases are read.  A text is read as three numbers of 64 bits
just if it has their numerals, joined by dots, after its decoration and before
anything but another digit; any other text is a failure.  The answer is that of
the three rows of digits alone, whatever follows them, and what is left of a
text is all that is left of it.

A text that has no such rows is left whole and never read.  It does not even
begin with the numerals of a release, and what is left of any text has no tag of
a pre-release or a build, so the answers are those of a reader that takes such
tags.
-/
theorem parse_reads_decorated_releases (text : String) :
    (∀ major minor patch,
        major < UInt64.size ∧ minor < UInt64.size ∧ patch < UInt64.size →
        (parse text = .ok (release major minor patch) ↔
          Decorates text (release major minor patch))) ∧
      ((∀ major minor patch,
          major < UInt64.size ∧ minor < UInt64.size ∧ patch < UInt64.size →
          ¬ Decorates text (release major minor patch)) →
        ∃ detail, parse text =
          .error (.during "Failed to parse compiler version" detail)) ∧
      (∀ rows rest,
        Triple rows →
        Bare text.toList (rows ++ rest) →
        NoneLeads isDecimalDigit rest →
        parse text = parse (String.ofList rows)) ∧
      truncate (truncate text) = truncate text ∧
      ((∀ rows rest, Triple rows → ¬ Bare text.toList (rows ++ rest)) →
        truncate text = text ∧
          (∃ detail, parse text =
            .error (.during "Failed to parse compiler version" detail)) ∧
          ∀ major minor patch tail,
            text.toList ≠ (release major minor patch).text.toList ++ tail) ∧
      ∀ major minor patch sign tail,
        sign = '-' ∨ sign = '+' →
        (truncate text).toList ≠
          (release major minor patch).text.toList ++ sign :: tail := by
  refine
    ⟨fun major minor patch fits => parse_eq_release_iff fits,
      fun undecorated => ?_,
      fun rows rest triple bare none =>
        ?_, truncate_truncate text, fun rowless => ?_,
      fun major minor patch sign tail isSign =>
        untagged_truncate (triple_text_release major minor patch) isSign⟩
  · rcases parse_cases text with ⟨major, minor, patch, fits, read⟩ | failed
    · exact absurd ((parse_eq_release_iff fits).mp read)
        (undecorated major minor patch fits)
    · exact failed
  · rw [parse, parse, truncate_of_triple triple bare none,
      truncate_ofList triple]
  · rcases truncate_cases text with
      ⟨rows, rest, triple, bare, _, _⟩ | ⟨nothing, left⟩
    · exact absurd bare (rowless rows rest triple)
    · refine ⟨left, ?_, fun major minor patch tail =>
        ne_of_leadingRelease?_eq_none nothing
          (triple_text_release major minor patch)⟩
      rcases parse_cases text with ⟨major, minor, patch, fits, read⟩ | failed
      · obtain ⟨rest, bare, _⟩ := (parse_eq_release_iff fits).mp read
        exact
          absurd bare (rowless _ rest (triple_text_release major minor patch))
      · exact failed

/--
A digit of another script belongs to the last row of digits, and a sign does
not.
-/
example :
    (parse "v0.4.11-nightly").isOk = true ∧
      (parse "v0.4.11\u0663").isOk = false := by
  decide +kernel

end Version

end CompilerSession
