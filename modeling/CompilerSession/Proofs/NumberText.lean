import CompilerSession.Json.Number
import Mathlib.Data.Char

namespace CompilerSession.Json

/-!
# Numbers that are read from their texts

Whatever number is written, its text is one literal to a reader, which takes all
of it up to the mark that follows.  An integer is spelled by its digits, a
double by digits around a point, an exponent, or both, and no such row of digits
begins with a zero that does not stand alone.

The literal of an integer stands for that integer again.  Of a double no more is
said than that its text has a literal.
-/

/-- A number as a reader takes it from its text. -/
def Number.literal : Number → NumberLiteral
  | .integer (.ofNat value) _ => ⟨false, Nat.toDigits 10 value, [], none⟩
  | .integer (.negSucc value) _ => ⟨true, Nat.toDigits 10 (value + 1), [], none⟩
  | .double value =>
    ((NumberLiteral.read? value.render).map Prod.fst).getD ⟨false, [], [], none⟩

/--
What stands after a number: the end of the text, or a mark that ends a value.
-/
def Delimited (rest : List Char) : Prop :=
  ∀ next ∈ rest.head?, next = ',' ∨ next = ']' ∨ next = '}'

namespace NumberLiteral

/-! ## Rows of digits -/

/-- A row of digits, of one at least. -/
structure Row (text : List Char) : Prop where
  nonempty : text ≠ []
  digits : ∀ digit ∈ text, digit.isDigit = true

/-- A text that does not begin with a digit. -/
def Digitless (rest : List Char) : Prop :=
  ∀ next ∈ rest.head?, next.isDigit = false

theorem row_toDigits (value : Nat) : Row (Nat.toDigits 10 value) where
  nonempty := Nat.toDigits_ne_nil
  digits := fun _ => Nat.isDigit_of_mem_toDigits (by decide) (by decide)

theorem row_zero : Row ['0'] where
  nonempty := List.cons_ne_nil _ _
  digits := List.forall_mem_singleton.mpr rfl

/-- A row goes on with any digits. -/
theorem Row.append
    {first second : List Char}
    (row : Row first)
    (digits : ∀ digit ∈ second, digit.isDigit = true) :
    Row (first ++ second) where
  nonempty := List.append_ne_nil_of_left_ne_nil row.nonempty second
  digits := List.forall_mem_append.mpr ⟨row.digits, digits⟩

/-- The front of a row is a row if anything is taken. -/
theorem Row.take
    {text : List Char}
    {count : Nat}
    (row : Row text)
    (some : 0 < count) :
    Row (text.take count) where
  nonempty := by
    simp [row.nonempty, Nat.ne_of_gt some]
  digits digit member := row.digits digit (List.mem_of_mem_take member)

/-- The back of a row is a row if anything is left. -/
theorem Row.drop
    {text : List Char}
    {count : Nat}
    (row : Row text)
    (more : count < text.length) :
    Row (text.drop count) where
  nonempty := by
    simpa using more
  digits digit member := row.digits digit (List.mem_of_mem_drop member)

theorem row_replicate
    {count : Nat}
    {digit : Char}
    (isDigit : digit.isDigit = true) :
    ∀ other ∈ List.replicate count digit, other.isDigit = true := by
  intro other member
  rw [List.eq_of_mem_replicate member]
  exact isDigit

/-- A row that goes on begins as it does alone. -/
theorem Row.head?_append
    {text : List Char}
    (row : Row text)
    (rest : List Char) :
    (text ++ rest).head? = text.head? := by
  cases text with
  | nil =>
      exact absurd rfl row.nonempty
  | cons first others =>
      rfl

/-- No natural number but zero is written with a zero in front. -/
theorem head?_toDigits
    {value : Nat}
    (positive : 0 < value) :
    (Nat.toDigits 10 value).head? ≠ some '0' := by
  induction value using Nat.strongRecOn with
  | ind value inductionHypothesis =>
      rw [Nat.toDigits_eq_if (by decide)]
      split
      · rename_i small
        have digits : ∀ digit < 10, 0 < digit → Nat.digitChar digit ≠ '0' := by
          decide
        simpa using digits value small positive
      · rename_i large
        rw [(row_toDigits (value / 10)).head?_append]
        exact inductionHypothesis (value / 10) (by omega) (by omega)

/-- What ends a number begins with no digit. -/
theorem digitless_of_delimited
    {rest : List Char}
    (delimited : Delimited rest) :
    Digitless rest := by
  intro next first
  rcases delimited next first with rfl | rfl | rfl
  all_goals decide

/-- A row of digits is taken as a whole. -/
theorem Row.digits?_append
    {text rest : List Char}
    (row : Row text)
    (digitless : Digitless rest) :
    digits? (text ++ rest) = some (text, rest) := by
  have none : rest.takeWhile Char.isDigit = [] := by
    cases rest with
    | nil =>
        rfl
    | cons next later =>
        simp [digitless next rfl]
  have all : rest.dropWhile Char.isDigit = rest := by
    cases rest with
    | nil =>
        rfl
    | cons next later =>
        simp [digitless next rfl]
  rw [digits?, List.takeWhile_append_of_pos row.digits,
    List.dropWhile_append_of_pos row.digits, none, all, List.append_nil]
  split
  · exact absurd rfl row.nonempty
  · rfl

/--
A row that has a zero in front only if it is the zero is taken as the integer
part.
-/
theorem Row.integer?_append
    {text rest : List Char}
    (row : Row text)
    (lone : text.head? = some '0' → text = ['0'])
    (digitless : Digitless rest) :
    integer? (text ++ rest) = some (text, rest) := by
  rw [integer?, row.digits?_append digitless]
  split
  · rename_i second others after same
    obtain ⟨digits, -⟩ := Prod.mk.inj (Option.some.inj same)
    rw [digits] at lone
    cases lone rfl
  · rfl

/-! ## Spellings -/

/-- The text of a sign. -/
def signText (negative : Bool) : List Char :=
  if negative then ['-'] else []

/-- The text of the digits after the point, if there are any. -/
def pointText (fraction : List Char) : List Char :=
  if fraction.isEmpty then [] else '.' :: fraction

/-- The text of an exponent, which is a sign and a magnitude. -/
def exponentText : Option (Bool × Nat) → List Char
  | none => []
  | some (negative, magnitude) =>
    'e' :: (if negative then '-' else '+') :: Nat.toDigits 10 magnitude

/-- The value of an exponent. -/
def exponentOf : Option (Bool × Nat) → Option Int
  | none => none
  | some (negative, magnitude) =>
      some (if negative then -(magnitude : Int) else magnitude)

/-- How a magnitude is spelled; a zero in front stands alone. -/
structure Spelling where
  integer : List Char
  fraction : List Char
  exponent? : Option (Bool × Nat)
  row : Row integer
  lone : integer.head? = some '0' → integer = ['0']
  digits : ∀ digit ∈ fraction, digit.isDigit = true

/-- The text of a spelling. -/
def Spelling.text (spelling : Spelling) : List Char :=
  spelling.integer ++
    (pointText spelling.fraction ++ exponentText spelling.exponent?)

/-- The literal of a spelling with a sign. -/
def Spelling.literal
    (spelling : Spelling)
    (negative : Bool) : NumberLiteral :=
  ⟨negative, spelling.integer, spelling.fraction, exponentOf spelling.exponent?⟩

/-- The spelling of a natural number by its digits. -/
def Spelling.ofNat (value : Nat) : Spelling where
  integer := Nat.toDigits 10 value
  fraction := []
  exponent? := none
  row := row_toDigits value
  lone := by
    intro zero
    rcases Nat.eq_zero_or_pos value with rfl | positive
    · rfl
    · exact absurd zero (head?_toDigits positive)
  digits := List.forall_mem_nil _

@[simp] theorem Spelling.text_ofNat (value : Nat) :
    (Spelling.ofNat value).text = Nat.toDigits 10 value := by
  simp [Spelling.text, Spelling.ofNat, pointText, exponentText]

/-- A written exponent is read back, and nothing behind it. -/
private theorem exponentPart?_append
    {rest : List Char}
    (exponent? : Option (Bool × Nat))
    (delimited : Delimited rest) :
    exponentPart? (exponentText exponent? ++ rest) =
      some (exponentOf exponent?, rest) := by
  cases exponent? with
  | none =>
      simp only [exponentText, List.nil_append]
      unfold exponentPart?
      split
      · have letter := delimited 'e' rfl
        simp at letter
      · have letter := delimited 'E' rfl
        simp at letter
      · rfl
  | some exponent =>
      obtain ⟨negative, magnitude⟩ := exponent
      have numeral : Text.numeral (Nat.toDigits 10 magnitude) = magnitude :=
        Nat.ofDigitChars_toDigits (by decide) (by decide)
      have read :=
        (row_toDigits magnitude).digits?_append
          (digitless_of_delimited delimited)
      cases negative <;>
        simp [exponentText, exponentOf, exponentPart?, exponentValue?, read,
          numeral]

/--
Neither an exponent nor what follows a number begins with a digit or a point.
-/
private theorem ends_exponentText
    {rest : List Char}
    (exponent? : Option (Bool × Nat))
    (delimited : Delimited rest) :
    ∀ next ∈ (exponentText exponent? ++ rest).head?,
      next.isDigit = false ∧ next ≠ '.' := by
  cases exponent? with
  | none =>
      intro next first
      refine ⟨digitless_of_delimited delimited next first, ?_⟩
      rcases delimited next first with rfl | rfl | rfl
      all_goals decide
  | some exponent =>
      simp [exponentText]

private theorem fraction?_append
    {fraction rest : List Char}
    (digits : ∀ digit ∈ fraction, digit.isDigit = true)
    (ends : ∀ next ∈ rest.head?, next.isDigit = false ∧ next ≠ '.') :
    fraction? (pointText fraction ++ rest) = some (fraction, rest) := by
  cases fraction with
  | nil =>
      simp only [pointText, List.isEmpty_nil, ↓reduceIte, List.nil_append]
      unfold fraction?
      split
      · exact absurd rfl (ends '.' rfl).2
      · rfl
  | cons first others =>
      have row : Row (first :: others) :=
        ⟨List.cons_ne_nil first others, digits⟩
      exact row.digits?_append fun next head => (ends next head).1

/-- A spelling is read with its sign, up to the mark after it. -/
theorem Spelling.read?_text
    (spelling : Spelling)
    (negative : Bool)
    {rest : List Char}
    (delimited : Delimited rest) :
    read? (signText negative ++ spelling.text ++ rest) =
      some (spelling.literal negative, rest) := by
  have ends := ends_exponentText spelling.exponent? delimited
  have fraction := fraction?_append spelling.digits ends
  have digitless :
      Digitless
        (pointText spelling.fraction ++
          (exponentText spelling.exponent? ++ rest)) := by
    cases spelling.fraction with
    | nil =>
        exact fun next head => (ends next head).1
    | cons first others =>
        simp [pointText, Digitless]
  have integer := spelling.row.integer?_append spelling.lone digitless
  have unsigned :
      sign (spelling.integer ++ (pointText spelling.fraction ++
          (exponentText spelling.exponent? ++ rest))) =
        (false, spelling.integer ++ (pointText spelling.fraction ++
          (exponentText spelling.exponent? ++ rest))) := by
    unfold sign
    split
    · rename_i others shape
      have head := congrArg List.head? shape
      rw [spelling.row.head?_append] at head
      exact
        absurd (spelling.row.digits _ (List.mem_of_mem_head? head)) (by decide)
    · rfl
  cases negative with
  | false =>
      simp [read?, signText, Spelling.text, Spelling.literal, unsigned, integer,
        fraction, exponentPart?_append _ delimited]
  | true =>
      simp [read?, signText, sign, Spelling.text, Spelling.literal, integer,
        fraction, exponentPart?_append _ delimited]

end NumberLiteral

/-! ## How doubles are spelled -/

namespace Double

open NumberLiteral

/-- A point of a grid that lies in an interval above zero is above zero. -/
private theorem gridPoint?_pos
    {interval : RoundingInterval}
    {power : Int}
    {point : Nat}
    (above : 0 < interval.lower)
    (found : interval.gridPoint? power = some point) :
    0 < point := by
  unfold RoundingInterval.gridPoint? at found
  dsimp only at found
  have positive :
      0 < Nat.pow 2 interval.exponent.toNat * Nat.pow 10 (-power).toNat :=
    Nat.mul_pos (Nat.pow_pos (by decide)) (Nat.pow_pos (by decide))
  generalize Nat.pow 2 interval.exponent.toNat * Nat.pow 10 (-power).toNat =
    numerator
    at found positive
  generalize Nat.pow 2 (-interval.exponent).toNat * Nat.pow 10 power.toNat =
    denominator at found
  generalize interval.value * numerator / denominator = below at found
  cases below with
  | zero =>
      -- Zero itself lies outside, so only the point after it is left.
      have bound := Nat.mul_pos above positive
      simp only [Nat.zero_mul, Nat.not_le.mpr bound, Nat.not_lt_zero] at found
      grind
  | succ below =>
      grind

/--
A search for a point finds one above zero, or comes to an end after all its
tries.
-/
private theorem coarsestPoint_pos
    {interval : RoundingInterval}
    (above : 0 < interval.lower)
    (tries : Nat)
    (power : Int) :
    0 < (interval.coarsestPoint tries power).1 ∨
      (interval.coarsestPoint tries power).2 = power - tries := by
  induction tries generalizing power with
  | zero =>
      exact Or.inr (by simp [RoundingInterval.coarsestPoint])
  | succ tries inductionHypothesis =>
      rw [RoundingInterval.coarsestPoint]
      split
      · rename_i point found
        exact Or.inl (gridPoint?_pos above found)
      · refine (inductionHypothesis (power - 1)).imp_right fun ended => ?_
        rw [ended]
        omega

/--
Zero is the shortest decimal of no double that is not zero, unless none was
found at all.
-/
private theorem shortest_of_zero
    {double : Double}
    (nonzero : double.magnitude.1 ≠ 0)
    (zero : double.shortest.1.head? = some '0') :
    double.shortest.1 = ['0'] ∧ double.shortest.2 < 0 := by
  have above : 0 < double.roundingInterval.lower := by
    simp only [roundingInterval]
    split <;> omega
  rcases coarsestPoint_pos above 1384 309 with positive | ended
  · exact absurd zero (head?_toDigits positive)
  · refine ⟨?_, by rw [shortest, ended]; decide⟩
    rcases Nat.eq_zero_or_pos
      (double.roundingInterval.coarsestPoint 1384 309).1 with none | some
    · simp only [shortest, none]
      rfl
    · exact absurd zero (head?_toDigits some)

/-- One digit before the point, if more come after it, and an exponent. -/
private theorem exists_spelling_scientific
    {first : Char}
    {others : List Char}
    (row : Row (first :: others))
    (exponent : Int) :
    ∃ spelling : Spelling,
      first :: (pointText others ++
        ('e' :: (if exponent < 0 then '-' else '+') ::
          Nat.toDigits 10 exponent.natAbs)) =
        spelling.text := by
  obtain ⟨digit, digits⟩ := List.forall_mem_cons.mp row.digits
  refine
    ⟨{ integer := [first]
       fraction := others
       exponent? := some (decide (exponent < 0), exponent.natAbs)
       row := ⟨List.cons_ne_nil _ _, by simpa using digit⟩
       lone := fun head => by simpa using head
       digits := digits }, ?_⟩
  simp [Spelling.text, exponentText]

/-- Two rows around a point. -/
private theorem exists_spelling_pointed
    {integer fraction : List Char}
    (row : Row integer)
    (lone : integer.head? = some '0' → integer = ['0'])
    (more : Row fraction) :
    ∃ spelling : Spelling, integer ++ '.' :: fraction = spelling.text := by
  refine
    ⟨{ integer
       fraction
       exponent? := none
       row
       lone
       digits := more.digits }, ?_⟩
  simp [Spelling.text, pointText, exponentText, more.nonempty]

/-- A layout is spelled with a point, with an exponent, or with both. -/
private theorem exists_spelling_layout
    {digits : List Char}
    {power : Int}
    (row : Row digits)
    (zero : digits.head? = some '0' → digits = ['0'] ∧ power < 0) :
    ∃ spelling : Spelling, layout digits power = spelling.text := by
  unfold layout
  dsimp only
  split
  · -- The point stands behind all digits, so the zero is not among them.
    rename_i whole
    have lone :
        (digits ++ List.replicate power.toNat '0').head? = some '0' →
          digits ++ List.replicate power.toNat '0' = ['0'] := by
      intro head
      rw [row.head?_append] at head
      have below := (zero head).2
      omega
    exact exists_spelling_pointed (row.append (row_replicate rfl)) lone row_zero
  · rename_i notWhole
    split
    · -- The point stands between two digits, so there are at least two.
      rename_i inside
      have lone :
          (digits.take (digits.length + power).toNat).head? = some '0' →
            digits.take (digits.length + power).toNat = ['0'] := by
        intro head
        rw [List.head?_take, if_neg (by omega)] at head
        obtain ⟨alone, below⟩ := zero head
        rw [alone, List.length_singleton] at inside
        omega
      exact
        exists_spelling_pointed (row.take (by omega)) lone (row.drop (by omega))
    · rename_i outside
      split
      · -- The point stands before all digits.
        exact
          exists_spelling_pointed row_zero (fun _ => rfl)
            ⟨List.append_ne_nil_of_right_ne_nil _ row.nonempty,
              List.forall_mem_append.mpr ⟨row_replicate rfl, row.digits⟩⟩
      · have exponent :=
          fun first others (same : digits = first :: others) =>
            exists_spelling_scientific (same ▸ row) (digits.length + power - 1)
        split
        · exact absurd rfl row.nonempty
        · exact exponent _ _ rfl
        · rename_i first others several _
          obtain ⟨spelling, text⟩ := exponent first others rfl
          have more : others ≠ [] := several
          exact ⟨spelling, by simpa [pointText, more] using text⟩

/-- Every double is spelled with a sign and a spelling. -/
theorem exists_spelling_render (double : Double) :
    ∃ negative, ∃ spelling :
      Spelling, double.render = signText negative ++ spelling.text := by
  refine ⟨double.isNegative, ?_⟩
  unfold render
  dsimp only
  split
  · obtain ⟨spelling, same⟩ :=
      exists_spelling_pointed row_zero (fun _ => rfl) row_zero
    exact ⟨spelling, by rw [← same]; rfl⟩
  · rename_i nonzero
    obtain ⟨spelling, same⟩ :=
      exists_spelling_layout (row_toDigits _) (shortest_of_zero nonzero)
    exact ⟨spelling, by rw [← same]; rfl⟩

end Double

/-! ## Numbers -/

namespace Number

open NumberLiteral

/--
Every number is spelled with a sign and a spelling, which its literal holds.
-/
private theorem exists_spelling_render (held : Number) :
    ∃ negative, ∃ spelling : Spelling,
      held.render = signText negative ++ spelling.text ∧
        held.literal = spelling.literal negative := by
  cases held with
  | integer value fits =>
      cases value with
      | ofNat magnitude =>
          exact
            ⟨false, Spelling.ofNat magnitude, by simp [render, signText], rfl⟩
      | negSucc below =>
          exact
            ⟨true, Spelling.ofNat (below + 1), by simp [render, signText], rfl⟩
  | double value =>
      obtain ⟨negative, spelling, rendered⟩ := value.exists_spelling_render
      have read := spelling.read?_text negative (nofun : Delimited [])
      rw [List.append_nil, ← rendered] at read
      exact ⟨negative, spelling, rendered, by rw [literal, read]; rfl⟩

/-- The text of a number is read as its literal, up to the mark after it. -/
theorem read?_render
    {rest : List Char}
    (held : Number)
    (delimited : Delimited rest) :
    read? (held.render ++ rest) = some (held.literal, rest) := by
  obtain ⟨negative, spelling, rendered, literal⟩ := held.exists_spelling_render
  rw [rendered, literal, spelling.read?_text negative delimited]

/-- The text of a number begins with a sign or a digit. -/
theorem exists_render_eq_cons (held : Number) :
    ∃ first others,
      held.render = first :: others ∧ (first = '-' ∨ first.isDigit = true) := by
  obtain ⟨negative, spelling, rendered, -⟩ := held.exists_spelling_render
  cases negative with
  | true =>
      exact ⟨_, _, rendered, Or.inl rfl⟩
  | false =>
      obtain ⟨first, others, shape⟩ :=
        List.exists_cons_of_ne_nil spelling.row.nonempty
      have digit : first.isDigit = true :=
        spelling.row.digits first (by simp [shape])
      refine
        ⟨first,
          others ++
            (pointText spelling.fraction ++ exponentText spelling.exponent?),
            ?_, Or.inr digit⟩
      rw [rendered, Spelling.text, shape]
      rfl

/-- The literal of an integer stands for the integer. -/
theorem value?_literal
    (value : Int)
    (fits : -0x8000000000000000 ≤ value ∧ value < 0x10000000000000000) :
    (Number.integer value fits).literal.value? =
      some (.integer value fits) := by
  have numeral :
      ∀ magnitude, Text.numeral (Nat.toDigits 10 magnitude) = magnitude :=
    fun magnitude => Nat.ofDigitChars_toDigits (by decide) (by decide)
  cases value with
  | ofNat magnitude =>
      have bound : magnitude < 0x10000000000000000 := by
        exact Int.ofNat_lt.mp fits.2
      simp [value?, integerValue?, Number.literal, numeral, bound]
  | negSucc below =>
      have bound : below + 1 ≤ 0x8000000000000000 := by
        have lower := fits.1
        omega
      simp [value?, integerValue?, Number.literal, numeral, bound,
        Int.negSucc_eq]

end Number

end CompilerSession.Json
