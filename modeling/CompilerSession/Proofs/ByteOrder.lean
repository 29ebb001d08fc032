import Mathlib.Data.Char
import Mathlib.Data.List.Basic

namespace CompilerSession.Text

/-!
# The order of texts by their bytes

Texts are ordered by their characters.  The bytes of a character grow with it,
and differ before either row of bytes ends, so the bytes of texts have the same
order.
-/

/-- The bytes of a text. -/
def bytes (text : String) : List UInt8 :=
  text.toUTF8.data.toList

/-- The bytes of a text are those of its characters, one after another. -/
theorem bytes_eq
    (text : String) :
    bytes text = text.toList.flatMap String.utf8EncodeChar := by
  rw [bytes, String.toUTF8_eq_toByteArray, ← String.ofList_toList (s := text),
    String.toByteArray_ofList, List.utf8Encode, List.toList_data_toByteArray,
    String.toList_ofList]

/-- Every character stands below the end of the Unicode range. -/
theorem value_lt (character : Char) : character.val.toNat < 1114112 := by
  rcases character.valid with low | ⟨-, high⟩
  · exact Nat.lt_trans low (by decide)
  · exact high

/-- The bytes of a lower character are lower, whatever follows them. -/
theorem encodeChar_lt
    {lower upper : Char}
    (less : lower < upper)
    (left right : List UInt8) :
    String.utf8EncodeChar lower ++ left <
      String.utf8EncodeChar upper ++ right := by
  have below : lower.val.toNat < upper.val.toNat := less
  have bound := value_lt upper
  unfold String.utf8EncodeChar
  generalize lower.val.toNat = first at below
  generalize upper.val.toNat = second at below bound
  -- Every byte is a digit to the base 64 with a mark, so all of it is written
  -- over the quotients.
  have fronts (number : Nat) :
      number / 4096 = number / 64 / 64 ∧
        number / 262144 = number / 64 / 64 / 64 := by
    omega
  simp only [fronts]
  split_ifs <;>
    simp only [List.cons_append, List.nil_append, List.cons_lt_cons_iff,
      UInt8.lt_iff_toNat_lt, ← UInt8.toNat_inj, UInt8.toNat_ofNat'] <;>
    omega

theorem encode_lt
    {left right : List Char}
    (less : left < right) :
    left.flatMap String.utf8EncodeChar <
      right.flatMap String.utf8EncodeChar := by
  induction left generalizing right with
  | nil =>
      cases right with
      | nil =>
          cases less
      | cons upper right =>
          obtain ⟨byte, rest, shape⟩ :=
            List.exists_cons_of_ne_nil
              (String.utf8EncodeChar_ne_nil (c := upper))
          rw [List.flatMap_cons, shape]
          exact List.nil_lt_cons byte _
  | cons lower left inductionHypothesis =>
      cases right with
      | nil =>
          cases less
      | cons upper right =>
          rw [List.flatMap_cons, List.flatMap_cons]
          rcases List.cons_lt_cons_iff.mp less with below | ⟨rfl, rest⟩
          · exact encodeChar_lt below _ _
          · exact List.append_left_lt (inductionHypothesis rest)

/-- The order of texts is that of their bytes. -/
theorem bytes_lt_iff
    {left right : String} :
    bytes left < bytes right ↔ left < right := by
  rw [bytes_eq, bytes_eq, String.lt_iff]
  refine ⟨fun less => ?_, encode_lt⟩
  by_contra notLess
  rcases List.le_iff_lt_or_eq.mp (List.not_lt.mp notLess) with above | same
  · exact List.lt_asymm less (encode_lt above)
  · rw [same] at less
    exact List.lt_irrefl _ less

end CompilerSession.Text
