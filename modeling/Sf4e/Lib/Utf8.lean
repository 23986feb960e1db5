import Sf4e.Lib.Json
import Mathlib.Data.List.TakeWhile
/-!
# UTF-8 text that is cut

A valid text that is cut at some byte is valid exactly when the cut is not inside
a character.
-/

namespace Sf4e.Lib

variable {s : Bytes} {n : ℕ}

/-- No character of the text goes across the cut at `n`. -/
def CutsBetween (s : Bytes) (n : ℕ) : Prop := ∀ c ∈ s[n]?, c.IsUTF8FirstByte

instance (s : Bytes) (n : ℕ) : Decidable (CutsBetween s n) :=
  Option.decidableForallMem s[n]?

theorem extract_toByteArray (s : Bytes) (n : ℕ) : s.toByteArray.extract 0 n = (s.take n).toByteArray := by
  apply ByteArray.ext
  rw [ByteArray.data_extract, List.data_toByteArray, List.data_toByteArray, List.extract_toArray, List.extract_eq_take_drop]
  rfl

theorem validUtf8_take (h : ValidUtf8 s) : ValidUtf8 (s.take n) ↔ CutsBetween s n := by
  let text : String := ⟨s.toByteArray, h⟩
  have size : text.rawEndPos.byteIdx = s.length := List.size_toByteArray
  by_cases inside : n < s.length
  · have before : (⟨n⟩ : String.Pos.Raw) < text.rawEndPos := String.Pos.Raw.lt_iff.2 (size ▸ inside)
    have cut : ValidUtf8 (s.take n) ↔ String.Pos.Raw.IsValid text ⟨n⟩ := by
      rw [String.Pos.Raw.isValid_iff_isValidUTF8_extract_zero, extract_toByteArray]
      exact (and_iff_right (String.Pos.Raw.le_of_lt before)).symm
    have byte : text.getUTF8Byte ⟨n⟩ before = s[n] := List.getElem_toByteArray
    rw [cut, String.Pos.Raw.isValid_iff_isUTF8FirstByte, or_iff_right (String.Pos.Raw.ne_of_lt before), CutsBetween,
      List.getElem?_eq_getElem inside]
    constructor
    · rintro ⟨_, first⟩ c hc
      cases hc
      exact byte ▸ first
    · intro first
      exact ⟨before, byte ▸ first s[n] rfl⟩
  · have whole : s.length ≤ n := Nat.le_of_not_lt inside
    rw [List.take_of_length_le whole, CutsBetween, List.getElem?_eq_none whole]
    exact iff_of_true h fun c hc => nomatch hc

/-- A text is cut before a character where its first NUL stands. -/
theorem validUtf8_takeWhile (h : ValidUtf8 s) : ValidUtf8 (s.takeWhile (· ≠ 0)) := by
  rw [List.takeWhile_eq_take_findIdx_not, validUtf8_take h]
  intro c hc
  obtain ⟨there, rfl⟩ := List.getElem?_eq_some_iff.1 hc
  have zero := List.findIdx_getElem (w := there)
  rw [Bool.not_eq_true', decide_eq_false_iff_not, not_not] at zero
  rw [zero]
  decide

end Sf4e.Lib
