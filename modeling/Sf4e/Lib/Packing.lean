import Mathlib.Data.List.TakeDrop
import Mathlib.Data.List.Induction
/-!
# Parts packed one behind the other

The parts go into one text, each with its place and its length. Cut out there, the text gives
them back.
-/

namespace Sf4e.Lib

variable {α : Type}

def pack (parts : List (List α)) : List α × List (ℕ × ℕ) :=
  parts.foldl (fun packed part => (packed.1 ++ part, packed.2 ++ [(packed.1.length, part.length)])) ([], [])

def cut (text : List α) (range : ℕ × ℕ) : List α := (text.drop range.1).take range.2

theorem pack_concat (parts : List (List α)) (part : List α) :
    pack (parts ++ [part]) = ((pack parts).1 ++ part, (pack parts).2 ++ [((pack parts).1.length, part.length)]) := by
  simp [pack]

theorem length_pack (parts : List (List α)) : (pack parts).2.length = parts.length := by
  induction parts using List.reverseRecOn with
  | nil => rfl
  | append_singleton parts part ih => simp [pack_concat, ih]

theorem cut_append {text rest : List α} {range : ℕ × ℕ} (h : range.1 + range.2 ≤ text.length) :
    cut (text ++ rest) range = cut text range := by
  rw [cut, cut, List.drop_append_of_le_length (by omega), List.take_append_of_le_length (by simp; omega)]

/-- Each part is where the text says it is. -/
theorem cut_pack {parts : List (List α)} {i : ℕ} {part : List α} (h : parts[i]? = some part) :
    ∃ range, (pack parts).2[i]? = some range ∧ range.2 = part.length ∧
      range.1 + range.2 ≤ (pack parts).1.length ∧ cut (pack parts).1 range = part := by
  induction parts using List.reverseRecOn with
  | nil => simp at h
  | append_singleton parts last ih =>
    rw [pack_concat]
    have hlen := length_pack parts
    rcases Nat.lt_trichotomy i parts.length with hi | rfl | hi
    · rw [List.getElem?_append_left hi] at h
      obtain ⟨range, hrange, hpart, hle, hcut⟩ := ih h
      refine ⟨range, ?_, hpart, ?_, ?_⟩
      · rw [List.getElem?_append_left (by omega), hrange]
      · rw [List.length_append]
        omega
      · rw [cut_append hle, hcut]
    · obtain rfl : last = part := by simpa using h
      refine ⟨((pack parts).1.length, last.length), ?_, rfl, ?_, ?_⟩
      · rw [List.getElem?_append_right (by omega), hlen, Nat.sub_self, List.getElem?_cons_zero]
      · exact Nat.le_of_eq (List.length_append ..).symm
      · rw [cut, List.drop_left, List.take_length]
    · rw [List.getElem?_append_right (by omega)] at h
      have hpos : i - parts.length ≠ 0 := by omega
      simp [hpos] at h

/-! ## Where two texts part -/

section FirstDifference

variable [DecidableEq α]

/-- The first place where the two differ, or their length. -/
def firstDifference : List α → List α → ℕ
  | a :: as, b :: bs => if a = b then firstDifference as bs + 1 else 0
  | _, _ => 0

theorem firstDifference_eq {as bs : List α} (h : as.length = bs.length) :
    firstDifference as bs = as.length ↔ as = bs := by
  induction as generalizing bs with
  | nil => simp [firstDifference, List.eq_nil_of_length_eq_zero h.symm]
  | cons a as ih =>
    cases bs with
    | nil => simp at h
    | cons b bs =>
      rw [firstDifference, List.cons.injEq]
      split
      · rename_i hab
        simp only [hab, true_and, List.length_cons, Nat.add_right_cancel_iff]
        exact ih (Nat.succ.inj h)
      · rename_i hab
        simp [hab]

/-- Up to there they agree, and there they do not. -/
theorem firstDifference_lt {as bs : List α} (h : as.length = bs.length) (hne : as ≠ bs) :
    firstDifference as bs < as.length ∧ as.take (firstDifference as bs) = bs.take (firstDifference as bs) ∧
      as[firstDifference as bs]? ≠ bs[firstDifference as bs]? := by
  induction as generalizing bs with
  | nil => exact absurd (List.eq_nil_of_length_eq_zero h.symm).symm hne
  | cons a as ih =>
    cases bs with
    | nil => simp at h
    | cons b bs =>
      rw [firstDifference]
      split
      · rename_i hab
        obtain ⟨hlt, htake, hget⟩ := ih (Nat.succ.inj h) fun heq => hne (by rw [hab, heq])
        refine ⟨Nat.succ_lt_succ hlt, ?_, ?_⟩
        · rw [List.take_succ_cons, List.take_succ_cons, hab, htake]
        · simpa using hget
      · rename_i hab
        simpa using hab

end FirstDifference

end Sf4e.Lib
