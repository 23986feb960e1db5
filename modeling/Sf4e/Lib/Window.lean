import Mathlib.Data.Nat.ModEq
import Mathlib.Data.List.Basic
import Mathlib.Logic.Function.Basic
/-!
# Windows over past events

Events are kept as the list of their times, newest first. If each is at least
`width` after the one `k` before it, no window of that width holds more than `k`
of them (`window_le`). To know the one `k` before the next, a ring of `k` cells is
enough, written round and round (`Holds`). Multiples of a number are as far apart as
it says (`multiples_le`).
-/

namespace Sf4e.Lib

/-! ## Spacing -/

/-- The events in `[start, start + width)`. -/
def inWindow (start width : ℕ) (times : List ℕ) : List ℕ :=
  times.filter fun t => decide (start ≤ t) && decide (t < start + width)

/-- Each event is at least `width` after the one `k` before it. -/
def Spaced (k width : ℕ) : List ℕ → Prop
  | [] => True
  | t :: times => (∀ u ∈ (t :: times)[k]?, u + width ≤ t) ∧ Spaced k width times

/-- A window holds at most `k` events that are spaced so. -/
theorem window_le {k width : ℕ} {times : List ℕ} (hsorted : times.Pairwise (· ≥ ·)) (hspaced : Spaced k width times)
    (start : ℕ) : (inWindow start width times).length ≤ k := by
  induction times with
  | nil => exact Nat.zero_le k
  | cons t times ih =>
    by_cases hin : start ≤ t ∧ t < start + width
    · -- the newest is in the window, so everything `k` before it and further back is not
      have hlate : ∀ u ∈ (t :: times).drop k, ¬ start ≤ u := by
        intro u hu
        obtain ⟨i, hi, rfl⟩ := List.mem_drop_iff_getElem.1 hu
        have hfirst := hspaced.1 (t :: times)[k] (List.getElem?_eq_getElem (by omega))
        have hle : (t :: times)[k + i] ≤ (t :: times)[k] := by
          rcases Nat.eq_zero_or_pos i with rfl | hpos
          · exact le_rfl
          · exact List.pairwise_iff_getElem.1 hsorted k (k + i) _ _ (by omega)
        omega
      have hdrop : inWindow start width ((t :: times).drop k) = [] := by
        refine List.filter_eq_nil_iff.2 fun u hu => ?_
        rw [decide_eq_false (hlate u hu), Bool.false_and]
        exact Bool.false_ne_true
      calc (inWindow start width (t :: times)).length
          = (inWindow start width ((t :: times).take k ++ (t :: times).drop k)).length := by rw [List.take_append_drop]
        _ = (inWindow start width ((t :: times).take k)).length := by
            rw [inWindow, List.filter_append, ← inWindow, ← inWindow, hdrop, List.append_nil]
        _ ≤ ((t :: times).take k).length := List.length_filter_le _ _
        _ ≤ k := List.length_take_le k _
    · have hskip : inWindow start width (t :: times) = inWindow start width times :=
        List.filter_cons_of_neg (by simpa using hin)
      rw [hskip]
      exact ih hsorted.of_cons hspaced.2

/-- Rising multiples of `d` between `lo` and `hi` are no more than fit there. -/
theorem multiples_le {d lo hi : ℤ} {l : List ℤ} (hsorted : l.Pairwise (· < ·)) (hdvd : ∀ k ∈ l, d ∣ k)
    (hin : ∀ k ∈ l, lo ≤ k ∧ k ≤ hi) (hne : l ≠ []) : d * l.length ≤ hi - lo + d := by
  induction l generalizing lo with
  | nil => exact absurd rfl hne
  | cons a l ih =>
    obtain ⟨hfirst, hsorted⟩ := List.pairwise_cons.1 hsorted
    obtain ⟨hlo, hhi⟩ := hin a List.mem_cons_self
    cases l with
    | nil =>
      rw [List.length_singleton, Int.natCast_one, Int.mul_one]
      omega
    | cons b l =>
      have hnext : ∀ k ∈ b :: l, a + d ≤ k ∧ k ≤ hi := by
        intro k hk
        have hgap := Int.le_of_dvd (Int.sub_pos_of_lt (hfirst k hk))
          (Int.dvd_sub (hdvd k (List.mem_cons_of_mem _ hk)) (hdvd a List.mem_cons_self))
        exact ⟨by omega, (hin k (List.mem_cons_of_mem _ hk)).2⟩
      have hrest := ih hsorted (fun k hk => hdvd k (List.mem_cons_of_mem _ hk)) hnext (List.cons_ne_nil b l)
      rw [List.length_cons, Int.natCast_succ, Int.mul_add, Int.mul_one]
      omega

/-! ## A ring of the last stamps -/

/-- The cell that the `n`th write goes to. -/
def cell (k n : ℕ) [NeZero k] : Fin k := Fin.ofNat k n

/-- The ring holds the last `k` of what has been written, newest first in the list. -/
def Holds {α : Type} {k : ℕ} [NeZero k] (ring : Fin k → α) (written : List α) : Prop :=
  ∀ i < k, ∀ x ∈ written[i]?, ring (cell k (written.length - 1 - i)) = x

theorem holds_nil {α : Type} {k : ℕ} [NeZero k] (ring : Fin k → α) : Holds ring [] := by
  intro i _ x hx
  cases hx

/-- The last `k` writes went to different cells. -/
theorem cell_ne {k n i : ℕ} [NeZero k] (hi : i < n) (hik : i + 1 < k) : cell k (n - 1 - i) ≠ cell k n := by
  intro h
  have hmod : n % k = (n - 1 - i) % k := (congrArg Fin.val h).symm
  have hzero := Nat.sub_mod_eq_zero_of_mod_eq hmod
  rw [show n - (n - 1 - i) = i + 1 by omega, Nat.mod_eq_of_lt hik] at hzero
  omega

theorem Holds.write {α : Type} {k : ℕ} [NeZero k] {ring : Fin k → α} {written : List α} (h : Holds ring written)
    (x : α) : Holds (Function.update ring (cell k written.length) x) (x :: written) := by
  intro i hi y hy
  cases i with
  | zero =>
    cases hy
    exact Function.update_self ..
  | succ i =>
    rw [List.getElem?_cons_succ] at hy
    have hlt : i < written.length := (List.getElem?_eq_some_iff.1 hy).1
    rw [List.length_cons, show written.length + 1 - 1 - (i + 1) = written.length - 1 - i by omega,
      Function.update_of_ne (cell_ne hlt hi)]
    exact h i (by omega) y hy

/-- The next cell to be written holds what was written `k` writes ago. -/
theorem Holds.oldest {α : Type} {k : ℕ} [NeZero k] {ring : Fin k → α} {written : List α} (h : Holds ring written)
    (hk : k ≤ written.length) : written[k - 1]? = some (ring (cell k written.length)) := by
  have hpos := Nat.pos_of_ne_zero (NeZero.ne k)
  have hlt : k - 1 < written.length := by omega
  have hx := h (k - 1) (by omega) _ (List.getElem?_eq_getElem hlt)
  have hcell : cell k written.length = cell k (written.length - 1 - (k - 1)) := by
    apply Fin.ext
    show written.length % k = (written.length - 1 - (k - 1)) % k
    rw [show written.length - 1 - (k - 1) = written.length - k by omega, ← Nat.mod_eq_sub_mod hk]
  rw [hcell, hx, List.getElem?_eq_getElem hlt]

end Sf4e.Lib
