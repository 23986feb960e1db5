import Mathlib.Algebra.Order.Field.Basic
import Mathlib.Tactic.Linarith
/-!
# Metered spending

A level that rises at a rate up to a cap, and from which one is taken whenever
something is let through. However the requests arrive, no window lets more
through than the cap and what flows in during it.
-/

namespace Sf4e.Lib

variable {K : Type} [Field K] [LinearOrder K]

/-- What is let through at a request. -/
def spent (K : Type) [Field K] (letThrough : Bool) : K := if letThrough then 1 else 0

/-- Requests, each with its time and whether it is let through, from a level that was right at
the time `last`. A request that is not metered is not let through. -/
inductive Metered (cap rate : K) : K → ℕ → List (ℕ × Bool) → Prop
  | nil {level : K} {last : ℕ} : Metered cap rate level last []
  | idle {level : K} {last now : ℕ} {rest : List (ℕ × Bool)} : last ≤ now → Metered cap rate level last rest →
      Metered cap rate level last ((now, false) :: rest)
  | spend {level level' : K} {last now : ℕ} {b : Bool} {rest : List (ℕ × Bool)} : last ≤ now → 0 ≤ level' →
      level' + spent K b ≤ cap → level' + spent K b ≤ level + rate * ((now - last : ℕ) : K) →
      Metered cap rate level' now rest → Metered cap rate level last ((now, b) :: rest)

namespace Metered

variable {cap rate level : K} {last start width : ℕ} {requests : List (ℕ × Bool)}

/-- A request let through in the window of this width from `start` on. -/
def inWindow (start width : ℕ) (e : ℕ × Bool) : Bool := e.2 && start ≤ e.1 && e.1 ≤ start + width

theorem times_ge (h : Metered cap rate level last requests) : ∀ e ∈ requests, last ≤ e.1 := by
  induction h with
  | nil => exact fun e he => absurd he List.not_mem_nil
  | idle hle _ ih =>
    intro e he
    rcases List.mem_cons.1 he with rfl | he
    · exact hle
    · exact ih e he
  | spend hle _ _ _ _ ih =>
    intro e he
    rcases List.mem_cons.1 he with rfl | he
    · exact hle
    · exact Nat.le_trans hle (ih e he)

/-- Behind the window nothing counts. -/
theorem count_behind (h : Metered cap rate level last requests) (hlast : start + width < last) :
    requests.countP (inWindow start width) = 0 := by
  rw [List.countP_eq_zero]
  intro e he hin
  have hge := h.times_ge e he
  simp only [inWindow, Bool.and_eq_true, decide_eq_true_eq] at hin
  omega

variable [IsStrictOrderedRing K]

/-- In the window: what is let through is paid from the level and what still flows in. -/
theorem count_inside (hrate : 0 ≤ rate) (h : Metered cap rate level last requests) (hlevel : 0 ≤ level)
    (hstart : start ≤ last) (hend : last ≤ start + width) :
    (requests.countP (inWindow start width) : K) ≤ level + rate * ((start + width - last : ℕ) : K) := by
  induction h with
  | @nil level last =>
    rw [List.countP_nil, Nat.cast_zero]
    exact add_nonneg hlevel (mul_nonneg hrate (Nat.cast_nonneg _))
  | idle _ _ ih =>
    rw [List.countP_cons_of_neg (by simp [inWindow])]
    exact ih hlevel hstart hend
  | @spend level level' last now b rest hle hlevel' hcap hflow hrest ih =>
    by_cases hnow : now ≤ start + width
    · -- what flows in until the window ends flows in before this request or after it
      have hrest' := ih hlevel' (by omega) hnow
      have hcount : (((now, b) :: rest).countP (inWindow start width) : K) ≤
          rest.countP (inWindow start width) + spent K b := by
        cases b with
        | false => rw [List.countP_cons_of_neg (by simp [inWindow])]; simp [spent]
        | true =>
          rw [List.countP_cons_of_pos (by simp [inWindow, hnow]; omega)]
          simp [spent]
      have hsplit : ((start + width - last : ℕ) : K) = ((now - last : ℕ) : K) + ((start + width - now : ℕ) : K) := by
        rw [← Nat.cast_add]
        congr 1
        omega
      rw [hsplit, mul_add]
      linarith
    · rw [List.countP_cons_of_neg (by simp [inWindow]; omega), count_behind hrest (by omega), Nat.cast_zero]
      exact add_nonneg hlevel (mul_nonneg hrate (Nat.cast_nonneg _))

/-- No window lets more through than the cap and what flows in during it. -/
theorem window_le (hcap : 0 ≤ cap) (hrate : 0 ≤ rate) (h : Metered cap rate level last requests) (hlevel : 0 ≤ level)
    (hfull : level ≤ cap) :
    (requests.countP (inWindow start width) : K) ≤ cap + rate * (width : K) := by
  induction h with
  | nil =>
    rw [List.countP_nil, Nat.cast_zero]
    exact add_nonneg hcap (mul_nonneg hrate (Nat.cast_nonneg _))
  | idle _ _ ih =>
    rw [List.countP_cons_of_neg (by simp [inWindow])]
    exact ih hlevel hfull
  | @spend level level' last now b rest hle hlevel' hcap' hflow hrest ih =>
    by_cases hin : inWindow start width (now, b) = true
    · rw [List.countP_cons_of_pos hin]
      simp only [inWindow, Bool.and_eq_true, decide_eq_true_eq] at hin
      -- the first one that counts: the level behind it is at most the cap, less one
      obtain ⟨⟨rfl, hstart⟩, hend⟩ := hin
      have hrest' := hrest.count_inside hrate hlevel' hstart hend
      have hwidth : rate * ((start + width - now : ℕ) : K) ≤ rate * (width : K) :=
        mul_le_mul_of_nonneg_left (Nat.cast_le.2 (by omega)) hrate
      rw [spent, if_pos rfl] at hcap'
      rw [Nat.cast_add, Nat.cast_one]
      linarith
    · rw [List.countP_cons_of_neg hin]
      have hspent : 0 ≤ spent K b := by
        cases b
        · exact le_refl 0
        · exact zero_le_one
      exact ih hlevel' (by linarith)

end Metered

end Sf4e.Lib
