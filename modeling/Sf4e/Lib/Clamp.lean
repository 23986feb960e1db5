import Mathlib.Algebra.Order.Field.Basic
import Mathlib.Algebra.Order.Floor.Ring
import Mathlib.Tactic.Linarith
/-!
# Parts, clamps and truncation

`Part x y` says that `x` goes some of the way from 0 to `y`: it is no larger and
not of the other sign. A clamp to a range around 0 gives a part, and is odd. So does
a truncation to whole numbers, which leaves those as they are.
-/

namespace Sf4e.Lib

variable {α : Type} [Field α] [LinearOrder α] {x y z limit : α}

/-- `x` lies between 0 and `y`. -/
def Part (x y : α) : Prop := (0 ≤ x ∧ x ≤ y) ∨ (y ≤ x ∧ x ≤ 0)

namespace Part

theorem refl (x : α) : Part x x := (le_total 0 x).imp (fun h => ⟨h, le_rfl⟩) fun h => ⟨le_rfl, h⟩

theorem zero (y : α) : Part 0 y := (le_total 0 y).imp (fun h => ⟨le_rfl, h⟩) fun h => ⟨h, le_rfl⟩

/-- What keeps the order and the zero keeps parts. -/
theorem map {β : Type} [Field β] [LinearOrder β] {f : α → β} (hmono : Monotone f) (hzero : f 0 = 0) (h : Part x y) :
    Part (f x) (f y) :=
  h.imp (fun h => ⟨hzero ▸ hmono h.1, hmono h.2⟩) fun h => ⟨hmono h.1, hzero ▸ hmono h.2⟩

variable [IsStrictOrderedRing α]

theorem trans (hxy : Part x y) (hyz : Part y z) : Part x z := by
  rcases hxy with ⟨hx, hxy⟩ | ⟨hxy, hx⟩
  · rcases hyz with ⟨hy, hyz⟩ | ⟨hyz, hy⟩
    · exact .inl ⟨hx, hxy.trans hyz⟩
    · exact .inr ⟨by linarith, by linarith⟩
  · rcases hyz with ⟨hy, hyz⟩ | ⟨hyz, hy⟩
    · exact .inl ⟨by linarith, by linarith⟩
    · exact .inr ⟨hyz.trans hxy, hx⟩

/-- What is left of the whole is a part too. -/
theorem rest (h : Part x y) : Part (y - x) y :=
  h.imp (fun h => ⟨by linarith, by linarith⟩) fun h => ⟨by linarith, by linarith⟩

/-- A part, and a part of what is left. -/
theorem add (hx : Part x z) (hy : Part y (z - x)) : Part (x + y) z := by
  rcases hx with ⟨hx, hxz⟩ | ⟨hxz, hx⟩
  · rcases hy with ⟨hy, hyz⟩ | ⟨hyz, hy⟩
    · exact .inl ⟨by linarith, by linarith⟩
    · exact .inl ⟨by linarith, by linarith⟩
  · rcases hy with ⟨hy, hyz⟩ | ⟨hyz, hy⟩
    · exact .inr ⟨by linarith, by linarith⟩
    · exact .inr ⟨by linarith, by linarith⟩

theorem mul (h : Part x y) (hz : 0 ≤ z) : Part (x * z) (y * z) :=
  h.imp (fun h => ⟨mul_nonneg h.1 hz, mul_le_mul_of_nonneg_right h.2 hz⟩)
    fun h => ⟨mul_le_mul_of_nonneg_right h.1 hz, mul_nonpos_of_nonpos_of_nonneg h.2 hz⟩

theorem abs_le (h : Part x y) : |x| ≤ |y| := by
  rcases h with ⟨hx, hxy⟩ | ⟨hxy, hx⟩
  · rw [abs_of_nonneg hx]
    exact hxy.trans (le_abs_self y)
  · rw [abs_of_nonpos hx]
    exact (neg_le_neg hxy).trans (neg_le_abs y)

/-- Within the same bound. -/
theorem bound (h : Part x y) (hy : |y| ≤ limit) : |x| ≤ limit := h.abs_le.trans hy

end Part

/-- `v`, moved into `[-limit, limit]`. -/
def clamp (v limit : α) : α := if v > limit then limit else if v < -limit then -limit else v

variable [IsStrictOrderedRing α]

theorem clamp_part (hlimit : 0 ≤ limit) (v : α) : Part (clamp v limit) v := by
  unfold clamp
  split
  · rename_i hover
    exact .inl ⟨hlimit, hover.le⟩
  · split
    · rename_i hunder
      exact .inr ⟨hunder.le, by linarith⟩
    · exact .refl v

theorem abs_clamp_le (hlimit : 0 ≤ limit) (v : α) : |clamp v limit| ≤ limit := by
  unfold clamp
  split
  · exact (abs_of_nonneg hlimit).le
  · split
    · rw [abs_neg]
      exact (abs_of_nonneg hlimit).le
    · rename_i hover hunder
      exact abs_le.2 ⟨not_lt.1 hunder, not_lt.1 hover⟩

/-- A clamp is odd. -/
theorem clamp_neg (hlimit : 0 ≤ limit) (v : α) : clamp (-v) limit = -clamp v limit := by
  unfold clamp
  by_cases hover : v > limit
  · rw [if_pos hover, if_neg (by linarith), if_pos (by linarith)]
  · by_cases hunder : v < -limit
    · rw [if_neg hover, if_pos hunder, if_pos (by linarith), neg_neg]
    · rw [if_neg hover, if_neg hunder, if_neg (by linarith), if_neg (by linarith)]

/-- `v` without what stands behind the point. -/
def truncate [FloorRing α] (v : α) : ℤ := if 0 ≤ v then ⌊v⌋ else ⌈v⌉

theorem truncate_intCast [FloorRing α] (n : ℤ) : truncate (n : α) = n := by
  unfold truncate
  rw [Int.floor_intCast, Int.ceil_intCast, ite_self]

omit [IsStrictOrderedRing α] in
theorem truncate_mono [FloorRing α] {v w : α} (h : v ≤ w) : truncate v ≤ truncate w := by
  unfold truncate
  by_cases hv : 0 ≤ v
  · rw [if_pos hv, if_pos (hv.trans h)]
    exact Int.floor_mono h
  · rw [if_neg hv]
    split
    · rename_i hw
      have hceil : ⌈v⌉ ≤ 0 := Int.ceil_le.2 (by simpa using (not_le.1 hv).le)
      exact hceil.trans (Int.floor_nonneg.2 hw)
    · exact Int.ceil_mono h

theorem truncate_part [FloorRing α] (v : α) : Part (truncate v : α) v := by
  unfold truncate
  split
  · rename_i h
    exact .inl ⟨Int.cast_nonneg (Int.floor_nonneg.2 h), Int.floor_le v⟩
  · rename_i h
    have hceil : ⌈v⌉ ≤ 0 := Int.ceil_le.2 (by simpa using (not_le.1 h).le)
    exact .inr ⟨Int.le_ceil v, Int.cast_nonpos.2 hceil⟩

end Sf4e.Lib
