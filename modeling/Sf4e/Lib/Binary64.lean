import Mathlib.Data.Int.Log
import Mathlib.Data.Rat.Floor
import Mathlib.Tactic.Linarith
import Mathlib.Tactic.Ring
/-!
# Doubles

What is computed in doubles is the exact result, rounded. `binary64` rounds to the nearest double and
to the even one of two, as the standard says; it has no largest number, and so no infinities.
`Rounding` is what the proofs use of it, and what exact arithmetic has, too.
-/

namespace Sf4e.Lib

/-! ## To whole numbers -/

/-- The nearest whole number, and the even one of two. -/
def roundEven (q : ℚ) : ℤ :=
  if q - ⌊q⌋ < 1 / 2 then ⌊q⌋
  else if 1 / 2 < q - ⌊q⌋ then ⌊q⌋ + 1
  else if ⌊q⌋ % 2 = 0 then ⌊q⌋
  else ⌊q⌋ + 1

theorem floor_le_roundEven (q : ℚ) : ⌊q⌋ ≤ roundEven q := by
  unfold roundEven
  split_ifs <;> omega

theorem roundEven_le_floor (q : ℚ) : roundEven q ≤ ⌊q⌋ + 1 := by
  unfold roundEven
  split_ifs <;> omega

theorem roundEven_intCast (n : ℤ) : roundEven n = n := by
  unfold roundEven
  rw [Int.floor_intCast, sub_self, if_pos (by norm_num)]

theorem roundEven_mono {x y : ℚ} (h : x ≤ y) : roundEven x ≤ roundEven y := by
  have hfloor := Int.floor_mono h
  rcases hfloor.lt_or_eq with hlt | heq
  · have hx := roundEven_le_floor x
    have hy := floor_le_roundEven y
    omega
  · -- between the same two numbers, `y` is the nearer to the upper one
    unfold roundEven
    rw [heq]
    split_ifs <;> first | omega | linarith

theorem roundEven_neg (q : ℚ) : roundEven (-q) = -roundEven q := by
  by_cases hwhole : q = ⌊q⌋
  · rw [hwhole, ← Int.cast_neg, roundEven_intCast, roundEven_intCast]
  · have hlow : (⌊q⌋ : ℚ) < q := lt_of_le_of_ne (Int.floor_le q) (Ne.symm hwhole)
    have hfloor : ⌊-q⌋ = -⌊q⌋ - 1 := by
      rw [Int.floor_eq_iff]
      push_cast
      exact ⟨by linarith [Int.lt_floor_add_one q], by linarith⟩
    unfold roundEven
    rw [hfloor]
    push_cast
    split_ifs <;> first | omega | linarith

/-! ## To doubles -/

/-- The exponent of the last place of a double near `q`. -/
def lastPlace (q : ℚ) : ℤ := max (Int.log 2 |q| - 52) (-1074)

def binary64 (q : ℚ) : ℚ := roundEven (q / 2 ^ lastPlace q) * 2 ^ lastPlace q

theorem two_zpow_pos (e : ℤ) : (0 : ℚ) < 2 ^ e := zpow_pos two_pos e

theorem le_lastPlace (q : ℚ) : -1074 ≤ lastPlace q := le_max_right _ _

/-- A double has 53 places at most. -/
theorem abs_lt_lastPlace (q : ℚ) : |q| < 2 ^ (lastPlace q + 53) := by
  have hlog : |q| < 2 ^ (Int.log 2 |q| + 1) := by simpa using Int.lt_zpow_succ_log_self one_lt_two |q|
  refine hlog.trans_le (zpow_le_zpow_right₀ one_le_two ?_)
  have := le_max_left (Int.log 2 |q| - 52) (-1074)
  unfold lastPlace
  omega

/-- And this many, unless it is very small. -/
theorem lastPlace_le_abs {q : ℚ} (hq : q ≠ 0) (h : -1074 < lastPlace q) : 2 ^ (lastPlace q + 52) ≤ |q| := by
  have hlog : (2 : ℚ) ^ Int.log 2 |q| ≤ |q| := by simpa using Int.zpow_log_le_self one_lt_two (abs_pos.2 hq)
  refine (zpow_le_zpow_right₀ one_le_two ?_).trans hlog
  unfold lastPlace at h ⊢
  omega

theorem binary64_neg (q : ℚ) : binary64 (-q) = -binary64 q := by
  unfold binary64 lastPlace
  rw [abs_neg, neg_div, roundEven_neg, Int.cast_neg, neg_mul]

theorem binary64_zero : binary64 0 = 0 := by
  have hneg := binary64_neg 0
  rw [neg_zero] at hneg
  linarith

/-- What is a whole number of its last places is a double. -/
theorem binary64_eq_self {q : ℚ} {m : ℤ} (h : q = m * 2 ^ lastPlace q) : binary64 q = q := by
  have hdiv : q / 2 ^ lastPlace q = m := (div_eq_iff (two_zpow_pos _).ne').2 h
  rw [binary64, hdiv, roundEven_intCast, ← h]

/-- So is a whole number of any places, if these are not too many. -/
theorem binary64_of_places {n e : ℤ} (hn : |n| < 2 ^ 53) (he : -1074 ≤ e) : binary64 (n * 2 ^ e) = n * 2 ^ e := by
  rcases eq_or_ne n 0 with rfl | hne
  · rw [Int.cast_zero, zero_mul, binary64_zero]
  have hplace : lastPlace (n * 2 ^ e) ≤ e := by
    by_contra hlt
    have hlow := lastPlace_le_abs (mul_ne_zero (Int.cast_ne_zero.2 hne) (two_zpow_pos e).ne') (by omega)
    have hhigh : |(n : ℚ) * 2 ^ e| < 2 ^ (e + 53) := by
      rw [abs_mul, abs_of_pos (two_zpow_pos e), zpow_add₀ two_ne_zero, mul_comm]
      refine mul_lt_mul_of_pos_left ?_ (two_zpow_pos e)
      exact_mod_cast hn
    have hle : (2 : ℚ) ^ (e + 53) ≤ 2 ^ (lastPlace (n * 2 ^ e) + 52) := zpow_le_zpow_right₀ one_le_two (by omega)
    linarith
  obtain ⟨k, hk⟩ := Int.le.dest hplace
  refine binary64_eq_self (m := n * 2 ^ k) ?_
  rw [Int.cast_mul, Int.cast_pow, Int.cast_ofNat, mul_assoc, ← zpow_natCast, ← zpow_add₀ two_ne_zero, add_comm, hk]

theorem roundEven_nonneg {q : ℚ} (h : 0 ≤ q) : 0 ≤ roundEven q := by
  have hmono := roundEven_mono h
  rwa [← Int.cast_zero, roundEven_intCast] at hmono

theorem abs_roundEven_le {q : ℚ} {n : ℤ} (h : |q| ≤ n) : |roundEven q| ≤ n := by
  obtain ⟨hlow, hhigh⟩ := abs_le.1 h
  have hup := roundEven_mono hhigh
  have hdown := roundEven_mono hlow
  rw [← Int.cast_neg, roundEven_intCast] at hdown
  rw [roundEven_intCast] at hup
  exact abs_le.2 ⟨hdown, hup⟩

/-- What has been rounded is a double. -/
theorem binary64_idem (q : ℚ) : binary64 (binary64 q) = binary64 q := by
  have hmany : |q / 2 ^ lastPlace q| ≤ (2 ^ 53 : ℤ) := by
    rw [abs_div, abs_of_pos (two_zpow_pos _), div_le_iff₀ (two_zpow_pos _), Int.cast_pow, Int.cast_ofNat,
      ← zpow_natCast, ← zpow_add₀ two_ne_zero, add_comm]
    exact (abs_lt_lastPlace q).le
  have hwhole := abs_roundEven_le hmany
  have he := le_lastPlace q
  show binary64 (roundEven _ * 2 ^ _) = roundEven _ * 2 ^ _
  generalize roundEven (q / 2 ^ lastPlace q) = n at hwhole
  generalize lastPlace q = e at he
  rcases hwhole.lt_or_eq with hlt | heq
  · exact binary64_of_places hlt he
  · -- a place has been carried
    obtain ⟨m, hm, hn⟩ : ∃ m : ℤ, |m| < 2 ^ 53 ∧ n = m * 2 := by
      rcases abs_eq (by norm_num) |>.1 heq with rfl | rfl
      · exact ⟨2 ^ 52, by norm_num, by norm_num⟩
      · exact ⟨-2 ^ 52, by norm_num, by norm_num⟩
    have hcarry : (n : ℚ) * 2 ^ e = m * 2 ^ (e + 1) := by
      rw [hn, Int.cast_mul, Int.cast_ofNat, mul_assoc, zpow_add_one₀ two_ne_zero, mul_comm (2 : ℚ)]
    rw [hcarry]
    exact binary64_of_places hm (by omega)

theorem binary64_nonneg {q : ℚ} (h : 0 ≤ q) : 0 ≤ binary64 q :=
  mul_nonneg (Int.cast_nonneg (roundEven_nonneg (div_nonneg h (two_zpow_pos _).le))) (two_zpow_pos _).le

theorem binary64_le_of_nonneg {x y : ℚ} (hx : 0 ≤ x) (h : x ≤ y) : binary64 x ≤ binary64 y := by
  rcases hx.eq_or_lt with rfl | hx
  · rw [binary64_zero]
    exact binary64_nonneg h
  have hy : 0 < y := hx.trans_le h
  have hplace : lastPlace x ≤ lastPlace y := by
    unfold lastPlace
    rw [abs_of_pos hx, abs_of_pos hy]
    have := Int.log_mono_right (b := 2) hx h
    omega
  rcases hplace.lt_or_eq with hlt | heq
  · -- a power of two lies between the two
    have hhigh := abs_lt_lastPlace x
    have hlow := lastPlace_le_abs hy.ne' ((le_lastPlace x).trans_lt hlt)
    rw [abs_of_pos hx] at hhigh
    rw [abs_of_pos hy] at hlow
    have hup : roundEven (x / 2 ^ lastPlace x) ≤ 2 ^ 53 := by
      refine (le_abs_self _).trans (abs_roundEven_le ?_)
      rw [abs_of_pos (div_pos hx (two_zpow_pos _)), div_le_iff₀ (two_zpow_pos _), Int.cast_pow, Int.cast_ofNat,
        ← zpow_natCast, ← zpow_add₀ two_ne_zero, add_comm]
      exact hhigh.le
    have hdown : 2 ^ 52 ≤ roundEven (y / 2 ^ lastPlace y) := by
      rw [← roundEven_intCast (2 ^ 52)]
      refine roundEven_mono ?_
      rw [le_div_iff₀ (two_zpow_pos _), Int.cast_pow, Int.cast_ofNat, ← zpow_natCast, ← zpow_add₀ two_ne_zero, add_comm]
      exact hlow
    calc binary64 x ≤ 2 ^ 53 * 2 ^ lastPlace x := by
          refine mul_le_mul_of_nonneg_right ?_ (two_zpow_pos _).le
          exact_mod_cast hup
      _ = 2 ^ (lastPlace x + 53) := by rw [zpow_add₀ two_ne_zero, mul_comm]; rfl
      _ ≤ 2 ^ (lastPlace y + 52) := zpow_le_zpow_right₀ one_le_two (by omega)
      _ = 2 ^ 52 * 2 ^ lastPlace y := by rw [zpow_add₀ two_ne_zero, mul_comm]; rfl
      _ ≤ binary64 y := by
          refine mul_le_mul_of_nonneg_right ?_ (two_zpow_pos _).le
          exact_mod_cast hdown
  · unfold binary64
    rw [heq]
    refine mul_le_mul_of_nonneg_right ?_ (two_zpow_pos _).le
    exact_mod_cast roundEven_mono (div_le_div_of_nonneg_right h (two_zpow_pos _).le)

theorem binary64_mono : Monotone binary64 := by
  intro x y h
  rcases le_total 0 x with hx | hx
  · exact binary64_le_of_nonneg hx h
  · rcases le_total 0 y with hy | hy
    · have hneg := binary64_nonneg (neg_nonneg.2 hx)
      rw [binary64_neg] at hneg
      exact (neg_nonneg.1 hneg).trans (binary64_nonneg hy)
    · have hneg := binary64_le_of_nonneg (neg_nonneg.2 hy) (neg_le_neg h)
      rw [binary64_neg, binary64_neg] at hneg
      exact neg_le_neg_iff.1 hneg

/-- What is computed exactly is the same, what is rounded is of the same order, and there is no more
to round. -/
structure Rounding (fl : ℚ → ℚ) : Prop where
  mono : Monotone fl
  idem : ∀ q, fl (fl q) = fl q
  neg : ∀ q, fl (-q) = -fl q

theorem rounding_id : Rounding id := ⟨monotone_id, fun _ => rfl, fun _ => rfl⟩

theorem rounding_binary64 : Rounding binary64 := ⟨binary64_mono, binary64_idem, binary64_neg⟩

theorem Rounding.zero {fl : ℚ → ℚ} (h : Rounding fl) : fl 0 = 0 := by
  have hneg := h.neg 0
  rw [neg_zero] at hneg
  linarith

example : binary64 (2 / 5) + binary64 (1 / 5) < binary64 (binary64 (2 / 5) + binary64 (1 / 5)) := by decide +kernel

end Sf4e.Lib
