import Mathlib.Algebra.Group.Int.Defs
import Mathlib.Algebra.Group.Nat.Defs
import Mathlib.Data.Int.Order.Basic
import Mathlib.Data.List.Basic
/-!
# Resending by a wrapping clock

A loop that sends something again and again reads a 32-bit millisecond clock,
sends when the reading is not before `next` by signed difference, and then puts
`next` an interval after the reading. It starts with `next` at 0, whatever the
clock reads.

Once it has sent, it goes on as it should: `again_of_sent`. Whether it ever sends
depends on the half of its range the clock is in: `keepsSending_iff`.
-/

namespace Sf4e.Lib

/-! ## The clock -/

/-- What the clock reads `t` milliseconds after it read `start`. -/
def ticks (start : UInt32) (t : ℕ) : UInt32 := start + UInt32.ofNat t

theorem ticks_add (start : UInt32) (s t : ℕ) : ticks start s + UInt32.ofNat t = ticks start (s + t) := by
  unfold ticks
  rw [UInt32.ofNat_add, UInt32.add_assoc]

theorem ticks_sub (start : UInt32) (a b : ℕ) : ticks start a - ticks start b = UInt32.ofNat a - UInt32.ofNat b := by
  unfold ticks
  rw [← UInt32.toBitVec_inj]
  simp only [UInt32.toBitVec_sub, UInt32.toBitVec_add]
  bv_omega

/-- The difference of two readings less than half the range apart, read as a signed number. -/
theorem ticks_sub_toInt (start : UInt32) {a b : ℕ} (hback : b ≤ a + 2 ^ 31) (hforth : a < b + 2 ^ 31) :
    (ticks start a - ticks start b).toInt32.toInt = (a : ℤ) - b := by
  have hsize : Int32.size = 2 ^ 32 := rfl
  rw [ticks_sub, UInt32.toInt32_sub, UInt32.toInt32_ofNat', UInt32.toInt32_ofNat', Int32.toInt_sub, Int32.toInt_ofNat',
    Int32.toInt_ofNat', hsize, Int.bmod_sub_bmod, Int.sub_bmod_bmod]
  exact Int.bmod_eq_of_le (by omega) (by omega)

/-- The difference read as an unsigned number. -/
theorem ticks_sub_toNat (start : UInt32) {a b : ℕ} (h : b ≤ a) :
    (ticks start a - ticks start b).toNat = (a - b) % 2 ^ 32 := by
  rw [ticks_sub, UInt32.toNat_sub, UInt32.toNat_ofNat', UInt32.toNat_ofNat']
  omega

/-- A reading is not before 0 in the lower half of the range. -/
theorem toInt32_nonneg_iff (x : UInt32) : 0 ≤ x.toInt32 ↔ x.toNat < 2 ^ 31 := by
  have hread : x.toInt32.toInt = Int.bmod x.toNat (2 ^ 32) := by
    have h := UInt32.ofNat_toNat (x := x)
    have hsize : Int32.size = 2 ^ 32 := rfl
    rw [← h, UInt32.toInt32_ofNat', Int32.toInt_ofNat', hsize, h]
  have hlt := x.toNat_lt
  rw [Int32.le_iff_toInt_le, hread, Int.bmod_def]
  show (0 : ℤ) ≤ _ ↔ _
  split <;> omega

/-! ## The loop -/

/-- One turn of the loop: when it checks, when it notes that it has sent, and whether it sends. -/
structure Check where
  checkedAt : ℕ
  notedAt : ℕ
  sent : Bool
  deriving DecidableEq

/-- The turns of a loop that checks and notes at these times. -/
def timerChecks (start interval : UInt32) : UInt32 → List (ℕ × ℕ) → List Check
  | _, [] => []
  | next, (checkedAt, notedAt) :: rest =>
    if (ticks start checkedAt - next).toInt32 ≥ 0 then
      ⟨checkedAt, notedAt, true⟩ :: timerChecks start interval (ticks start notedAt + interval) rest
    else ⟨checkedAt, notedAt, false⟩ :: timerChecks start interval next rest

theorem timerChecks_cons (start interval next : UInt32) (checkedAt notedAt : ℕ) (rest : List (ℕ × ℕ)) :
    timerChecks start interval next ((checkedAt, notedAt) :: rest) =
      if (ticks start checkedAt - next).toInt32 ≥ 0 then
        ⟨checkedAt, notedAt, true⟩ :: timerChecks start interval (ticks start notedAt + interval) rest
      else ⟨checkedAt, notedAt, false⟩ :: timerChecks start interval next rest := rfl

/-- The loop sends once it runs, and no check an interval after it has sent passes without it
having sent again. -/
structure KeepsSending (interval : ℕ) (checks : List Check) : Prop where
  once : checks ≠ [] → ∃ c ∈ checks, c.sent = true
  again : ∀ before c between d after, checks = before ++ c :: (between ++ d :: after) → c.sent = true →
    c.notedAt + interval ≤ d.checkedAt → ∃ e ∈ between ++ [d], e.sent = true

/-- Times that go forward, with each check less than an interval past half the range. -/
structure Forward (interval : ℕ) (times : List (ℕ × ℕ)) : Prop where
  noted : ∀ t ∈ times, t.1 ≤ t.2
  ordered : times.Pairwise fun s t => s.2 ≤ t.1
  short : ∀ t ∈ times, t.1 < 2 ^ 31 + interval

theorem Forward.tail {interval : ℕ} {t : ℕ × ℕ} {times : List (ℕ × ℕ)} (h : Forward interval (t :: times)) :
    Forward interval times :=
  ⟨fun s hs => h.noted s (List.mem_cons_of_mem _ hs), h.ordered.tail, fun s hs => h.short s (List.mem_cons_of_mem _ hs)⟩

section

variable {start : UInt32} {interval : ℕ}

/-- Until the loop sends, it waits for the clock to be in its lower half. -/
theorem once_iff (times : List (ℕ × ℕ)) :
    (∃ c ∈ timerChecks start (UInt32.ofNat interval) 0 times, c.sent = true) ↔
      ∃ t ∈ times, (ticks start t.1).toNat < 2 ^ 31 := by
  induction times with
  | nil => simp [timerChecks]
  | cons t times ih =>
    have hdue : (ticks start t.1 - 0).toInt32 ≥ 0 ↔ (ticks start t.1).toNat < 2 ^ 31 := by
      rw [UInt32.sub_zero, ge_iff_le, toInt32_nonneg_iff]
    obtain ⟨checkedAt, notedAt⟩ := t
    rw [timerChecks_cons]
    split
    · rename_i hsends
      exact iff_of_true ⟨_, List.mem_cons_self, rfl⟩ ⟨_, List.mem_cons_self, hdue.1 hsends⟩
    · rename_i hwaits
      simp only [List.exists_mem_cons_iff, Bool.false_eq_true, false_or, ih]
      exact (or_iff_right fun hlow => hwaits (hdue.2 hlow)).symm

/-- After it has sent, the loop sends at the first check an interval later. -/
theorem again_of_sent (hinterval : interval < 2 ^ 31) {times : List (ℕ × ℕ)} (h : Forward interval times) (notedAt : ℕ)
    (hnoted : ∀ t ∈ times, notedAt ≤ t.1) {between : List Check} {d : Check} {after : List Check}
    (heq : timerChecks start (UInt32.ofNat interval) (ticks start notedAt + UInt32.ofNat interval) times =
      between ++ d :: after) (hlate : notedAt + interval ≤ d.checkedAt) : ∃ e ∈ between ++ [d], e.sent = true := by
  induction times generalizing between with
  | nil =>
    rw [timerChecks] at heq
    exact absurd heq (by simp)
  | cons t times ih =>
    obtain ⟨checkedAt, noted⟩ := t
    have hbound := h.short (checkedAt, noted) List.mem_cons_self
    have hafter : notedAt ≤ checkedAt := hnoted (checkedAt, noted) List.mem_cons_self
    have hdue : (ticks start checkedAt - (ticks start notedAt + UInt32.ofNat interval)).toInt32 ≥ 0 ↔
        notedAt + interval ≤ checkedAt := by
      rw [ticks_add, ge_iff_le, Int32.le_iff_toInt_le, ticks_sub_toInt start (by omega) (by dsimp only at hbound; omega)]
      show (0 : ℤ) ≤ _ ↔ _
      omega
    rw [timerChecks_cons] at heq
    cases between with
    | nil =>
      -- this is the check that comes late enough
      split at heq
      · rw [List.nil_append, List.cons.injEq] at heq
        exact ⟨d, List.mem_append_right _ List.mem_cons_self, heq.1 ▸ rfl⟩
      · rename_i hwaits
        rw [List.nil_append, List.cons.injEq] at heq
        rw [← heq.1] at hlate
        exact absurd (hdue.2 hlate) hwaits
    | cons b between =>
      split at heq
      · rw [List.cons_append, List.cons.injEq] at heq
        exact ⟨b, List.mem_cons_self, heq.1 ▸ rfl⟩
      · rw [List.cons_append, List.cons.injEq] at heq
        obtain ⟨e, he, hsent⟩ := ih h.tail (fun t ht => hnoted t (List.mem_cons_of_mem _ ht)) heq.2
        exact ⟨e, List.mem_cons_of_mem _ he, hsent⟩

/-- However the loop came to send, it goes on. -/
theorem again_of_checks (hinterval : interval < 2 ^ 31) {times : List (ℕ × ℕ)} (h : Forward interval times)
    (next : UInt32) {before : List Check} {c : Check} {between : List Check} {d : Check} {after : List Check}
    (heq : timerChecks start (UInt32.ofNat interval) next times = before ++ c :: (between ++ d :: after))
    (hsent : c.sent = true) (hlate : c.notedAt + interval ≤ d.checkedAt) : ∃ e ∈ between ++ [d], e.sent = true := by
  induction times generalizing next before with
  | nil =>
    rw [timerChecks] at heq
    exact absurd heq (by simp)
  | cons t times ih =>
    obtain ⟨checkedAt, notedAt⟩ := t
    have hnoted : ∀ t ∈ times, notedAt ≤ t.1 := (List.pairwise_cons.1 h.ordered).1
    rw [timerChecks_cons] at heq
    cases before with
    | nil =>
      split at heq
      · rw [List.nil_append, List.cons.injEq] at heq
        obtain ⟨hc, hrest⟩ := heq
        exact again_of_sent hinterval h.tail notedAt hnoted hrest (by rw [← hc] at hlate; exact hlate)
      · rw [List.nil_append, List.cons.injEq] at heq
        rw [← heq.1] at hsent
        cases hsent
    | cons b before =>
      split at heq
      · rw [List.cons_append, List.cons.injEq] at heq
        exact ih h.tail _ heq.2
      · rw [List.cons_append, List.cons.injEq] at heq
        exact ih h.tail _ heq.2

/-- The loop does what it is for exactly when one of its checks falls in the lower half of the
clock's range, or there is none. -/
theorem keepsSending_iff (hinterval : interval < 2 ^ 31) {times : List (ℕ × ℕ)} (h : Forward interval times) :
    KeepsSending interval (timerChecks start (UInt32.ofNat interval) 0 times) ↔
      (times ≠ [] → ∃ t ∈ times, (ticks start t.1).toNat < 2 ^ 31) := by
  have hempty : timerChecks start (UInt32.ofNat interval) 0 times ≠ [] ↔ times ≠ [] := by
    cases times with
    | nil => simp [timerChecks]
    | cons t times =>
      unfold timerChecks
      split <;> simp
  constructor
  · intro hkeeps hne
    exact (once_iff times).1 (hkeeps.once (hempty.2 hne))
  · intro hlow
    exact ⟨fun hne => (once_iff times).2 (hlow (hempty.1 hne)),
      fun _ _ _ _ _ heq hsent hlate => again_of_checks hinterval h 0 heq hsent hlate⟩

end

end Sf4e.Lib
