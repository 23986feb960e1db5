import Sf4e.Battle.Rounded
/-!
# The shift between the tick and the limiter

`StepPacing` asks for a frame shift and takes back what was applied, and `LimitFrame`
consumes the request, waits, and reports. Each of these is short and holds the lock; the
limiter may run on another thread, so that between any two of them there may be others.

What is asked and applied is kept in whole microseconds and the debt in doubles, which `fl` rounds.
-/

namespace Sf4e.Battle.Pacing

open Sf4e.Lib

/-- One frame shift from the game tick to the limiter, and what it applied back. -/
structure FrameShift where
  requestUs : ℤ
  appliedUs : ℤ
  generation : UInt32
  limiterRan : Bool

namespace FrameShift

section

variable (fl : ℚ → ℚ)

/-- `(int)(ms * 1000.0)`, of what an `int` holds -/
def toUs (ms : ℚ) : ℤ := truncate (fl (ms * 1000))

/-- `us / 1000.0` -/
def toMs (us : ℤ) : ℚ := fl (us / 1000)

def RequestFrameShift (s : FrameShift) (ms : ℚ) : FrameShift := { s with requestUs := toUs fl ms }

def TakeAppliedShift (s : FrameShift) : FrameShift × ℚ := ({ s with appliedUs := 0 }, toMs fl s.appliedUs)

end

def CancelFrameShift (s : FrameShift) : FrameShift :=
  { s with requestUs := 0, appliedUs := 0, generation := s.generation + 1, limiterRan := false }

end FrameShift

open FrameShift (toUs toMs)

/-! ## Two threads -/

/-- A request that `LimitFrame` has consumed, and how many cancels there were before. -/
structure Consumed where
  requestUs : ℤ
  generation : UInt32
  cancels : ℕ

/-- How far the limiter is with a frame. -/
inductive Limiter where
  | idle
  | took (c : Consumed)
  | waits (c : Consumed) (periodMs : ℚ)

/-- How far `StepPacing` is with a tick, and what `LimiterActive` said. -/
inductive Stage where
  | outside
  | accounted
  | looked (limiterActive : Bool)
  deriving DecidableEq

/-- A shift that is part of `appliedUs`, and how many cancels there were before it was consumed. -/
structure Report where
  us : ℤ
  cancels : ℕ

structure Threads where
  pacer : Controller
  stage : Stage
  shift : FrameShift
  limiter : Limiter
  cancels : ℕ
  reports : List Report

/-- What `StepPacing` finds besides the shift. -/
structure Found where
  playing : Bool
  bPredictionStalled : Bool
  stats : Option TimeSync

/-- The tick changes the debt by more than the accounting. -/
def Found.disturbs (f : Found) : Bool := f.bPredictionStalled || f.stats.isSome

/-- A stretch of one of the threads that nobody interrupts: it ends with the lock. -/
inductive Stretch where
  | take (f : Found)
  | look
  | request
  | reset
  | consume
  | note (savedPeriod : ℚ) (previousExit : UInt64)
  | report (frameMs : ℚ)

section

variable (fl : ℚ → ℚ)

namespace Threads

/-- The tick as it would be if nothing came between. -/
def tick (s : Threads) (f : Found) : Tick where
  playing := f.playing
  applied := (s.shift.TakeAppliedShift fl).2
  bPredictionStalled := f.bPredictionStalled
  stats := f.stats
  limiterActive := s.shift.limiterRan

def game (s : Threads) : Pacer := ⟨s.pacer, toMs fl s.shift.requestUs⟩

/-- A tick begins that does not return at once. -/
def begins (s : Threads) (f : Found) : Bool := s.stage = .outside && f.playing && s.pacer.enabled

/-- `StepPacing`, up to the question whether the limiter is active. -/
def take (s : Threads) (f : Found) : Threads :=
  if s.begins f then
    { s with
      pacer := Rounded.sampled fl (s.game fl) (s.tick fl f)
      stage := .accounted
      shift := (s.shift.TakeAppliedShift fl).1
      reports := [] }
  else s

def look (s : Threads) : Threads :=
  match s.stage with
  | .accounted => { s with stage := .looked s.shift.limiterRan }
  | _ => s

/-- And its end. -/
def request (s : Threads) : Threads :=
  match s.stage with
  | .looked true => { s with stage := .outside, shift := s.shift.RequestFrameShift fl s.pacer.NextShiftMs }
  | .looked false => { s with stage := .outside, shift := s.shift.RequestFrameShift fl 0 }
  | _ => s

/-- `ResetPacing` is called on the game's thread. -/
def ResetPacing (s : Threads) : Threads :=
  if s.stage = .outside then
    { s with pacer := s.pacer.Reset, shift := s.shift.CancelFrameShift, cancels := s.cancels + 1, reports := [] }
  else s

/-- `LimitFrame`, up to its first unlocking. -/
def consume (s : Threads) : Threads :=
  match s.limiter with
  | .idle =>
    { s with
      shift := { s.shift with requestUs := 0 }
      limiter := .took ⟨s.shift.requestUs, s.shift.generation, s.cancels⟩ }
  | _ => s

/-- Its next part: the frame is left alone, or the limiter waits. -/
def note (s : Threads) (savedPeriod : ℚ) (previousExit : UInt64) : Threads :=
  match s.limiter with
  | .took c =>
    let runs := savedPeriod > 0 && previousExit ≠ 0
    { s with
      shift := { s.shift with limiterRan := s.shift.limiterRan || runs }
      -- where the frame is left alone, what was consumed is gone
      limiter := if toMs fl c.requestUs = 0 || !runs then .idle else .waits c (fl (savedPeriod * 1000)) }
  | _ => s

/-- Its last part, once the frame has been measured. -/
def report (s : Threads) (frameMs : ℚ) : Threads :=
  match s.limiter with
  | .waits c periodMs =>
    let us := toUs fl (Rounded.AppliedShiftMs fl periodMs frameMs (toMs fl c.requestUs))
    -- a shift that was cancelled while the limiter waited is not reported
    if c.generation = s.shift.generation then
      { s with
        shift := { s.shift with appliedUs := s.shift.appliedUs + us }
        limiter := .idle
        reports := s.reports ++ [⟨us, c.cancels⟩] }
    else { s with limiter := .idle }
  | _ => s

/-- A session begins with this debt. -/
def start (pacer : Controller) (generation : UInt32) (limiterRan : Bool) : Threads where
  pacer
  stage := .outside
  shift := ⟨0, 0, generation, limiterRan⟩
  limiter := .idle
  cancels := 0
  reports := []

end Threads

/-- The two threads, in any order. -/
def threads : Machine Threads Stretch Unit where
  next s
    | .take f => (s.take fl f, [])
    | .look => (s.look, [])
    | .request => (s.request fl, [])
    | .reset => (s.ResetPacing, [])
    | .consume => (s.consume, [])
    | .note savedPeriod previousExit => (s.note fl savedPeriod previousExit, [])
    | .report frameMs => (s.report fl frameMs, [])

end

/-- In exact time, a tick that nothing comes between is a `StepPacing`. -/
theorem stepPacing_of_stretches (s : Threads) (f : Found) (h : s.stage = .outside) :
    ((threads id).run s [.take f, .look, .request]).game id =
      let p := (s.game id).StepPacing (s.tick id f)
      ⟨p.pacer, if (s.game id).idle (s.tick id f) then p.requestedMs else toMs id (toUs id p.requestedMs)⟩ := by
  have hbegins : s.begins f = !(s.game id).idle (s.tick id f) := by
    simp [Threads.begins, Pacer.idle, Threads.game, Threads.tick, h]
  cases hidle : (s.game id).idle (s.tick id f) with
  | true =>
    have hsame : s.take id f = s := by simp [Threads.take, hbegins, hidle]
    have hlook : s.look = s := by simp [Threads.look, h]
    have hrequest : s.request id = s := by simp [Threads.request, h]
    show ((s.take id f).look.request id).game id = _
    rw [hsame, hlook, hrequest, Pacer.StepPacing, hidle]
    rfl
  | false =>
    rw [hidle] at hbegins
    show ((s.take id f).look.request id).game id = _
    rw [Threads.take, hbegins, Bool.not_false, if_pos rfl, Pacer.StepPacing, hidle]
    cases hran : s.shift.limiterRan <;>
      simp [Threads.look, Threads.request, Threads.game, Threads.tick, FrameShift.TakeAppliedShift,
        FrameShift.RequestFrameShift, Rounded.sampled_id, hran]

/-! ## What is accounted for -/

def Limiter.consumed : Limiter → Option Consumed
  | .idle => none
  | .took c => some c
  | .waits c _ => some c

section

variable (fl : ℚ → ℚ)

/-- What `LimitFrame` reports of a frame that turned out as it was asked for. -/
def mostUs (requestUs : ℤ) : ℤ := toUs fl (toMs fl requestUs)

namespace Threads

/-- What has been applied and not accounted for yet. -/
def appliedMs (s : Threads) : ℚ := (s.shift.TakeAppliedShift fl).2

def owedMs (s : Threads) : ℚ := s.pacer.outstandingMs

/-- The most that will be reported of the request that the limiter is at work on, unless it has
been cancelled. -/
def flyingUs (s : Threads) : ℤ :=
  match s.limiter.consumed with
  | some c => if c.cancels = s.cancels then mostUs fl c.requestUs else 0
  | none => 0

/-- The debt covers what has been applied and this much more of the same sign. -/
structure Covers (s : Threads) (us : ℤ) : Prop where
  sign : Part (s.shift.appliedUs : ℚ) (s.shift.appliedUs + us : ℤ)
  debt : Part (toMs fl (s.shift.appliedUs + us)) s.owedMs

end Threads

/-- All that has been applied is part of the debt, and so is what it leaves; it is what has been
reported since the debt last changed, and none of it was consumed before the last cancel. -/
structure Accounts (s : Threads) : Prop where
  applied : Part (s.appliedMs fl) s.owedMs
  left : Part (Rounded.OnShiftApplied fl s.pacer (s.appliedMs fl)).outstandingMs s.owedMs
  tallied : s.shift.appliedUs = (s.reports.map (·.us)).sum
  current : ∀ r ∈ s.reports, r.cancels = s.cancels

/-- A tick that takes the applied shift does not overpay with it. -/
def NeverOverpays (s : Threads) : Stretch → Prop
  | .take f => s.begins f = true → Accounts fl s
  | _ => True

/-- The debt covers what the limiter consumes, with what it has applied; no tick finds a stall, or a
sample, while a shift is in flight, and what it takes then leaves a debt that covers that shift; and
no multiple of 2^32 cancels lies between the consumption and the report of one shift. -/
def InStep (s : Threads) : Stretch → Prop
  | .consume => s.limiter.consumed = none → s.Covers fl (mostUs fl s.shift.requestUs)
  | .take f => s.begins f = true → s.flyingUs fl ≠ 0 → f.disturbs = false ∧
      (s.shift.appliedUs ≠ 0 → Part (toMs fl (s.flyingUs fl)) (fl (s.owedMs - s.appliedMs fl)))
  | .report _ => ∀ c ∈ s.limiter.consumed, (s.cancels - c.cancels) % 2 ^ 32 = 0 → c.cancels = s.cancels
  | _ => True

/-- What is true of the two threads at every moment. -/
structure Owed (generation : UInt32) (s : Threads) : Prop where
  double : fl s.owedMs = s.owedMs
  covers : s.Covers fl (s.flyingUs fl)
  tallied : s.shift.appliedUs = (s.reports.map (·.us)).sum
  current : ∀ r ∈ s.reports, r.cancels = s.cancels
  before : ∀ c ∈ s.limiter.consumed, c.cancels ≤ s.cancels
  counted : s.shift.generation = generation + UInt32.ofNat s.cancels
  consumed : ∀ c ∈ s.limiter.consumed, c.generation = generation + UInt32.ofNat c.cancels

end

section Steps

variable {fl : ℚ → ℚ} {generation : UInt32} {s : Threads}

theorem toMs_part (hfl : Rounding fl) {us us' : ℤ} (h : Part (us : ℚ) us') : Part (toMs fl us) (toMs fl us') := by
  have hms := h.mul (show (0 : ℚ) ≤ 1000⁻¹ by norm_num)
  rw [← div_eq_mul_inv, ← div_eq_mul_inv] at hms
  exact Lib.Part.map (f := fl) hfl.mono hfl.zero hms

theorem toUs_part (hfl : Rounding fl) {ms ms' : ℚ} (h : Part ms ms') : Part (toUs fl ms : ℚ) (toUs fl ms') := by
  have hus : Part (fl (ms * 1000)) (fl (ms' * 1000)) := (h.mul (by norm_num)).map hfl.mono hfl.zero
  have hmono : Monotone fun v : ℚ => (truncate v : ℚ) := fun v w hvw => Int.cast_le.2 (truncate_mono hvw)
  exact Lib.Part.map (f := fun v : ℚ => (truncate v : ℚ)) hmono (by norm_num [truncate]) hus

theorem toMs_zero (hfl : Rounding fl) : toMs fl 0 = 0 := by
  rw [toMs, Int.cast_zero, zero_div, hfl.zero]

theorem mostUs_zero (hfl : Rounding fl) : mostUs fl 0 = 0 := by
  rw [mostUs, toMs_zero hfl, toUs, zero_mul, hfl.zero]
  norm_num [truncate]

/-- What is reported is part of the most that is. -/
theorem reported_part (hfl : Rounding fl) (periodMs frameMs : ℚ) (requestUs : ℤ) :
    Part (toUs fl (Rounded.AppliedShiftMs fl periodMs frameMs (toMs fl requestUs)) : ℚ) (mostUs fl requestUs) :=
  toUs_part hfl (Rounded.AppliedShiftMs_part hfl ..)

/-- Where nothing has been applied there is no more than that to cover. -/
theorem covers_of_fresh (happlied : s.shift.appliedUs = 0) {us : ℤ} (h : Part (toMs fl us) s.owedMs) :
    s.Covers fl us := by
  constructor
  · rw [happlied, Int.cast_zero]
    exact .zero _
  · rwa [happlied, zero_add]

theorem Threads.Covers.applied (hfl : Rounding fl) {us : ℤ} (h : s.Covers fl us) : Part (s.appliedMs fl) s.owedMs :=
  (toMs_part hfl h.sign).trans h.debt

/-- What is covered with more is covered. -/
theorem Threads.Covers.none (hfl : Rounding fl) {us : ℤ} (h : s.Covers fl us) : s.Covers fl 0 := by
  constructor
  · rw [add_zero]
    exact .refl _
  · rw [add_zero]
    exact h.applied hfl

/-- Without a stall or a sample there is only the report. -/
theorem sampled_of_quiet (s : Threads) {f : Found} (h : f.disturbs = false) :
    Rounded.sampled fl (s.game fl) (s.tick fl f) = Rounded.reported fl (s.game fl) (s.tick fl f) := by
  simp only [Found.disturbs, Bool.or_eq_false_iff, Option.isSome_eq_false_iff, Option.isNone_iff_eq_none] at h
  rw [Rounded.sampled, show (s.tick fl f).bPredictionStalled = false from h.1,
    show (s.tick fl f).stats = none from h.2]
  rfl

theorem owed_start (hfl : Rounding fl) {pacer : Controller} (hdebt : fl pacer.outstandingMs = pacer.outstandingMs)
    (generation : UInt32) (limiterRan : Bool) : Owed fl generation (.start pacer generation limiterRan) where
  double := hdebt
  covers := covers_of_fresh rfl (by rw [show Threads.flyingUs fl _ = 0 from rfl, toMs_zero hfl]; exact .zero _)
  tallied := rfl
  current := by
    intro r hr
    cases hr
  before := by
    intro c hc
    cases hc
  counted := (UInt32.add_zero generation).symm
  consumed := by
    intro c hc
    cases hc

theorem Owed.accounts (hfl : Rounding fl) (h : Owed fl generation s) : Accounts fl s := by
  have happlied := h.covers.applied hfl
  refine ⟨happlied, ?_, h.tallied, h.current⟩
  have hleft := happlied.rest.map hfl.mono hfl.zero
  rwa [h.double] at hleft

theorem Owed.take (hfl : Rounding fl) (h : Owed fl generation s) {f : Found} (hstep : InStep fl s (.take f)) :
    Owed fl generation (s.take fl f) := by
  unfold Threads.take
  split
  · rename_i hbegins
    refine ⟨Rounded.sampled_double hfl _ _, covers_of_fresh rfl ?_, rfl, ?_, h.before, h.counted, h.consumed⟩
    · show Part (toMs fl (s.flyingUs fl)) (Rounded.sampled fl (s.game fl) (s.tick fl f)).outstandingMs
      by_cases hflying : s.flyingUs fl = 0
      · rw [hflying, toMs_zero hfl]
        exact .zero _
      · obtain ⟨hquiet, hcovers⟩ := hstep hbegins hflying
        rw [sampled_of_quiet s hquiet]
        by_cases happlied : s.shift.appliedUs = 0
        · -- nothing is taken, and the debt is what it was
          have hsame : (Rounded.reported fl (s.game fl) (s.tick fl f)).outstandingMs = s.owedMs := by
            show fl (s.owedMs - toMs fl s.shift.appliedUs) = s.owedMs
            rw [happlied, toMs_zero hfl, sub_zero, h.double]
          have hdebt := h.covers.debt
          rw [happlied, zero_add] at hdebt
          rwa [hsame]
        · exact hcovers happlied
    · intro r hr
      cases hr
  · exact h

theorem Owed.look (h : Owed fl generation s) : Owed fl generation s.look := by
  unfold Threads.look
  split
  · exact ⟨h.double, ⟨h.covers.sign, h.covers.debt⟩, h.tallied, h.current, h.before, h.counted, h.consumed⟩
  · exact h

/-- The request itself is nothing yet. -/
theorem Owed.request (h : Owed fl generation s) : Owed fl generation (s.request fl) := by
  have hshift : ∀ ms, Owed fl generation { s with stage := .outside, shift := s.shift.RequestFrameShift fl ms } :=
    fun ms => ⟨h.double, ⟨h.covers.sign, h.covers.debt⟩, h.tallied, h.current, h.before, h.counted, h.consumed⟩
  unfold Threads.request
  split
  · exact hshift _
  · exact hshift _
  · exact h

theorem Owed.reset (hfl : Rounding fl) (h : Owed fl generation s) : Owed fl generation s.ResetPacing := by
  unfold Threads.ResetPacing
  split
  · refine ⟨hfl.zero, covers_of_fresh rfl ?_, rfl, ?_, ?_, ?_, h.consumed⟩
    · -- what was in flight is not any more
      have hzero : Threads.flyingUs fl { s with
          pacer := s.pacer.Reset, shift := s.shift.CancelFrameShift, cancels := s.cancels + 1, reports := [] } = 0 := by
        unfold Threads.flyingUs
        dsimp only
        split
        · rename_i c hc
          have hle := h.before c hc
          rw [if_neg (by omega)]
        · rfl
      rw [hzero, toMs_zero hfl]
      exact .zero _
    · intro r hr
      cases hr
    · intro c hc
      exact Nat.le_succ_of_le (h.before c hc)
    · show s.shift.generation + 1 = generation + UInt32.ofNat (s.cancels + 1)
      rw [h.counted, UInt32.ofNat_add, UInt32.add_assoc]
      rfl
  · exact h

theorem Owed.consume (h : Owed fl generation s) (hstep : InStep fl s .consume) : Owed fl generation s.consume := by
  unfold Threads.consume
  split
  · rename_i hidle
    have hcovers := hstep (by rw [hidle]; rfl)
    have hflying : Threads.flyingUs fl { s with
        shift := { s.shift with requestUs := 0 }
        limiter := .took ⟨s.shift.requestUs, s.shift.generation, s.cancels⟩ } = mostUs fl s.shift.requestUs :=
      if_pos rfl
    refine ⟨h.double, ?_, h.tallied, h.current, ?_, h.counted, ?_⟩
    · rw [hflying]
      exact ⟨hcovers.sign, hcovers.debt⟩
    · rintro c ⟨⟩
      exact Nat.le_refl _
    · rintro c ⟨⟩
      exact h.counted
  · exact h

theorem Owed.note (hfl : Rounding fl) (h : Owed fl generation s) (savedPeriod : ℚ) (previousExit : UInt64) :
    Owed fl generation (s.note fl savedPeriod previousExit) := by
  unfold Threads.note
  split
  · rename_i c hlimiter
    have hconsumed : s.limiter.consumed = some c := by rw [hlimiter]; rfl
    dsimp only
    split
    · have hnone := h.covers.none hfl
      refine ⟨h.double, ⟨hnone.sign, hnone.debt⟩, h.tallied, h.current, ?_, h.counted, ?_⟩
      · intro c hc
        cases hc
      · intro c hc
        cases hc
    · have hcovers := h.covers
      have hbefore := h.before
      have hgeneration := h.consumed
      unfold Threads.flyingUs at hcovers
      rw [hconsumed] at hcovers hbefore hgeneration
      exact ⟨h.double, ⟨hcovers.sign, hcovers.debt⟩, h.tallied, h.current, hbefore, h.counted, hgeneration⟩
  · exact h

theorem Owed.report (hfl : Rounding fl) (h : Owed fl generation s) {frameMs : ℚ}
    (hstep : InStep fl s (.report frameMs)) : Owed fl generation (s.report fl frameMs) := by
  unfold Threads.report
  split
  · rename_i c periodMs hlimiter
    have hconsumed : s.limiter.consumed = some c := by rw [hlimiter]; rfl
    have hcovers := h.covers
    unfold Threads.flyingUs at hcovers
    rw [hconsumed] at hcovers
    dsimp only at hcovers ⊢
    split
    · rename_i hgeneration
      -- the generations agree: so do the cancels, as long as the counter has not come round
      have hcancels : c.cancels = s.cancels := by
        refine hstep c hconsumed ?_
        have hle := h.before c hconsumed
        rw [h.consumed c hconsumed, h.counted, UInt32.add_right_inj, ← UInt32.toNat_inj, UInt32.toNat_ofNat',
          UInt32.toNat_ofNat'] at hgeneration
        omega
      rw [if_pos hcancels] at hcovers
      have hpart := reported_part hfl periodMs frameMs c.requestUs
      generalize toUs fl (Rounded.AppliedShiftMs fl periodMs frameMs (toMs fl c.requestUs)) = us at hpart
      -- what is reported is part of what was in flight, and so covered with what was there
      have hsum : Part ((s.shift.appliedUs + us : ℤ) : ℚ) (s.shift.appliedUs + mostUs fl c.requestUs : ℤ) := by
        have hsign := hcovers.sign
        rw [Int.cast_add] at hsign ⊢
        rw [Int.cast_add]
        exact hsign.add (by rwa [add_sub_cancel_left])
      refine ⟨h.double, ⟨?_, ?_⟩, ?_, ?_, ?_, h.counted, ?_⟩
      · show Part _ ((s.shift.appliedUs + us + 0 : ℤ) : ℚ)
        rw [add_zero]
        exact .refl _
      · show Part (toMs fl (s.shift.appliedUs + us + 0)) s.owedMs
        rw [add_zero]
        exact (toMs_part hfl hsum).trans hcovers.debt
      · show s.shift.appliedUs + us = _
        rw [h.tallied, List.map_append, List.sum_append, List.map_cons, List.map_nil, List.sum_singleton]
      · intro r hr
        rcases List.mem_append.1 hr with hr | hr
        · exact h.current r hr
        · rw [List.mem_singleton.1 hr]
          exact hcancels
      · intro c hc
        cases hc
      · intro c hc
        cases hc
    · have hnone := h.covers.none hfl
      refine ⟨h.double, ⟨hnone.sign, hnone.debt⟩, h.tallied, h.current, ?_, h.counted, ?_⟩
      · intro c hc
        cases hc
      · intro c hc
        cases hc
  · exact h

theorem owed_next (hfl : Rounding fl) (h : Owed fl generation s) {a : Stretch} (hstep : InStep fl s a) :
    Owed fl generation ((threads fl).next s a).1 := by
  cases a with
  | take f => exact h.take hfl hstep
  | look => exact h.look
  | request => exact h.request
  | reset => exact h.reset hfl
  | consume => exact h.consume hstep
  | note savedPeriod previousExit => exact h.note hfl savedPeriod previousExit
  | report frameMs => exact h.report hfl hstep

theorem Owed.never (hfl : Rounding fl) (h : Owed fl generation s) (a : Stretch) : NeverOverpays fl s a := by
  cases a with
  | take f => exact fun _ => h.accounts hfl
  | _ => trivial

theorem never_overpays (hfl : Rounding fl) (h : Owed fl generation s) {past : List (Taken Threads Stretch Unit)}
    {stretches : List Stretch} (hsteps : (threads fl).Meets (fun _ => InStep fl) s past stretches) :
    (threads fl).Meets (fun _ => NeverOverpays fl) s past stretches :=
  Machine.meets_of_inv (fun _ => Owed fl generation) (fun _ _ _ hs ha => owed_next hfl hs ha)
    (fun _ _ a hs _ => hs.never hfl a) h hsteps

end Steps

/-! ## One thread -/

/-- A call that nothing comes between, as when one thread makes them all. -/
inductive Whole where
  | tick (f : Found)
  | frame (savedPeriod : ℚ) (previousExit : UInt64) (frameMs : ℚ)
  | reset

def Whole.stretches : Whole → List Stretch
  | .tick f => [.take f, .look, .request]
  | .frame savedPeriod previousExit frameMs => [.consume, .note savedPeriod previousExit, .report frameMs]
  | .reset => [.reset]

section

variable (fl : ℚ → ℚ)

/-- `LimitFrame`. -/
def Threads.LimitFrame (s : Threads) (savedPeriod : ℚ) (previousExit : UInt64) (frameMs : ℚ) : Threads :=
  (s.consume.note fl savedPeriod previousExit).report fl frameMs

/-- The calls of one thread. -/
def calls : Machine Threads Whole Unit where
  next s w := ((threads fl).run s w.stretches, [])

/-- The debt covers what is asked for, as it comes out in doubles. -/
def Fits (c : Controller) : Prop := Part (toMs fl (mostUs fl (toUs fl c.NextShiftMs))) c.outstandingMs

/-- What a tick asks for fits the debt. -/
def AsksFitting (s : Threads) : Whole → Prop
  | .tick f => s.begins f = true → s.shift.limiterRan = true →
      Fits fl (Rounded.sampled fl (s.game fl) (s.tick fl f))
  | _ => True

/-- What is true between two calls. -/
structure Between (s : Threads) : Prop where
  outside : s.stage = .outside
  idle : s.limiter = .idle
  request : s.Covers fl (mostUs fl s.shift.requestUs)

end

/-- Nothing is lost where nothing is rounded. -/
theorem fits_exact {c : Controller} (hpos : c.toTuning.Positive) : Fits id c := by
  have hus : ∀ us : ℤ, toUs id (toMs id us) = us := by
    intro us
    show truncate ((us : ℚ) / 1000 * 1000) = us
    rw [div_mul_cancel₀ _ (by norm_num), truncate_intCast]
  have hms : Part (toMs id (toUs id c.NextShiftMs)) c.NextShiftMs := by
    have hpart := (truncate_part (c.NextShiftMs * 1000)).mul (show (0 : ℚ) ≤ 1000⁻¹ by norm_num)
    rwa [mul_assoc, mul_inv_cancel₀ (by norm_num), mul_one, ← div_eq_mul_inv] at hpart
  rw [Fits, mostUs, hus]
  exact hms.trans (Controller.NextShiftMs_part hpos)

section Calls

variable {fl : ℚ → ℚ} {generation : UInt32} {s : Threads}

theorem toUs_zero (hfl : Rounding fl) : toUs fl 0 = 0 := by
  rw [toUs, zero_mul, hfl.zero]
  norm_num [truncate]

theorem Between.flying (h : Between fl s) : s.flyingUs fl = 0 := by
  unfold Threads.flyingUs
  rw [h.idle]
  rfl

theorem Between.tick (hfl : Rounding fl) (h : Between fl s) {f : Found} (hasks : AsksFitting fl s (.tick f)) :
    Between fl ((threads fl).run s (Whole.tick f).stretches) := by
  show Between fl ((s.take fl f).look.request fl)
  unfold Threads.take
  split
  · rename_i hbegins
    cases hran : s.shift.limiterRan with
    | true =>
      simp only [Threads.look, Threads.request, FrameShift.TakeAppliedShift, hran]
      exact ⟨rfl, h.idle, covers_of_fresh rfl (hasks hbegins hran)⟩
    | false =>
      simp only [Threads.look, Threads.request, FrameShift.TakeAppliedShift, hran]
      refine ⟨rfl, h.idle, covers_of_fresh rfl ?_⟩
      show Part (toMs fl (mostUs fl (toUs fl 0))) _
      rw [toUs_zero hfl, mostUs_zero hfl, toMs_zero hfl]
      exact .zero _
  · have hlook : s.look = s := by simp [Threads.look, h.outside]
    have hrequest : s.request fl = s := by simp [Threads.request, h.outside]
    rw [hlook, hrequest]
    exact h

theorem Between.reset (hfl : Rounding fl) (h : Between fl s) :
    Between fl ((threads fl).run s Whole.reset.stretches) := by
  show Between fl s.ResetPacing
  unfold Threads.ResetPacing
  rw [if_pos h.outside]
  refine ⟨h.outside, h.idle, covers_of_fresh rfl ?_⟩
  show Part (toMs fl (mostUs fl 0)) _
  rw [mostUs_zero hfl, toMs_zero hfl]
  exact .zero _

/-- `LimitFrame` without anything between: the request is gone, and what it has consumed was not
cancelled. -/
theorem Between.frame (h : Between fl s) (savedPeriod : ℚ) (previousExit : UInt64) (frameMs : ℚ) :
    (s.LimitFrame fl savedPeriod previousExit frameMs).stage = .outside ∧
      (s.LimitFrame fl savedPeriod previousExit frameMs).limiter = .idle ∧
      (s.LimitFrame fl savedPeriod previousExit frameMs).shift.requestUs = 0 ∧
      ∀ c ∈ (s.consume.note fl savedPeriod previousExit).limiter.consumed,
        c.cancels = (s.consume.note fl savedPeriod previousExit).cancels := by
  have hconsume : s.consume =
      { s with
        shift := { s.shift with requestUs := 0 }
        limiter := .took ⟨s.shift.requestUs, s.shift.generation, s.cancels⟩ } := by
    unfold Threads.consume
    rw [h.idle]
  rw [Threads.LimitFrame, hconsume]
  unfold Threads.note
  dsimp only
  split
  · refine ⟨h.outside, rfl, rfl, fun c hc => ?_⟩
    cases hc
  · unfold Threads.report
    dsimp only
    rw [if_pos rfl]
    refine ⟨h.outside, rfl, rfl, fun c hc => ?_⟩
    cases hc
    rfl

/-- A call that nothing comes between is in step, and leaves things as they were between calls. -/
theorem Between.call (hfl : Rounding fl) (h : Between fl s) (ho : Owed fl generation s) {w : Whole}
    (hasks : AsksFitting fl s w) (past : List (Taken Threads Stretch Unit)) :
    (threads fl).Meets (fun _ => InStep fl) s past w.stretches ∧ Between fl ((calls fl).next s w).1 ∧
      Owed fl generation ((calls fl).next s w).1 := by
  have hmeets : (threads fl).Meets (fun _ => InStep fl) s past w.stretches := by
    cases w with
    | tick f => exact ⟨fun _ hflying => absurd h.flying hflying, trivial, trivial, trivial⟩
    | frame savedPeriod previousExit frameMs =>
      exact ⟨fun _ => h.request, trivial, fun c hc _ => (h.frame savedPeriod previousExit frameMs).2.2.2 c hc, trivial⟩
    | reset => exact ⟨trivial, trivial⟩
  have hnext : Owed fl generation ((threads fl).run s w.stretches) :=
    Machine.inv_of_steps (fun _ => Owed fl generation) (fun _ _ _ hs ha => owed_next hfl hs ha) ho hmeets
  refine ⟨hmeets, ?_, hnext⟩
  cases w with
  | tick f => exact h.tick hfl hasks
  | frame savedPeriod previousExit frameMs =>
    obtain ⟨houtside, hidle, hrequest, -⟩ := h.frame savedPeriod previousExit frameMs
    have hcovers : (s.LimitFrame fl savedPeriod previousExit frameMs).Covers fl 0 := hnext.covers.none hfl
    have hbetween : Between fl (s.LimitFrame fl savedPeriod previousExit frameMs) :=
      ⟨houtside, hidle, by rwa [hrequest, mostUs_zero hfl]⟩
    exact hbetween
  | reset => exact h.reset hfl

/-- Calls that do not overlap are in step, as long as no request comes out larger than the debt. -/
theorem inStep_of_whole (hfl : Rounding fl) (h : Between fl s) (ho : Owed fl generation s) {ws : List Whole}
    {past : List (Taken Threads Whole Unit)} (hasks : (calls fl).Meets (fun _ => AsksFitting fl) s past ws)
    (past' : List (Taken Threads Stretch Unit)) :
    (threads fl).Meets (fun _ => InStep fl) s past' (ws.flatMap Whole.stretches) := by
  induction ws generalizing s past past' with
  | nil => trivial
  | cons w ws ih =>
    obtain ⟨hask, hasks⟩ := hasks
    obtain ⟨hmeets, hnext, hnextOwed⟩ := h.call hfl ho hask past'
    rw [List.flatMap_cons, Machine.meets_append]
    exact ⟨hmeets, ih hnext hnextOwed hasks _⟩

theorem between_start (hfl : Rounding fl) (pacer : Controller) (generation : UInt32) (limiterRan : Bool) :
    Between fl (.start pacer generation limiterRan) := by
  refine ⟨rfl, rfl, covers_of_fresh rfl ?_⟩
  show Part (toMs fl (mostUs fl 0)) _
  rw [mostUs_zero hfl, toMs_zero hfl]
  exact .zero _

/-- So they do not overpay. -/
theorem whole_never_overpays (hfl : Rounding fl) {pacer : Controller}
    (hdebt : fl pacer.outstandingMs = pacer.outstandingMs) (generation : UInt32) (limiterRan : Bool) {ws : List Whole}
    (hasks : (calls fl).Meets (fun _ => AsksFitting fl) (.start pacer generation limiterRan) [] ws) :
    (threads fl).Meets (fun _ => NeverOverpays fl) (.start pacer generation limiterRan) [] (ws.flatMap Whole.stretches) :=
  have howed := owed_start hfl hdebt generation limiterRan
  never_overpays hfl howed (inStep_of_whole hfl (between_start hfl pacer generation limiterRan) howed hasks [])

/-- A call leaves the tuning alone. -/
theorem calls_toTuning (s : Threads) (w : Whole) : ((calls fl).next s w).1.pacer.toTuning = s.pacer.toTuning := by
  cases w with
  | tick f =>
    have hlook (s : Threads) : s.look.pacer = s.pacer := by
      unfold Threads.look
      split <;> rfl
    have hrequest (s : Threads) : (s.request fl).pacer = s.pacer := by
      unfold Threads.request
      split <;> rfl
    show ((s.take fl f).look.request fl).pacer.toTuning = _
    rw [hrequest, hlook, Threads.take]
    split
    · exact Rounded.sampled_toTuning (s.game fl) (s.tick fl f)
    · rfl
  | frame savedPeriod previousExit frameMs =>
    have hconsume (s : Threads) : s.consume.pacer = s.pacer := by
      unfold Threads.consume
      split <;> rfl
    have hnote (s : Threads) : (s.note fl savedPeriod previousExit).pacer = s.pacer := by
      unfold Threads.note
      split <;> rfl
    have hreport (s : Threads) : (s.report fl frameMs).pacer = s.pacer := by
      unfold Threads.report
      split
      · dsimp only
        split <;> rfl
      · rfl
    show (((s.consume.note fl savedPeriod previousExit).report fl frameMs)).pacer.toTuning = _
    rw [hreport, hnote, hconsume]
  | reset =>
    show s.ResetPacing.pacer.toTuning = _
    unfold Threads.ResetPacing
    split <;> rfl

/-- Where nothing is rounded either, every tick asks for what fits. -/
theorem asksFitting_exact {s : Threads} (hpos : s.pacer.toTuning.Positive) {past : List (Taken Threads Whole Unit)}
    (ws : List Whole) : (calls id).Meets (fun _ => AsksFitting id) s past ws := by
  induction ws generalizing s past with
  | nil => trivial
  | cons w ws ih =>
    refine ⟨?_, ih (by rwa [calls_toTuning])⟩
    cases w with
    | tick f => exact fun _ _ => fits_exact (by rwa [Rounded.sampled_toTuning])
    | _ => trivial

/-- In exact time no tick of one thread overpays. -/
theorem never_overpays_exact {pacer : Controller} (hpos : pacer.toTuning.Positive) (generation : UInt32)
    (limiterRan : Bool) (ws : List Whole) :
    (threads id).Meets (fun _ => NeverOverpays id) (.start pacer generation limiterRan) [] (ws.flatMap Whole.stretches) :=
  whole_never_overpays rounding_id rfl generation limiterRan (asksFitting_exact hpos ws)

end Calls

/-! ## What a request too many does -/

/-- Where the limiter consumes more than is still owed, a frame that turns out as it was asked
for makes the next tick overpay. -/
theorem overpays_of_consume {fl : ℚ → ℚ} (hfl : Rounding fl) {s : Threads} (hidle : s.limiter = .idle)
    (happlied : Part (s.appliedMs fl) s.owedMs)
    (h : ¬Part (toMs fl (s.shift.appliedUs + mostUs fl s.shift.requestUs)) s.owedMs)
    {savedPeriod frameMs : ℚ} {previousExit : UInt64} (hperiod : 0 < savedPeriod) (hexit : previousExit ≠ 0)
    (hframe : Part (toMs fl s.shift.requestUs) (fl (frameMs - fl (savedPeriod * 1000)))) {f : Found}
    (hbegins : s.begins f = true) (past : List (Taken Threads Stretch Unit)) :
    ¬(threads fl).Meets (fun _ => NeverOverpays fl) s past
      [.consume, .note savedPeriod previousExit, .report frameMs, .take f] := by
  have hrequest : toMs fl s.shift.requestUs ≠ 0 := by
    intro hzero
    rw [mostUs, hzero, toUs_zero hfl, add_zero] at h
    exact h happlied
  have hreport : (s.consume.note fl savedPeriod previousExit).report fl frameMs =
      { s with
        shift := { s.shift with
          requestUs := 0
          appliedUs := s.shift.appliedUs + mostUs fl s.shift.requestUs
          limiterRan := true }
        limiter := .idle
        reports := s.reports ++ [⟨mostUs fl s.shift.requestUs, s.cancels⟩] } := by
    have hruns : (decide (savedPeriod > 0) && decide (previousExit ≠ 0)) = true := by simp [hperiod, hexit]
    simp only [Threads.consume, hidle, Threads.note, hruns, hrequest, Threads.report,
      Rounded.AppliedShiftMs_full hfl hframe, mostUs, decide_false, Bool.not_true, Bool.or_self, Bool.false_eq_true,
      if_false, if_true, Bool.or_true]
  rintro ⟨-, -, -, htake, -⟩
  have haccounts : Accounts fl ((s.consume.note fl savedPeriod previousExit).report fl frameMs) := by
    refine htake ?_
    show ((s.consume.note fl savedPeriod previousExit).report fl frameMs).begins f = true
    rw [hreport]
    exact hbegins
  have hpart := haccounts.applied
  rw [hreport] at hpart
  exact h hpart

namespace Sample

def found : Found := ⟨true, false, none⟩

def tick : List Stretch := [.take found, .look, .request]

/-- A frame of 1/64 s that turns out 3 ms longer. -/
def waits : List Stretch := [.note (1 / 64) 1, .report (1000 / 64 + 3)]

/-- The tick falls into the wait, and asks for the shift that is just being applied. -/
def overlapping : List Stretch := tick ++ [.consume] ++ tick ++ waits ++ [.consume] ++ waits ++ [.take found]

/-- The tick falls into the wait; the next one finds the shift applied before the limiter consumes again. -/
def overtaken : List Stretch := tick ++ [.consume] ++ tick ++ waits ++ tick ++ [.consume] ++ waits ++ [.take found]

/-- This much is owed, and the constants are the source's. -/
def owing (ms : ℚ) : Controller :=
  { outstandingMs := binary64 ms, gain := binary64 (1 / 120), smoothing := binary64 (1 / 15) }

end Sample

instance (x y : ℚ) : Decidable (Part x y) := inferInstanceAs (Decidable ((0 ≤ x ∧ x ≤ y) ∨ (y ≤ x ∧ x ≤ 0)))

section

variable (fl : ℚ → ℚ)

instance (s : Threads) (us : ℤ) : Decidable (s.Covers fl us) :=
  decidable_of_iff
    (Part (s.shift.appliedUs : ℚ) (s.shift.appliedUs + us : ℤ) ∧ Part (toMs fl (s.shift.appliedUs + us)) s.owedMs)
    ⟨fun ⟨sign, debt⟩ => ⟨sign, debt⟩, fun h => ⟨h.sign, h.debt⟩⟩

instance (s : Threads) : Decidable (Accounts fl s) :=
  decidable_of_iff
    (Part (s.appliedMs fl) s.owedMs ∧ Part (Rounded.OnShiftApplied fl s.pacer (s.appliedMs fl)).outstandingMs s.owedMs ∧
      s.shift.appliedUs = (s.reports.map (·.us)).sum ∧ ∀ r ∈ s.reports, r.cancels = s.cancels)
    ⟨fun ⟨applied, left, tallied, current⟩ => ⟨applied, left, tallied, current⟩,
      fun h => ⟨h.applied, h.left, h.tallied, h.current⟩⟩

instance (s : Threads) : (a : Stretch) → Decidable (NeverOverpays fl s a)
  | .take f => inferInstanceAs (Decidable (s.begins f = true → Accounts fl s))
  | .look => isTrue trivial
  | .request => isTrue trivial
  | .reset => isTrue trivial
  | .consume => isTrue trivial
  | .note _ _ => isTrue trivial
  | .report _ => isTrue trivial

instance (s : Threads) : (a : Stretch) → Decidable (InStep fl s a)
  | .take f =>
    inferInstanceAs (Decidable (s.begins f = true → s.flyingUs fl ≠ 0 → f.disturbs = false ∧
      (s.shift.appliedUs ≠ 0 → Part (toMs fl (s.flyingUs fl)) (fl (s.owedMs - s.appliedMs fl)))))
  | .consume => inferInstanceAs (Decidable (s.limiter.consumed = none → s.Covers fl (mostUs fl s.shift.requestUs)))
  | .report _ =>
    inferInstanceAs (Decidable (∀ c ∈ s.limiter.consumed, (s.cancels - c.cancels) % 2 ^ 32 = 0 → c.cancels = s.cancels))
  | .look => isTrue trivial
  | .request => isTrue trivial
  | .reset => isTrue trivial
  | .note _ _ => isTrue trivial

end

/-- As long as the debt covers what the limiter consumes, no tick overpays, whatever comes between the
two threads' stretches. -/
theorem pacing_never_overpays {pacer : Controller} (hdebt : binary64 pacer.outstandingMs = pacer.outstandingMs)
    (generation : UInt32) (limiterRan : Bool) {stretches : List Stretch}
    (h : (threads binary64).Meets (fun _ => InStep binary64) (.start pacer generation limiterRan) [] stretches) :
    (threads binary64).Meets (fun _ => NeverOverpays binary64) (.start pacer generation limiterRan) [] stretches :=
  never_overpays rounding_binary64 (owed_start rounding_binary64 hdebt generation limiterRan) h

theorem pacing_never_overpays_overtaken :
    (threads binary64).Meets (fun _ => NeverOverpays binary64) (.start (Sample.owing 4) 0 true) [] Sample.overtaken :=
  pacing_never_overpays (by decide +kernel) 0 true (by decide +kernel)

/-- The PC owes 4 ms, and slows down by 6. -/
theorem overlap_overpays :
    ¬(threads binary64).Meets (fun _ => NeverOverpays binary64) (.start (Sample.owing 4) 0 true) []
      Sample.overlapping := by
  decide +kernel

/-- One thread is enough where the doubles come out badly: of 6 ms, 2 and 1.506 have been paid. -/
example : ¬(threads binary64).Meets (fun _ => NeverOverpays binary64)
    (.start (Sample.owing (4 - binary64 (1506 / 1000))) 0 true) []
      (Sample.tick ++ [.consume] ++ Sample.waits ++ [.take Sample.found]) := by
  decide +kernel

end Sf4e.Battle.Pacing
