import Mathlib.Algebra.Order.Field.Rat
import Mathlib.Tactic.Ring
import Sf4e.Lib.Clamp
import Sf4e.Lib.Machine
/-!
# Pacing

Two PCs keep level by making single frames a few milliseconds longer or shorter.
The controller carries a debt of milliseconds, asks the game's limiter for a part
of it, and is told what the limiter made of that.

Time is exact here: rationals for the code's doubles.
-/

namespace Sf4e.Battle.Pacing

open Sf4e.Lib

/-! ## The controller -/

structure Tuning where
  enabled : Bool := true
  maxStepMs : ℚ := 3
  minShiftMs : ℚ := 1
  deadZoneFrames : ℚ := 3 / 4
  gain : ℚ := 1 / 120
  smoothing : ℚ := 1 / 15
  holdTicks : ℤ := 45

structure Controller extends Tuning where
  outstandingMs : ℚ := 0
  riftFrames : ℚ := 0
  hasRift : Bool := false
  holdRemaining : ℤ := 0
  samples : UInt64 := 0
  slowedMs : ℚ := 0
  spedUpMs : ℚ := 0
  maxShiftMs : ℚ := 0
  maxAbsRiftFrames : ℚ := 0
  stallTicks : ℤ := 0

namespace Controller

def Abs (v : ℚ) : ℚ := if v < 0 then -v else v

theorem Abs_eq (v : ℚ) : Abs v = |v| := by
  unfold Abs
  split
  · rename_i h
    exact (abs_of_neg h).symm
  · rename_i h
    exact (abs_of_nonneg (not_lt.1 h)).symm

def Clamp (v limit : ℚ) : ℚ := clamp v limit

def Reset (c : Controller) : Controller :=
  { c with
    outstandingMs := 0, riftFrames := 0, hasRift := false, holdRemaining := 0, samples := 0
    slowedMs := 0, spedUpMs := 0, maxShiftMs := 0, maxAbsRiftFrames := 0, stallTicks := 0 }

def OnPredictionStall (c : Controller) : Controller :=
  { c with holdRemaining := c.holdTicks, outstandingMs := 0, stallTicks := c.stallTicks + 1 }

/-- The part of `OnRiftSample` that takes the sample into the average. -/
def averaged (c : Controller) (rift : ℚ) : Controller :=
  let riftFrames := if c.hasRift then c.riftFrames + (rift - c.riftFrames) * c.smoothing else rift
  { c with
    riftFrames
    hasRift := true
    samples := c.samples + 1
    maxAbsRiftFrames := if Abs riftFrames > c.maxAbsRiftFrames then Abs riftFrames else c.maxAbsRiftFrames }

/-- How far the average is outside the dead zone. -/
def excess (c : Controller) : ℚ :=
  if c.riftFrames > 0 then c.riftFrames - c.deadZoneFrames else c.riftFrames + c.deadZoneFrames

/-- The part of `OnRiftSample` that runs up the debt. -/
def charged (c : Controller) : Controller :=
  if !c.enabled || Abs c.riftFrames ≤ c.deadZoneFrames then c
  else { c with outstandingMs := Clamp (c.outstandingMs + c.excess * (1000 / 60) * c.gain) (2 * c.maxStepMs) }

def OnRiftSample (c : Controller) (localBehind remoteBehind : ℚ) : Controller :=
  if c.holdRemaining > 0 then { c with holdRemaining := c.holdRemaining - 1 }
  else (c.averaged ((remoteBehind - localBehind) * (1 / 2))).charged

def NextShiftMs (c : Controller) : ℚ :=
  if !c.enabled || Abs c.outstandingMs < c.minShiftMs then 0 else Clamp c.outstandingMs c.maxStepMs

def OnShiftApplied (c : Controller) (ms : ℚ) : Controller :=
  { c with
    slowedMs := if ms > 0 then c.slowedMs + ms else c.slowedMs
    spedUpMs := if ms > 0 then c.spedUpMs else c.spedUpMs - ms
    maxShiftMs := if Abs ms > c.maxShiftMs then Abs ms else c.maxShiftMs
    outstandingMs := c.outstandingMs - ms }

@[simp] theorem OnPredictionStall_toTuning (c : Controller) : c.OnPredictionStall.toTuning = c.toTuning := rfl

@[simp] theorem OnShiftApplied_toTuning (c : Controller) (ms : ℚ) : (c.OnShiftApplied ms).toTuning = c.toTuning := rfl

@[simp] theorem averaged_toTuning (c : Controller) (rift : ℚ) : (c.averaged rift).toTuning = c.toTuning := rfl

@[simp] theorem charged_toTuning (c : Controller) : c.charged.toTuning = c.toTuning := by
  unfold charged
  split <;> rfl

@[simp] theorem OnRiftSample_toTuning (c : Controller) (localBehind remoteBehind : ℚ) :
    (c.OnRiftSample localBehind remoteBehind).toTuning = c.toTuning := by
  unfold OnRiftSample
  split
  · rfl
  · rw [charged_toTuning, averaged_toTuning]

end Controller

/-! ## The limiter -/

def ShiftedPeriodMs (periodMs elapsedMs shiftMs : ℚ) : ℚ :=
  if shiftMs ≥ 0 then periodMs + shiftMs
  else
    let slack := if periodMs - elapsedMs - 1 / 4 < 0 then 0 else periodMs - elapsedMs - 1 / 4
    periodMs - (if -shiftMs < slack then -shiftMs else slack)

def AppliedShiftMs (periodMs frameMs shiftMs : ℚ) : ℚ :=
  let applied := if shiftMs ≥ 0 then frameMs - periodMs else periodMs - frameMs
  let limit := Controller.Abs shiftMs
  let applied := if applied < 0 then 0 else applied
  let applied := if applied > limit then limit else applied
  if shiftMs ≥ 0 then applied else -applied

/-- Never below the smaller of the period and what has elapsed with a quarter. -/
theorem min_le_ShiftedPeriodMs (periodMs elapsedMs shiftMs : ℚ) :
    min periodMs (elapsedMs + 1 / 4) ≤ ShiftedPeriodMs periodMs elapsedMs shiftMs := by
  unfold ShiftedPeriodMs
  dsimp only
  split
  · rename_i hshift
    exact (min_le_left _ _).trans (by linarith)
  · split
    · refine (min_le_left _ _).trans ?_
      split <;> linarith
    · refine (min_le_right _ _).trans ?_
      split <;> linarith

/-- Never moved by more than the shift. -/
theorem abs_ShiftedPeriodMs_sub_le (periodMs elapsedMs shiftMs : ℚ) :
    |ShiftedPeriodMs periodMs elapsedMs shiftMs - periodMs| ≤ |shiftMs| := by
  unfold ShiftedPeriodMs
  dsimp only
  split
  · rw [add_sub_cancel_left]
  · rename_i hshift
    rw [abs_of_neg (not_le.1 hshift), abs_le]
    have hneg := not_le.1 hshift
    refine ⟨?_, ?_⟩ <;> split <;> split <;> linarith

theorem nonneg_of_cut (v : ℚ) : 0 ≤ if v < 0 then 0 else v := by
  split
  · exact le_rfl
  · rename_i h
    exact not_lt.1 h

theorem mem_of_cut {v limit : ℚ} (hv : 0 ≤ v) (hlimit : 0 ≤ limit) :
    0 ≤ (if v > limit then limit else v) ∧ (if v > limit then limit else v) ≤ limit := by
  split
  · exact ⟨hlimit, le_rfl⟩
  · rename_i h
    exact ⟨hv, not_lt.1 h⟩

/-- Between nothing and what was asked for. -/
theorem AppliedShiftMs_part (periodMs frameMs shiftMs : ℚ) : Part (AppliedShiftMs periodMs frameMs shiftMs) shiftMs := by
  unfold AppliedShiftMs
  rw [Controller.Abs_eq]
  by_cases hshift : shiftMs ≥ 0
  · simp only [if_pos hshift]
    have hcut := mem_of_cut (nonneg_of_cut (frameMs - periodMs)) (abs_nonneg shiftMs)
    rw [abs_of_nonneg hshift] at hcut ⊢
    exact .inl hcut
  · simp only [if_neg hshift]
    have hcut := mem_of_cut (nonneg_of_cut (periodMs - frameMs)) (abs_nonneg shiftMs)
    rw [abs_of_neg (not_le.1 hshift)] at hcut ⊢
    exact .inr ⟨by linarith only [hcut.2], by linarith only [hcut.1]⟩

/-! ## One tick -/

/-- What GGPO says of how far each side is behind the other. -/
structure TimeSync where
  local_frames_behind : ℚ
  remote_frames_behind : ℚ

/-- What `StepPacing` finds when it is called. `playing` is that there is a GGPO session with a
valid local player which is no sync test; `applied` is what `TakeAppliedShift` returns; `stats`
is what the first remote player's network stats say, if there is one and they could be had. -/
structure Tick where
  playing : Bool
  applied : ℚ
  bPredictionStalled : Bool
  stats : Option TimeSync
  limiterActive : Bool

/-- The controller, with the shift that was last requested of the limiter. -/
structure Pacer where
  pacer : Controller
  requestedMs : ℚ

namespace Pacer

/-- Whether `StepPacing` returns at once. -/
def idle (s : Pacer) (t : Tick) : Bool := !t.playing || !s.pacer.enabled

/-- The controller when the limiter's shift has been accounted for. -/
def reported (s : Pacer) (t : Tick) : Controller := s.pacer.OnShiftApplied t.applied

/-- And when the tick's stall or sample has been, too. -/
def sampled (s : Pacer) (t : Tick) : Controller :=
  if t.bPredictionStalled then (s.reported t).OnPredictionStall
  else
    match t.stats with
    | none => s.reported t
    | some timesync => (s.reported t).OnRiftSample timesync.local_frames_behind timesync.remote_frames_behind

def StepPacing (s : Pacer) (t : Tick) : Pacer :=
  if s.idle t then s
  else if !t.limiterActive then ⟨s.sampled t, 0⟩
  else ⟨s.sampled t, (s.sampled t).NextShiftMs⟩

/-- `ResetPacing`, which cancels what was requested. -/
def ResetPacing (s : Pacer) : Pacer := ⟨s.pacer.Reset, 0⟩

end Pacer

/-! ## What is owed -/

structure Tuning.Positive (tuning : Tuning) : Prop where
  maxStepMs : 0 < tuning.maxStepMs
  minShiftMs : 0 < tuning.minShiftMs
  deadZoneFrames : 0 < tuning.deadZoneFrames
  gain : 0 < tuning.gain
  smoothing : 0 < tuning.smoothing
  holdTicks : 0 < tuning.holdTicks

namespace Controller

variable {c d : Controller} {limit : ℚ}

/-- A report of a part of a part of the debt pays it off in part. -/
theorem OnShiftApplied_part {ms requestedMs : ℚ} (hms : Part ms requestedMs)
    (hrequest : Part requestedMs c.outstandingMs) : Part (c.OnShiftApplied ms).outstandingMs c.outstandingMs :=
  (hms.trans hrequest).rest

theorem charged_debt (hpos : c.toTuning.Positive) (hdebt : |c.outstandingMs| ≤ 2 * c.maxStepMs) :
    |c.charged.outstandingMs| ≤ 2 * c.maxStepMs := by
  unfold charged
  split
  · exact hdebt
  · exact abs_clamp_le (by linarith only [hpos.maxStepMs]) _

theorem OnRiftSample_debt (hpos : c.toTuning.Positive) (hdebt : |c.outstandingMs| ≤ 2 * c.maxStepMs)
    (localBehind remoteBehind : ℚ) :
    |(c.OnRiftSample localBehind remoteBehind).outstandingMs| ≤ 2 * c.maxStepMs := by
  unfold OnRiftSample
  split
  · exact hdebt
  · exact charged_debt (c := c.averaged _) hpos hdebt

theorem OnPredictionStall_debt (hpos : c.toTuning.Positive) : |c.OnPredictionStall.outstandingMs| ≤ 2 * c.maxStepMs := by
  show |(0 : ℚ)| ≤ _
  rw [abs_zero]
  linarith only [hpos.maxStepMs]

/-- A request is a part of the debt. -/
theorem NextShiftMs_part (hpos : c.toTuning.Positive) : Part c.NextShiftMs c.outstandingMs := by
  unfold NextShiftMs
  split
  · exact .zero _
  · exact clamp_part hpos.maxStepMs.le _

theorem abs_NextShiftMs_le (hpos : c.toTuning.Positive) : |c.NextShiftMs| ≤ c.maxStepMs := by
  unfold NextShiftMs
  split
  · rw [abs_zero]
    exact hpos.maxStepMs.le
  · exact abs_clamp_le hpos.maxStepMs.le _

/-! ## Mirror images -/

/-- The other side's controller as it should be. -/
structure Mirrored (c d : Controller) : Prop where
  toTuning : d.toTuning = c.toTuning
  outstandingMs : d.outstandingMs = -c.outstandingMs
  riftFrames : d.riftFrames = -c.riftFrames
  hasRift : d.hasRift = c.hasRift
  holdRemaining : d.holdRemaining = c.holdRemaining

theorem mirrored_reset (c : Controller) : Mirrored c.Reset c.Reset :=
  ⟨rfl, neg_zero.symm, neg_zero.symm, rfl, rfl⟩

namespace Mirrored

theorem OnShiftApplied (h : Mirrored c d) (ms : ℚ) : Mirrored (c.OnShiftApplied ms) (d.OnShiftApplied (-ms)) where
  toTuning := h.toTuning
  outstandingMs := by
    show d.outstandingMs - -ms = -(c.outstandingMs - ms)
    rw [h.outstandingMs]
    ring
  riftFrames := h.riftFrames
  hasRift := h.hasRift
  holdRemaining := h.holdRemaining

theorem OnPredictionStall (h : Mirrored c d) : Mirrored c.OnPredictionStall d.OnPredictionStall where
  toTuning := h.toTuning
  outstandingMs := neg_zero.symm
  riftFrames := h.riftFrames
  hasRift := h.hasRift
  holdRemaining := by
    show d.holdTicks = c.holdTicks
    rw [h.toTuning]

theorem averaged (h : Mirrored c d) (rift : ℚ) : Mirrored (c.averaged rift) (d.averaged (-rift)) where
  toTuning := h.toTuning
  outstandingMs := h.outstandingMs
  riftFrames := by
    show (if d.hasRift then d.riftFrames + (-rift - d.riftFrames) * d.smoothing else -rift) =
      -(if c.hasRift then c.riftFrames + (rift - c.riftFrames) * c.smoothing else rift)
    rw [h.hasRift, h.riftFrames, h.toTuning]
    split
    · ring
    · rfl
  hasRift := rfl
  holdRemaining := h.holdRemaining

/-- Outside the dead zone the average is not 0, so that the two take opposite branches. -/
theorem excess (h : Mirrored c d) (hrift : c.riftFrames ≠ 0) : d.excess = -c.excess := by
  unfold Controller.excess
  rw [h.riftFrames, h.toTuning]
  rcases lt_or_gt_of_ne hrift with hneg | hpos
  · rw [if_pos (neg_pos.2 hneg), if_neg (not_lt.2 hneg.le)]
    ring
  · rw [if_neg (not_lt.2 (neg_nonpos.2 hpos.le)), if_pos hpos]
    ring

theorem charged (h : Mirrored c d) (hpos : c.toTuning.Positive) : Mirrored c.charged d.charged := by
  have habs : Abs d.riftFrames = Abs c.riftFrames := by rw [Abs_eq, Abs_eq, h.riftFrames, abs_neg]
  unfold Controller.charged
  rw [habs, h.toTuning]
  split
  · exact h
  · rename_i hout
    have hrift : c.riftFrames ≠ 0 := by
      rintro hzero
      apply hout
      rw [hzero, Abs_eq, abs_zero, decide_eq_true hpos.deadZoneFrames.le, Bool.or_true]
    refine ⟨rfl, ?_, h.riftFrames, h.hasRift, h.holdRemaining⟩
    show Clamp _ _ = -Clamp _ _
    unfold Clamp
    rw [← clamp_neg (by linarith only [hpos.maxStepMs]), h.outstandingMs, h.excess hrift]
    ring_nf

theorem OnRiftSample (h : Mirrored c d) (hpos : c.toTuning.Positive) (localBehind remoteBehind : ℚ) :
    Mirrored (c.OnRiftSample localBehind remoteBehind) (d.OnRiftSample remoteBehind localBehind) := by
  unfold Controller.OnRiftSample
  rw [h.holdRemaining]
  split
  · exact ⟨h.toTuning, h.outstandingMs, h.riftFrames, h.hasRift, rfl⟩
  · have hswap : (localBehind - remoteBehind) * (1 / 2) = -((remoteBehind - localBehind) * (1 / 2)) := by ring
    rw [hswap]
    exact (h.averaged _).charged hpos

theorem NextShiftMs (h : Mirrored c d) (hpos : c.toTuning.Positive) : d.NextShiftMs = -c.NextShiftMs := by
  have habs : Abs d.outstandingMs = Abs c.outstandingMs := by rw [Abs_eq, Abs_eq, h.outstandingMs, abs_neg]
  unfold Controller.NextShiftMs
  rw [habs, h.toTuning]
  split
  · exact neg_zero.symm
  · unfold Clamp
    rw [h.outstandingMs, clamp_neg hpos.maxStepMs.le]

end Mirrored

end Controller

/-! ## Runs -/

/-- The tick as it looks from the other side. -/
def Tick.mirror (t : Tick) : Tick :=
  { t with
    applied := -t.applied
    stats := t.stats.map fun timesync => ⟨timesync.remote_frames_behind, timesync.local_frames_behind⟩ }

/-- A pacer, and a second one that is fed the mirror image of every tick. -/
structure Pacers where
  own : Pacer
  other : Pacer

def pacers : Machine Pacers Tick Unit where
  next s t := (⟨s.own.StepPacing t, s.other.StepPacing t.mirror⟩, [])

/-- Both, when they have been reset. -/
def Pacers.start (pacer : Controller) : Pacers := ⟨Pacer.ResetPacing ⟨pacer, 0⟩, Pacer.ResetPacing ⟨pacer, 0⟩⟩

/-- The limiter applied some of what was requested of it. -/
def LimiterApplies (s : Pacers) (t : Tick) : Prop := s.own.idle t = false → Part t.applied s.own.requestedMs

/-- What holds of a controller at every moment. -/
structure Level (maxStepMs : ℚ) (own other : Controller) : Prop where
  debt : |own.outstandingMs| ≤ 2 * maxStepMs
  outstandingMs : other.outstandingMs = -own.outstandingMs
  riftFrames : other.riftFrames = -own.riftFrames

/-- What holds of a pacer between two ticks. -/
structure Requests (maxStepMs : ℚ) (s : Pacer) : Prop where
  request : Part s.requestedMs s.pacer.outstandingMs
  step : |s.requestedMs| ≤ maxStepMs
  applied : ∀ periodMs frameMs, Part (AppliedShiftMs periodMs frameMs s.requestedMs) s.requestedMs
  period : ∀ periodMs elapsedMs,
    min periodMs (elapsedMs + 1 / 4) ≤ ShiftedPeriodMs periodMs elapsedMs s.requestedMs ∧
      |ShiftedPeriodMs periodMs elapsedMs s.requestedMs - periodMs| ≤ |s.requestedMs|

/-- What a tick does: the moment before it, the one at which the report is in, and the one after it. -/
structure Paces (maxStepMs : ℚ) (s : Pacers) (t : Tick) : Prop where
  before : Level maxStepMs s.own.pacer s.other.pacer
  requests : Requests maxStepMs s.own
  opposite : s.other.requestedMs = -s.own.requestedMs
  reported : s.own.idle t = false →
    Level maxStepMs (s.own.reported t) (s.other.reported t.mirror) ∧
      Part (s.own.reported t).outstandingMs s.own.pacer.outstandingMs
  after : Level maxStepMs (s.own.StepPacing t).pacer (s.other.StepPacing t.mirror).pacer
  next : Requests maxStepMs (s.own.StepPacing t)

/-- What is true of both between ticks. -/
structure Paired (tuning : Tuning) (s : Pacers) : Prop where
  kept : s.own.pacer.toTuning = tuning
  mirrored : s.own.pacer.Mirrored s.other.pacer
  opposite : s.other.requestedMs = -s.own.requestedMs
  debt : |s.own.pacer.outstandingMs| ≤ 2 * tuning.maxStepMs
  request : Part s.own.requestedMs s.own.pacer.outstandingMs
  step : |s.own.requestedMs| ≤ tuning.maxStepMs

section Steps

variable {tuning : Tuning} {s : Pacers} {t : Tick}

theorem Controller.Mirrored.level {maxStepMs : ℚ} {own other : Controller} (h : own.Mirrored other)
    (hdebt : |own.outstandingMs| ≤ 2 * maxStepMs) : Level maxStepMs own other :=
  ⟨hdebt, h.outstandingMs, h.riftFrames⟩

theorem Paired.level (h : Paired tuning s) : Level tuning.maxStepMs s.own.pacer s.other.pacer := h.mirrored.level h.debt

theorem Paired.requests (h : Paired tuning s) : Requests tuning.maxStepMs s.own where
  request := h.request
  step := h.step
  applied _ _ := AppliedShiftMs_part _ _ _
  period _ _ := ⟨min_le_ShiftedPeriodMs _ _ _, abs_ShiftedPeriodMs_sub_le _ _ _⟩

theorem paired_start (pacer : Controller) (hpos : pacer.toTuning.Positive) :
    Paired pacer.toTuning (.start pacer) where
  kept := rfl
  mirrored := Controller.mirrored_reset pacer
  opposite := neg_zero.symm
  debt := by
    show |(0 : ℚ)| ≤ _
    rw [abs_zero]
    linarith only [hpos.maxStepMs]
  request := .zero _
  step := by
    show |(0 : ℚ)| ≤ _
    rw [abs_zero]
    exact hpos.maxStepMs.le

theorem Paired.idle_mirror (h : Paired tuning s) (t : Tick) : s.other.idle t.mirror = s.own.idle t := by
  unfold Pacer.idle
  rw [h.mirrored.toTuning]
  rfl

/-- The report only pays off. -/
theorem Paired.reported_part (h : Paired tuning s) (happlied : Part t.applied s.own.requestedMs) :
    Part (s.own.reported t).outstandingMs s.own.pacer.outstandingMs :=
  Controller.OnShiftApplied_part happlied h.request

theorem Paired.reported_mirrored (h : Paired tuning s) (t : Tick) :
    (s.own.reported t).Mirrored (s.other.reported t.mirror) :=
  h.mirrored.OnShiftApplied t.applied

theorem Paired.reported_tuning (h : Paired tuning s) (t : Tick) : (s.own.reported t).toTuning = tuning := h.kept

theorem Paired.sampled_mirrored (h : Paired tuning s) (hpos : tuning.Positive) (t : Tick) :
    (s.own.sampled t).Mirrored (s.other.sampled t.mirror) := by
  have hrep := h.reported_mirrored t
  unfold Pacer.sampled
  cases hstall : t.bPredictionStalled with
  | true =>
    rw [if_pos rfl, if_pos (show t.mirror.bPredictionStalled = true from hstall)]
    exact hrep.OnPredictionStall
  | false =>
    have hmirror : ¬ t.mirror.bPredictionStalled = true := by
      rw [show t.mirror.bPredictionStalled = false from hstall]
      exact Bool.false_ne_true
    rw [if_neg Bool.false_ne_true, if_neg hmirror]
    cases hstats : t.stats with
    | none => simpa only [Tick.mirror, hstats, Option.map_none] using hrep
    | some timesync =>
      have hown : (s.own.reported t).toTuning.Positive := by rwa [h.reported_tuning t]
      simpa only [Tick.mirror, hstats, Option.map_some] using
        hrep.OnRiftSample hown timesync.local_frames_behind timesync.remote_frames_behind

theorem sampled_toTuning (s : Pacer) (t : Tick) : (s.sampled t).toTuning = s.pacer.toTuning := by
  have hreported : (s.reported t).toTuning = s.pacer.toTuning := Controller.OnShiftApplied_toTuning _ _
  unfold Pacer.sampled
  split
  · rw [Controller.OnPredictionStall_toTuning, hreported]
  · split
    · exact hreported
    · rw [Controller.OnRiftSample_toTuning, hreported]

theorem Paired.sampled_debt (h : Paired tuning s) (hpos : tuning.Positive)
    (happlied : Part t.applied s.own.requestedMs) :
    |(s.own.sampled t).outstandingMs| ≤ 2 * tuning.maxStepMs := by
  have hown : (s.own.reported t).toTuning.Positive := by rwa [h.reported_tuning t]
  have hdebt := (h.reported_part happlied).bound h.debt
  rw [← h.reported_tuning t] at hdebt ⊢
  unfold Pacer.sampled
  split
  · exact Controller.OnPredictionStall_debt hown
  · split
    · exact hdebt
    · exact Controller.OnRiftSample_debt hown hdebt _ _

theorem paired_next (hpos : tuning.Positive) (h : Paired tuning s) (happlied : LimiterApplies s t) :
    Paired tuning (pacers.next s t).1 := by
  show Paired tuning ⟨s.own.StepPacing t, s.other.StepPacing t.mirror⟩
  have hother := h.idle_mirror t
  unfold Pacer.StepPacing
  cases hidle : s.own.idle t with
  | true =>
    rw [hidle] at hother
    rw [hother, if_pos rfl, if_pos rfl]
    exact h
  | false =>
    have htuning : (s.own.sampled t).toTuning = tuning := (sampled_toTuning s.own t).trans h.kept
    have hown : (s.own.sampled t).toTuning.Positive := by rwa [htuning]
    have hmirrored := h.sampled_mirrored hpos t
    have hdebt := h.sampled_debt hpos (happlied hidle)
    rw [hidle] at hother
    rw [hother, if_neg Bool.false_ne_true, if_neg Bool.false_ne_true]
    cases hactive : t.limiterActive with
    | false =>
      rw [show t.mirror.limiterActive = false from hactive]
      exact ⟨htuning, hmirrored, neg_zero.symm, hdebt, .zero _, by simpa using hpos.maxStepMs.le⟩
    | true =>
      rw [show t.mirror.limiterActive = true from hactive]
      have hstep := Controller.abs_NextShiftMs_le hown
      rw [htuning] at hstep
      exact ⟨htuning, hmirrored, hmirrored.NextShiftMs hown, hdebt, Controller.NextShiftMs_part hown, hstep⟩

theorem paces_of_paired (hpos : tuning.Positive) (h : Paired tuning s) (happlied : LimiterApplies s t) :
    Paces tuning.maxStepMs s t where
  before := h.level
  requests := h.requests
  opposite := h.opposite
  reported hidle :=
    have hpart := h.reported_part (happlied hidle)
    ⟨(h.reported_mirrored t).level (hpart.bound h.debt), hpart⟩
  after := (paired_next hpos h happlied).level
  next := (paired_next hpos h happlied).requests

end Steps

/-- As long as the limiter applies some of what it is asked for, the debt stays within two
steps, requests and reports are parts of it, and the other side's is its mirror image. -/
theorem pacing_level (pacer : Controller) (hpos : pacer.toTuning.Positive) {ticks : List Tick}
    (h : pacers.Meets (fun _ => LimiterApplies) (.start pacer) [] ticks) :
    pacers.Meets (fun _ => Paces pacer.maxStepMs) (.start pacer) [] ticks :=
  Machine.meets_of_inv (fun _ => Paired pacer.toTuning) (fun _ _ _ hs ht => paired_next hpos hs ht)
    (fun _ _ _ hs ht => paces_of_paired hpos hs ht) (paired_start pacer hpos) h

/-- This PC is ten frames ahead; the limiter applies a millisecond of what that asks for. -/
theorem pacing_level_ahead :
    pacers.Meets (fun _ => Paces 3) (.start {}) []
      [⟨true, 0, false, some ⟨0, 20⟩, true⟩, ⟨true, 1, false, some ⟨0, 20⟩, true⟩] := by
  refine pacing_level {} ⟨?_, ?_, ?_, ?_, ?_, ?_⟩ ⟨fun _ => .inl ⟨le_rfl, le_rfl⟩, fun _ => .inl ⟨?_, ?_⟩, trivial⟩
  any_goals norm_num
  norm_num [pacers, Pacers.start, Pacer.ResetPacing, Pacer.StepPacing, Pacer.idle, Pacer.sampled, Pacer.reported,
    Controller.Reset, Controller.OnShiftApplied, Controller.OnRiftSample, Controller.averaged, Controller.charged,
    Controller.excess, Controller.NextShiftMs, Controller.Abs, Controller.Clamp, clamp]

end Sf4e.Battle.Pacing
