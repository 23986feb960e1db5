import Sf4e.Battle.Pacing
import Sf4e.Lib.Binary64
/-!
# Pacing in doubles

The controller and what the limiter reports again, with every result rounded as `fl` does. With
nothing rounded they are those of exact time.
-/

namespace Sf4e.Battle.Pacing.Rounded

open Sf4e.Lib

section

variable (fl : ℚ → ℚ)

/-- The part of `OnRiftSample` that takes the sample into the average. -/
def averaged (c : Controller) (rift : ℚ) : Controller :=
  let riftFrames := if c.hasRift then fl (c.riftFrames + fl (fl (rift - c.riftFrames) * c.smoothing)) else rift
  { c with
    riftFrames
    hasRift := true
    samples := c.samples + 1
    maxAbsRiftFrames :=
      if Controller.Abs riftFrames > c.maxAbsRiftFrames then Controller.Abs riftFrames else c.maxAbsRiftFrames }

def excess (c : Controller) : ℚ :=
  if c.riftFrames > 0 then fl (c.riftFrames - c.deadZoneFrames) else fl (c.riftFrames + c.deadZoneFrames)

/-- The part of `OnRiftSample` that runs up the debt. -/
def charged (c : Controller) : Controller :=
  if !c.enabled || Controller.Abs c.riftFrames ≤ c.deadZoneFrames then c
  else
    let ms := fl (fl (excess fl c * fl (1000 / 60)) * c.gain)
    { c with outstandingMs := Controller.Clamp (fl (c.outstandingMs + ms)) (fl (2 * c.maxStepMs)) }

def OnRiftSample (c : Controller) (localBehind remoteBehind : ℚ) : Controller :=
  if c.holdRemaining > 0 then { c with holdRemaining := c.holdRemaining - 1 }
  else charged fl (averaged fl c (fl (fl (remoteBehind - localBehind) * (1 / 2))))

def OnShiftApplied (c : Controller) (ms : ℚ) : Controller :=
  { c with
    slowedMs := if ms > 0 then fl (c.slowedMs + ms) else c.slowedMs
    spedUpMs := if ms > 0 then c.spedUpMs else fl (c.spedUpMs - ms)
    maxShiftMs := if Controller.Abs ms > c.maxShiftMs then Controller.Abs ms else c.maxShiftMs
    outstandingMs := fl (c.outstandingMs - ms) }

def AppliedShiftMs (periodMs frameMs shiftMs : ℚ) : ℚ :=
  let applied := if shiftMs ≥ 0 then fl (frameMs - periodMs) else fl (periodMs - frameMs)
  let limit := Controller.Abs shiftMs
  let applied := if applied < 0 then 0 else applied
  let applied := if applied > limit then limit else applied
  if shiftMs ≥ 0 then applied else -applied

/-- The controller when `StepPacing` has accounted for the limiter's shift. -/
def reported (s : Pacer) (t : Tick) : Controller := OnShiftApplied fl s.pacer t.applied

/-- And when the tick's stall or sample has been, too. -/
def sampled (s : Pacer) (t : Tick) : Controller :=
  if t.bPredictionStalled then (reported fl s t).OnPredictionStall
  else
    match t.stats with
    | none => reported fl s t
    | some timesync => OnRiftSample fl (reported fl s t) timesync.local_frames_behind timesync.remote_frames_behind

end

/-! ## With nothing rounded -/

theorem sampled_id (s : Pacer) (t : Tick) : sampled id s t = s.sampled t := rfl

/-! ## What rounding keeps -/

variable {fl : ℚ → ℚ}

@[simp] theorem sampled_toTuning (s : Pacer) (t : Tick) : (sampled fl s t).toTuning = s.pacer.toTuning := by
  unfold sampled
  split
  · rfl
  · split
    · rfl
    · unfold OnRiftSample charged
      split
      · rfl
      · split <;> rfl

theorem clamp_double {v limit : ℚ} (hfl : Rounding fl) (hv : fl v = v) (hlimit : fl limit = limit) :
    fl (Controller.Clamp v limit) = Controller.Clamp v limit := by
  unfold Controller.Clamp clamp
  split
  · exact hlimit
  · split
    · rw [hfl.neg, hlimit]
    · exact hv

/-- The debt is a double at every tick. -/
theorem sampled_double (hfl : Rounding fl) (s : Pacer) (t : Tick) :
    fl (sampled fl s t).outstandingMs = (sampled fl s t).outstandingMs := by
  have hreported : fl (reported fl s t).outstandingMs = (reported fl s t).outstandingMs := hfl.idem _
  unfold sampled
  split
  · exact hfl.zero
  · split
    · exact hreported
    · unfold OnRiftSample charged
      split
      · exact hreported
      · split
        · exact hreported
        · exact clamp_double hfl (hfl.idem _) (hfl.idem _)

/-- What the limiter reports, from how much longer the frame was. -/
theorem AppliedShiftMs_eq (hfl : Rounding fl) (periodMs frameMs shiftMs : ℚ) :
    AppliedShiftMs fl periodMs frameMs shiftMs = Pacing.AppliedShiftMs 0 (fl (frameMs - periodMs)) shiftMs := by
  have hneg : fl (periodMs - frameMs) = -fl (frameMs - periodMs) := by rw [← hfl.neg, neg_sub]
  simp only [AppliedShiftMs, Pacing.AppliedShiftMs, hneg, sub_zero, zero_sub]

theorem AppliedShiftMs_part (hfl : Rounding fl) (periodMs frameMs shiftMs : ℚ) :
    Part (AppliedShiftMs fl periodMs frameMs shiftMs) shiftMs := by
  rw [AppliedShiftMs_eq hfl]
  exact Pacing.AppliedShiftMs_part ..

/-- A frame that turns out at least as it was asked for. -/
theorem AppliedShiftMs_full (hfl : Rounding fl) {periodMs frameMs shiftMs : ℚ}
    (h : Part shiftMs (fl (frameMs - periodMs))) : AppliedShiftMs fl periodMs frameMs shiftMs = shiftMs := by
  rw [AppliedShiftMs_eq hfl, Pacing.AppliedShiftMs, Controller.Abs_eq]
  rcases h with ⟨hpos, hle⟩ | ⟨hle, hneg⟩
  · simp only [if_pos hpos, sub_zero, abs_of_nonneg hpos, if_neg (not_lt.2 (hpos.trans hle))]
    split
    · rfl
    · rename_i hnot
      exact le_antisymm (not_lt.1 hnot) hle
  · rcases hneg.lt_or_eq with hneg | rfl
    · have hlong : ¬0 - fl (frameMs - periodMs) < 0 := by linarith
      simp only [if_neg (not_le.2 hneg), abs_of_neg hneg, if_neg hlong]
      split
      · exact neg_neg _
      · rename_i hnot
        linarith
    · -- nothing was asked for
      have hpart := Pacing.AppliedShiftMs_part 0 (fl (frameMs - periodMs)) 0
      rw [Pacing.AppliedShiftMs, Controller.Abs_eq] at hpart
      exact hpart.elim (fun h => le_antisymm h.2 h.1) fun h => le_antisymm h.2 h.1

end Sf4e.Battle.Pacing.Rounded
