import Sf4e.Battle.UpdateSteps
/-!
# Frames that wait

Two things make an update wait: the checkpoint at the boundaries of a round, until the inputs are
confirmed, and the frames that GGPO recommends to skip. `holds_kept`: a boundary waits for 30
frames at the most and is not crossed before, unless GGPO cannot tell how much is confirmed; and
every recommended frame that pacing does not repay is skipped or is still to be skipped.
-/
open Sf4e.Lib Sf4e.Netplay

namespace Sf4e.Battle

namespace Entry

def isHeld (e : Entry) : Bool := e = .held
def isReleased (e : Entry) : Bool := e = .released
def isSkipped (e : Entry) : Bool := e = .skipped

def isCaughtUp : Entry → Bool
  | .simulated .caughtUp _ _ => true
  | _ => false

/-- The flow of a frame that the update has offered to GGPO, which took or refused it. -/
def offered : Entry → Option BattleFlow
  | .simulated .live _ flow => some flow
  | .refused flow => some flow
  | _ => none

variable {e : Entry} {localPlayerHandle : Option ℤ}

theorem offered_of_plain (h : e.plain localPlayerHandle = true) : e.offered = none := by
  cases e with
  | simulated how => cases how <;> first | rfl | cases h
  | refused => cases h
  | _ => rfl

theorem watches_of_plain (h : e.plain localPlayerHandle = true) (hcaught : e.isCaughtUp = true) :
    localPlayerHandle = none := by
  cases e with
  | simulated how =>
    cases how with
    | caughtUp => exact Option.isNone_iff_eq_none.1 h
    | _ => cases hcaught
  | _ => cases hcaught

end Entry

/-- How many frames the checkpoint has held since it let one pass. -/
def heldSince (log : List Entry) : ℕ := (Log.since Entry.isReleased log).countP Entry.isHeld

/-- Since the frames to skip were last forgotten, what was recommended, and not left to pacing, has been
skipped or is to be. -/
def Skipped (log : List Entry) (nFramesToSkip : ℤ) : Prop :=
  nFramesToSkip + (Log.since Entry.forgets log).countP Entry.isSkipped =
    ((Log.since Entry.forgets log).map Entry.framesAhead).sum

/-! ## Steps that do not wait -/

/-- The frame neither waits nor is let pass. -/
structure Entry.Moves (e : Entry) : Prop where
  held : e.isHeld = false
  released : e.isReleased = false
  skipped : e.isSkipped = false

theorem Entry.moves_of_plain {e : Entry} {localPlayerHandle : Option ℤ} (h : e.plain localPlayerHandle = true) : e.Moves := by
  cases e <;> first | exact ⟨rfl, rfl, rfl⟩ | cases h

theorem Entry.moves_of_opens {e : Entry} (h : e.opens = true) : e.Moves := by
  cases e <;> first | exact ⟨rfl, rfl, rfl⟩ | cases h

theorem Entry.framesAhead_of_opens {e : Entry} (h : e.opens = true) : e.framesAhead = 0 := by
  cases e <;> first | rfl | cases h

theorem heldSince_append {new log : List Entry} (h : ∀ e ∈ new, e.Moves) : heldSince (new ++ log) = heldSince log := by
  unfold heldSince
  rw [Log.since_append fun e he => (h e he).released, List.countP_append,
    List.countP_eq_zero.2 fun e he => by rw [(h e he).held]; exact Bool.false_ne_true, Nat.zero_add]

theorem skipped_append {new log : List Entry} {n : ℤ} (hmoves : ∀ e ∈ new, e.Moves) (hforgets : ∀ e ∈ new, e.forgets = false)
    (h : Skipped log n) : Skipped (new ++ log) (n + (new.map Entry.framesAhead).sum) := by
  unfold Skipped at *
  rw [Log.since_append hforgets, List.countP_append, List.map_append, List.sum_append, ← h,
    List.countP_eq_zero.2 fun e he => by rw [(hmoves e he).skipped]; exact Bool.false_ne_true]
  omega

/-- Once forgotten, there is nothing to skip. -/
theorem skipped_forgotten {new log : List Entry} (hopens : ∀ e ∈ new, e.opens = true) (hany : new.any Entry.forgets = true) :
    Skipped (new ++ log) 0 := by
  have hsince : ∀ e ∈ Log.since Entry.forgets (new ++ log), e.opens = true := by
    intro e he
    unfold Log.since at he
    induction new with
    | nil => cases hany
    | cons a new ih =>
      rw [List.forall_mem_cons] at hopens
      cases ha : a.forgets with
      | true =>
        rw [List.cons_append, List.takeWhile_cons_of_neg (by simp [ha])] at he
        cases he
      | false =>
        rw [List.cons_append, List.takeWhile_cons_of_pos (by simp [ha])] at he
        rw [List.any_cons, ha, Bool.false_or] at hany
        rcases List.mem_cons.1 he with rfl | he
        · exact hopens.1
        · exact ih hopens.2 hany he
  unfold Skipped
  rw [List.countP_eq_zero.2 fun e he => by rw [(Entry.moves_of_opens (hsince e he)).skipped]; exact Bool.false_ne_true,
    List.map_congr_left fun e he => Entry.framesAhead_of_opens (hsince e he)]
  simp

/-- From `s` to `s'` no frame waits. -/
structure Moves (s s' : BattleLoop) : Prop where
  checkpoint : s'.bRoundCheckpoint = s.bRoundCheckpoint
  held : s'.nCheckpointHeldFrames = s.nCheckpointHeldFrames
  skips : Skipped s.log s.nFramesToSkip → Skipped s'.log s'.nFramesToSkip
  log : ∃ new, s'.log = new ++ s.log ∧ ∀ e ∈ new, e.Moves

namespace Moves

variable {s s' s'' : BattleLoop}

theorem trans (h : Moves s s') (h' : Moves s' s'') : Moves s s'' := by
  obtain ⟨new, hnew, hmoves⟩ := h.log
  obtain ⟨new', hnew', hmoves'⟩ := h'.log
  refine ⟨h'.checkpoint.trans h.checkpoint, h'.held.trans h.held, fun hskip => h'.skips (h.skips hskip), new' ++ new, ?_,
    List.forall_mem_append.2 ⟨hmoves', hmoves⟩⟩
  rw [hnew', hnew, List.append_assoc]

theorem of_plainly (h : Plainly s s') : Moves s s' := by
  obtain ⟨new, hnew, hplain, hskip⟩ := h.log
  refine ⟨(congrArg BattleLoop.bRoundCheckpoint h.books :), (congrArg BattleLoop.nCheckpointHeldFrames h.books :), ?_,
    new, hnew, fun e he => Entry.moves_of_plain (hplain e he)⟩
  rw [hnew, hskip]
  exact skipped_append (fun e he => Entry.moves_of_plain (hplain e he)) fun e he => Entry.forgets_of_plain (hplain e he)

theorem of_outside (h : Outside s s') : Moves s s' := by
  obtain ⟨new, hnew, hopens, hskip⟩ := h.log
  refine ⟨h.checkpoint, h.held, ?_, new, hnew, fun e he => Entry.moves_of_opens (hopens e he)⟩
  rw [hnew, hskip]
  cases hany : new.any Entry.forgets with
  | true => exact fun _ => skipped_forgotten hopens hany
  | false =>
    intro hskipped
    have hnone : ∀ e ∈ new, e.forgets = false := by simpa using hany
    have hsum : (new.map Entry.framesAhead).sum = 0 := by
      rw [List.map_congr_left fun e he => Entry.framesAhead_of_opens (hopens e he)]
      simp
    have hmore := skipped_append (fun e he => Entry.moves_of_opens (hopens e he)) hnone hskipped
    rwa [hsum, Int.add_zero] at hmore

/-- One entry more. -/
theorem one {e : Entry} (he : e.Moves) (hforgets : e.forgets = false) (hahead : e.framesAhead = 0)
    (checkpoint : s'.bRoundCheckpoint = s.bRoundCheckpoint) (held : s'.nCheckpointHeldFrames = s.nCheckpointHeldFrames)
    (skip : s'.nFramesToSkip = s.nFramesToSkip) (log : s'.log = e :: s.log) : Moves s s' := by
  refine ⟨checkpoint, held, fun h => ?_, [e], log, by simpa using he⟩
  have hmoves : ∀ e' ∈ [e], e'.Moves := by simpa using he
  have hmore := skipped_append hmoves (by simpa using hforgets) h
  rw [List.map_singleton, List.sum_singleton, hahead, Int.add_zero] at hmore
  rw [log, skip]
  exact hmore

theorem none (checkpoint : s'.bRoundCheckpoint = s.bRoundCheckpoint)
    (held : s'.nCheckpointHeldFrames = s.nCheckpointHeldFrames) (skip : s'.nFramesToSkip = s.nFramesToSkip)
    (log : s'.log = s.log) : Moves s s' :=
  ⟨checkpoint, held, fun h => by rw [log, skip]; exact h, [], log, nofun⟩

end Moves

namespace BattleLoop

theorem moves_spectate (s : BattleLoop) (t : Frame) (result : GGPOErrorCode) (hwatches : s.localPlayerHandle = none) :
    Moves s (s.spectate t result) := by
  rcases s.spectate_cases t result hwatches with ⟨-, hfed⟩ | ⟨-, hstarved⟩
  · have hmark : Moves s { s.did .fed with spectatorStarvedSince := 0 } := .one ⟨rfl, rfl, rfl⟩ rfl rfl rfl rfl rfl rfl
    exact hmark.trans (.of_plainly hfed)
  · have hmark : Moves s (s.did (.starved t.tickCount64)) := .one ⟨rfl, rfl, rfl⟩ rfl rfl rfl rfl rfl rfl
    rw [hstarved]
    split
    · exact hmark.trans (.none rfl rfl rfl rfl)
    · split
      · exact hmark.trans (.one (e := .gaveUp t.tickCount64) ⟨rfl, rfl, rfl⟩ rfl rfl rfl rfl rfl rfl)
      · exact hmark

end BattleLoop

/-- A frame of the update that goes to GGPO does so in a session and at this flow, and only a spectator
catches up. -/
structure OfferedAt (session : Bool) (flowNow : BattleFlow) (localPlayerHandle : Option ℤ) (e : Entry) : Prop where
  offered : ∀ flow, e.offered = some flow → session = true ∧ flow = flowNow
  watches : e.isCaughtUp = true → localPlayerHandle = none

/-- From `s` to `s'` the update offers GGPO frames at this flow only. -/
structure Offers (session : Bool) (flowNow : BattleFlow) (s s' : BattleLoop) : Prop where
  handle : s'.localPlayerHandle = s.localPlayerHandle
  log : Log.Grows (OfferedAt session flowNow s.localPlayerHandle) s.log s'.log

namespace Offers

variable {session : Bool} {flowNow : BattleFlow} {s s' s'' : BattleLoop}

theorem trans (h : Offers session flowNow s s') (h' : Offers session flowNow s' s'') : Offers session flowNow s s'' :=
  ⟨h'.handle.trans h.handle, h.log.trans (h.handle ▸ h'.log)⟩

theorem of_plainly (h : Plainly s s') : Offers session flowNow s s' := by
  obtain ⟨new, hnew, hplain, -⟩ := h.log
  refine ⟨h.localPlayerHandle, new, hnew, fun e he => ⟨fun flow hflow => ?_, Entry.watches_of_plain (hplain e he)⟩⟩
  rw [Entry.offered_of_plain (hplain e he)] at hflow
  cases hflow

/-- One entry more, which is no frame of GGPO's. -/
theorem one {e : Entry} (hoffered : e.offered = none) (hcaught : e.isCaughtUp = false)
    (handle : s'.localPlayerHandle = s.localPlayerHandle) (log : s'.log = e :: s.log) : Offers session flowNow s s' := by
  refine ⟨handle, log ▸ .one ⟨fun flow hflow => ?_, fun h => ?_⟩⟩
  · rw [hoffered] at hflow
    cases hflow
  · rw [hcaught] at h
    cases h

theorem none (handle : s'.localPlayerHandle = s.localPlayerHandle) (log : s'.log = s.log) : Offers session flowNow s s' :=
  ⟨handle, log ▸ .refl _⟩

theorem spectate (s : BattleLoop) (t : Frame) (result : GGPOErrorCode) (hwatches : s.localPlayerHandle = .none) :
    Offers session flowNow s (s.spectate t result) := by
  rcases s.spectate_cases t result hwatches with ⟨-, hfed⟩ | ⟨-, hstarved⟩
  · have hmark : Offers session flowNow s { s.did .fed with spectatorStarvedSince := 0 } := .one (e := .fed) rfl rfl rfl rfl
    exact hmark.trans (.of_plainly hfed)
  · have hmark : Offers session flowNow s (s.did (.starved t.tickCount64)) := .one rfl rfl rfl rfl
    rw [hstarved]
    split
    · exact hmark.trans (.none rfl rfl)
    · split
      · exact hmark.trans (.one (e := .gaveUp t.tickCount64) rfl rfl rfl rfl)
      · exact hmark

end Offers

namespace BattleLoop

theorem trackedFrame_moves {s : BattleLoop} (htracked : s.tracked = true) (t : Frame) :
    Moves s (s.trackedFrame t) ∧ Offers s.ggpo s.currentBattleFlow s (s.trackedFrame t) := by
  obtain ⟨s₁, e, s₂, result, hbefore, hafter, he, heq⟩ := s.trackedFrame_cases t
  have hsession : s.ggpo = true := by
    rw [tracked, Bool.and_eq_true] at htracked
    exact htracked.1
  have hentry : e.Moves ∧ e.forgets = false ∧ e.framesAhead = 0 ∧
      OfferedAt s.ggpo s.currentBattleFlow s₁.localPlayerHandle e := by
    rcases he with ⟨-, pad, rfl⟩ | ⟨-, rfl⟩
    all_goals
      refine ⟨⟨rfl, rfl, rfl⟩, rfl, rfl, fun flow hflow => ?_, fun hcaughtUp => ?_⟩
      · cases hflow
        exact ⟨hsession, rfl⟩
      · cases hcaughtUp
  have hone : Moves s₁ (s₁.did e) := .one hentry.1 hentry.2.1 hentry.2.2.1 rfl rfl rfl rfl
  have hgiven : Moves s s₂ := ((Moves.of_plainly hbefore).trans hone).trans (.of_plainly hafter)
  have hasked : Offers s.ggpo s.currentBattleFlow s₁ (s₁.did e) := ⟨rfl, .one hentry.2.2.2⟩
  have hoffers : Offers s.ggpo s.currentBattleFlow s s₂ := ((Offers.of_plainly hbefore).trans hasked).trans (.of_plainly hafter)
  rcases heq with heq | ⟨hwatches, heq⟩
  · rw [heq]
    exact ⟨hgiven, hoffers⟩
  · rw [heq]
    exact ⟨hgiven.trans (moves_spectate s₂ t result hwatches), hoffers.trans (.spectate s₂ t result hwatches)⟩

theorem untrackedFrame_moves (s : BattleLoop) (flow : BattleFlow) :
    Moves s (s.untrackedFrame flow) ∧ Offers s.ggpo s.currentBattleFlow s (s.untrackedFrame flow) := by
  have hmoves : Moves s (s.simulate (.untracked s.ggpo) s.currentBattleFlow flow) :=
    .one (e := .simulated (.untracked s.ggpo) s.pad s.currentBattleFlow) ⟨rfl, rfl, rfl⟩ rfl rfl rfl rfl rfl rfl
  have hoffers : Offers s.ggpo s.currentBattleFlow s (s.simulate (.untracked s.ggpo) s.currentBattleFlow flow) :=
    .one (e := .simulated (.untracked s.ggpo) s.pad s.currentBattleFlow) rfl rfl rfl rfl
  unfold untrackedFrame
  dsimp only
  split
  · exact ⟨hmoves.trans (.none rfl rfl rfl rfl), hoffers.trans (.none rfl rfl)⟩
  · exact ⟨hmoves, hoffers⟩

/-- An update that has passed the checkpoint and skips nothing. A frame that goes to GGPO does so at the
flow it was passed at. -/
theorem advance_moves (s : BattleLoop) (t : Frame) :
    Moves s (s.advance t) ∧ Offers s.ggpo s.currentBattleFlow s (s.advance t) := by
  have hleft : Moves s s.leaveIdle ∧ Offers s.ggpo s.currentBattleFlow s s.leaveIdle ∧
      s.leaveIdle.ggpo = s.ggpo ∧ s.leaveIdle.currentBattleFlow = s.currentBattleFlow := by
    unfold leaveIdle
    dsimp only
    repeat' split
    all_goals exact ⟨.none rfl rfl rfl rfl, .none rfl rfl, rfl, rfl⟩
  unfold advance
  dsimp only
  generalize s.leaveIdle = s₀ at hleft
  obtain ⟨hleft, hoffers, hggpo, hflow⟩ := hleft
  rw [← hggpo, ← hflow] at hoffers ⊢
  generalize hframed : (if s₀.tracked then s₀.trackedFrame t else s₀.untrackedFrame t.flow) = framed
  have hframe : Moves s₀ framed ∧ Offers s₀.ggpo s₀.currentBattleFlow s₀ framed := by
    rw [← hframed]
    split
    · rename_i htracked
      exact trackedFrame_moves htracked t
    · exact s₀.untrackedFrame_moves t.flow
  have hrest := framed.plainly_rest t
  exact ⟨(hleft.trans hframe.1).trans (.of_plainly hrest), (hoffers.trans hframe.2).trans (.of_plainly hrest)⟩

end BattleLoop

/-! ## The invariant -/

/-- What waits is counted. -/
structure Waits (on : Bool) (s : BattleLoop) : Prop where
  setting : s.bRoundCheckpoint = on
  held : heldSince s.log = min s.nCheckpointHeldFrames 30
  skips : Skipped s.log s.nFramesToSkip

section

variable {on : Bool} {s s' : BattleLoop}

theorem Waits.moves (h : Waits on s) (hm : Moves s s') : Waits on s' := by
  obtain ⟨new, hnew, hmoves⟩ := hm.log
  refine ⟨hm.checkpoint.trans h.setting, ?_, hm.skips h.skips⟩
  rw [hnew, heldSince_append hmoves, hm.held]
  exact h.held

theorem Waits.checkpoint (h : Waits on s) (unconfirmedDepth : Option ℤ) :
    Waits on (s.checkpoint unconfirmedDepth).1 := by
  have hskips (e : Entry) (hforgets : e.forgets = false) (hskipped : e.isSkipped = false) (hahead : e.framesAhead = 0) :
      Skipped (e :: s.log) s.nFramesToSkip := by
    have hold := h.skips
    unfold Skipped at *
    rw [Log.since_other hforgets, List.countP_cons, hskipped, List.map_cons, List.sum_cons, hahead, Int.zero_add]
    exact hold
  have hheld := h.held
  unfold BattleLoop.checkpoint
  repeat' split
  · rename_i hfew
    refine ⟨h.setting, ?_, hskips .held rfl rfl rfl⟩
    show heldSince (.held :: s.log) = min (s.nCheckpointHeldFrames + 1) 30
    rw [heldSince, Log.since_other rfl, List.countP_cons]
    unfold heldSince at hheld
    rw [hheld, show Entry.isHeld .held = true from rfl, if_pos rfl]
    omega
  · rename_i hfull
    refine ⟨h.setting, ?_, h.skips⟩
    show heldSince s.log = min (s.nCheckpointHeldFrames + 1) 30
    omega
  · exact h
  · exact ⟨h.setting, by rw [BattleLoop.did, heldSince, Log.since_mark rfl]; rfl, hskips .released rfl rfl rfl⟩
  · exact h

theorem Waits.skip (h : Waits on s) : Waits on { s.did .skipped with nFramesToSkip := s.nFramesToSkip - 1 } := by
  have hskips := h.skips
  refine ⟨h.setting, h.held, ?_⟩
  unfold Skipped at *
  rw [BattleLoop.did, Log.since_other rfl, List.countP_cons, List.map_cons, List.sum_cons, ← hskips,
    show Entry.isSkipped .skipped = true from rfl, if_pos rfl]
  show s.nFramesToSkip - 1 + ((Log.since Entry.forgets s.log).countP Entry.isSkipped + 1 : ℕ) = 0 + _
  omega

theorem Waits.closeBattle (h : Waits on s) : Waits on s.closeBattle :=
  ⟨h.setting, h.held, by unfold BattleLoop.closeBattle; dsimp only; rw [BattleLoop.did, Skipped, Log.since_mark rfl]; rfl⟩

theorem Waits.battleUpdate (h : Waits on s) (t : Frame) : Waits on (s.battleUpdate t) := by
  have hdog := h.moves (.of_outside (s.outside_watchdog t.tickCount))
  unfold BattleLoop.battleUpdate
  dsimp only
  generalize s.watchdog t.tickCount = s at hdog
  split
  · exact hdog
  · have hserved : Waits on (if s.ggpo && !s.syncTestActive then s.serve t.idle else s) := by
      split
      · exact hdog.moves (.of_plainly (s.plainly_serve t.idle))
      · exact hdog
    generalize (if s.ggpo && !s.syncTestActive then s.serve t.idle else s) = s at hserved
    have hchecked := hserved.checkpoint t.unconfirmedDepth
    split
    · exact hchecked
    · split
      · exact hchecked.skip
      · exact hchecked.moves (BattleLoop.advance_moves _ t).1

end

theorem waits_next {on : Bool} {s : BattleLoop} (h : Waits on s) (a : BattleAct) : Waits on (battle.next s a).1 := by
  cases a with
  | battleUpdate t => exact h.battleUpdate t
  | idle served =>
    show Waits on (if s.ggpo = true then s.serve served else s)
    split
    · exact h.moves (.of_plainly (s.plainly_serve served))
    · exact h
  | startGGPO => exact h.moves (.of_outside (s.outside_startGGPO ..))
  | startSpectating => exact h.moves (.one (e := .spectating) ⟨rfl, rfl, rfl⟩ rfl rfl rfl rfl rfl rfl)
  | startSyncTest session added => exact h.moves (.of_outside (s.outside_startSyncTest session added))
  | closeBattle => exact h.closeBattle
  | _ => exact h.moves (.none rfl rfl rfl rfl)

/-! ## The boundaries of a round -/

/-- A frame offered to GGPO away from the fight has all inputs before it confirmed, as far as GGPO can
tell, or 30 have been held for it. Only a spectator that catches up is not checked. -/
structure Crosses (unconfirmedDepth : Option ℤ) (held : ℕ) (localPlayerHandle : Option ℤ) (e : Entry) : Prop where
  offered : ∀ flow, e.offered = some flow → flow = .fight ∨ unconfirmedDepth.all (· ≤ 0) = true ∨ held = 30
  watches : e.isCaughtUp = true → localPlayerHandle = none

namespace BattleLoop

theorem checkpoint_passes {s : BattleLoop} {unconfirmedDepth : Option ℤ} (h : (s.checkpoint unconfirmedDepth).2 = false)
    (hggpo : s.ggpo = true) (hsync : s.syncTestActive = false) (hon : s.bRoundCheckpoint = true) :
    s.currentBattleFlow = .fight ∨ unconfirmedDepth.all (· ≤ 0) = true ∨ 30 ≤ s.nCheckpointHeldFrames := by
  by_cases hflow : s.currentBattleFlow = .fight
  · exact .inl hflow
  · by_cases hfew : s.nCheckpointHeldFrames < 30
    · refine .inr (.inl ?_)
      cases unconfirmedDepth with
      | none => rfl
      | some depth =>
        by_cases hopen : 0 < depth
        · simp [checkpoint, hggpo, hsync, hon, hflow, hfew, hopen] at h
        · simpa using hopen
    · exact .inr (.inr (Nat.le_of_not_lt hfew))

theorem checkpoint_same (s : BattleLoop) (unconfirmedDepth : Option ℤ) :
    (s.checkpoint unconfirmedDepth).1.ggpo = s.ggpo ∧
      (s.checkpoint unconfirmedDepth).1.currentBattleFlow = s.currentBattleFlow ∧
      Offers false .idle s (s.checkpoint unconfirmedDepth).1 := by
  unfold checkpoint
  repeat' split
  · exact ⟨rfl, rfl, .one (e := .held) rfl rfl rfl rfl⟩
  · exact ⟨rfl, rfl, .none rfl rfl⟩
  · exact ⟨rfl, rfl, .none rfl rfl⟩
  · exact ⟨rfl, rfl, .one (e := .released) rfl rfl rfl rfl⟩
  · exact ⟨rfl, rfl, .none rfl rfl⟩

end BattleLoop

theorem battleUpdate_crosses {s : BattleLoop} (h : Waits true s) (hsync : s.syncTestActive = false) (t : Frame) :
    Log.Grows (Crosses t.unconfirmedDepth (heldSince s.log) s.localPlayerHandle) s.log (s.battleUpdate t).log := by
  -- without a session nothing is offered
  have hquiet {s' : BattleLoop} (hoffers : Offers false .idle s s') :
      Log.Grows (Crosses t.unconfirmedDepth (heldSince s.log) s.localPlayerHandle) s.log s'.log :=
    hoffers.log.mono fun e he => ⟨fun flow hflow => absurd (he.offered flow hflow).1 Bool.false_ne_true, he.watches⟩
  -- the watchdog and `ggpo_idle` come before the checkpoint, and neither holds a frame
  have hdog : Waits true (s.watchdog t.tickCount) ∧ (s.watchdog t.tickCount).syncTestActive = false ∧
      heldSince (s.watchdog t.tickCount).log = heldSince s.log ∧ Offers false .idle s (s.watchdog t.tickCount) := by
    refine ⟨h.moves (.of_outside (s.outside_watchdog t.tickCount)), ?_⟩
    unfold BattleLoop.watchdog
    split
    · have hmoves : ∀ e ∈ [Entry.aborted], e.Moves := by simpa using ⟨rfl, rfl, rfl⟩
      exact ⟨hsync, heldSince_append hmoves, .one (e := .aborted) rfl rfl rfl rfl⟩
    · exact ⟨hsync, rfl, .none rfl rfl⟩
  unfold BattleLoop.battleUpdate
  dsimp only
  generalize s.watchdog t.tickCount = s₁ at hdog
  obtain ⟨hwaits, hsync, hheld, hoffers⟩ := hdog
  split
  · exact hquiet hoffers
  · have hserved : Waits true (if s₁.ggpo && !s₁.syncTestActive then s₁.serve t.idle else s₁) ∧
        (if s₁.ggpo && !s₁.syncTestActive then s₁.serve t.idle else s₁).syncTestActive = false ∧
        heldSince (if s₁.ggpo && !s₁.syncTestActive then s₁.serve t.idle else s₁).log = heldSince s.log ∧
        Offers false .idle s (if s₁.ggpo && !s₁.syncTestActive then s₁.serve t.idle else s₁) := by
      split
      · have hplain := s₁.plainly_serve t.idle
        obtain ⟨new, hnew, hnewPlain, -⟩ := hplain.log
        refine ⟨hwaits.moves (.of_plainly hplain), (congrArg BattleLoop.syncTestActive hplain.books).trans hsync, ?_,
          hoffers.trans (.of_plainly hplain)⟩
        rw [hnew, heldSince_append fun e he => Entry.moves_of_plain (hnewPlain e he)]
        exact hheld
      · exact ⟨hwaits, hsync, hheld, hoffers⟩
    generalize (if s₁.ggpo && !s₁.syncTestActive then s₁.serve t.idle else s₁) = s₂ at hserved
    obtain ⟨hwaits, hsync, hheld, hoffers⟩ := hserved
    obtain ⟨hggpo, hflow, hchecked⟩ := s₂.checkpoint_same t.unconfirmedDepth
    replace hchecked := hoffers.trans hchecked
    split
    · exact hquiet hchecked
    · rename_i hpassed
      rw [Bool.not_eq_true] at hpassed
      split
      · exact hquiet (hchecked.trans (.one (e := .skipped) rfl rfl rfl rfl))
      · have hadvanced := (BattleLoop.advance_moves (s₂.checkpoint t.unconfirmedDepth).1 t).2.log
        rw [hchecked.handle] at hadvanced
        refine (hquiet hchecked).trans (hadvanced.mono fun e he => ⟨fun flow hoffered => ?_, he.watches⟩)
        obtain ⟨hsession, rfl⟩ := he.offered flow hoffered
        rw [hflow]
        refine (BattleLoop.checkpoint_passes hpassed (hggpo ▸ hsession) hsync hwaits.setting).imp_right (Or.imp_right ?_)
        intro hfull
        rw [← hheld, hwaits.held]
        omega

/-- In every run the checkpoint holds no more than 30 frames before it lets one pass, and with it the update
offers GGPO no frame outside the fight unless the inputs are confirmed, as far as GGPO can tell, or 30
have been held. What GGPO recommended to skip since it was last forgotten, while pacing did not repay
it, has been skipped, or is to be. -/
theorem holds_kept (bGgpoDuringIdle bRoundCheckpoint bSoakTest syncTestSoak : Bool) (as : List BattleAct) :
    let s := battle.run (.new bGgpoDuringIdle bRoundCheckpoint bSoakTest syncTestSoak) as
    heldSince s.log ≤ 30 ∧ Skipped s.log s.nFramesToSkip ∧
      ∀ t : Frame, bRoundCheckpoint = true → s.syncTestActive = false →
        Log.Grows (Crosses t.unconfirmedDepth (heldSince s.log) s.localPlayerHandle) s.log (s.battleUpdate t).log := by
  intro s
  have hwaits : Waits bRoundCheckpoint s :=
    Machine.inv_of_all_steps (Waits bRoundCheckpoint) (fun _ a h => waits_next h a) as ⟨rfl, rfl, rfl⟩
  refine ⟨?_, hwaits.skips, fun t hon hsync => battleUpdate_crosses (hon ▸ hwaits) hsync t⟩
  rw [hwaits.held]
  exact Nat.min_le_right _ _

/-- A round is over, and the other PC's inputs do not come. -/
def Sample.boundary : List BattleAct :=
  [.startGGPO [(.localPlayer, 1), (.remote, 2)] 0 false 0 .ok ⟨(.ok, 1), (.ok, 2)⟩, .idle [.onEvent .running false],
    .setBattleFlow .roundOver] ++
    .replicate 31 (.battleUpdate { frameAt 1 ⟨⟨[], .ok⟩, Pad.noInputs⟩ with unconfirmedDepth := some 1 })

/-- The checkpoint holds 30 frames, and the next one is simulated. -/
theorem holds_kept_boundary :
    let s := battle.run (.new true true false false) Sample.boundary
    s.log.countP Entry.isHeld = 30 ∧ s.log.countP Entry.isLive = 1 ∧ heldSince s.log ≤ 30 ∧ Skipped s.log s.nFramesToSkip ∧
      ∀ t : Frame, true = true → s.syncTestActive = false →
        Log.Grows (Crosses t.unconfirmedDepth (heldSince s.log) s.localPlayerHandle) s.log (s.battleUpdate t).log :=
  ⟨by decide +kernel, by decide +kernel, holds_kept true true false false Sample.boundary⟩

end Sf4e.Battle
