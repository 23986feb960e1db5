import Sf4e.Battle.Update
/-!
# What the parts of an update do

An update is made of parts that leave its own books alone: the calls back, the inputs, the frames
that are simulated again (`Plainly`), and the starts of sessions (`Outside`). What is left of it
is said once: a frame that goes to GGPO is simulated or refused (`trackedFrame_cases`).
-/
open Sf4e.Lib Sf4e.Netplay

namespace Sf4e.Battle

/-! ## What the entries are -/

namespace Simulation

/-- The frame is one of GGPO's. -/
def inTimeline : Simulation → Bool
  | .live | .resimulated | .caughtUp => true
  | .untracked _ | .forwarded => false

end Simulation

namespace Entry

def isLive : Entry → Bool
  | .simulated .live _ _ => true
  | _ => false

/-- A frame around GGPO, with a session. -/
def isUntracked : Entry → Bool
  | .simulated (.untracked true) _ _ => true
  | _ => false

/-- A frame of the update that found the flow idle and went to GGPO, which took or refused it. -/
def isIdleFrame : Entry → Bool
  | .simulated .live _ flow => flow = .idle
  | .refused flow => flow = .idle
  | _ => false

def closes : Entry → Bool
  | .closed _ => true
  | _ => false

/-- The idle frames are counted up to here. -/
def counts : Entry → Bool
  | .closed counted => counted
  | _ => false

/-- The frames to skip are forgotten. -/
def forgets : Entry → Bool
  | .closed _ | .aborted => true
  | _ => false

/-- How many frames are to be skipped for it. Those that pacing repays to a player are not. -/
def framesAhead : Entry → ℤ
  | .recommended _ true true true => 0
  | .recommended framesAhead _ _ _ => framesAhead
  | _ => 0

/-- What is logged by the calls back, by the inputs and by the frames that are not the update's own.
Only a spectator catches up. -/
def plain (localPlayerHandle : Option ℤ) : Entry → Bool
  | .synchronized _ | .advanced | .captured | .added _ _ | .recommended _ _ _ _ | .matchResult _ => true
  | .simulated .resimulated _ _ | .simulated .forwarded _ _ => true
  | .simulated .caughtUp _ _ => localPlayerHandle.isNone
  | _ => false

/-- What is logged when a session starts, or does not. -/
def opens : Entry → Bool
  | .delayed _ _ | .started | .aborted => true
  | _ => false

/-- An entry that is no call of GGPO's frame loop. -/
def free : Entry → Bool
  | .synchronized _ | .advanced | .simulated _ _ _ => false
  | _ => true

theorem framesAhead_recommended (framesAhead : ℤ) (pacerEnabled playing limiterActive : Bool) :
    (recommended framesAhead pacerEnabled playing limiterActive).framesAhead =
      if pacerEnabled && playing && limiterActive then 0 else framesAhead := by
  cases pacerEnabled <;> cases playing <;> cases limiterActive <;> rfl

variable {e : Entry} {localPlayerHandle : Option ℤ}

theorem isLive_of_plain (h : e.plain localPlayerHandle = true) : e.isLive = false := by
  cases e with
  | simulated how => cases how <;> first | rfl | cases h
  | _ => rfl

theorem isUntracked_of_plain (h : e.plain localPlayerHandle = true) : e.isUntracked = false := by
  cases e with
  | simulated how => cases how <;> first | rfl | cases h
  | _ => rfl

theorem isIdleFrame_of_plain (h : e.plain localPlayerHandle = true) : e.isIdleFrame = false := by
  cases e with
  | simulated how => cases how <;> first | rfl | cases h
  | refused => cases h
  | _ => rfl

theorem closes_of_plain (h : e.plain localPlayerHandle = true) : e.closes = false := by
  cases e <;> first | rfl | cases h

theorem counts_of_closes (h : e.closes = false) : e.counts = false := by
  cases e <;> first | rfl | cases h

theorem free_of_opens (h : e.opens = true) : e.free = true := by
  cases e <;> first | rfl | cases h

theorem forgets_of_plain (h : e.plain localPlayerHandle = true) : e.forgets = false := by
  cases e <;> first | rfl | cases h

end Entry

/-! ## Steps that leave the update's own books alone -/

/-- The state without what a call back, an input or a frame may change. -/
def BattleLoop.books (s : BattleLoop) : BattleLoop :=
  { s with
    bUpdateAllowed := true
    bHaltAfterNext := false
    nExtraFramesToSimulate := 0
    nFramesToSkip := 0
    nLastRandomInputFrame := 0
    randomInputs := Pad.noInputs
    bPredictionStalled := false
    ggpoReachedRunning := false
    bGgpoAssertAbort := false
    leaving := false
    currentBattleFlow := .idle
    lastFlow := none
    pad := .new
    log := [] }

/-- From `s` to `s'` only plain entries are logged, and the books stay. -/
structure Plainly (s s' : BattleLoop) : Prop where
  books : s'.books = s.books
  log : ∃ new, s'.log = new ++ s.log ∧ (∀ e ∈ new, e.plain s.localPlayerHandle = true) ∧
    s'.nFramesToSkip = s.nFramesToSkip + (new.map Entry.framesAhead).sum

namespace Plainly

variable {s s' s'' : BattleLoop}

theorem of_log (books : s'.books = s.books) (log : s'.log = s.log) (skip : s'.nFramesToSkip = s.nFramesToSkip) :
    Plainly s s' :=
  ⟨books, [], log, nofun, by rw [skip]; exact (Int.add_zero _).symm⟩

theorem refl (s : BattleLoop) : Plainly s s := of_log rfl rfl rfl

theorem localPlayerHandle (h : Plainly s s') : s'.localPlayerHandle = s.localPlayerHandle :=
  (congrArg BattleLoop.localPlayerHandle h.books :)

theorem trans (h : Plainly s s') (h' : Plainly s' s'') : Plainly s s'' := by
  obtain ⟨new, hnew, hplain, hskip⟩ := h.log
  obtain ⟨new', hnew', hplain', hskip'⟩ := h'.log
  rw [h.localPlayerHandle] at hplain'
  refine ⟨h'.books.trans h.books, new' ++ new, ?_, ?_, ?_⟩
  · rw [hnew', hnew, List.append_assoc]
  · exact List.forall_mem_append.2 ⟨hplain', hplain⟩
  · rw [hskip', hskip, List.map_append, List.sum_append]
    omega

theorem did (s : BattleLoop) {e : Entry} (he : e.plain s.localPlayerHandle = true) (hahead : e.framesAhead = 0) :
    Plainly s (s.did e) := by
  refine ⟨rfl, [e], rfl, ?_, ?_⟩
  · simpa using he
  · simp [hahead, BattleLoop.did]

theorem ggpo (h : Plainly s s') : s'.ggpo = s.ggpo := (congrArg BattleLoop.ggpo h.books :)

end Plainly

namespace BattleLoop

theorem plainly_simulate (s : BattleLoop) (how : Simulation) (flowNow flowAfter : BattleFlow)
    (h : (Entry.simulated how s.pad flowNow).plain s.localPlayerHandle = true) : Plainly s (s.simulate how flowNow flowAfter) :=
  (Plainly.did s h rfl).trans (.of_log rfl rfl rfl)

theorem plainly_playBack (s : BattleLoop) (inputs : Sides Inputs) : Plainly s (s.playBack inputs) :=
  (Plainly.did s (e := .synchronized inputs) rfl rfl).trans (.of_log rfl rfl rfl)

theorem plainly_stopPlayBack (s : BattleLoop) : Plainly s s.stopPlayBack := .of_log rfl rfl rfl

theorem plainly_callback (s : BattleLoop) (c : Callback) : Plainly s (s.callback c) := by
  cases c with
  | advanceFrame battle inputs flow advanced =>
    have hplay := s.plainly_playBack inputs
    unfold callback advanceFrameCallback
    dsimp only
    cases battle with
    | false => exact hplay.trans ((Plainly.did _ rfl rfl).trans (plainly_stopPlayBack _))
    | true =>
      have hsim := hplay.trans (plainly_simulate _ .resimulated (s.playBack inputs).currentBattleFlow flow rfl)
      have hadvanced := hsim.trans (Plainly.did _ (e := .advanced) rfl rfl)
      rw [Bool.not_true, if_neg Bool.false_ne_true]
      split
      · exact hadvanced.trans ((Plainly.did _ rfl rfl).trans (plainly_stopPlayBack _))
      · exact hadvanced.trans (plainly_stopPlayBack _)
  | onEvent info limiterActive =>
    unfold callback onEvent
    cases info with
    | disconnectedFromPeer player =>
      dsimp only
      split <;> exact .of_log rfl rfl rfl
    | timesync framesAhead =>
      have hplain : ∀ e ∈ [Entry.recommended framesAhead s.pacerEnabled s.localPlayerHandle.isSome limiterActive],
          e.plain s.localPlayerHandle = true := List.forall_mem_singleton.2 rfl
      have hahead := Entry.framesAhead_recommended framesAhead s.pacerEnabled s.localPlayerHandle.isSome limiterActive
      dsimp only [did]
      split
      · rename_i hpacing
        rw [if_pos hpacing] at hahead
        exact ⟨rfl, _, rfl, hplain, by rw [List.map_singleton, List.sum_singleton, hahead]; exact (Int.add_zero _).symm⟩
      · rename_i hskips
        rw [if_neg hskips] at hahead
        exact ⟨rfl, _, rfl, hplain, by rw [List.map_singleton, List.sum_singleton, hahead]⟩
    | _ => exact .of_log rfl rfl rfl
  | assertFailed battle => exact .of_log rfl rfl rfl

theorem plainly_serve (s : BattleLoop) (served : List Callback) : Plainly s (s.serve served) := by
  induction served generalizing s with
  | nil => exact .refl s
  | cons c served ih => exact (s.plainly_callback c).trans (ih _)

theorem plainly_addLocalInput (s : BattleLoop) (t : Frame) (side : Side) (result : GGPOErrorCode) :
    Plainly s (s.addLocalInput t side result).1 := by
  unfold addLocalInput
  split
  · exact .refl s
  · exact (Plainly.did s rfl rfl).trans (plainly_serve _ _)

theorem plainly_addLocalInputs (s : BattleLoop) (t : Frame) : Plainly s (s.addLocalInputs t).1 := by
  have hrandom : Plainly s (s.randomize t) := by
    unfold randomize
    dsimp only
    repeat' split
    all_goals exact .of_log rfl rfl rfl
  unfold addLocalInputs
  split
  · exact .refl s
  · exact hrandom.trans ((plainly_addLocalInput _ t 0 .ok).trans (plainly_addLocalInput _ t 1 _))

theorem plainly_advanceSpectatorFrame (s : BattleLoop) (e : Extra) (hwatches : s.localPlayerHandle = none) :
    Plainly s (s.advanceSpectatorFrame e).1 := by
  have hserve := s.plainly_serve e.synchronize.served
  unfold advanceSpectatorFrame
  dsimp only
  split
  · have hplay := hserve.trans (plainly_playBack _ e.synchronize.inputs)
    have hcatches := Option.isNone_iff_eq_none.2 (hplay.localPlayerHandle.trans hwatches)
    have hsim := hplay.trans
      (plainly_simulate _ .caughtUp (s.serve e.synchronize.served).currentBattleFlow e.flow hcatches)
    exact hsim.trans ((plainly_stopPlayBack _).trans ((Plainly.did _ rfl rfl).trans (plainly_serve _ _)))
  · exact hserve

theorem plainly_catchUp (s : BattleLoop) (extra : List Extra) (hwatches : s.localPlayerHandle = none) :
    Plainly s (s.catchUp extra) := by
  induction extra generalizing s with
  | nil => exact .refl s
  | cons e extra ih =>
    have hframe := s.plainly_advanceSpectatorFrame e hwatches
    unfold catchUp
    dsimp only
    split
    · exact .refl s
    · split
      · exact hframe.trans (ih _ (hframe.localPlayerHandle.trans hwatches))
      · exact hframe

theorem plainly_forward (s : BattleLoop) (flows : ℕ → BattleFlow) : Plainly s (s.forward flows) := by
  have hframes (n : ℕ) : ∀ (s : BattleLoop) (i : ℕ), Plainly s (s.forwardFrames flows i n) := by
    induction n with
    | zero => exact fun s _ => .refl s
    | succ n ih =>
      intro s i
      have hpad : Plainly s { s with pad := { s.pad with playbackFrame := i } } := .of_log rfl rfl rfl
      exact hpad.trans ((plainly_simulate _ .forwarded _ _ rfl).trans (ih _ _))
  unfold forward
  split
  · exact (hframes _ s 0).trans (.of_log rfl rfl rfl)
  · exact .refl s

theorem plainly_reportFlow (s : BattleLoop) (vit : Sides ℤ) : Plainly s (s.reportFlow vit) := by
  unfold reportFlow
  dsimp only
  split
  · exact .refl s
  · split
    · exact (Plainly.did s rfl rfl).trans (.of_log rfl rfl rfl)
    · exact .of_log rfl rfl rfl

theorem plainly_halt (s : BattleLoop) : Plainly s s.halt := by
  unfold halt
  split
  · exact .of_log rfl rfl rfl
  · exact .refl s

/-- What comes after the frame. -/
theorem plainly_rest (s : BattleLoop) (t : Frame) : Plainly s ((s.forward t.forward).reportFlow t.vit).halt :=
  (s.plainly_forward t.forward).trans ((plainly_reportFlow _ t.vit).trans (plainly_halt _))

end BattleLoop

/-! ## A frame that goes to GGPO -/

/-- GGPO took the frame or refused it. -/
def Answers (result : GGPOErrorCode) (flowNow : BattleFlow) (e : Entry) : Prop :=
  (result = .ok ∧ ∃ pad, e = .simulated .live pad flowNow) ∨ (result ≠ .ok ∧ e = .refused flowNow)

namespace BattleLoop

theorem synchronizeAndSimulate_cases (s : BattleLoop) (t : Frame) (flowNow : BattleFlow) :
    ((s.synchronizeAndSimulate t flowNow).2 = .ok ∧ ∃ s₁ pad, Plainly s s₁ ∧
        Plainly (s₁.did (.simulated .live pad flowNow)) (s.synchronizeAndSimulate t flowNow).1) ∨
      ((s.synchronizeAndSimulate t flowNow).2 ≠ .ok ∧ Plainly s (s.synchronizeAndSimulate t flowNow).1) := by
  have hserve := s.plainly_serve t.synchronize.served
  unfold synchronizeAndSimulate
  dsimp only
  by_cases hok : t.synchronize.result = .ok
  · rw [if_pos hok]
    have hplay := hserve.trans (plainly_playBack _ t.synchronize.inputs)
    refine .inl ⟨rfl, _, ((s.serve t.synchronize.served).playBack t.synchronize.inputs).pad, hplay, ?_⟩
    set played := (s.serve t.synchronize.served).playBack t.synchronize.inputs
    have hsim : Plainly (played.did (.simulated .live played.pad flowNow)) (played.simulate .live flowNow t.flow).stopPlayBack :=
      .of_log rfl rfl rfl
    have hadvanced := hsim.trans ((Plainly.did _ (e := .advanced) rfl rfl).trans (plainly_serve _ t.advance.served))
    split
    · exact hadvanced.trans (Plainly.did _ rfl rfl)
    · exact hadvanced
  · rw [if_neg hok]
    exact .inr ⟨hok, hserve⟩

/-- A frame in the timeline is simulated or refused, once; the rest is plain, or a spectator's. -/
theorem trackedFrame_cases (s : BattleLoop) (t : Frame) : ∃ s₁ e s₂ result,
    Plainly s s₁ ∧ Plainly (s₁.did e) s₂ ∧ Answers result s.currentBattleFlow e ∧
      (s.trackedFrame t = s₂ ∨ (s₂.localPlayerHandle = none ∧ s.trackedFrame t = s₂.spectate t result)) := by
  have hlast (s₂ : BattleLoop) (result : GGPOErrorCode) :
      (if s₂.localPlayerHandle.isNone && !s₂.syncTestActive then s₂.spectate t result else s₂) = s₂ ∨
        (s₂.localPlayerHandle = none ∧
          (if s₂.localPlayerHandle.isNone && !s₂.syncTestActive then s₂.spectate t result else s₂) = s₂.spectate t result) := by
    split
    · rename_i hwatches
      rw [Bool.and_eq_true, Option.isNone_iff_eq_none] at hwatches
      exact .inr ⟨hwatches.1, rfl⟩
    · exact .inl rfl
  unfold trackedFrame
  dsimp only
  generalize hadd : ({ (s.addLocalInputs t).1 with
    bPredictionStalled := (s.addLocalInputs t).2 = GGPOErrorCode.predictionThreshold } : BattleLoop) = added
  have hadded : Plainly s added := by
    rw [← hadd]
    exact (s.plainly_addLocalInputs t).trans (.of_log rfl rfl rfl)
  by_cases hok : (s.addLocalInputs t).2 = .ok
  · rw [if_pos hok]
    rcases added.synchronizeAndSimulate_cases t s.currentBattleFlow with ⟨hsynced, s₁, pad, hbefore, hafter⟩ | ⟨hfailed, hbefore⟩
    · rw [hsynced, if_pos rfl]
      exact ⟨s₁, _, _, .ok, hadded.trans hbefore, hafter, .inl ⟨rfl, pad, rfl⟩, hlast _ _⟩
    · rw [if_neg hfailed]
      exact ⟨_, .refused s.currentBattleFlow, _, _, hadded.trans hbefore, .refl _, .inr ⟨hfailed, rfl⟩, hlast _ _⟩
  · rw [if_neg hok, if_neg hok]
    exact ⟨added, .refused s.currentBattleFlow, _, _, hadded, .refl _, .inr ⟨hok, rfl⟩, hlast _ _⟩

/-- A spectator is fed and catches up, or it starves, and may give up. -/
theorem spectate_cases (s : BattleLoop) (t : Frame) (result : GGPOErrorCode) (hwatches : s.localPlayerHandle = none) :
    (result = .ok ∧ Plainly { s.did .fed with spectatorStarvedSince := 0 } (s.spectate t result)) ∨
      (result ≠ .ok ∧
        s.spectate t result =
          if s.spectatorStarvedSince = 0 then { s.did (.starved t.tickCount64) with spectatorStarvedSince := t.tickCount64 }
          else if t.tickCount64 - s.spectatorStarvedSince > 8000 then
            { (s.did (.starved t.tickCount64)).did (.gaveUp t.tickCount64) with
              leaving := true, spectatorStarvedSince := t.tickCount64 }
          else s.did (.starved t.tickCount64)) := by
  unfold spectate
  dsimp only
  by_cases hok : result = .ok
  · rw [if_pos hok]
    exact .inl ⟨hok, plainly_catchUp _ _ hwatches⟩
  · rw [if_neg hok]
    exact .inr ⟨hok, rfl⟩

/-! ## Around the frame -/

section

variable {s : BattleLoop}

theorem leaveIdle_of_playing (hggpo : s.ggpo = true) (hflow : s.currentBattleFlow ≠ .idle) :
    s.leaveIdle = { s with bMatchLeftIdle := true } := by
  simp [leaveIdle, hggpo, hflow]

theorem leaveIdle_of_idle (hflow : s.currentBattleFlow = .idle) :
    s.leaveIdle = if s.ggpo && s.bGgpoDuringIdle && s.bMatchLeftIdle then
      { s with nIdleFramesInTimeline := s.nIdleFramesInTimeline + 1 } else s := by
  simp [leaveIdle, hflow]

theorem leaveIdle_of_offline (hggpo : s.ggpo = false) : s.leaveIdle = s := by
  simp [leaveIdle, hggpo]

/-- What `leaveIdle` leaves for a frame that goes to GGPO. -/
theorem leaveIdle_of_tracked (htracked : s.leaveIdle.tracked = true) :
    s.leaveIdle.bMatchLeftIdle = true ∧ s.leaveIdle.nIdleFramesInTimeline =
      s.nIdleFramesInTimeline + if s.currentBattleFlow = .idle then 1 else 0 := by
  cases hggpo : s.ggpo with
  | false =>
    rw [leaveIdle_of_offline hggpo, tracked, hggpo, Bool.false_and] at htracked
    cases htracked
  | true =>
    by_cases hflow : s.currentBattleFlow = .idle
    · rw [leaveIdle_of_idle hflow, hggpo, Bool.true_and] at htracked ⊢
      cases hgoes : s.bGgpoDuringIdle && s.bMatchLeftIdle with
      | false => simp [tracked, hgoes, hflow] at htracked
      | true =>
        rw [Bool.and_eq_true] at hgoes
        simp [hgoes.2, hflow]
    · rw [leaveIdle_of_playing hggpo hflow, if_neg hflow]
      exact ⟨rfl, rfl⟩

/-- A frame that does not go to GGPO finds an idle flow or no session, and the books as they were. -/
theorem leaveIdle_of_untracked (htracked : s.leaveIdle.tracked = false) :
    s.leaveIdle = s ∧ (s.ggpo = true → s.currentBattleFlow = .idle ∧ (s.bGgpoDuringIdle = true → s.bMatchLeftIdle = false)) := by
  cases hggpo : s.ggpo with
  | false => exact ⟨leaveIdle_of_offline hggpo, nofun⟩
  | true =>
    by_cases hflow : s.currentBattleFlow = .idle
    · rw [leaveIdle_of_idle hflow, hggpo, Bool.true_and] at htracked ⊢
      cases hgoes : s.bGgpoDuringIdle && s.bMatchLeftIdle with
      | false => exact ⟨rfl, fun _ => ⟨hflow, by simpa using hgoes⟩⟩
      | true => simp [tracked, hgoes, hflow] at htracked
    · rw [leaveIdle_of_playing hggpo hflow] at htracked
      simp [tracked, hggpo, hflow] at htracked

theorem log_leaveIdle (s : BattleLoop) : s.leaveIdle.log = s.log := by
  unfold leaveIdle
  dsimp only
  repeat' split
  all_goals rfl

end

end BattleLoop

/-! ## Sessions -/

/-- From `s` to `s'` a session starts, or a start is given up: no frame is touched, and only a match
that is given up forgets the frames to skip. -/
structure Outside (s s' : BattleLoop) : Prop where
  during : s'.bGgpoDuringIdle = s.bGgpoDuringIdle
  checkpoint : s'.bRoundCheckpoint = s.bRoundCheckpoint
  left : s'.bMatchLeftIdle = s.bMatchLeftIdle
  idles : s'.nIdleFramesInTimeline = s.nIdleFramesInTimeline
  untracked : s'.nUntrackedIdleFrames = s.nUntrackedIdleFrames
  held : s'.nCheckpointHeldFrames = s.nCheckpointHeldFrames
  starved : s'.spectatorStarvedSince = s.spectatorStarvedSince
  pad : s'.pad = s.pad
  extra : s'.nExtraFramesToSimulate = s.nExtraFramesToSimulate
  log : ∃ new, s'.log = new ++ s.log ∧ (∀ e ∈ new, e.opens = true) ∧
    s'.nFramesToSkip = if new.any Entry.forgets then 0 else s.nFramesToSkip

namespace Outside

variable {s s' s'' : BattleLoop}

/-- Nothing is logged. -/
theorem none (during : s'.bGgpoDuringIdle = s.bGgpoDuringIdle) (checkpoint : s'.bRoundCheckpoint = s.bRoundCheckpoint)
    (left : s'.bMatchLeftIdle = s.bMatchLeftIdle) (idles : s'.nIdleFramesInTimeline = s.nIdleFramesInTimeline)
    (untracked : s'.nUntrackedIdleFrames = s.nUntrackedIdleFrames)
    (held : s'.nCheckpointHeldFrames = s.nCheckpointHeldFrames)
    (starved : s'.spectatorStarvedSince = s.spectatorStarvedSince) (pad : s'.pad = s.pad)
    (extra : s'.nExtraFramesToSimulate = s.nExtraFramesToSimulate) (log : s'.log = s.log)
    (skip : s'.nFramesToSkip = s.nFramesToSkip) : Outside s s' :=
  ⟨during, checkpoint, left, idles, untracked, held, starved, pad, extra, [], log, nofun, skip⟩

theorem refl (s : BattleLoop) : Outside s s := .none rfl rfl rfl rfl rfl rfl rfl rfl rfl rfl rfl

theorem did (s : BattleLoop) {e : Entry} (he : e.opens = true) (hforgets : e.forgets = false) : Outside s (s.did e) :=
  ⟨rfl, rfl, rfl, rfl, rfl, rfl, rfl, rfl, rfl, [e], rfl, by simpa using he, by simp [hforgets, BattleLoop.did]⟩

theorem trans (h : Outside s s') (h' : Outside s' s'') : Outside s s'' := by
  obtain ⟨new, hnew, hopens, hskip⟩ := h.log
  obtain ⟨new', hnew', hopens', hskip'⟩ := h'.log
  refine ⟨h'.during.trans h.during, h'.checkpoint.trans h.checkpoint, h'.left.trans h.left, h'.idles.trans h.idles,
    h'.untracked.trans h.untracked, h'.held.trans h.held, h'.starved.trans h.starved, h'.pad.trans h.pad,
    h'.extra.trans h.extra, new' ++ new, ?_, List.forall_mem_append.2 ⟨hopens', hopens⟩, ?_⟩
  · rw [hnew', hnew, List.append_assoc]
  · rw [hskip', hskip, List.any_append]
    cases new'.any Entry.forgets <;> rfl

end Outside

namespace BattleLoop

theorem outside_abortMatchStart (s : BattleLoop) : Outside s s.abortMatchStart :=
  ⟨rfl, rfl, rfl, rfl, rfl, rfl, rfl, rfl, rfl, [.aborted], rfl, by simp [Entry.opens], rfl⟩

theorem outside_watchdog (s : BattleLoop) (tickCount : UInt32) : Outside s (s.watchdog tickCount) := by
  unfold watchdog
  split
  · have hstopped : Outside s { s with ggpoStartTick := 0 } := .none rfl rfl rfl rfl rfl rfl rfl rfl rfl rfl rfl
    exact hstopped.trans (outside_abortMatchStart _)
  · exact .refl s

theorem outside_addPlayer (s : BattleLoop) (side : Side) (type : GGPOPlayerType) (frameDelay : ℤ) (result : GGPOErrorCode)
    (handle : ℤ) : Outside s (s.addPlayer side type frameDelay result handle).1 := by
  have htyped : Outside s { s with players := s.players.set side type } :=
    .none rfl rfl rfl rfl rfl rfl rfl rfl rfl rfl rfl
  unfold addPlayer
  dsimp only
  repeat' split
  · exact htyped
  · exact htyped.trans ((Outside.did _ (e := .delayed side frameDelay) rfl rfl).trans
      (.none rfl rfl rfl rfl rfl rfl rfl rfl rfl rfl rfl))
  · exact htyped

theorem outside_startGGPO (s : BattleLoop) (inPlayers : List (GGPOPlayerType × ℤ)) (frameDelay : ℤ) (pacing : Bool)
    (tickCount : UInt32) (session : GGPOErrorCode) (added : Sides (GGPOErrorCode × ℤ)) :
    Outside s (s.startGGPO inPlayers frameDelay pacing tickCount session added) := by
  unfold startGGPO
  dsimp only
  generalize hsoak : (if s.bSoakTest = true then
    { s with pacerEnabled := pacing, bPredictionStalled := false, nRandomizeLocalInputsEveryXFramesInGGPO := 8 }
    else { s with pacerEnabled := pacing, bPredictionStalled := false } : BattleLoop) = r
  have hr : Outside s r := by
    rw [← hsoak]
    split <;> exact .none rfl rfl rfl rfl rfl rfl rfl rfl rfl rfl rfl
  split
  · exact hr.trans (outside_abortMatchStart r)
  · rename_i types _
    have harmed : Outside s { r with ggpoStartTick := tickCount, ggpoReachedRunning := false } :=
      hr.trans (.none rfl rfl rfl rfl rfl rfl rfl rfl rfl rfl rfl)
    split
    · exact harmed.trans (outside_abortMatchStart _)
    · generalize (if frameDelay < 1 then 1 else frameDelay) = delay
      have hopened : Outside s { r with ggpoStartTick := tickCount, ggpoReachedRunning := false, ggpo := true } :=
        hr.trans (.none rfl rfl rfl rfl rfl rfl rfl rfl rfl rfl rfl)
      have hfirst := hopened.trans (outside_addPlayer _ 0 types.s0 delay added.s0.1 added.s0.2)
      have hclosed (q : BattleLoop) (hq : Outside s q) : Outside s { q with ggpo := false }.abortMatchStart :=
        (hq.trans (.none rfl rfl rfl rfl rfl rfl rfl rfl rfl rfl rfl)).trans (outside_abortMatchStart _)
      split
      · exact hclosed _ hfirst
      · have hsecond := hfirst.trans (outside_addPlayer _ 1 types.s1 delay added.s1.1 added.s1.2)
        split
        · exact hclosed _ hsecond
        · exact hsecond.trans ((Outside.did _ (e := .started) rfl rfl).trans
            (.none rfl rfl rfl rfl rfl rfl rfl rfl rfl rfl rfl))

theorem outside_startSyncTest (s : BattleLoop) (session : GGPOErrorCode) (added : Sides (GGPOErrorCode × ℤ)) :
    Outside s (s.startSyncTest session added) := by
  unfold startSyncTest
  dsimp only
  split
  · exact .none rfl rfl rfl rfl rfl rfl rfl rfl rfl rfl rfl
  · exact (Outside.did s (e := .started) rfl rfl).trans (.none rfl rfl rfl rfl rfl rfl rfl rfl rfl rfl rfl)

end BattleLoop

end Sf4e.Battle
