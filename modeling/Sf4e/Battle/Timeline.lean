import Sf4e.Battle.UpdateSteps
/-!
# The rollback timeline

What GGPO can roll back is what went through it: a frame whose inputs it has synchronized and
after which it was advanced. `timeline_kept`: in every run the calls come in that order, the game
reads exactly the synchronized inputs, and once a frame has gone through GGPO the update itself takes
none around it until the battle closes. The frames of the overlay's recording do go around it, at
any time. The two counts of idle frames are what the log says.
-/
open Sf4e.Lib Sf4e.Netplay

namespace Sf4e.Battle

/-! ## The idle frames -/

/-- An entry that the books of the idle frames do not hold. -/
structure Entry.Aside (e : Entry) : Prop where
  live : e.isLive = false
  untracked : e.isUntracked = false
  idleFrame : e.isIdleFrame = false
  closes : e.closes = false

theorem Entry.aside_of_plain {e : Entry} {localPlayerHandle : Option ℤ} (h : e.plain localPlayerHandle = true) : e.Aside :=
  ⟨isLive_of_plain h, isUntracked_of_plain h, isIdleFrame_of_plain h, closes_of_plain h⟩

theorem Entry.aside_of_opens {e : Entry} (h : e.opens = true) : e.Aside := by
  cases e <;> first | exact ⟨rfl, rfl, rfl, rfl⟩ | cases h

/-- From `s` to `s'` the books of the idle frames stay, and so does what they count. -/
structure Beside (s s' : BattleLoop) : Prop where
  during : s'.bGgpoDuringIdle = s.bGgpoDuringIdle
  left : s'.bMatchLeftIdle = s.bMatchLeftIdle
  idles : s'.nIdleFramesInTimeline = s.nIdleFramesInTimeline
  untracked : s'.nUntrackedIdleFrames = s.nUntrackedIdleFrames
  log : ∃ new, s'.log = new ++ s.log ∧ ∀ e ∈ new, e.Aside

namespace Beside

variable {s s' s'' : BattleLoop}

theorem refl (s : BattleLoop) : Beside s s := ⟨rfl, rfl, rfl, rfl, [], rfl, nofun⟩

theorem trans (h : Beside s s') (h' : Beside s' s'') : Beside s s'' := by
  obtain ⟨new, hnew, haside⟩ := h.log
  obtain ⟨new', hnew', haside'⟩ := h'.log
  refine ⟨h'.during.trans h.during, h'.left.trans h.left, h'.idles.trans h.idles, h'.untracked.trans h.untracked,
    new' ++ new, ?_, List.forall_mem_append.2 ⟨haside', haside⟩⟩
  rw [hnew', hnew, List.append_assoc]

theorem of_plainly (h : Plainly s s') : Beside s s' := by
  obtain ⟨new, hnew, hplain, -⟩ := h.log
  exact ⟨(congrArg BattleLoop.bGgpoDuringIdle h.books :), (congrArg BattleLoop.bMatchLeftIdle h.books :),
    (congrArg BattleLoop.nIdleFramesInTimeline h.books :), (congrArg BattleLoop.nUntrackedIdleFrames h.books :),
    new, hnew, fun e he => Entry.aside_of_plain (hplain e he)⟩

theorem of_outside (h : Outside s s') : Beside s s' := by
  obtain ⟨new, hnew, hopens, -⟩ := h.log
  exact ⟨h.during, h.left, h.idles, h.untracked, new, hnew, fun e he => Entry.aside_of_opens (hopens e he)⟩

/-- One entry more. -/
theorem one {e : Entry} (he : e.Aside) (during : s'.bGgpoDuringIdle = s.bGgpoDuringIdle)
    (left : s'.bMatchLeftIdle = s.bMatchLeftIdle) (idles : s'.nIdleFramesInTimeline = s.nIdleFramesInTimeline)
    (untracked : s'.nUntrackedIdleFrames = s.nUntrackedIdleFrames) (log : s'.log = e :: s.log) : Beside s s' :=
  ⟨during, left, idles, untracked, [e], log, by simpa using he⟩

/-- And none. -/
theorem none (during : s'.bGgpoDuringIdle = s.bGgpoDuringIdle) (left : s'.bMatchLeftIdle = s.bMatchLeftIdle)
    (idles : s'.nIdleFramesInTimeline = s.nIdleFramesInTimeline)
    (untracked : s'.nUntrackedIdleFrames = s.nUntrackedIdleFrames) (log : s'.log = s.log) : Beside s s' :=
  ⟨during, left, idles, untracked, [], log, nofun⟩

end Beside

namespace BattleLoop

theorem beside_spectate (s : BattleLoop) (t : Frame) (result : GGPOErrorCode) (hwatches : s.localPlayerHandle = none) :
    Beside s (s.spectate t result) := by
  rcases s.spectate_cases t result hwatches with ⟨-, hfed⟩ | ⟨-, hstarved⟩
  · have hmark : Beside s { s.did .fed with spectatorStarvedSince := 0 } :=
      .one ⟨rfl, rfl, rfl, rfl⟩ rfl rfl rfl rfl rfl
    exact hmark.trans (.of_plainly hfed)
  · have hmark : Beside s (s.did (.starved t.tickCount64)) := .one ⟨rfl, rfl, rfl, rfl⟩ rfl rfl rfl rfl rfl
    rw [hstarved]
    split
    · exact hmark.trans (.none rfl rfl rfl rfl rfl)
    · split
      · exact hmark.trans (.one (e := .gaveUp t.tickCount64) ⟨rfl, rfl, rfl, rfl⟩ rfl rfl rfl rfl rfl)
      · exact hmark

theorem beside_checkpoint (s : BattleLoop) (unconfirmedDepth : Option ℤ) : Beside s (s.checkpoint unconfirmedDepth).1 := by
  unfold checkpoint
  repeat' split
  · exact .one (e := .held) ⟨rfl, rfl, rfl, rfl⟩ rfl rfl rfl rfl rfl
  · exact .none rfl rfl rfl rfl rfl
  · exact .refl s
  · exact .one (e := .released) ⟨rfl, rfl, rfl, rfl⟩ rfl rfl rfl rfl rfl
  · exact .refl s

end BattleLoop

/-! ## The invariant of the idle frames -/

/-- A frame around GGPO is an idle one, and none of the frames since the battle was opened has
gone through GGPO, if idle frames are to. -/
def AroundInIdle (during : Bool) (e : Entry) (before : List Entry) : Prop :=
  ∀ pad flow, e = .simulated (.untracked true) pad flow →
    flow = .idle ∧ (during = true → ∀ e' ∈ Log.since Entry.closes before, e'.isLive = false)

structure Timeline (during : Bool) (s : BattleLoop) : Prop where
  setting : s.bGgpoDuringIdle = during
  left : s.bMatchLeftIdle = false → ∀ e ∈ Log.since Entry.closes s.log, e.isLive = false
  around : Log.Always (AroundInIdle during) s.log
  idles : s.nIdleFramesInTimeline = (Log.since Entry.counts s.log).countP Entry.isIdleFrame
  untracked : s.nUntrackedIdleFrames = (Log.since Entry.counts s.log).countP Entry.isUntracked

section

variable {during : Bool} {s s' : BattleLoop}

theorem Entry.Aside.around {e : Entry} (h : e.Aside) (during : Bool) (before : List Entry) : AroundInIdle during e before := by
  rintro pad flow rfl
  cases h.untracked

theorem countP_since {new log : List Entry} (haside : ∀ e ∈ new, e.Aside) {p : Entry → Bool}
    (hp : ∀ e : Entry, e.Aside → p e = false) :
    (Log.since Entry.counts (new ++ log)).countP p = (Log.since Entry.counts log).countP p := by
  rw [Log.since_append fun e he => Entry.counts_of_closes (haside e he).closes, List.countP_append,
    List.countP_eq_zero.2 fun e he => by rw [hp e (haside e he)]; exact Bool.false_ne_true, Nat.zero_add]

theorem Timeline.beside (h : Timeline during s) (hb : Beside s s') : Timeline during s' := by
  obtain ⟨new, hlog, haside⟩ := hb.log
  refine ⟨hb.during.trans h.setting, ?_, ?_, ?_, ?_⟩
  · rw [hb.left, hlog, Log.since_append fun e he => (haside e he).closes]
    exact fun hleft => List.forall_mem_append.2 ⟨fun e he => (haside e he).live, h.left hleft⟩
  · rw [hlog]
    exact Log.always_append (fun e he before => (haside e he).around _ before) h.around
  · rw [hb.idles, hlog, countP_since haside fun e he => he.idleFrame]
    exact h.idles
  · rw [hb.untracked, hlog, countP_since haside fun e he => he.untracked]
    exact h.untracked

/-- The books count the frame before GGPO is given it. -/
theorem Timeline.offered (h : Timeline during s) (htracked : s.leaveIdle.tracked = true) {s₁ : BattleLoop} {e : Entry}
    {result : GGPOErrorCode} (hbefore : Plainly s.leaveIdle s₁) (hafter : Plainly (s₁.did e) s')
    (he : Answers result s.currentBattleFlow e) : Timeline during s' := by
  obtain ⟨hleft, hidles⟩ := BattleLoop.leaveIdle_of_tracked htracked
  replace hbefore := Beside.of_plainly hbefore
  obtain ⟨new, hlog, haside⟩ := hbefore.log
  rw [s.log_leaveIdle] at hlog
  have hsame : s.leaveIdle.bGgpoDuringIdle = s.bGgpoDuringIdle ∧
      s.leaveIdle.nUntrackedIdleFrames = s.nUntrackedIdleFrames := by
    unfold BattleLoop.leaveIdle
    dsimp only
    repeat' split
    all_goals exact ⟨rfl, rfl⟩
  have hframe : e.counts = false ∧ e.isUntracked = false ∧ e.isIdleFrame = decide (s.currentBattleFlow = .idle) ∧
      ∀ pad flow, e ≠ .simulated (.untracked true) pad flow := by
    rcases he with ⟨-, pad, rfl⟩ | ⟨-, rfl⟩
    · exact ⟨rfl, rfl, rfl, fun _ _ => nofun⟩
    · exact ⟨rfl, rfl, rfl, fun _ _ => nofun⟩
  have hsetting : (s₁.did e).bGgpoDuringIdle = during := hbefore.during.trans (hsame.1.trans h.setting)
  refine Timeline.beside ⟨hsetting, ?_, ?_, ?_, ?_⟩ (.of_plainly hafter)
  · intro hnot
    have htrue : s₁.bMatchLeftIdle = true := hbefore.left.trans hleft
    rw [show (s₁.did e).bMatchLeftIdle = true from htrue] at hnot
    cases hnot
  · show Log.Always (AroundInIdle during) (e :: s₁.log)
    rw [hlog]
    refine Log.always_cons.2 ⟨fun pad flow heq => absurd heq (hframe.2.2.2 pad flow), ?_⟩
    exact Log.always_append (fun e he before => (haside e he).around _ before) h.around
  · show s₁.nIdleFramesInTimeline = (Log.since Entry.counts (e :: s₁.log)).countP Entry.isIdleFrame
    rw [hbefore.idles, hidles, Log.since_other hframe.1, hlog, List.countP_cons, hframe.2.2.1,
      countP_since haside fun e he => he.idleFrame, h.idles]
    simp only [decide_eq_true_eq]
  · show s₁.nUntrackedIdleFrames = (Log.since Entry.counts (e :: s₁.log)).countP Entry.isUntracked
    rw [hbefore.untracked, hsame.2, Log.since_other hframe.1, hlog, List.countP_cons, hframe.2.1,
      countP_since haside fun e he => he.untracked, h.untracked]
    rfl

theorem Timeline.untrackedFrame (h : Timeline during s) (htracked : s.leaveIdle.tracked = false) (flow : BattleFlow) :
    Timeline during (s.leaveIdle.untrackedFrame flow) := by
  obtain ⟨hsame, hidle⟩ := BattleLoop.leaveIdle_of_untracked htracked
  rw [hsame]
  unfold BattleLoop.untrackedFrame
  cases hggpo : s.ggpo with
  | false =>
    refine h.beside (.one (e := .simulated (.untracked false) s.pad s.currentBattleFlow) ⟨rfl, rfl, rfl, rfl⟩ ?_ ?_ ?_ ?_ ?_)
    all_goals simp [BattleLoop.simulate, BattleLoop.did, hggpo]
  | true =>
    obtain ⟨hflow, hleft⟩ := hidle hggpo
    simp only [BattleLoop.simulate, BattleLoop.did, hggpo, if_true]
    refine ⟨h.setting, ?_, ?_, ?_, ?_⟩
    · intro hnot
      rw [Log.since_other rfl]
      exact List.forall_mem_cons.2 ⟨rfl, h.left hnot⟩
    · refine Log.always_cons.2 ⟨?_, h.around⟩
      rintro pad flow heq
      cases heq
      exact ⟨hflow, fun hduring => h.left (hleft (h.setting.trans hduring))⟩
    · rw [Log.since_other rfl, List.countP_cons]
      exact h.idles
    · rw [Log.since_other rfl, List.countP_cons, ← h.untracked]
      rfl

theorem Timeline.closeBattle (h : Timeline during s) : Timeline during s.closeBattle := by
  unfold BattleLoop.closeBattle
  dsimp only
  generalize (s.ggpo || s.syncTestActive) = counted
  have hsince (p : Entry → Bool) (hp : p (.closed false) = false) (n : ℕ)
      (hn : n = (Log.since Entry.counts s.log).countP p) :
      (if counted = true then 0 else n) = (Log.since Entry.counts (.closed counted :: s.log)).countP p := by
    cases counted with
    | true => rw [Log.since_mark rfl, if_pos rfl, List.countP_nil]
    | false => rw [Log.since_other rfl, if_neg Bool.false_ne_true, List.countP_cons, hp, hn, if_neg Bool.false_ne_true]; rfl
  refine ⟨h.setting, fun _ => ?_, ?_, hsince _ rfl _ h.idles, hsince _ rfl _ h.untracked⟩
  · show ∀ e ∈ Log.since Entry.closes (.closed counted :: s.log), e.isLive = false
    rw [Log.since_mark rfl]
    exact List.forall_mem_nil _
  · exact Log.always_cons.2 ⟨fun _ _ heq => (Entry.noConfusion heq : False).elim, h.around⟩

end

namespace BattleLoop

variable {during : Bool} {s : BattleLoop}

theorem timeline_advance (h : Timeline during s) (t : Frame) : Timeline during (s.advance t) := by
  have hflow : s.leaveIdle.currentBattleFlow = s.currentBattleFlow := by
    unfold leaveIdle
    dsimp only
    repeat' split
    all_goals rfl
  have hframe : Timeline during
      (if s.leaveIdle.tracked then s.leaveIdle.trackedFrame t else s.leaveIdle.untrackedFrame t.flow) := by
    cases htracked : s.leaveIdle.tracked with
    | true =>
      obtain ⟨s₁, e, s₂, result, hbefore, hafter, he, heq⟩ := s.leaveIdle.trackedFrame_cases t
      have hoffered := h.offered htracked hbefore hafter (hflow ▸ he)
      rw [if_pos rfl]
      rcases heq with heq | ⟨hwatches, heq⟩
      · exact heq ▸ hoffered
      · exact heq ▸ hoffered.beside (beside_spectate s₂ t result hwatches)
    | false => exact h.untrackedFrame htracked t.flow
  exact hframe.beside (.of_plainly (plainly_rest _ t))

theorem timeline_battleUpdate (h : Timeline during s) (t : Frame) : Timeline during (s.battleUpdate t) := by
  have hdog := h.beside (.of_outside (s.outside_watchdog t.tickCount))
  unfold battleUpdate
  dsimp only
  generalize s.watchdog t.tickCount = s at hdog
  split
  · exact hdog
  · have hserved : Timeline during (if s.ggpo && !s.syncTestActive then s.serve t.idle else s) := by
      split
      · exact hdog.beside (.of_plainly (plainly_serve s t.idle))
      · exact hdog
    generalize (if s.ggpo && !s.syncTestActive then s.serve t.idle else s) = s at hserved
    have hchecked := hserved.beside (s.beside_checkpoint t.unconfirmedDepth)
    split
    · exact hchecked
    · split
      · exact hchecked.beside (.one (e := .skipped) ⟨rfl, rfl, rfl, rfl⟩ rfl rfl rfl rfl rfl)
      · exact timeline_advance hchecked t

end BattleLoop

theorem timeline_next {during : Bool} {s : BattleLoop} (h : Timeline during s) (a : BattleAct) :
    Timeline during (battle.next s a).1 := by
  cases a with
  | battleUpdate t => exact BattleLoop.timeline_battleUpdate h t
  | idle served =>
    show Timeline during (if s.ggpo = true then s.serve served else s)
    split
    · exact h.beside (.of_plainly (s.plainly_serve served))
    · exact h
  | startGGPO => exact h.beside (.of_outside (s.outside_startGGPO ..))
  | startSpectating => exact h.beside (.one (e := .spectating) ⟨rfl, rfl, rfl, rfl⟩ rfl rfl rfl rfl rfl)
  | startSyncTest session added => exact h.beside (.of_outside (s.outside_startSyncTest session added))
  | closeBattle => exact h.closeBattle
  | _ => exact h.beside (.none rfl rfl rfl rfl rfl)

/-! ## The order of the calls -/

/-- Where GGPO stands: between two frames, with the inputs of a frame, or with the frame simulated. -/
inductive Phase where
  | between
  | synced (inputs : Sides Inputs)
  | simulated

/-- What may follow. A frame in the timeline reads the inputs that were synchronized, whatever the
devices say, and the advance comes next; it comes without a frame when the battle is gone. A frame
outside reads the devices, one of the overlay its recording. -/
inductive Follows : Phase → Entry → Phase → Prop where
  | synchronize (inputs : Sides Inputs) : Follows .between (.synchronized inputs) (.synced inputs)
  | simulate {inputs : Sides Inputs} {how : Simulation} {pad : Pad} {flow : BattleFlow} (h : how.inTimeline = true)
    (hpad : ∀ device, pad.reads device = inputs) : Follows (.synced inputs) (.simulated how pad flow) .simulated
  | advance : Follows .simulated .advanced .between
  | tearDown (inputs : Sides Inputs) : Follows (.synced inputs) .advanced .between
  | around {session : Bool} {pad : Pad} {flow : BattleFlow} (hpad : pad.playbackFrame = -1) :
    Follows .between (.simulated (.untracked session) pad flow) .between
  | forward {pad : Pad} {flow : BattleFlow} (i : ℕ) (hpad : pad.playbackFrame = i) (hi : i < pad.playbackData.length) :
    Follows .between (.simulated .forwarded pad flow) .between
  | other {e : Entry} (h : e.free = true) : Follows .between e .between

namespace Pad

/-- The recording has a place for each of its frames. -/
def Recorded (p : Pad) : Prop := p.playbackData.length = PLAYBACK_MAX

theorem Recorded.play {p : Pad} (h : p.Recorded) (inputs : Sides Inputs) : (p.play inputs).Recorded :=
  List.length_set.trans h

theorem Recorded.release {p : Pad} (h : p.Recorded) : p.release.Recorded := h

theorem reads_play {p : Pad} (h : p.Recorded) (inputs device : Sides Inputs) :
    (p.play inputs).reads device = inputs := by
  have hfirst : (p.playbackData.set 0 inputs).getD 0 noInputs = inputs := by
    cases hdata : p.playbackData with
    | nil =>
      rw [Recorded, hdata] at h
      cases h
    | cons first rest => rfl
  have hmapped (side : Side) : (p.play inputs).getButtonsMappedOn device side = (inputs.get side).mappedOn :=
    congrArg (fun played : Sides Inputs => (played.get side).mappedOn) hfirst
  have hraw (side : Side) : (p.play inputs).getButtonsRawOn device side = (inputs.get side).rawOn :=
    congrArg (fun played : Sides Inputs => (played.get side).rawOn) hfirst
  refine Sides.ext_get fun side => ?_
  rw [reads, Sides.get_of, hmapped, hraw]

end Pad

structure Orderly (s : BattleLoop) : Prop where
  leads : Log.Leads Follows .between s.log .between
  released : s.pad.playbackFrame = -1
  recorded : s.pad.Recorded
  few : s.nExtraFramesToSimulate ≤ Pad.PLAYBACK_MAX

namespace Orderly

variable {s s' : BattleLoop}

/-- The entries are in order and the pad is released. -/
theorem next (h : Orderly s) (leads : Log.Leads Follows .between s'.log .between) (released : s'.pad.playbackFrame = -1)
    (recorded : s'.pad.Recorded) (extra : s'.nExtraFramesToSimulate = s.nExtraFramesToSimulate) : Orderly s' :=
  ⟨leads, released, recorded, extra.le.trans h.few⟩

theorem same (h : Orderly s) (log : s'.log = s.log) (pad : s'.pad = s.pad)
    (extra : s'.nExtraFramesToSimulate = s.nExtraFramesToSimulate) : Orderly s' :=
  h.next (log ▸ h.leads) (pad ▸ h.released) (pad ▸ h.recorded) extra

theorem did (h : Orderly s) {e : Entry} (he : e.free = true) : Orderly (s.did e) :=
  h.next (h.leads.cons (.other he)) h.released h.recorded rfl

theorem outside (h : Orderly s) (ho : Outside s s') : Orderly s' := by
  obtain ⟨new, hlog, hopens, -⟩ := ho.log
  have hleads : Log.Leads Follows .between (new ++ s.log) .between := by
    clear hlog
    induction new with
    | nil => exact h.leads
    | cons e new ih =>
      rw [List.forall_mem_cons] at hopens
      exact (ih hopens.2).cons (.other (Entry.free_of_opens hopens.1))
  exact h.next (hlog ▸ hleads) (ho.pad ▸ h.released) (ho.pad ▸ h.recorded) ho.extra

/-- The inputs, the frame and the advance. -/
theorem frame (h : Orderly s) (inputs : Sides Inputs) (how : Simulation) (hhow : how.inTimeline = true)
    (flowNow flowAfter : BattleFlow) :
    Orderly (((s.playBack inputs).simulate how flowNow flowAfter).stopPlayBack.did .advanced) := by
  have hsynced : Log.Leads Follows .between (.synchronized inputs :: s.log) (.synced inputs) :=
    h.leads.cons (.synchronize inputs)
  have hsimulated : Log.Leads Follows .between (.simulated how (s.pad.play inputs) flowNow :: .synchronized inputs :: s.log)
      .simulated := hsynced.cons (.simulate hhow (Pad.reads_play h.recorded inputs))
  have hextra : (((s.playBack inputs).simulate how flowNow flowAfter).stopPlayBack.did .advanced).nExtraFramesToSimulate =
      s.nExtraFramesToSimulate := by
    cases s
    rfl
  exact h.next (hsimulated.cons .advance) rfl (h.recorded.play inputs).release hextra

theorem callback (h : Orderly s) (c : Callback) : Orderly (s.callback c) := by
  cases c with
  | advanceFrame battle inputs flow advanced =>
    unfold BattleLoop.callback BattleLoop.advanceFrameCallback
    dsimp only
    cases battle with
    | false =>
      have htorn : Log.Leads Follows .between (.advanced :: .synchronized inputs :: s.log) .between :=
        (h.leads.cons (.synchronize inputs)).cons (.tearDown inputs)
      exact h.next htorn rfl (h.recorded.play inputs).release rfl
    | true =>
      have hframe := h.frame inputs .resimulated rfl (s.playBack inputs).currentBattleFlow flow
      rw [Bool.not_true, if_neg Bool.false_ne_true]
      split
      · exact (hframe.did (e := .captured) rfl).same rfl rfl rfl
      · exact hframe
  | onEvent info limiterActive =>
    unfold BattleLoop.callback BattleLoop.onEvent
    cases info with
    | disconnectedFromPeer player =>
      dsimp only
      split <;> exact h.same rfl rfl rfl
    | timesync framesAhead =>
      have hlogged := h.did (e := .recommended framesAhead s.pacerEnabled s.localPlayerHandle.isSome limiterActive) rfl
      dsimp only
      split
      · exact hlogged
      · exact hlogged.same rfl rfl rfl
    | _ => exact h.same rfl rfl rfl
  | assertFailed battle => exact h.same rfl rfl rfl

theorem serve (h : Orderly s) (served : List Callback) : Orderly (s.serve served) := by
  induction served generalizing s with
  | nil => exact h
  | cons c served ih => exact ih (h.callback c)

theorem addLocalInput (h : Orderly s) (t : Frame) (side : Side) (result : GGPOErrorCode) :
    Orderly (s.addLocalInput t side result).1 := by
  unfold BattleLoop.addLocalInput
  split
  · exact h
  · exact (h.did rfl).serve _

theorem addLocalInputs (h : Orderly s) (t : Frame) : Orderly (s.addLocalInputs t).1 := by
  have hrandom : Orderly (s.randomize t) := by
    unfold BattleLoop.randomize
    dsimp only
    repeat' split
    all_goals exact h.same rfl rfl rfl
  unfold BattleLoop.addLocalInputs
  split
  · exact h
  · exact (hrandom.addLocalInput t 0 .ok).addLocalInput t 1 _

theorem synchronizeAndSimulate (h : Orderly s) (t : Frame) (flowNow : BattleFlow) :
    Orderly (s.synchronizeAndSimulate t flowNow).1 := by
  have hserved := h.serve t.synchronize.served
  unfold BattleLoop.synchronizeAndSimulate
  dsimp only
  split
  · have hframe := (hserved.frame t.synchronize.inputs .live rfl flowNow t.flow).serve t.advance.served
    split
    · exact hframe.did rfl
    · exact hframe
  · exact hserved

theorem advanceSpectatorFrame (h : Orderly s) (e : Extra) : Orderly (s.advanceSpectatorFrame e).1 := by
  have hserved := h.serve e.synchronize.served
  unfold BattleLoop.advanceSpectatorFrame
  dsimp only
  split
  · exact (hserved.frame e.synchronize.inputs .caughtUp rfl _ e.flow).serve _
  · exact hserved

theorem catchUp (h : Orderly s) (extra : List Extra) : Orderly (s.catchUp extra) := by
  induction extra generalizing s with
  | nil => exact h
  | cons e extra ih =>
    unfold BattleLoop.catchUp
    dsimp only
    split
    · exact h
    · split
      · exact ih (h.advanceSpectatorFrame e)
      · exact h.advanceSpectatorFrame e

theorem spectate (h : Orderly s) (t : Frame) (result : GGPOErrorCode) : Orderly (s.spectate t result) := by
  have hstarved := h.did (e := .starved t.tickCount64) rfl
  unfold BattleLoop.spectate
  dsimp only
  split
  · have hfed : Orderly { s.did .fed with spectatorStarvedSince := 0 } := (h.did (e := .fed) rfl).same rfl rfl rfl
    exact hfed.catchUp _
  · split
    · exact hstarved.same rfl rfl rfl
    · split
      · exact (hstarved.did (e := .gaveUp t.tickCount64) rfl).same rfl rfl rfl
      · exact hstarved

theorem trackedFrame (h : Orderly s) (t : Frame) : Orderly (s.trackedFrame t) := by
  unfold BattleLoop.trackedFrame
  dsimp only
  have hadded : Orderly { (s.addLocalInputs t).1 with
      bPredictionStalled := (s.addLocalInputs t).2 = GGPOErrorCode.predictionThreshold } :=
    (h.addLocalInputs t).same rfl rfl rfl
  generalize ({ (s.addLocalInputs t).1 with
      bPredictionStalled := (s.addLocalInputs t).2 = GGPOErrorCode.predictionThreshold } : BattleLoop) = added at hadded ⊢
  generalize hpair : (if (s.addLocalInputs t).2 = GGPOErrorCode.ok then added.synchronizeAndSimulate t s.currentBattleFlow
    else (added, (s.addLocalInputs t).2)) = pair
  have hsynced : Orderly pair.1 := by
    rw [← hpair]
    split
    · exact hadded.synchronizeAndSimulate t s.currentBattleFlow
    · exact hadded
  have hanswered : Orderly (if pair.2 = .ok then pair.1 else pair.1.did (.refused s.currentBattleFlow)) := by
    split
    · exact hsynced
    · exact hsynced.did rfl
  generalize (if pair.2 = .ok then pair.1 else pair.1.did (.refused s.currentBattleFlow)) = answered at hanswered ⊢
  split
  · exact hanswered.spectate t pair.2
  · exact hanswered

/-- The overlay's recording is played from its first frame on, and no further than it goes. -/
theorem forward (h : Orderly s) (flows : ℕ → BattleFlow) : Orderly (s.forward flows) := by
  have hframes (n : ℕ) : ∀ (s : BattleLoop) (i : ℕ), i + n ≤ Pad.PLAYBACK_MAX →
      Log.Leads Follows .between s.log .between → s.pad.Recorded →
      Log.Leads Follows .between (s.forwardFrames flows i n).log .between ∧ (s.forwardFrames flows i n).pad.Recorded := by
    induction n with
    | zero => exact fun s _ _ hleads hrecorded => ⟨hleads, hrecorded⟩
    | succ n ih =>
      intro s i hi hleads hrecorded
      have hlt : i < s.pad.playbackData.length := by
        have hlength : s.pad.playbackData.length = Pad.PLAYBACK_MAX := hrecorded
        omega
      have hframe : Log.Leads Follows .between
          (.simulated .forwarded { s.pad with playbackFrame := i } s.currentBattleFlow :: s.log) .between :=
        hleads.cons (.forward i rfl hlt)
      have hnext : i + 1 + n ≤ Pad.PLAYBACK_MAX := by omega
      exact ih _ (i + 1) hnext hframe hrecorded
  unfold BattleLoop.forward
  split
  · have hall : 0 + s.nExtraFramesToSimulate ≤ Pad.PLAYBACK_MAX := by
      rw [Nat.zero_add]
      exact h.few
    obtain ⟨hleads, hrecorded⟩ := hframes _ s 0 hall h.leads h.recorded
    exact ⟨hleads, rfl, hrecorded.release, Nat.zero_le _⟩
  · exact h

theorem advance (h : Orderly s) (t : Frame) : Orderly (s.advance t) := by
  have hleft : Orderly s.leaveIdle := by
    unfold BattleLoop.leaveIdle
    dsimp only
    repeat' split
    all_goals exact h.same rfl rfl rfl
  have hframe : Orderly (if s.leaveIdle.tracked then s.leaveIdle.trackedFrame t else s.leaveIdle.untrackedFrame t.flow) := by
    split
    · exact hleft.trackedFrame t
    · have haround : Orderly (s.leaveIdle.simulate (.untracked s.leaveIdle.ggpo) s.leaveIdle.currentBattleFlow t.flow) :=
        hleft.next (hleft.leads.cons (.around hleft.released)) hleft.released hleft.recorded rfl
      unfold BattleLoop.untrackedFrame
      dsimp only
      split
      · exact haround.same rfl rfl rfl
      · exact haround
  unfold BattleLoop.advance
  dsimp only
  generalize (if s.leaveIdle.tracked then s.leaveIdle.trackedFrame t else s.leaveIdle.untrackedFrame t.flow) = framed
    at hframe ⊢
  have hreported : Orderly ((framed.forward t.forward).reportFlow t.vit) := by
    have hforward := hframe.forward t.forward
    unfold BattleLoop.reportFlow
    dsimp only
    split
    · exact hforward
    · split
      · exact (hforward.did (e := .matchResult _) rfl).same rfl rfl rfl
      · exact hforward.same rfl rfl rfl
  unfold BattleLoop.halt
  split
  · exact hreported.same rfl rfl rfl
  · exact hreported

theorem battleUpdate (h : Orderly s) (t : Frame) : Orderly (s.battleUpdate t) := by
  have hdog : Orderly (s.watchdog t.tickCount) := h.outside (s.outside_watchdog t.tickCount)
  unfold BattleLoop.battleUpdate
  dsimp only
  generalize s.watchdog t.tickCount = s at hdog
  split
  · exact hdog
  · have hserved : Orderly (if s.ggpo && !s.syncTestActive then s.serve t.idle else s) := by
      split
      · exact hdog.serve t.idle
      · exact hdog
    generalize (if s.ggpo && !s.syncTestActive then s.serve t.idle else s) = s at hserved
    have hchecked : Orderly (s.checkpoint t.unconfirmedDepth).1 := by
      unfold BattleLoop.checkpoint
      repeat' split
      · exact (hserved.did (e := .held) rfl).same rfl rfl rfl
      · exact hserved.same rfl rfl rfl
      · exact hserved
      · exact (hserved.did (e := .released) rfl).same rfl rfl rfl
      · exact hserved
    split
    · exact hchecked
    · split
      · exact (hchecked.did (e := .skipped) rfl).same rfl rfl rfl
      · exact hchecked.advance t

end Orderly

theorem orderly_next {s : BattleLoop} (h : Orderly s) (a : BattleAct) : Orderly (battle.next s a).1 := by
  cases a with
  | battleUpdate t => exact h.battleUpdate t
  | idle served =>
    show Orderly (if s.ggpo = true then s.serve served else s)
    split
    · exact h.serve served
    · exact h
  | startGGPO => exact h.outside (s.outside_startGGPO ..)
  | startSpectating session => exact (h.did (e := .spectating) rfl).same rfl rfl rfl
  | startSyncTest session added => exact h.outside (s.outside_startSyncTest session added)
  | closeBattle => exact (h.did (e := .closed _) rfl).same rfl rfl rfl
  | simulate n =>
    have hfew : (max 1 (min n (Pad.PLAYBACK_MAX : ℤ))).toNat ≤ Pad.PLAYBACK_MAX := by
      unfold Pad.PLAYBACK_MAX
      omega
    exact ⟨h.leads, h.released, h.recorded, hfew⟩
  | edit frame inputs => exact h.next h.leads h.released (List.length_set.trans h.recorded) rfl
  | suppress bSuppressGameInput => exact h.next h.leads h.released h.recorded rfl
  | _ => exact h.same rfl rfl rfl

/-! ## Every run -/

/-- In every run the calls of the frame loop are in order, each frame in the timeline reads the
inputs that GGPO has synchronized for it, and the pad is released when the update is over. A frame
goes around GGPO only while the flow is idle, and, if idle frames are to go through GGPO, only as
long as none has done so since the last battle was closed. The counts that are compared between two
PCs are those of the frames since they were last reset. -/
theorem timeline_kept (bGgpoDuringIdle bRoundCheckpoint bSoakTest syncTestSoak : Bool) (as : List BattleAct) :
    let s := battle.run (.new bGgpoDuringIdle bRoundCheckpoint bSoakTest syncTestSoak) as
    Log.Leads Follows .between s.log .between ∧ s.pad.playbackFrame = -1 ∧
      Log.Always (AroundInIdle bGgpoDuringIdle) s.log ∧
      s.nIdleFramesInTimeline = (Log.since Entry.counts s.log).countP Entry.isIdleFrame ∧
      s.nUntrackedIdleFrames = (Log.since Entry.counts s.log).countP Entry.isUntracked := by
  intro s
  have hstart : Orderly (.new bGgpoDuringIdle bRoundCheckpoint bSoakTest syncTestSoak) :=
    ⟨.nil, rfl, rfl, Nat.zero_le _⟩
  have horder : Orderly s := Machine.inv_of_all_steps Orderly (fun _ a h => orderly_next h a) as hstart
  have hbooks : Timeline bGgpoDuringIdle s :=
    Machine.inv_of_all_steps (Timeline bGgpoDuringIdle) (fun _ a h => timeline_next h a) as
      ⟨rfl, fun _ => List.forall_mem_nil _, Log.always_nil, rfl, rfl⟩
  exact ⟨horder.leads, horder.released, hbooks.around, hbooks.idles, hbooks.untracked⟩

end Sf4e.Battle
