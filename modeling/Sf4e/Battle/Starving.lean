import Sf4e.Battle.UpdateSteps
/-!
# A spectator without its host

A spectator cannot simulate a frame before it has the host's inputs. It is fed, or it starves; when it
has starved for more than eight seconds it leaves the match. `gives_up_iff`: it has given up since it
was last fed exactly when it starved at two moments more than eight seconds apart.
-/
open Sf4e.Lib Sf4e.Netplay

namespace Sf4e.Battle

namespace Entry

/-- The host's inputs have come, or a match to watch begins. -/
def feeds : Entry → Bool
  | .fed | .spectating => true
  | _ => false

def starvedAt : Entry → Option UInt64
  | .starved now => some now
  | _ => none

def isGaveUp : Entry → Bool
  | .gaveUp _ => true
  | _ => false

/-- The entry says nothing about the host. -/
structure Mute (e : Entry) : Prop where
  feeds : e.feeds = false
  starvedAt : e.starvedAt = none
  gaveUp : e.isGaveUp = false

theorem mute_of_plain {e : Entry} {localPlayerHandle : Option ℤ} (h : e.plain localPlayerHandle = true) : e.Mute := by
  cases e <;> first | exact ⟨rfl, rfl, rfl⟩ | cases h

theorem mute_of_opens {e : Entry} (h : e.opens = true) : e.Mute := by
  cases e <;> first | exact ⟨rfl, rfl, rfl⟩ | cases h

end Entry

/-- Since the spectator was last fed. -/
def silence (log : List Entry) : List Entry := Log.since Entry.feeds log

/-- When it has starved since, the newest moment first. -/
def starvedTimes (log : List Entry) : List UInt64 := (silence log).filterMap Entry.starvedAt

/-- It has given up since. -/
def GaveUp (log : List Entry) : Prop := ∃ e ∈ silence log, e.isGaveUp = true

theorem silence_append {new log : List Entry} (h : ∀ e ∈ new, e.Mute) : silence (new ++ log) = new ++ silence log :=
  Log.since_append (fun e he => (h e he).feeds) log

theorem starvedTimes_append {new : List Entry} (h : ∀ e ∈ new, e.Mute) (log : List Entry) :
    starvedTimes (new ++ log) = starvedTimes log := by
  unfold starvedTimes
  rw [silence_append h, List.filterMap_append, List.filterMap_eq_nil_iff.2 fun e he => (h e he).starvedAt, List.nil_append]

theorem gaveUp_append {new : List Entry} (h : ∀ e ∈ new, e.Mute) (log : List Entry) :
    GaveUp (new ++ log) ↔ GaveUp log := by
  unfold GaveUp
  rw [silence_append h]
  constructor
  · rintro ⟨e, he, hgave⟩
    rcases List.mem_append.1 he with he | he
    · rw [(h e he).gaveUp] at hgave
      cases hgave
    · exact ⟨e, he, hgave⟩
  · rintro ⟨e, he, hgave⟩
    exact ⟨e, List.mem_append_right _ he, hgave⟩

/-! ## What does not touch a spectator -/

/-- From `s` to `s'` nothing is known of the host. -/
structure Mutely (s s' : BattleLoop) : Prop where
  since : s'.spectatorStarvedSince = s.spectatorStarvedSince
  log : Log.Grows Entry.Mute s.log s'.log

namespace Mutely

variable {s s' s'' : BattleLoop}

theorem refl (s : BattleLoop) : Mutely s s := ⟨rfl, .refl _⟩

theorem trans (h : Mutely s s') (h' : Mutely s' s'') : Mutely s s'' := ⟨h'.since.trans h.since, h.log.trans h'.log⟩

theorem of_plainly (h : Plainly s s') : Mutely s s' := by
  obtain ⟨new, hnew, hplain, -⟩ := h.log
  exact ⟨(congrArg BattleLoop.spectatorStarvedSince h.books :), new, hnew, fun e he => Entry.mute_of_plain (hplain e he)⟩

theorem of_outside (h : Outside s s') : Mutely s s' := by
  obtain ⟨new, hnew, hopens, -⟩ := h.log
  exact ⟨h.starved, new, hnew, fun e he => Entry.mute_of_opens (hopens e he)⟩

end Mutely

namespace BattleLoop

theorem mutely_checkpoint (s : BattleLoop) (unconfirmedDepth : Option ℤ) : Mutely s (s.checkpoint unconfirmedDepth).1 := by
  unfold checkpoint
  repeat' split
  · exact ⟨rfl, .one (a := Entry.held) ⟨rfl, rfl, rfl⟩⟩
  · exact ⟨rfl, .refl _⟩
  · exact .refl s
  · exact ⟨rfl, .one (a := Entry.released) ⟨rfl, rfl, rfl⟩⟩
  · exact .refl s

/-- The update hears of the host once, if at all. -/
def Hears (t : Frame) (s s' : BattleLoop) : Prop :=
  ∃ s₁ s₂, Mutely s s₁ ∧ (s₂ = s₁ ∨ (s₁.localPlayerHandle = none ∧ ∃ result, s₂ = s₁.spectate t result)) ∧ Mutely s₂ s'

theorem Hears.of_mutely {t : Frame} {s s' : BattleLoop} (h : Mutely s s') : Hears t s s' := ⟨s', s', h, .inl rfl, .refl s'⟩

theorem Hears.after {t : Frame} {s s' s'' : BattleLoop} (h : Mutely s s') (h' : Hears t s' s'') : Hears t s s'' := by
  obtain ⟨s₁, s₂, hbefore, hears, hafter⟩ := h'
  exact ⟨s₁, s₂, h.trans hbefore, hears, hafter⟩

theorem advance_hears (s : BattleLoop) (t : Frame) : Hears t s (s.advance t) := by
  have hleft : Mutely s s.leaveIdle := by
    refine ⟨?_, s.log_leaveIdle ▸ .refl _⟩
    unfold leaveIdle
    dsimp only
    repeat' split
    all_goals rfl
  unfold advance
  dsimp only
  generalize s.leaveIdle = s₀ at hleft
  refine .after hleft ?_
  have hrest (s₂ : BattleLoop) : Mutely s₂ ((s₂.forward t.forward).reportFlow t.vit).halt := .of_plainly (plainly_rest s₂ t)
  split
  · obtain ⟨s₁, e, s₂, result, hbefore, hafter, he, heq⟩ := s₀.trackedFrame_cases t
    have hentry : Mutely s₁ (s₁.did e) := by
      refine ⟨rfl, .one ?_⟩
      rcases he with ⟨-, pad, rfl⟩ | ⟨-, rfl⟩
      · exact ⟨rfl, rfl, rfl⟩
      · exact ⟨rfl, rfl, rfl⟩
    have hgiven : Mutely s₀ s₂ := ((Mutely.of_plainly hbefore).trans hentry).trans (.of_plainly hafter)
    rcases heq with heq | ⟨hwatches, heq⟩
    · rw [heq]
      exact .of_mutely (hgiven.trans (hrest s₂))
    · rw [heq]
      exact ⟨s₂, s₂.spectate t result, hgiven, .inr ⟨hwatches, result, rfl⟩, hrest _⟩
  · have haround : Mutely s₀ (s₀.untrackedFrame t.flow) := by
      unfold untrackedFrame
      dsimp only
      split
      all_goals exact ⟨rfl, .one (a := Entry.simulated (.untracked s₀.ggpo) s₀.pad s₀.currentBattleFlow) ⟨rfl, rfl, rfl⟩⟩
    exact .of_mutely (haround.trans (hrest _))

theorem battleUpdate_hears (s : BattleLoop) (t : Frame) : Hears t s (s.battleUpdate t) := by
  have hdog := Mutely.of_outside (s.outside_watchdog t.tickCount)
  unfold battleUpdate
  dsimp only
  generalize s.watchdog t.tickCount = s₁ at hdog
  split
  · exact .of_mutely hdog
  · have hserved : Mutely s (if s₁.ggpo && !s₁.syncTestActive then s₁.serve t.idle else s₁) := by
      split
      · exact hdog.trans (.of_plainly (s₁.plainly_serve t.idle))
      · exact hdog
    generalize (if s₁.ggpo && !s₁.syncTestActive then s₁.serve t.idle else s₁) = s₂ at hserved
    have hchecked := hserved.trans (s₂.mutely_checkpoint t.unconfirmedDepth)
    split
    · exact .of_mutely hchecked
    · split
      · exact .of_mutely (hchecked.trans ⟨rfl, .one (a := Entry.skipped) ⟨rfl, rfl, rfl⟩⟩)
      · exact .after hchecked (advance_hears _ t)

end BattleLoop

/-! ## The invariant -/

/-- How long the silence has been, and what came of it. -/
structure Starving (s : BattleLoop) : Prop where
  fed : s.spectatorStarvedSince = 0 → starvedTimes s.log = []
  since : s.spectatorStarvedSince ≠ 0 → s.spectatorStarvedSince ∈ starvedTimes s.log
  spans : (GaveUp s.log ∧ ∃ a ∈ starvedTimes s.log, ∃ b ∈ starvedTimes s.log, a.toNat + 8000 < b.toNat) ∨
    (¬GaveUp s.log ∧ ∀ b ∈ starvedTimes s.log,
      s.spectatorStarvedSince.toNat ≤ b.toNat ∧ b.toNat ≤ s.spectatorStarvedSince.toNat + 8000)

section

variable {s s' : BattleLoop}

theorem Starving.mutely (h : Starving s) (hm : Mutely s s') : Starving s' := by
  obtain ⟨hsince, new, hnew, hmute⟩ := hm
  have htimes := starvedTimes_append hmute s.log
  have hgave := gaveUp_append hmute s.log
  constructor
  · rw [hsince, hnew, htimes]
    exact h.fed
  · rw [hsince, hnew, htimes]
    exact h.since
  · rw [hsince, hnew, htimes, hgave]
    exact h.spans

theorem starving_of_feeds {e : Entry} (he : e.feeds = true) (hlog : s'.log = e :: s.log)
    (hsince : s'.spectatorStarvedSince = 0) :
    Starving s' := by
  have hsilence : silence s'.log = [] := by rw [hlog]; exact Log.since_mark he _
  have htimes : starvedTimes s'.log = [] := by rw [starvedTimes, hsilence]; rfl
  refine ⟨fun _ => htimes, fun h => absurd hsince h, .inr ⟨?_, ?_⟩⟩
  · rintro ⟨e, he, -⟩
    rw [hsilence] at he
    cases he
  · rw [htimes]
    exact List.forall_mem_nil _

/-- One moment more. -/
theorem starvedTimes_starved (now : UInt64) (log : List Entry) :
    starvedTimes (.starved now :: log) = now :: starvedTimes log := by
  unfold starvedTimes silence
  rw [Log.since_other rfl]
  rfl

theorem gaveUp_starved (now : UInt64) (log : List Entry) : GaveUp (.starved now :: log) ↔ GaveUp log := by
  unfold GaveUp silence
  rw [Log.since_other rfl]
  simp [Entry.isGaveUp]

theorem starvedTimes_gaveUp (now : UInt64) (log : List Entry) : starvedTimes (.gaveUp now :: log) = starvedTimes log := by
  unfold starvedTimes silence
  rw [Log.since_other rfl]
  rfl

theorem gaveUp_gaveUp (now : UInt64) (log : List Entry) : GaveUp (.gaveUp now :: log) := by
  refine ⟨.gaveUp now, ?_, rfl⟩
  unfold silence
  rw [Log.since_other rfl]
  exact List.mem_cons_self

/-- It starves, and nothing comes of it. -/
theorem Starving.starved {now since : UInt64} {log : List Entry} (hsince : since ≠ 0) (hmem : since ∈ now :: starvedTimes log)
    (hspans : (GaveUp log ∧ ∃ a ∈ starvedTimes log, ∃ b ∈ starvedTimes log, a.toNat + 8000 < b.toNat) ∨
      (¬GaveUp log ∧ ∀ b ∈ now :: starvedTimes log, since.toNat ≤ b.toNat ∧ b.toNat ≤ since.toNat + 8000))
    (hlog : s'.log = .starved now :: log) (hnext : s'.spectatorStarvedSince = since) : Starving s' := by
  constructor
  · rw [hnext]
    exact fun h => absurd h hsince
  · rw [hnext, hlog, starvedTimes_starved]
    exact fun _ => hmem
  · rw [hnext, hlog, starvedTimes_starved, gaveUp_starved]
    refine hspans.imp_left fun ⟨hgave, a, ha, b, hb, hlong⟩ => ?_
    exact ⟨hgave, a, List.mem_cons_of_mem _ ha, b, List.mem_cons_of_mem _ hb, hlong⟩

theorem Starving.spectate (h : Starving s) (t : Frame) (result : GGPOErrorCode) (hwatches : s.localPlayerHandle = none)
    (hnow : t.tickCount64 ≠ 0) (hrises : ∀ b ∈ starvedTimes s.log, b ≤ t.tickCount64) : Starving (s.spectate t result) := by
  rcases s.spectate_cases t result hwatches with ⟨-, hfed⟩ | ⟨-, hstarved⟩
  · exact (starving_of_feeds (s := s) (e := .fed) rfl rfl rfl).mutely (.of_plainly hfed)
  · rw [hstarved]
    generalize t.tickCount64 = now at *
    by_cases hzero : s.spectatorStarvedSince = 0
    · rw [if_pos hzero]
      have hnone := h.fed hzero
      refine .starved hnow List.mem_cons_self (.inr ⟨?_, ?_⟩) rfl rfl
      · rcases h.spans with ⟨-, a, ha, -⟩ | ⟨hgave, -⟩
        · rw [hnone] at ha
          cases ha
        · exact hgave
      · rw [hnone]
        simp
    · rw [if_neg hzero]
      have hmem := h.since hzero
      have hle : s.spectatorStarvedSince.toNat ≤ now.toNat := hrises _ hmem
      have hspan : (now - s.spectatorStarvedSince).toNat = now.toNat - s.spectatorStarvedSince.toNat :=
        UInt64.toNat_sub_of_le _ _ hle
      by_cases hlong : now - s.spectatorStarvedSince > 8000
      · rw [if_pos hlong]
        have hmore : s.spectatorStarvedSince.toNat + 8000 < now.toNat := by
          have hlt : (8000 : UInt64).toNat < (now - s.spectatorStarvedSince).toNat := hlong
          have height : (8000 : UInt64).toNat = 8000 := rfl
          omega
        have htimes : starvedTimes (.gaveUp now :: .starved now :: s.log) = now :: starvedTimes s.log := by
          rw [starvedTimes_gaveUp, starvedTimes_starved]
        refine ⟨fun hfed => absurd hfed hnow, fun _ => ?_, .inl ⟨gaveUp_gaveUp _ _, ?_⟩⟩
        · exact htimes ▸ List.mem_cons_self
        · exact ⟨_, htimes ▸ List.mem_cons_of_mem _ hmem, now, htimes ▸ List.mem_cons_self, hmore⟩
      · rw [if_neg hlong]
        refine .starved hzero (List.mem_cons_of_mem _ hmem) (h.spans.imp_right fun ⟨hgave, hall⟩ => ⟨hgave, ?_⟩) rfl rfl
        have hshort : now.toNat ≤ s.spectatorStarvedSince.toNat + 8000 := by
          have hnlt : ¬(8000 : UInt64).toNat < (now - s.spectatorStarvedSince).toNat := hlong
          have height : (8000 : UInt64).toNat = 8000 := rfl
          omega
        exact List.forall_mem_cons.2 ⟨⟨hle, hshort⟩, hall⟩

theorem Starving.battleUpdate (h : Starving s) (t : Frame) (hnow : t.tickCount64 ≠ 0)
    (hrises : ∀ b ∈ starvedTimes s.log, b ≤ t.tickCount64) : Starving (s.battleUpdate t) := by
  obtain ⟨s₁, s₂, hbefore, hears, hafter⟩ := s.battleUpdate_hears t
  have hfirst := h.mutely hbefore
  refine Starving.mutely ?_ hafter
  rcases hears with rfl | ⟨hwatches, result, rfl⟩
  · exact hfirst
  · refine hfirst.spectate t result hwatches hnow ?_
    obtain ⟨-, new, hnew, hmute⟩ := hbefore
    rw [hnew, starvedTimes_append hmute]
    exact hrises

end

/-! ## Every run -/

/-- When an update is made. -/
def BattleAct.tick : BattleAct → Option UInt64
  | .battleUpdate t => some t.tickCount64
  | _ => none

/-- `GetTickCount64` is not 0, and does not go back. -/
def ClockRises (past : List (Taken BattleLoop BattleAct Unit)) (_ : BattleLoop) (a : BattleAct) : Prop :=
  (a.tick.all fun now => now ≠ 0 && past.all fun step => step.act.tick.all (· ≤ now)) = true

instance (past : List (Taken BattleLoop BattleAct Unit)) (s : BattleLoop) (a : BattleAct) : Decidable (ClockRises past s a) :=
  inferInstanceAs (Decidable (_ = true))

theorem ClockRises.update {past : List (Taken BattleLoop BattleAct Unit)} {s : BattleLoop} {t : Frame}
    (h : ClockRises past s (.battleUpdate t)) :
    t.tickCount64 ≠ 0 ∧ ∀ step ∈ past, ∀ earlier, step.act.tick = some earlier → earlier ≤ t.tickCount64 := by
  have hall : t.tickCount64 ≠ 0 ∧ ∀ step ∈ past, step.act.tick.all (· ≤ t.tickCount64) = true := by
    simpa [ClockRises, BattleAct.tick] using h
  refine ⟨hall.1, fun step hstep earlier hearlier => ?_⟩
  have hle := hall.2 step hstep
  rw [hearlier] at hle
  simpa using hle

/-- A moment of starving is that of the update. -/
def StarvesAt (a : BattleAct) (e : Entry) : Prop :=
  ∀ now, e.starvedAt = some now → a.tick = some now

theorem starvesAt_of_mute {e : Entry} (h : e.Mute) (a : BattleAct) : StarvesAt a e := by
  intro now hnow
  rw [h.starvedAt] at hnow
  cases hnow

theorem spectate_starvesAt (s : BattleLoop) (t : Frame) (result : GGPOErrorCode) (hwatches : s.localPlayerHandle = none) :
    Log.Grows (StarvesAt (.battleUpdate t)) s.log (s.spectate t result).log := by
  have hnow (log : List Entry) : Log.Grows (StarvesAt (.battleUpdate t)) log (.starved t.tickCount64 :: log) := by
    exact .one fun now hnow => hnow
  have hmute (log : List Entry) {e : Entry} (he : e.starvedAt = none) :
      Log.Grows (StarvesAt (.battleUpdate t)) log (e :: log) := by
    refine .one fun now hnow => ?_
    rw [he] at hnow
    cases hnow
  rcases s.spectate_cases t result hwatches with ⟨-, hfed⟩ | ⟨-, hstarved⟩
  · have hcaught := (Mutely.of_plainly hfed).log.mono fun e he => starvesAt_of_mute he (.battleUpdate t)
    exact (hmute s.log (e := .fed) rfl).trans hcaught
  · rw [hstarved]
    split
    · exact hnow s.log
    · split
      · exact (hnow s.log).trans (hmute _ (e := .gaveUp t.tickCount64) rfl)
      · exact hnow s.log

theorem next_starvesAt (s : BattleLoop) (a : BattleAct) : Log.Grows (StarvesAt a) s.log (battle.next s a).1.log := by
  have hquiet {s' s'' : BattleLoop} (h : Mutely s' s'') (a : BattleAct) : Log.Grows (StarvesAt a) s'.log s''.log :=
    h.log.mono fun e he => starvesAt_of_mute he a
  cases a with
  | battleUpdate t =>
    obtain ⟨s₁, s₂, hbefore, hears, hafter⟩ := s.battleUpdate_hears t
    refine ((hquiet hbefore _).trans ?_).trans (hquiet hafter _)
    rcases hears with rfl | ⟨hwatches, result, rfl⟩
    · exact .refl _
    · exact spectate_starvesAt s₁ t result hwatches
  | idle served =>
    show Log.Grows _ s.log (if s.ggpo = true then s.serve served else s).log
    split
    · exact hquiet (.of_plainly (s.plainly_serve served)) _
    · exact .refl _
  | startGGPO => exact hquiet (.of_outside (s.outside_startGGPO ..)) _
  | startSpectating => exact .one (a := Entry.spectating) (fun _ h => nomatch h)
  | startSyncTest session added => exact hquiet (.of_outside (s.outside_startSyncTest session added)) _
  | closeBattle => exact .one (a := Entry.closed _) (fun _ h => nomatch h)
  | _ => exact .refl _

/-- Every moment of starving was that of an update. -/
def Clocked (past : List (Taken BattleLoop BattleAct Unit)) (s : BattleLoop) : Prop :=
  ∀ e ∈ s.log, ∀ now, e.starvedAt = some now → ∃ step ∈ past, step.act.tick = some now

theorem clocked_next {past : List (Taken BattleLoop BattleAct Unit)} {s : BattleLoop} (h : Clocked past s) (a : BattleAct) :
    Clocked (battle.taken s a :: past) (battle.next s a).1 := by
  obtain ⟨new, hlog, hnew⟩ := next_starvesAt s a
  intro e he now hnow
  rw [hlog] at he
  rcases List.mem_append.1 he with he | he
  · exact ⟨battle.taken s a, List.mem_cons_self, hnew e he now hnow⟩
  · obtain ⟨step, hstep, ht⟩ := h e he now hnow
    exact ⟨step, List.mem_cons_of_mem _ hstep, ht⟩

theorem starving_next {past : List (Taken BattleLoop BattleAct Unit)} {s : BattleLoop} (h : Starving s)
    (hclocked : Clocked past s) {a : BattleAct} (hrises : ClockRises past s a) : Starving (battle.next s a).1 := by
  cases a with
  | battleUpdate t =>
    obtain ⟨hnow, hearlier⟩ := hrises.update
    refine h.battleUpdate t hnow fun b hb => ?_
    obtain ⟨e, he, hat⟩ := List.mem_filterMap.1 hb
    obtain ⟨step, hstep, hstepAt⟩ := hclocked e (Log.mem_of_since he) b hat
    exact hearlier step hstep b hstepAt
  | idle served =>
    show Starving (if s.ggpo = true then s.serve served else s)
    split
    · exact h.mutely (.of_plainly (s.plainly_serve served))
    · exact h
  | startGGPO => exact h.mutely (.of_outside (s.outside_startGGPO ..))
  | startSpectating => exact starving_of_feeds (s := s) (e := .spectating) rfl rfl rfl
  | startSyncTest session added => exact h.mutely (.of_outside (s.outside_startSyncTest session added))
  | closeBattle => exact h.mutely ⟨rfl, .one (a := Entry.closed _) ⟨rfl, rfl, rfl⟩⟩
  | _ => exact h.mutely ⟨rfl, .refl _⟩

/-- In every run on a clock that rises, a spectator has given up since it was last fed exactly when since
then it starved at two moments more than eight seconds apart. -/
theorem gives_up_iff (bGgpoDuringIdle bRoundCheckpoint bSoakTest syncTestSoak : Bool) (as : List BattleAct)
    (hclock : battle.Meets ClockRises (.new bGgpoDuringIdle bRoundCheckpoint bSoakTest syncTestSoak) [] as) :
    let s := battle.run (.new bGgpoDuringIdle bRoundCheckpoint bSoakTest syncTestSoak) as
    GaveUp s.log ↔ ∃ a ∈ starvedTimes s.log, ∃ b ∈ starvedTimes s.log, a.toNat + 8000 < b.toNat := by
  intro s
  have hstart : Starving (.new bGgpoDuringIdle bRoundCheckpoint bSoakTest syncTestSoak) := by
    refine ⟨fun _ => rfl, fun h => absurd rfl h, .inr ⟨?_, List.forall_mem_nil _⟩⟩
    rintro ⟨e, he, -⟩
    cases he
  have hinv : Clocked (battle.hist _ [] as) s ∧ Starving s :=
    Machine.inv_of_steps (fun past s => Clocked past s ∧ Starving s)
      (fun _ _ a h hrises => ⟨clocked_next h.1 a, starving_next h.2 h.1 hrises⟩)
      ⟨fun _ he => absurd he List.not_mem_nil, hstart⟩ hclock
  rcases hinv.2.spans with ⟨hgave, hlong⟩ | ⟨hgave, hall⟩
  · exact iff_of_true hgave hlong
  · refine iff_of_false hgave ?_
    rintro ⟨a, ha, b, hb, hlong⟩
    have hfirst := (hall a ha).1
    have hlast := (hall b hb).2
    omega

namespace Sample

def silent : Synchronized := ⟨⟨[], .failed⟩, Pad.noInputs⟩

/-- A spectator whose host falls silent. -/
def watching : List BattleAct :=
  [.startSpectating .ok, .idle [.onEvent .running false], .setBattleFlow .fight,
    .battleUpdate (frameAt 1000 ⟨⟨[], .ok⟩, Pad.noInputs⟩), .battleUpdate (frameAt 1016 silent),
    .battleUpdate (frameAt 9016 silent), .battleUpdate (frameAt 9017 silent)]

end Sample

/-- Eight seconds of silence, and a millisecond. -/
theorem gives_up_silent :
    let s := battle.run (.new true false false false) Sample.watching
    s.leaving = true ∧ starvedTimes s.log = [9017, 9016, 1016] ∧
      (GaveUp s.log ↔ ∃ a ∈ starvedTimes s.log, ∃ b ∈ starvedTimes s.log, a.toNat + 8000 < b.toNat) :=
  ⟨by decide +kernel, by decide +kernel, gives_up_iff true false false false Sample.watching (by decide +kernel)⟩

end Sf4e.Battle
