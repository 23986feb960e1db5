import Sf4e.Session.Runs
/-!
# The shared input delay

Both seats of a called match play at one delay, the larger of the two that their
ready requests stand for. The marks, the stored requests and the delays are
written at different times; whenever both marks are set the three agree.

Reported pings are added as they come; where the sum fits the delay is sane, and
only there: `saneDelay_iff`.
-/
open Sf4e.Lib

namespace Sf4e.Session

/-- The delay that goes with the round trip these two requests report. -/
def automaticDelay (requests : Sides LobbyReady) : Int :=
  (inputDelayForRoundTrip (SessionServer.measuredRoundTripMs requests)).toInt

/-- What a seat's choice stands for. -/
def delayOf (automatic choice : Int) : Int := if choice ≤ 0 then automatic else min choice 8

/-- Both seats are at `delay`, the larger of what their requests stand for. -/
structure PlaysAt (s : SessionServer) (delay : Int) : Prop where
  both : ∀ side, (s.matchData.inputDelay.get side).toInt = delay
  least : 1 ≤ delay
  most : delay ≤ 8
  largest : delay = max (delayOf (automaticDelay s.readyRequest) s.readyRequest.s0.inputDelay.toInt)
    (delayOf (automaticDelay s.readyRequest) s.readyRequest.s1.inputDelay.toInt)

/-! ## `SharedInputDelay` -/

theorem inputDelayForRoundTrip_range (ms : Int32) :
    1 ≤ (inputDelayForRoundTrip ms).toInt ∧ (inputDelayForRoundTrip ms).toInt ≤ 5 := by
  unfold inputDelayForRoundTrip INPUT_DELAY_DEFAULT
  repeat' split
  all_goals decide

/-- A longer round trip calls for no less delay. -/
theorem inputDelayForRoundTrip_mono {a b : Int32} (ha : 0 ≤ a.toInt) (hab : a.toInt ≤ b.toInt) :
    (inputDelayForRoundTrip a).toInt ≤ (inputDelayForRoundTrip b).toInt := by
  have hsteps : ∀ ms : Int32, 0 ≤ ms.toInt → (inputDelayForRoundTrip ms).toInt =
      if ms.toInt ≤ 50 then 1 else if ms.toInt ≤ 100 then 2 else if ms.toInt ≤ 150 then 3
      else if ms.toInt ≤ 200 then 4 else 5 := by
    intro ms hms
    have hneg : ¬ms < 0 := fun h => absurd (Int32.lt_iff_toInt_lt.1 h) (by show ¬_ < (0 : Int); omega)
    have h50 : Int32.toInt 50 = 50 := by decide
    have h100 : Int32.toInt 100 = 100 := by decide
    have h150 : Int32.toInt 150 = 150 := by decide
    have h200 : Int32.toInt 200 = 200 := by decide
    unfold inputDelayForRoundTrip
    rw [if_neg hneg]
    simp only [Int32.le_iff_toInt_le, apply_ite Int32.toInt, h50, h100, h150, h200]
    rfl
  rw [hsteps a ha, hsteps b (by omega)]
  repeat' split
  all_goals omega

theorem automaticDelay_range (requests : Sides LobbyReady) :
    1 ≤ automaticDelay requests ∧ automaticDelay requests ≤ 5 :=
  inputDelayForRoundTrip_range _

theorem chosenDelay_toInt {automatic : Int32} (hauto : automatic.toInt ≤ 8) (r : LobbyReady) :
    (SessionServer.chosenDelay automatic r).toInt = delayOf automatic.toInt r.inputDelay.toInt := by
  have hzero : INPUT_DELAY_AUTO.toInt = 0 := by decide
  have hmax : INPUT_DELAY_MAX.toInt = 8 := by decide
  unfold SessionServer.chosenDelay delayOf
  simp only [Int32.le_iff_toInt_le, gt_iff_lt, Int32.lt_iff_toInt_lt, hzero, hmax]
  by_cases hchoice : r.inputDelay.toInt ≤ 0
  · simp only [hchoice, if_true]
    rw [if_neg (by omega)]
  · simp only [hchoice, if_false]
    split
    · rw [hmax]
      omega
    · omega

theorem delayOf_range {automatic : Int} (hleast : 1 ≤ automatic) (hmost : automatic ≤ 8) (choice : Int) :
    1 ≤ delayOf automatic choice ∧ delayOf automatic choice ≤ 8 := by
  unfold delayOf
  split <;> omega

theorem sharedInputDelay_toInt (requests : Sides LobbyReady) :
    (SessionServer.sharedInputDelay requests).toInt =
      max (delayOf (automaticDelay requests) requests.s0.inputDelay.toInt)
        (delayOf (automaticDelay requests) requests.s1.inputDelay.toInt) := by
  obtain ⟨hleast, hmost⟩ := automaticDelay_range requests
  have hzero : (0 : Int32).toInt = 0 := by decide
  have hauto : (inputDelayForRoundTrip (SessionServer.measuredRoundTripMs requests)).toInt ≤ 8 := by
    have := (inputDelayForRoundTrip_range (SessionServer.measuredRoundTripMs requests)).2
    omega
  have h0 := chosenDelay_toInt hauto requests.s0
  have h1 := chosenDelay_toInt hauto requests.s1
  have hr0 := delayOf_range hleast (by omega) requests.s0.inputDelay.toInt
  have hr1 := delayOf_range hleast (by omega) requests.s1.inputDelay.toInt
  change _ = delayOf (automaticDelay requests) _ at h0 h1
  unfold SessionServer.sharedInputDelay
  dsimp only
  generalize SessionServer.chosenDelay (inputDelayForRoundTrip (SessionServer.measuredRoundTripMs requests)) requests.s0 = a at *
  generalize SessionServer.chosenDelay (inputDelayForRoundTrip (SessionServer.measuredRoundTripMs requests)) requests.s1 = b at *
  -- the loop starts from 0, below both
  have ha : a > 0 := Int32.lt_iff_toInt_lt.2 (by omega)
  rw [if_pos ha]
  by_cases hab : b > a
  · have := Int32.lt_iff_toInt_lt.1 hab
    rw [if_pos hab]
    omega
  · have : ¬ a.toInt < b.toInt := fun h => hab (Int32.lt_iff_toInt_lt.2 h)
    rw [if_neg hab]
    omega

/-! ## Reported round trips -/

/-- `MeasuredRoundTripMs` over integers of any size. -/
def exactRoundTripMs (requests : Sides LobbyReady) : Int :=
  let a := requests.s0
  let b := requests.s1
  if 0 ≤ a.directRoundTripMs.toInt ∧ 0 ≤ b.directRoundTripMs.toInt then
    max a.directRoundTripMs.toInt b.directRoundTripMs.toInt
  else if 0 ≤ a.serverPingMs.toInt ∧ 0 ≤ b.serverPingMs.toInt then a.serverPingMs.toInt + b.serverPingMs.toInt
  else -1

/-- The 32-bit computation comes to what it should. -/
def NoOverflow (requests : Sides LobbyReady) : Prop :=
  (SessionServer.measuredRoundTripMs requests).toInt = exactRoundTripMs requests

/-- The pings are not added, or their sum fits. -/
def PingsFit (requests : Sides LobbyReady) : Prop :=
  (0 ≤ requests.s0.directRoundTripMs.toInt ∧ 0 ≤ requests.s1.directRoundTripMs.toInt) ∨
    requests.s0.serverPingMs.toInt < 0 ∨ requests.s1.serverPingMs.toInt < 0 ∨
    requests.s0.serverPingMs.toInt + requests.s1.serverPingMs.toInt < 2 ^ 31

theorem noOverflow_iff (requests : Sides LobbyReady) : NoOverflow requests ↔ PingsFit requests := by
  obtain ⟨a, b⟩ := requests
  have hzero : Int32.toInt 0 = 0 := by decide
  have hneg : Int32.toInt (-1) = -1 := by decide
  have hping := a.serverPingMs.toInt_lt
  have hping' := b.serverPingMs.toInt_lt
  unfold NoOverflow PingsFit exactRoundTripMs SessionServer.measuredRoundTripMs
  simp only [ge_iff_le, gt_iff_lt, Bool.and_eq_true, decide_eq_true_eq, Int32.le_iff_toInt_le, Int32.lt_iff_toInt_lt, hzero,
    apply_ite Int32.toInt, hneg, Int32.toInt_add]
  by_cases hdirect : 0 ≤ a.directRoundTripMs.toInt ∧ 0 ≤ b.directRoundTripMs.toInt
  · rw [if_pos hdirect, if_pos hdirect]
    refine iff_of_true ?_ (.inl hdirect)
    split <;> omega
  · rw [if_neg hdirect, if_neg hdirect]
    by_cases hpings : 0 ≤ a.serverPingMs.toInt ∧ 0 ≤ b.serverPingMs.toInt
    · rw [if_pos hpings, if_pos hpings, Int.bmod_def]
      constructor
      · intro heq
        right; right; right
        split at heq <;> omega
      · intro hfit
        split <;> omega
    · rw [if_neg hpings, if_neg hpings]
      exact iff_of_true rfl (by omega)

/-- A value goes up, from `least` at the least, or stays. -/
def Raises (least : Int) (x y : Int32) : Prop := y = x ∨ (least ≤ x.toInt ∧ x.toInt ≤ y.toInt)

/-- Reported round trips that are not negative go up, and chosen delays that are positive. -/
structure RaisesRequest (x y : LobbyReady) : Prop where
  direct : Raises 0 x.directRoundTripMs y.directRoundTripMs
  ping : Raises 0 x.serverPingMs y.serverPingMs
  chosen : Raises 1 x.inputDelay y.inputDelay

/-- The delay of these requests is what it should be, and no lower for `raised`. -/
structure SaneDelay (requests raised : Sides LobbyReady) : Prop where
  exact : NoOverflow requests ∧ NoOverflow raised
  range : 1 ≤ (SessionServer.sharedInputDelay requests).toInt ∧ (SessionServer.sharedInputDelay requests).toInt ≤ 8
  seats : SessionServer.sharedInputDelay requests.swap = SessionServer.sharedInputDelay requests
  raises : (∀ side, RaisesRequest (requests.get side) (raised.get side)) →
    (SessionServer.sharedInputDelay requests).toInt ≤ (SessionServer.sharedInputDelay raised).toInt

theorem measuredRoundTripMs_swap (requests : Sides LobbyReady) :
    SessionServer.measuredRoundTripMs requests.swap = SessionServer.measuredRoundTripMs requests := by
  obtain ⟨a, b⟩ := requests
  show SessionServer.measuredRoundTripMs ⟨b, a⟩ = _
  unfold SessionServer.measuredRoundTripMs
  simp only [ge_iff_le, gt_iff_lt, Bool.and_eq_true, decide_eq_true_eq]
  by_cases hdirect : 0 ≤ a.directRoundTripMs ∧ 0 ≤ b.directRoundTripMs
  · rw [if_pos hdirect, if_pos hdirect.symm, ← Int32.toInt_inj]
    simp only [apply_ite Int32.toInt, Int32.lt_iff_toInt_lt]
    split <;> split <;> omega
  · rw [if_neg hdirect, if_neg fun h => hdirect h.symm]
    by_cases hpings : 0 ≤ a.serverPingMs ∧ 0 ≤ b.serverPingMs
    · rw [if_pos hpings, if_pos hpings.symm, Int32.add_comm]
    · rw [if_neg hpings, if_neg fun h => hpings h.symm]

theorem sharedInputDelay_swap (requests : Sides LobbyReady) :
    SessionServer.sharedInputDelay requests.swap = SessionServer.sharedInputDelay requests := by
  have hauto : automaticDelay requests.swap = automaticDelay requests := by
    rw [automaticDelay, automaticDelay, measuredRoundTripMs_swap]
  rw [← Int32.toInt_inj, sharedInputDelay_toInt, sharedInputDelay_toInt, hauto]
  exact Int.max_comm _ _

theorem sharedInputDelay_range (requests : Sides LobbyReady) :
    1 ≤ (SessionServer.sharedInputDelay requests).toInt ∧ (SessionServer.sharedInputDelay requests).toInt ≤ 8 := by
  obtain ⟨hleast, hmost⟩ := automaticDelay_range requests
  have hr0 := delayOf_range hleast (by omega) requests.s0.inputDelay.toInt
  have hr1 := delayOf_range hleast (by omega) requests.s1.inputDelay.toInt
  rw [sharedInputDelay_toInt]
  omega

/-- Raised reports keep their signs, so the same ones are used, and none of the three gets smaller. -/
theorem exactRoundTripMs_raises {requests raised : Sides LobbyReady}
    (h : ∀ side, RaisesRequest (requests.get side) (raised.get side)) :
    exactRoundTripMs raised = exactRoundTripMs requests ∨
      (0 ≤ exactRoundTripMs requests ∧ exactRoundTripMs requests ≤ exactRoundTripMs raised) := by
  obtain ⟨a, b⟩ := requests
  obtain ⟨a', b'⟩ := raised
  have ha : RaisesRequest a a' := h 0
  have hb : RaisesRequest b b' := h 1
  have hsign : ∀ {x y : Int32}, Raises 0 x y → (0 ≤ x.toInt ↔ 0 ≤ y.toInt) ∧ x.toInt ≤ y.toInt := by
    rintro x y (rfl | ⟨hx, hxy⟩)
    · exact ⟨Iff.rfl, Int.le_refl _⟩
    · exact ⟨iff_of_true hx (Int.le_trans hx hxy), hxy⟩
  obtain ⟨hda, hda'⟩ := hsign ha.direct
  obtain ⟨hdb, hdb'⟩ := hsign hb.direct
  obtain ⟨hpa, hpa'⟩ := hsign ha.ping
  obtain ⟨hpb, hpb'⟩ := hsign hb.ping
  unfold exactRoundTripMs
  simp only [← hda, ← hdb, ← hpa, ← hpb]
  split
  · right
    omega
  · split
    · right
      omega
    · left
      rfl

theorem delayOf_raises {automatic automatic' : Int} (hauto : automatic ≤ automatic') {x y : Int32} (h : Raises 1 x y) :
    delayOf automatic x.toInt ≤ delayOf automatic' y.toInt := by
  unfold delayOf
  rcases h with rfl | ⟨hx, hxy⟩
  · split <;> omega
  · rw [if_neg (by omega), if_neg (by omega)]
    omega

/-- The shared delay is sane for any requests exactly when the reported pings can be added. -/
theorem saneDelay_iff (requests raised : Sides LobbyReady) :
    SaneDelay requests raised ↔ PingsFit requests ∧ PingsFit raised := by
  constructor
  · exact fun h => ⟨(noOverflow_iff _).1 h.exact.1, (noOverflow_iff _).1 h.exact.2⟩
  · rintro ⟨hfit, hfit'⟩
    have hexact : NoOverflow requests := (noOverflow_iff _).2 hfit
    have hexact' : NoOverflow raised := (noOverflow_iff _).2 hfit'
    refine ⟨⟨hexact, hexact'⟩, sharedInputDelay_range requests, sharedInputDelay_swap requests, fun hraises => ?_⟩
    have hauto : automaticDelay requests ≤ automaticDelay raised := by
      unfold NoOverflow at hexact hexact'
      rcases exactRoundTripMs_raises hraises with heq | ⟨hnonneg, hle⟩
      · have hsame : SessionServer.measuredRoundTripMs raised = SessionServer.measuredRoundTripMs requests :=
          Int32.toInt_inj.1 (by rw [hexact, hexact', heq])
        exact Int.le_of_eq (by rw [automaticDelay, automaticDelay, hsame])
      · exact inputDelayForRoundTrip_mono (by rw [hexact]; exact hnonneg) (by rw [hexact, hexact']; exact hle)
    have h0 := delayOf_raises hauto (hraises 0).chosen
    have h1 := delayOf_raises hauto (hraises 1).chosen
    change delayOf _ requests.s0.inputDelay.toInt ≤ delayOf _ raised.s0.inputDelay.toInt at h0
    change delayOf _ requests.s1.inputDelay.toInt ≤ delayOf _ raised.s1.inputDelay.toInt at h1
    rw [sharedInputDelay_toInt, sharedInputDelay_toInt]
    omega

/-- Two players who leave the delay to the server and report these pings. -/
def pings (a b : Int32) : Sides LobbyReady := ⟨⟨0, true, a, -1⟩, ⟨0, true, b, -1⟩⟩

/-- With the largest ping and one of a millisecond the sum is below zero, and the delay that of an
unknown round trip; with a millisecond each it is no higher. -/
theorem saneDelay_overflow :
    ¬SaneDelay (pings 2147483647 1) (pings 2147483647 1) ∧ ¬NoOverflow (pings 2147483647 1) ∧
      SessionServer.measuredRoundTripMs (pings 2147483647 1) = -2147483648 ∧
      SessionServer.sharedInputDelay (pings 2147483647 0) = 5 ∧
      SessionServer.sharedInputDelay (pings 2147483647 1) = 2 := by
  have hover : ¬NoOverflow (pings 2147483647 1) := fun h => absurd ((noOverflow_iff _).1 h) (by
    rintro (h | h | h | h) <;> revert h <;> decide)
  exact ⟨fun h => hover h.exact.1, hover, by decide, by decide, by decide⟩

/-! ## The invariant -/

/-- Once both seats are marked, the delays are what the stored requests share. -/
def Stamped (t : Table) : Prop :=
  t.matchData.isAllReady = true →
    t.matchData.inputDelay = ⟨SessionServer.sharedInputDelay t.readyRequest, SessionServer.sharedInputDelay t.readyRequest⟩

theorem Stamped.of_unmarked {t : Table} (side : Side) (h : t.matchData.readyMessageNum.get side = -1) : Stamped t := by
  intro hall
  exact absurd h (MatchData.isAllReady_iff.1 hall side)

/-- A change that keeps the marks, the delays and the requests. -/
theorem Stamped.keep {t t' : Table} (h : Stamped t) (hm : t'.matchData.readyMessageNum = t.matchData.readyMessageNum)
    (hd : t'.matchData.inputDelay = t.matchData.inputDelay) (hr : t'.readyRequest = t.readyRequest) : Stamped t' := by
  intro hall
  rw [hd, hr]
  apply h
  simpa only [MatchData.isAllReady, hm] using hall

/-- Whatever was there, the second mark stamps both delays. -/
theorem Stamped.stamp (t : Table) : Stamped t.stamp := by
  intro hall
  unfold Table.stamp at hall ⊢
  split
  · rfl
  · rename_i hnot
    rw [if_neg hnot] at hall
    exact absurd hall hnot

theorem Stamped.dropPick {t : Table} (h : Stamped t) (side : Side) : Stamped (t.dropPick side) := by
  unfold Table.dropPick
  split
  · -- the mark of an abandoned seat goes with its pick
    exact .of_unmarked side (Sides.get_set_self _ _ _)
  · exact h

theorem stamped_next {p : Stepping} (h : p.server.WellSeated ∧ Stamped p.table) (a : Act) :
    (sessionServer.next p a).1.server.WellSeated ∧ Stamped (sessionServer.next p a).1.table := by
  refine ⟨wellSeated_next h.1 a, ?_⟩
  have he := effect_of h.1 a
  generalize (sessionServer.next p a).1.table = t at he
  cases he with
  | idle => exact h.2
  | sit => exact h.2.keep rfl rfl rfl
  | pick => exact h.2.keep rfl rfl rfl
  | seed => exact h.2.keep rfl rfl rfl
  | stage => exact h.2.keep rfl rfl rfl
  | load => exact h.2.keep rfl rfl rfl
  | @ready m cid request side e hcid hmsg hside hready =>
    exact (Stamped.stamp (p.table.mark side m.messageNumber request)).keep rfl rfl rfl
  | @unready m cid request side e hcid hmsg hside hready hopen =>
    exact .of_unmarked side (Sides.get_set_self _ _ _)
  | result => exact .of_unmarked 0 rfl
  | leave => exact h.2.keep rfl rfl rfl
  | create => exact .of_unmarked 0 rfl
  | release => exact .of_unmarked 0 rfl
  | unload => exact h.2.keep rfl rfl rfl
  | finish => exact ((h.2.dropPick 0).dropPick 1).keep rfl rfl rfl

theorem stamped_start (cfg : HostConfig) : (start cfg).server.WellSeated ∧ Stamped (start cfg).table :=
  ⟨wellSeated_start cfg, .of_unmarked 0 rfl⟩

/-- Stamped delays are one delay in range. -/
theorem Stamped.playsAt {p : Stepping} (h : Stamped p.table) (hall : p.server.matchData.isAllReady = true) :
    PlaysAt p.server (SessionServer.sharedInputDelay p.server.readyRequest).toInt := by
  have hdelay : p.server.matchData.inputDelay =
      ⟨SessionServer.sharedInputDelay p.server.readyRequest, SessionServer.sharedInputDelay p.server.readyRequest⟩ := h hall
  obtain ⟨hleast, hmost⟩ := sharedInputDelay_range p.server.readyRequest
  refine ⟨fun side => ?_, hleast, hmost, sharedInputDelay_toInt p.server.readyRequest⟩
  rw [hdelay]
  cases side using Side.cases with
  | zero => rfl
  | one => rfl

/-- In every state of every run in which both seats are marked ready, both play at one
delay, the larger of the two their stored requests stand for. -/
theorem ready_at_one_delay (cfg : HostConfig) (as : List Act)
    (hall : (sessionServer.run (start cfg) as).server.matchData.isAllReady = true) :
    ∃ delay, PlaysAt (sessionServer.run (start cfg) as).server delay := by
  have hrun := Machine.inv_of_all_steps (fun p : Stepping => p.server.WellSeated ∧ Stamped p.table)
    (fun _ a h => stamped_next h a) as (stamped_start cfg)
  exact ⟨_, hrun.2.playsAt hall⟩

/-- Two players who both leave the delay to the server, 30 ms from it each. -/
theorem ready_at_one_delay_both :
    ∃ delay, PlaysAt (sessionServer.run (start (lobbyHost 0)) (acts Sample.bothReady)).server delay :=
  ready_at_one_delay (lobbyHost 0) (acts Sample.bothReady) (by decide +kernel)

end Sf4e.Session
