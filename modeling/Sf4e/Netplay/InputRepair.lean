import Sf4e.Lib.Machine
import Sf4e.Lib.Resend
import Sf4e.Lib.Window
/-!
# Input repair

When a peer's acknowledgments lag, the inputs that are still pending are sent
again: at most four times in any second, further and further apart. The class
reads a 32-bit millisecond clock; beside it stand here the true times, which it
does not know.
-/

namespace Sf4e.Netplay

open Sf4e.Lib

/-! ## The class -/

structure InputRepair where
  enabled : Bool := false
  newest : ℤ := -1
  acknowledged : ℤ := -1
  last_send_ms : UInt32 := 0
  retry_ms : UInt32 := 33
  history : Fin 4 → UInt32 := fun _ => 0
  repairs : UInt32 := 0

namespace InputRepair

def SetEnabled (r : InputRepair) (enabled : Bool) : InputRepair := { r with enabled }

def OnInputSent (r : InputRepair) (now_ms : UInt32) (newest_frame : ℤ) : InputRepair :=
  { r with
    newest := if newest_frame > r.newest then newest_frame else r.newest
    retry_ms := if newest_frame > r.newest then 33 else r.retry_ms
    last_send_ms := now_ms }

def OnAck (r : InputRepair) (frame : ℤ) : InputRepair :=
  if frame > r.acknowledged && frame ≤ r.newest then { r with acknowledged := frame, retry_ms := 33 } else r

/-- What keeps a repair back before the budget is looked at. -/
def waits (r : InputRepair) (now_ms : UInt32) (transport_idle : Bool) : Bool :=
  !r.enabled || !transport_idle || r.newest ≤ r.acknowledged || now_ms - r.last_send_ms < r.retry_ms

/-- The cell of the stamp to be written next. -/
def oldest (r : InputRepair) : Fin 4 := cell 4 r.repairs.toNat

/-- Whether the budget is used up. -/
def spent (r : InputRepair) (now_ms : UInt32) : Bool := r.repairs ≥ 4 && now_ms - r.history r.oldest < 1000

/-- What a repair changes. -/
def stamped (r : InputRepair) (now_ms : UInt32) : InputRepair :=
  { r with
    history := Function.update r.history r.oldest now_ms
    repairs := r.repairs + 1
    last_send_ms := now_ms
    retry_ms := if r.retry_ms < 100 then r.retry_ms * 2 else 200 }

def TryRepair (r : InputRepair) (now_ms : UInt32) (transport_idle : Bool) : Bool × InputRepair :=
  if r.waits now_ms transport_idle then (false, r)
  else if r.spent now_ms then (false, r)
  else (true, r.stamped now_ms)

theorem TryRepair_cases (r : InputRepair) (now_ms : UInt32) (transport_idle : Bool) :
    ((r.waits now_ms transport_idle = true ∨ r.spent now_ms = true) ∧ r.TryRepair now_ms transport_idle = (false, r)) ∨
      ((r.waits now_ms transport_idle = false ∧ r.spent now_ms = false) ∧
        r.TryRepair now_ms transport_idle = (true, r.stamped now_ms)) := by
  unfold TryRepair
  by_cases hwaits : r.waits now_ms transport_idle = true
  · exact .inl ⟨.inl hwaits, if_pos hwaits⟩
  · rw [if_neg hwaits]
    by_cases hspent : r.spent now_ms = true
    · exact .inl ⟨.inr hspent, if_pos hspent⟩
    · exact .inr ⟨⟨Bool.eq_false_iff.2 hwaits, Bool.eq_false_iff.2 hspent⟩, if_neg hspent⟩

theorem stamped_backoff (r : InputRepair) (now_ms : UInt32) : (r.stamped now_ms).retry_ms ≤ 200 := by
  show (if r.retry_ms < 100 then r.retry_ms * 2 else 200) ≤ (200 : UInt32)
  split
  · rename_i hsmall
    rw [UInt32.lt_iff_toNat_lt] at hsmall
    change r.retry_ms.toNat < 100 at hsmall
    rw [UInt32.le_iff_toNat_le, UInt32.toNat_mul]
    show r.retry_ms.toNat * 2 % 2 ^ 32 ≤ 200
    omega
  · exact UInt32.le_refl _

end InputRepair

/-! ## Runs, and what really happened -/

inductive RepairCall where
  | OnInputSent (newest_frame : ℤ)
  | OnAck (frame : ℤ)
  | TryRepair (transport_idle : Bool)

/-- The class with what it cannot see: the true time, the frames that were sent, when it last sent,
and when it repaired, newest first. -/
structure Repairing where
  repair : InputRepair
  now : ℕ
  frames : List ℤ
  lastSend : Option ℕ
  repaired : List ℕ

/-- A call, so many milliseconds after the one before it. -/
def Repairing.next (boot : UInt32) (w : Repairing) (later : ℕ) : RepairCall → Repairing
  | .OnInputSent frame =>
    { w with
      repair := w.repair.OnInputSent (ticks boot (w.now + later)) frame
      now := w.now + later
      frames := frame :: w.frames
      lastSend := some (w.now + later) }
  | .OnAck frame => { w with repair := w.repair.OnAck frame, now := w.now + later }
  | .TryRepair idle =>
    let tried := w.repair.TryRepair (ticks boot (w.now + later)) idle
    { w with
      repair := tried.2
      now := w.now + later
      lastSend := if tried.1 then some (w.now + later) else w.lastSend
      repaired := if tried.1 then (w.now + later) :: w.repaired else w.repaired }

/-- Runs of the class on a clock that reads `boot` at time 0. -/
def inputRepair (boot : UInt32) : Machine Repairing (ℕ × RepairCall) Unit where
  next w a := (w.next boot a.1 a.2, [])

def Repairing.start (enabled : Bool) : Repairing := ⟨({} : InputRepair).SetEnabled enabled, 0, [], none, []⟩

/-! ## What the class knows of it -/

/-- The highest frame sent, or -1. -/
def newestOf (frames : List ℤ) : ℤ := frames.foldr max (-1)

/-- How the fields stand to what happened. -/
structure Repairing.Kept (boot : UInt32) (w : Repairing) : Prop where
  newest : w.repair.newest = newestOf w.frames
  acknowledged : w.repair.acknowledged ≤ w.repair.newest
  started : -1 ≤ w.repair.acknowledged
  sent : w.frames ≠ [] → w.lastSend.isSome
  lastSend : ∀ t ∈ w.lastSend, w.repair.last_send_ms = ticks boot t ∧ t ≤ w.now
  backoff : w.repair.retry_ms ≤ 200
  stamps : Holds w.repair.history (w.repaired.map (ticks boot))
  counted : w.repair.repairs = UInt32.ofNat w.repaired.length
  past : ∀ t ∈ w.repaired, t ≤ w.now
  sorted : w.repaired.Pairwise (· ≥ ·)
  spaced : Spaced 4 1000 w.repaired

theorem newestOf_le {frames : List ℤ} {bound : ℤ} (hbound : -1 ≤ bound) (h : ∀ frame ∈ frames, frame ≤ bound) :
    newestOf frames ≤ bound := by
  induction frames with
  | nil => exact hbound
  | cons f frames ih =>
    rw [List.forall_mem_cons] at h
    exact max_le h.1 (ih h.2)

theorem ite_eq_max (a b : ℤ) : (if a > b then a else b) = max a b := by
  split <;> omega

section Steps

variable {boot : UInt32} {w : Repairing}

theorem kept_start (boot : UInt32) (enabled : Bool) : (Repairing.start enabled).Kept boot where
  newest := rfl
  acknowledged := le_rfl
  started := le_rfl
  sent h := absurd rfl h
  lastSend _ h := by cases h
  backoff := (by decide : (33 : UInt32) ≤ 200)
  stamps := holds_nil _
  counted := rfl
  past _ h := by cases h
  sorted := .nil
  spaced := trivial

/-- Time goes by. -/
theorem Repairing.Kept.wait (h : w.Kept boot) (later : ℕ) : ({ w with now := w.now + later } : Repairing).Kept boot where
  newest := h.newest
  acknowledged := h.acknowledged
  started := h.started
  sent := h.sent
  lastSend t ht := ⟨(h.lastSend t ht).1, (h.lastSend t ht).2.trans (Nat.le_add_right _ _)⟩
  backoff := h.backoff
  stamps := h.stamps
  counted := h.counted
  past t ht := (h.past t ht).trans (Nat.le_add_right _ _)
  sorted := h.sorted
  spaced := h.spaced

theorem kept_OnInputSent (h : w.Kept boot) (later : ℕ) (frame : ℤ) : (w.next boot later (.OnInputSent frame)).Kept boot where
  newest := by
    show (if frame > w.repair.newest then frame else w.repair.newest) = max frame (newestOf w.frames)
    rw [ite_eq_max, h.newest]
  acknowledged := by
    show w.repair.acknowledged ≤ if frame > w.repair.newest then frame else w.repair.newest
    rw [ite_eq_max]
    exact h.acknowledged.trans (le_max_right _ _)
  started := h.started
  sent _ := rfl
  lastSend t ht := by
    cases ht
    exact ⟨rfl, le_rfl⟩
  backoff := by
    show (if frame > w.repair.newest then (33 : UInt32) else w.repair.retry_ms) ≤ 200
    split
    · decide
    · exact h.backoff
  stamps := h.stamps
  counted := h.counted
  past := (h.wait later).past
  sorted := h.sorted
  spaced := h.spaced

theorem kept_OnAck (h : w.Kept boot) (later : ℕ) (frame : ℤ) : (w.next boot later (.OnAck frame)).Kept boot := by
  have hwait := h.wait later
  dsimp only [Repairing.next, InputRepair.OnAck]
  split
  · rename_i hnew
    rw [Bool.and_eq_true, decide_eq_true_eq, decide_eq_true_eq] at hnew
    have hbackoff : (33 : UInt32) ≤ 200 := by decide
    exact ⟨h.newest, hnew.2, h.started.trans hnew.1.le, h.sent, hwait.lastSend, hbackoff, h.stamps, h.counted,
      hwait.past, h.sorted, h.spaced⟩
  · exact hwait

theorem Repairing.Kept.oldest (h : w.Kept boot) : w.repair.oldest = cell 4 (w.repaired.map (ticks boot)).length := by
  apply Fin.ext
  show w.repair.repairs.toNat % 4 = (w.repaired.map (ticks boot)).length % 4
  rw [h.counted, UInt32.toNat_ofNat', List.length_map]
  omega

/-- The budget is used up as long as the fourth-last repair looks less than a second old. -/
theorem spent_iff (h : w.Kept boot) (hfew : w.repaired.length < 2 ^ 32) {t : ℕ} (ht : w.now ≤ t) :
    w.repair.spent (ticks boot t) = true ↔ ∃ u ∈ w.repaired[3]?, (t - u) % 2 ^ 32 < 1000 := by
  have hcount : w.repair.repairs.toNat = w.repaired.length := by
    rw [h.counted, UInt32.toNat_ofNat', Nat.mod_eq_of_lt hfew]
  unfold InputRepair.spent
  rw [Bool.and_eq_true, decide_eq_true_eq, decide_eq_true_eq, ge_iff_le, UInt32.le_iff_toNat_le, hcount]
  by_cases hfour : 4 ≤ w.repaired.length
  · have hlt : 3 < w.repaired.length := hfour
    have hstamp := h.stamps.oldest (by rwa [List.length_map])
    rw [← h.oldest, List.getElem?_map, List.getElem?_eq_getElem hlt] at hstamp
    have hpast := h.past _ (List.getElem_mem hlt)
    rw [List.getElem?_eq_getElem hlt, ← Option.some.inj hstamp, UInt32.lt_iff_toNat_lt, ticks_sub_toNat boot (by omega)]
    simp only [Option.mem_some_iff, exists_eq_left']
    exact and_iff_right hfour
  · rw [List.getElem?_eq_none (by omega)]
    simp only [Option.not_mem_none, false_and, exists_false, iff_false]
    exact fun hspent => hfour hspent.1

theorem kept_TryRepair (h : w.Kept boot) (hfew : w.repaired.length < 2 ^ 32) (later : ℕ) (idle : Bool) :
    (w.next boot later (.TryRepair idle)).Kept boot := by
  have hwait := h.wait later
  rcases w.repair.TryRepair_cases (ticks boot (w.now + later)) idle with ⟨-, htry⟩ | ⟨⟨-, hspent⟩, htry⟩
  · simpa only [Repairing.next, htry, Bool.false_eq_true, if_false] using hwait
  · have hold : ∀ u ∈ w.repaired[3]?, u + 1000 ≤ w.now + later := by
      intro u hu
      have hfar : ¬ (w.now + later - u) % 2 ^ 32 < 1000 := by
        intro hnear
        have h' := (spent_iff h hfew (Nat.le_add_right w.now later)).2 ⟨u, hu, hnear⟩
        rw [hspent] at h'
        exact Bool.false_ne_true h'
      omega
    simp only [Repairing.next, htry, if_true]
    refine ⟨h.newest, h.acknowledged, h.started, fun _ => rfl, ?_, InputRepair.stamped_backoff _ _, ?_, ?_, ?_, ?_,
      hold, h.spaced⟩
    · rintro t ⟨⟩
      exact ⟨rfl, le_rfl⟩
    · show Holds (Function.update w.repair.history w.repair.oldest (ticks boot (w.now + later))) _
      rw [h.oldest]
      exact h.stamps.write _
    · show w.repair.repairs + 1 = UInt32.ofNat (w.repaired.length + 1)
      rw [h.counted, UInt32.ofNat_add]
      rfl
    · exact List.forall_mem_cons.2 ⟨le_rfl, hwait.past⟩
    · exact List.pairwise_cons.2 ⟨hwait.past, h.sorted⟩

theorem repaired_mono (w : Repairing) (later : ℕ) (call : RepairCall) :
    w.repaired.length ≤ (w.next boot later call).repaired.length := by
  cases call with
  | OnInputSent | OnAck => exact le_rfl
  | TryRepair idle =>
    show w.repaired.length ≤ (if (w.repair.TryRepair _ idle).1 then _ :: w.repaired else w.repaired).length
    split
    · exact Nat.le_succ _
    · exact le_rfl

theorem kept_next (h : w.repaired.length < 2 ^ 32 → w.Kept boot) (a : ℕ × RepairCall)
    (hfew : ((inputRepair boot).next w a).1.repaired.length < 2 ^ 32) : ((inputRepair boot).next w a).1.Kept boot := by
  obtain ⟨later, call⟩ := a
  have hpre := (repaired_mono w later call).trans_lt hfew
  cases call with
  | OnInputSent frame => exact kept_OnInputSent (h hpre) later frame
  | OnAck frame => exact kept_OnAck (h hpre) later frame
  | TryRepair idle => exact kept_TryRepair (h hpre) hpre later idle

theorem kept_run (boot : UInt32) (enabled : Bool) (calls : List (ℕ × RepairCall)) :
    ((inputRepair boot).run (.start enabled) calls).repaired.length < 2 ^ 32 →
      ((inputRepair boot).run (.start enabled) calls).Kept boot :=
  Machine.inv_of_all_steps (fun w : Repairing => w.repaired.length < 2 ^ 32 → w.Kept boot) (fun _ a h => kept_next h a) calls
    fun _ => kept_start boot enabled

/-- With everything acknowledged there is nothing to repair. -/
theorem TryRepair_settled (h : w.Kept boot) (hall : ∀ frame ∈ w.frames, frame ≤ w.repair.acknowledged)
    (now_ms : UInt32) (idle : Bool) : w.repair.TryRepair now_ms idle = (false, w.repair) := by
  have hle : w.repair.newest ≤ w.repair.acknowledged := h.newest.trans_le (newestOf_le h.started hall)
  have hwaits : w.repair.waits now_ms idle = true := by
    unfold InputRepair.waits
    rw [decide_eq_true hle, Bool.or_true, Bool.true_or]
  exact if_pos hwaits

/-- An acknowledgment that is stale or impossible. -/
theorem OnAck_idle (h : w.Kept boot) {frame : ℤ} (hframe : frame ≤ w.repair.acknowledged ∨ newestOf w.frames < frame) :
    w.repair.OnAck frame = w.repair := by
  rw [← h.newest] at hframe
  refine if_neg fun hnew => ?_
  rw [Bool.and_eq_true, decide_eq_true_eq, decide_eq_true_eq] at hnew
  omega

end Steps

/-! ## The budget -/

/-- At `t` the last send is too near, or the fourth-last repair is, as far as the clock tells. -/
def HeldBack (w : Repairing) (t : ℕ) : Prop :=
  (∃ u ∈ w.lastSend, (t - u) % 2 ^ 32 < w.repair.retry_ms.toNat ∧ w.repair.retry_ms ≤ 200) ∨
    ∃ u ∈ w.repaired[3]?, (t - u) % 2 ^ 32 < 1000 ∧ (t < u + 2 ^ 32 → ∀ v ∈ w.repaired.take 4, t < v + 1000)

/-- As `HeldBack`, with four repairs that near. -/
def HeldBackByFour (w : Repairing) (t : ℕ) : Prop :=
  (∃ u ∈ w.lastSend, (t - u) % 2 ^ 32 < w.repair.retry_ms.toNat ∧ w.repair.retry_ms ≤ 200) ∨
    4 ≤ (w.repaired.filter fun u => decide ((t - u) % 2 ^ 32 < 1000)).length

/-- The class is enabled and the transport idle, something sent is not acknowledged, and nothing
is repaired. -/
def Refuses (boot : UInt32) (w : Repairing) (t : ℕ) : Prop :=
  w.repair.enabled = true ∧ w.repair.acknowledged < newestOf w.frames ∧
    (w.repair.TryRepair (ticks boot t) true).1 = false

/-- What input repair promises. -/
structure Repairs (boot : UInt32) (w : Repairing) : Prop where
  window : ∀ start, (inWindow start 1000 w.repaired).length ≤ 4
  acknowledged : w.repair.acknowledged ≤ newestOf w.frames
  stale : ∀ frame, frame ≤ w.repair.acknowledged ∨ newestOf w.frames < frame → w.repair.OnAck frame = w.repair
  settled : (∀ frame ∈ w.frames, frame ≤ w.repair.acknowledged) →
    ∀ now_ms idle, w.repair.TryRepair now_ms idle = (false, w.repair)
  refused : ∀ later, Refuses boot w (w.now + later) → HeldBack w (w.now + later)

theorem heldBack_of_refused {boot : UInt32} {w : Repairing} (h : w.Kept boot) (hfew : w.repaired.length < 2 ^ 32)
    {t : ℕ} (ht : w.now ≤ t) (hrefused : Refuses boot w t) : HeldBack w t := by
  obtain ⟨henabled, hbehind, hfalse⟩ := hrefused
  rcases w.repair.TryRepair_cases (ticks boot t) true with ⟨hwaits | hspent, -⟩ | ⟨-, htry⟩
  · -- enabled, idle and behind: what is left is the backoff
    rw [InputRepair.waits, henabled, decide_eq_false (by rw [h.newest]; omega)] at hwaits
    simp only [Bool.not_true, Bool.false_or, decide_eq_true_eq] at hwaits
    have hframes : w.frames ≠ [] := by
      intro hnil
      rw [hnil] at hbehind
      have := h.started
      change w.repair.acknowledged < -1 at hbehind
      omega
    obtain ⟨u, hu⟩ := Option.isSome_iff_exists.1 (h.sent hframes)
    obtain ⟨hlast, hpast⟩ := h.lastSend u hu
    rw [hlast, UInt32.lt_iff_toNat_lt, ticks_sub_toNat boot (hpast.trans ht)] at hwaits
    exact .inl ⟨u, hu, hwaits, h.backoff⟩
  · obtain ⟨u, hu, hnear⟩ := (spent_iff h hfew ht).1 hspent
    refine .inr ⟨u, hu, hnear, fun hwrap v hv => ?_⟩
    -- the other three came after the fourth-last
    obtain ⟨i, hi, rfl⟩ := List.mem_take_iff_getElem.1 hv
    obtain ⟨h3, rfl⟩ := List.getElem?_eq_some_iff.1 hu
    have hpast := h.past _ (List.getElem_mem h3)
    have hle : w.repaired[3] ≤ w.repaired[i] := by
      rcases Nat.lt_or_ge i 3 with hlt | hge
      · exact List.pairwise_iff_getElem.1 h.sorted i 3 _ _ hlt
      · have hthree : i = 3 := by omega
        subst hthree
        exact le_rfl
    omega
  · rw [htry] at hfalse
    cases hfalse

theorem repairs_kept (boot : UInt32) (enabled : Bool) (calls : List (ℕ × RepairCall))
    (hfew : ((inputRepair boot).run (.start enabled) calls).repaired.length < 2 ^ 32) :
    Repairs boot ((inputRepair boot).run (.start enabled) calls) := by
  have h := kept_run boot enabled calls hfew
  exact
    { window := window_le h.sorted h.spaced
      acknowledged := h.acknowledged.trans h.newest.le
      stale := fun _ => OnAck_idle h
      settled := TryRepair_settled h
      refused := fun later => heldBack_of_refused h hfew (Nat.le_add_right _ later) }

/-- A frame is sent and repaired four times, as fast as the backoff allows. -/
def Sample.fourRepairs : List (ℕ × RepairCall) :=
  [(0, .OnInputSent 0), (33, .TryRepair true), (66, .TryRepair true), (132, .TryRepair true), (200, .TryRepair true)]

theorem repairs_kept_four :
    ((inputRepair 0).run (.start true) Sample.fourRepairs).repaired = [431, 231, 99, 33] ∧
      Repairs 0 ((inputRepair 0).run (.start true) Sample.fourRepairs) :=
  ⟨by decide +kernel, repairs_kept 0 true Sample.fourRepairs (by decide +kernel)⟩

/-- When the clock has gone all the way round, the fourth-last repair looks near and the three
after it do not. -/
theorem refuses_after_wrap :
    ¬ ∀ (boot : UInt32) (enabled : Bool) (calls : List (ℕ × RepairCall)) (later : ℕ),
      ((inputRepair boot).run (.start enabled) calls).repaired.length < 2 ^ 32 →
        Refuses boot ((inputRepair boot).run (.start enabled) calls)
          (((inputRepair boot).run (.start enabled) calls).now + later) →
          HeldBackByFour ((inputRepair boot).run (.start enabled) calls)
            (((inputRepair boot).run (.start enabled) calls).now + later) := by
  intro h
  have hfew : ((inputRepair 0).run (.start true) Sample.fourRepairs).repaired.length < 2 ^ 32 := by decide +kernel
  have hlast : ((inputRepair 0).run (.start true) Sample.fourRepairs).lastSend = some 431 := by decide +kernel
  have hrefused : Refuses 0 ((inputRepair 0).run (.start true) Sample.fourRepairs)
      (((inputRepair 0).run (.start true) Sample.fourRepairs).now + (2 ^ 32 - 391)) :=
    ⟨by decide +kernel, by decide +kernel, by decide +kernel⟩
  rcases h 0 true Sample.fourRepairs (2 ^ 32 - 391) hfew hrefused with ⟨u, hu, hnear, -⟩ | hfour
  · rw [hlast] at hu
    cases hu
    revert hnear
    decide +kernel
  · revert hfour
    decide +kernel

end Sf4e.Netplay
