import Mathlib.Data.List.Nodup
import Mathlib.Logic.Function.Basic
import Sf4e.Lib.Window
import Sf4e.Netplay.NoFalseDesync
/-!
# Snapshots in long matches

The game counts its frames in 16 bits, and how old a snapshot is `Step` finds by taking
one such number from another. `snapshots_settle` says for which snapshots that works:
those that are settled before the counter wraps. A wrap comes after 32767 frames, and
then every 65536.
-/
open Sf4e.Lib

namespace Sf4e.Netplay

variable {σ : Type}

/-! ## One PC in one battle -/

/-- A frame after which a snapshot is taken. -/
def IsMark (n : Nat) : Prop := (60 : Int) ∣ frameCount n

instance (n : Nat) : Decidable (IsMark n) := inferInstanceAs (Decidable ((60 : Int) ∣ frameCount n))

/-- `takenAt` says of which frame the snapshot under a key is, `sent` which frames' snapshots
have been sent, and `settled` up to which frame a `Step` has found them settled. The code
reads none of the three. -/
structure LongMatch (σ : Type) where
  client : SnapshotClient σ
  takenAt : Int → Nat
  sent : List Nat
  settled : Nat

/-- What happens on the PC; the other players may send anything at any time. -/
inductive Moment (σ : Type) where
  | simulate (state : σ)
  | rollback (frame : Nat) (states : List σ)
  | arrive (m : StateSnapshot σ)
  | step (depth : Option Int)

/-- A snapshot of frame `n` goes under its key. -/
def stamp (takenAt : Int → Nat) (n : Nat) : Int → Nat :=
  if IsMark n then Function.update takenAt (frameCount n) n else takenAt

/-- The frames after `n` run, one for each state. -/
def stamps (takenAt : Int → Nat) (n : Nat) : List σ → Int → Nat
  | [] => takenAt
  | _ :: states => stamps (stamp takenAt (n + 1)) (n + 1) states

namespace LongMatch

/-- How many frames the PC has simulated. -/
def frames (m : LongMatch σ) : Nat := m.client.framesSimulated

def simulate (m : LongMatch σ) (state : σ) : LongMatch σ :=
  { m with client := (m.client.advanceFrame state).1, takenAt := stamp m.takenAt (m.frames + 1) }

def rollback (m : LongMatch σ) (frame : Nat) (states : List σ) : LongMatch σ :=
  { m with client := (m.client.rollback frame states).1, takenAt := stamps m.takenAt frame states }

variable [DecidableEq σ]

def arrive (m : LongMatch σ) (s : StateSnapshot σ) : LongMatch σ := { m with client := (m.client.receiveSnapshot s).1 }

def step (m : LongMatch σ) (depth : Option Int) : LongMatch σ :=
  { m with
    client := (m.client.step depth).1
    sent := m.sent ++ (sentFrames (m.client.step depth).2).map m.takenAt
    settled := max m.settled (m.frames - (SnapshotClient.settledDepth depth).toNat) }

end LongMatch

def longMatch [DecidableEq σ] : Machine (LongMatch σ) (Moment σ) (Seen σ) where
  next m
    | .simulate state => (m.simulate state, (m.client.advanceFrame state).2)
    | .rollback frame states => (m.rollback frame states, (m.client.rollback frame states).2)
    | .arrive s => (m.arrive s, (m.client.receiveSnapshot s).2)
    | .step depth => (m.step depth, (m.client.step depth).2)

/-- A player's PC when the battle begins. -/
def LongMatch.start : LongMatch σ := ⟨(SnapshotClient.connected false).beginBattle true, fun _ => 0, [], 0⟩

/-- GGPO runs frames again up to where it was, never one that it has called settled, and far
fewer of them than a `short` counts. -/
def Rewinds (m : LongMatch σ) : Moment σ → Prop
  | .rollback frame states => m.settled ≤ frame ∧ frame + states.length = m.frames ∧ states.length < 65536
  | _ => True

/-! ## What is sent -/

/-- The snapshots that are still to be sent. -/
def SnapshotClient.waiting (c : SnapshotClient σ) : Nat := c.snapshotMap.entries.countP fun e => !e.2.2.sent

/-- After a `Step`: every snapshot that is as far back as settled has been sent, once, and few
others wait. -/
structure Settles (frames : Nat) (depth : Int) (m : LongMatch σ) : Prop where
  once : ∀ n : Nat, 1 ≤ n → IsMark n → n + depth ≤ frames → m.sent.count n = 1
  waiting : 60 * (m.client.waiting : Int) ≤ depth + 120

def SendsSettled [DecidableEq σ] (m : LongMatch σ) : Moment σ → Prop
  | .step depth => Settles m.frames (SnapshotClient.settledDepth depth) (m.step depth)
  | _ => True

/-- Of a snapshot that is as far back as settled and has not been sent, the 16-bit numbers give
the age: the counter has not wrapped since. -/
def TellsAge (m : LongMatch σ) : Moment σ → Prop
  | .step depth =>
    ∀ n : Nat, 1 ≤ n → IsMark n → n + SnapshotClient.settledDepth depth ≤ m.frames → n ∉ m.sent →
      frameCount m.frames - frameCount n = m.frames - n
  | _ => True

/-! ## The counter -/

theorem frameCount_eq (n : Nat) : frameCount n = ((n + 32768) % 65536 : Nat) - 32768 := by
  have hsize : Int16.size = 65536 := rfl
  rw [frameCount, Int16.toInt_ofNat', hsize, Int.bmod_def]
  split <;> omega

/-- Two frames with one number are as far apart as the counter goes round. -/
theorem eq_of_frameCount {a b T : Nat} (h : frameCount a = frameCount b) (ha : a ≤ T) (hb : b ≤ T)
    (hlate : T < a + 65536) (hlate' : T < b + 65536) : a = b := by
  rw [frameCount_eq, frameCount_eq] at h
  omega

theorem frameCount_range (n : Nat) : -32768 ≤ frameCount n ∧ frameCount n ≤ 32767 := by
  rw [frameCount_eq]
  omega

/-- Less than one round apart, the numbers differ by the age or by a whole round less. -/
theorem frameCount_sub {n T : Nat} (hn : n ≤ T) (hlate : T < n + 65536) :
    frameCount T - frameCount n = T - n ∨ frameCount T - frameCount n = T - n - 65536 := by
  rw [frameCount_eq, frameCount_eq]
  omega

/-! ## What a Step does -/

namespace SnapshotClient

/-- By its number the snapshot is as far back as settled, and it has not been sent. -/
def ripe (c : SnapshotClient σ) (depth : Option Int) (e : Int × StateSnapshot σ × StateSnapshotMeta) : Bool :=
  !decide (frameCount c.framesSimulated - e.1 < settledDepth depth) && !e.2.2.sent

variable [DecidableEq σ]

/-- A player's: what is not settled is left alone, and what is settled has been sent, if it is
still there. -/
theorem reconcile_player {c : SnapshotClient σ} (hplayer : c.spectator = false) (depth : Option Int) (k : Int)
    (e : StateSnapshot σ × StateSnapshotMeta) (pending : IntMap (StateSnapshot σ)) :
    ((c.reconcile depth k e pending).2.2.filterMap Seen.sent? = if c.ripe depth (k, e) then [e.1] else []) ∧
      (frameCount c.framesSimulated - k < settledDepth depth → (c.reconcile depth k e pending).1 = some e) ∧
      (¬frameCount c.framesSimulated - k < settledDepth depth →
        ∀ e' ∈ (c.reconcile depth k e pending).1, e'.1 = e.1 ∧ e'.2.sent = true) := by
  have hquiet : ∀ mine theirs, (c.compare mine theirs).filterMap Seen.sent? = [] := by
    intro mine theirs
    unfold compare
    split <;> rfl
  unfold reconcile ripe
  split
  · rename_i hyoung
    rw [decide_eq_true hyoung]
    exact ⟨rfl, fun _ => rfl, fun hold => absurd hyoung hold⟩
  · rename_i hold
    rw [decide_eq_false hold]
    refine ⟨?_, fun hyoung => absurd hyoung hold, fun _ => ?_⟩
    · cases hsent : e.2.sent with
      | true =>
        simp only [hsent, hplayer, Bool.or_true, if_true, Bool.not_true, Bool.and_false, Bool.false_eq_true, if_false]
        split
        · rfl
        · split
          · exact hquiet _ _
          · rfl
      | false =>
        simp only [hsent, hplayer, Bool.or_false, Bool.false_eq_true, if_false, Bool.not_false, Bool.and_self, if_true]
        split
        · rfl
        · split
          · rw [List.filterMap_append, hquiet]
            rfl
          · rfl
    · intro e' he'
      dsimp only at he'
      split at he'
      · cases he'
      · split at he'
        · cases he'
        · cases he'
          exact ⟨rfl, rfl⟩

theorem step_player {c : SnapshotClient σ} (hplayer : c.spectator = false) (henabled : c.snapshotsEnabled = true)
    (depth : Option Int) :
    sentFrames (c.step depth).2 = ((c.snapshotMap.entries.filter (c.ripe depth)).map fun e => e.2.1.frameIdx) ∧
      (∀ k e, c.snapshotMap.find k = some e → frameCount c.framesSimulated - k < settledDepth depth →
        (c.step depth).1.snapshotMap.find k = some e) ∧
      (∀ k e', (c.step depth).1.snapshotMap.find k = some e' → ∃ e, c.snapshotMap.find k = some e ∧ e'.1 = e.1 ∧
        (frameCount c.framesSimulated - k < settledDepth depth ∧ e' = e ∨
          ¬frameCount c.framesSimulated - k < settledDepth depth ∧ e'.2.sent = true)) := by
  have hstep : c.step depth =
      ({ c with
          snapshotMap := (c.snapshotMap.sweep (c.reconcile depth) c.pendingRemoteSnapshots).1
          pendingRemoteSnapshots := (c.snapshotMap.sweep (c.reconcile depth) c.pendingRemoteSnapshots).2.1 },
        (c.snapshotMap.sweep (c.reconcile depth) c.pendingRemoteSnapshots).2.2) := by
    rw [step, henabled]
    rfl
  have hbody := reconcile_player hplayer depth
  rw [hstep]
  refine ⟨?_, fun k e he hyoung => ?_, fun k e' he' => ?_⟩
  · rw [sentFrames, IntMap.sweep_filterMap (fun k e pending => (hbody k e pending).1)]
    induction c.snapshotMap.entries with
    | nil => rfl
    | cons e entries ih =>
      rw [List.flatMap_cons, List.map_append, ih, List.filter_cons]
      cases c.ripe depth e <;> rfl
  · exact IntMap.find_sweep_of_kept he (fun pending => (hbody k e pending).2.1 hyoung) _
  · obtain ⟨e, pending, he, hleft⟩ := IntMap.of_find_sweep he'
    refine ⟨e, he, ?_⟩
    by_cases hyoung : frameCount c.framesSimulated - k < settledDepth depth
    · rw [(hbody k e pending).2.1 hyoung] at hleft
      obtain rfl := Option.some.inj hleft
      exact ⟨rfl, .inl ⟨hyoung, rfl⟩⟩
    · obtain ⟨hsame, hsent⟩ := (hbody k e pending).2.2 hyoung e' hleft
      exact ⟨hsame, .inr ⟨hyoung, hsent⟩⟩

end SnapshotClient

/-! ## What the PC holds -/

/-- When `T` frames have been simulated: every snapshot is of the last frame with its key, and
every frame that has a snapshot is there or has been sent. -/
structure Counted (T : Nat) (m : LongMatch σ) : Prop where
  player : m.client.spectator = false
  enabled : m.client.snapshotsEnabled = true
  held : ∀ k e, m.client.snapshotMap.find k = some e →
    e.1.frameIdx = k ∧ frameCount (m.takenAt k) = k ∧ IsMark (m.takenAt k) ∧ 1 ≤ m.takenAt k ∧ m.takenAt k ≤ T ∧
      T < m.takenAt k + 65536 ∧ (e.2.sent = true ↔ m.takenAt k ∈ m.sent)
  covered : ∀ n, 1 ≤ n → n ≤ T → T < n + 65536 → IsMark n → n ∉ m.sent →
    ∃ e, m.client.snapshotMap.find (frameCount n) = some e ∧ m.takenAt (frameCount n) = n
  once : m.sent.Nodup
  settled : ∀ n ∈ m.sent, n ≤ m.settled
  bound : m.settled ≤ T

theorem counted_start : Counted 0 (.start : LongMatch σ) where
  player := rfl
  enabled := rfl
  held k e he := by cases he
  covered n h1 hn := by omega
  once := .nil
  settled n hn := by cases hn
  bound := Nat.le_refl _

namespace Counted
variable {T : Nat} {m : LongMatch σ}

/-- A frame above all that is settled runs, for the first time or again. -/
theorem advance (h : Counted T m) (state : σ) {n : Nat} (hn : m.client.framesSimulated + 1 = n)
    (hsettled : m.settled < n) (hnext : n ≤ T + 1) (hlate : T < n + 65536) :
    Counted (max T n) { m with client := (m.client.advanceFrame state).1, takenAt := stamp m.takenAt n } ∧
      (m.client.advanceFrame state).1.framesSimulated = n := by
  -- an entry that falls out of the window has the number of the frame that runs
  have hstays : ∀ k e, m.client.snapshotMap.find k = some e → k ≠ frameCount n → max T n < m.takenAt k + 65536 := by
    intro k e he hk
    obtain ⟨-, hcount, -, -, hle, hin, -⟩ := h.held k e he
    by_contra hout
    refine hk (hcount.symm.trans ?_)
    rw [frameCount_eq, frameCount_eq]
    omega
  unfold SnapshotClient.advanceFrame
  rw [hn]
  rcases SnapshotClient.captureSnapshot_cases { m.client with framesSimulated := n } state with ⟨hmark, heq⟩ | ⟨hmark, heq⟩
  · -- no snapshot is due
    have hstamp : stamp m.takenAt n = m.takenAt := if_neg hmark
    rw [heq, hstamp]
    refine ⟨⟨h.player, h.enabled, ?_, ?_, h.once, h.settled, ?_⟩, rfl⟩
    · intro k e he
      dsimp only at he ⊢
      obtain ⟨hidx, hcount, hd, h1, hle, hin, hsent⟩ := h.held k e he
      have hk : k ≠ frameCount n := by
        intro hk
        have hsame : frameCount (m.takenAt k) = frameCount n := hcount.trans hk
        unfold IsMark at hd
        rw [hsame] at hd
        exact hmark hd
      exact ⟨hidx, hcount, hd, h1, by omega, hstays k e he hk, hsent⟩
    · intro n' h1 hle hin hd hsent
      have hne : n' ≠ n := fun hc => hmark (hc ▸ hd)
      exact h.covered n' h1 (by omega) (by omega) hd hsent
    · have := h.bound
      show m.settled ≤ _
      omega
  · -- the new snapshot takes the place of the one with its number
    rw [heq]
    have hstamp : stamp m.takenAt n = Function.update m.takenAt (frameCount n) n := if_pos hmark
    have hfind : ∀ (snapshot : StateSnapshot σ) k, ((m.client.snapshotMap.erase (frameCount n)).insertOrAssign
        (frameCount n) (snapshot, ⟨false, false⟩)).find k =
        if k = frameCount n then some (snapshot, ⟨false, false⟩) else m.client.snapshotMap.find k := by
      intro snapshot k
      rw [IntMap.find_insertOrAssign, IntMap.find_erase]
      split <;> rfl
    rw [hstamp]
    refine ⟨⟨h.player, h.enabled, ?_, ?_, h.once, h.settled, ?_⟩, rfl⟩
    · intro k e he
      dsimp only at he ⊢
      rw [hfind] at he
      split at he
      · rename_i hk
        subst hk
        obtain rfl := Option.some.inj he
        rw [Function.update_self]
        refine ⟨rfl, rfl, hmark, by omega, by omega, by omega, iff_of_false Bool.false_ne_true fun hs => ?_⟩
        have := h.settled n hs
        omega
      · rename_i hk
        rw [Function.update_of_ne hk]
        obtain ⟨hidx, hcount, hd, h1, hle, hin, hsent⟩ := h.held k e he
        exact ⟨hidx, hcount, hd, h1, by omega, hstays k e he hk, hsent⟩
    · intro n' h1 hle hin hd hsent
      dsimp only at hsent ⊢
      by_cases hk : frameCount n' = frameCount n
      · obtain rfl : n' = n := eq_of_frameCount hk hle (by omega) hin (by omega)
        rw [hfind, if_pos rfl, Function.update_self]
        exact ⟨_, rfl, rfl⟩
      · have hne : n' ≠ n := fun hc => hk (hc ▸ rfl)
        rw [hfind, if_neg hk, Function.update_of_ne hk]
        exact h.covered n' h1 (by omega) (by omega) hd hsent
    · have := h.bound
      show m.settled ≤ _
      omega

/-- Frames run again, up to where the PC was. -/
theorem advanceAll (h : Counted T m) (states : List σ) (hsettled : m.settled ≤ m.client.framesSimulated)
    (hend : m.client.framesSimulated + states.length ≤ T) (hlate : T ≤ m.client.framesSimulated + 65536) :
    Counted T { m with
        client := (m.client.advanceFrames states).1, takenAt := stamps m.takenAt m.client.framesSimulated states } ∧
      (m.client.advanceFrames states).1.framesSimulated = m.client.framesSimulated + states.length := by
  induction states generalizing m with
  | nil => exact ⟨h, rfl⟩
  | cons state states ih =>
    rw [List.length_cons] at hend ⊢
    obtain ⟨hnext, hframes⟩ := h.advance state rfl (by omega) (by omega) (by omega)
    rw [Nat.max_eq_left (by omega)] at hnext
    obtain ⟨hrest, hframes'⟩ := ih hnext (by dsimp only; omega) (by dsimp only; omega) (by dsimp only; omega)
    dsimp only at hrest hframes'
    rw [hframes] at hrest hframes'
    rw [SnapshotClient.advanceFrames, stamps]
    exact ⟨hrest, by rw [hframes']; omega⟩

theorem frames (h : Counted T m) (n : Nat) : Counted T { m with client := { m.client with framesSimulated := n } } :=
  ⟨h.player, h.enabled, h.held, h.covered, h.once, h.settled, h.bound⟩

theorem rollback (h : Counted m.frames m) {frame : Nat} {states : List σ} (hsettled : m.settled ≤ frame)
    (hend : frame + states.length = m.frames) (hlate : states.length < 65536) :
    Counted (m.rollback frame states).frames (m.rollback frame states) := by
  obtain ⟨hnext, hframes⟩ := (h.frames frame).advanceAll states hsettled (Nat.le_of_eq hend) (by dsimp only; omega)
  have hback : (m.rollback frame states).frames = m.frames := hframes.trans hend
  rw [hback]
  exact hnext

theorem simulate (h : Counted m.frames m) (state : σ) : Counted (m.simulate state).frames (m.simulate state) := by
  have hbound := h.bound
  obtain ⟨hnext, hframes⟩ := h.advance state rfl (by unfold LongMatch.frames at hbound; omega) (Nat.le_refl _)
    (by unfold LongMatch.frames; omega)
  have hfurther : (m.simulate state).frames = m.frames + 1 := hframes
  rw [Nat.max_eq_right (show m.frames ≤ m.client.framesSimulated + 1 from Nat.le_succ _)] at hnext
  rw [hfurther]
  exact hnext

variable [DecidableEq σ]

/-- What arrives marks a snapshot, or takes one away that has been sent. -/
theorem arrive (h : Counted T m) (s : StateSnapshot σ) : Counted T (m.arrive s) := by
  unfold LongMatch.arrive SnapshotClient.receiveSnapshot
  cases hmine : m.client.snapshotMap.find s.frameIdx with
  | none => exact ⟨h.player, h.enabled, h.held, h.covered, h.once, h.settled, h.bound⟩
  | some e =>
    obtain ⟨mine, marks⟩ := e
    obtain ⟨hidx, hcount, hd, h1, hle, hin, hsent⟩ := h.held _ _ hmine
    dsimp only
    split
    · rename_i hmarked
      refine ⟨h.player, h.enabled, ?_, ?_, h.once, h.settled, h.bound⟩
      · intro k e he
        rw [IntMap.find_erase] at he
        split at he
        · cases he
        · exact h.held k e he
      · intro n hn1 hnle hnin hnd hns
        obtain ⟨e, he, htaken⟩ := h.covered n hn1 hnle hnin hnd hns
        refine ⟨e, ?_, htaken⟩
        rw [IntMap.find_erase, if_neg ?_]
        · exact he
        · intro hk
          rw [hk] at htaken
          exact hns (htaken ▸ hsent.1 hmarked)
    · refine ⟨h.player, h.enabled, ?_, ?_, h.once, h.settled, h.bound⟩
      · intro k e he
        rw [IntMap.find_insertOrAssign] at he
        split at he
        · rename_i hk
          subst hk
          obtain rfl := Option.some.inj he
          exact ⟨hidx, hcount, hd, h1, hle, hin, hsent⟩
        · exact h.held k e he
      · intro n hn1 hnle hnin hnd hns
        obtain ⟨e, he, htaken⟩ := h.covered n hn1 hnle hnin hnd hns
        by_cases hk : frameCount n = s.frameIdx
        · exact ⟨_, by rw [IntMap.find_insertOrAssign, if_pos hk], htaken⟩
        · exact ⟨e, by rw [IntMap.find_insertOrAssign, if_neg hk]; exact he, htaken⟩

omit [DecidableEq σ] in
/-- A frame's snapshot waits until it has been sent, or its number is used again. -/
theorem waits (h : Counted T m) {n : Nat} (h1 : 1 ≤ n) (hle : n ≤ T) (hin : T < n + 65536) (hd : IsMark n)
    (hs : n ∉ m.sent) :
    ∃ e, m.client.snapshotMap.find (frameCount n) = some e ∧ m.takenAt (frameCount n) = n ∧ e.2.sent = false := by
  obtain ⟨e, he, htaken⟩ := h.covered n h1 hle hin hd hs
  refine ⟨e, he, htaken, Bool.eq_false_iff.2 fun hmarked => hs ?_⟩
  rw [← htaken]
  exact (h.held _ e he).2.2.2.2.2.2.1 hmarked

/-- The frames whose snapshots a Step sends. -/
theorem mem_sends (h : Counted T m) (depth : Option Int) (n : Nat) :
    n ∈ (sentFrames (m.client.step depth).2).map m.takenAt ↔
      ∃ k e, m.client.snapshotMap.find k = some e ∧ m.client.ripe depth (k, e) = true ∧ m.takenAt k = n := by
  rw [(SnapshotClient.step_player h.player h.enabled depth).1, List.map_map, List.mem_map]
  constructor
  · rintro ⟨⟨k, e⟩, hmem, htaken⟩
    obtain ⟨hmem, hripe⟩ := List.mem_filter.1 hmem
    have hfind := IntMap.find_of_mem hmem
    have hidx : e.1.frameIdx = k := (h.held k e hfind).1
    refine ⟨k, e, hfind, hripe, ?_⟩
    rw [← hidx]
    exact htaken
  · rintro ⟨k, e, hfind, hripe, htaken⟩
    refine ⟨(k, e), List.mem_filter.2 ⟨IntMap.mem_of_find hfind, hripe⟩, ?_⟩
    show m.takenAt e.1.frameIdx = n
    rw [(h.held k e hfind).1]
    exact htaken

theorem sends_nodup (h : Counted T m) (depth : Option Int) :
    ((sentFrames (m.client.step depth).2).map m.takenAt).Nodup := by
  have hkeys : ((m.client.snapshotMap.entries.filter (m.client.ripe depth)).map (·.1)).Nodup := by
    have hall : (m.client.snapshotMap.entries.map (·.1)).Nodup :=
      (List.pairwise_map.2 m.client.snapshotMap.sorted).imp fun hlt heq => absurd heq (Int.ne_of_lt hlt)
    exact hall.sublist (List.filter_sublist.map _)
  have hsent : sentFrames (m.client.step depth).2 =
      (m.client.snapshotMap.entries.filter (m.client.ripe depth)).map (·.1) := by
    rw [(SnapshotClient.step_player h.player h.enabled depth).1]
    refine List.map_congr_left fun e he => ?_
    exact (h.held e.1 e.2 (IntMap.find_of_mem (List.mem_filter.1 he).1)).1
  rw [hsent]
  -- two keys with one frame are one key
  refine List.Nodup.map_on (fun k hk k' hk' heq => ?_) hkeys
  obtain ⟨e, he, rfl⟩ := List.mem_map.1 hk
  obtain ⟨e', he', rfl⟩ := List.mem_map.1 hk'
  have hcount := (h.held e.1 e.2 (IntMap.find_of_mem (List.mem_filter.1 he).1)).2.1
  have hcount' := (h.held e'.1 e'.2 (IntMap.find_of_mem (List.mem_filter.1 he').1)).2.1
  rw [← hcount, ← hcount', heq]

theorem step (h : Counted m.frames m) (depth : Option Int) : Counted (m.step depth).frames (m.step depth) := by
  obtain ⟨hspectator, henabled, hframes, -⟩ := m.client.step_keeps depth
  obtain ⟨-, hyoung, hleft⟩ := SnapshotClient.step_player h.player h.enabled depth
  have hsends := h.mem_sends depth
  have hsame : (m.step depth).frames = m.frames := hframes
  have hmax : (60 : Int) ≤ SnapshotClient.settledDepth depth := Int.le_max_left ..
  rw [hsame]
  refine ⟨hspectator.trans h.player, henabled.trans h.enabled, ?_, ?_, ?_, ?_, ?_⟩
  · intro k e' he'
    obtain ⟨e, he, hidx, hmarks⟩ := hleft k e' he'
    obtain ⟨hk, hcount, hd, h1, hle, hin, hsent⟩ := h.held k e he
    refine ⟨by rw [hidx]; exact hk, hcount, hd, h1, hle, hin, ?_⟩
    show e'.2.sent = true ↔ m.takenAt k ∈ m.sent ++ _
    rw [List.mem_append, hsends]
    rcases hmarks with ⟨hnew, rfl⟩ | ⟨hold, hmarked⟩
    · refine hsent.trans (or_iff_left_of_imp ?_).symm
      rintro ⟨k', e, he'', hripe, htaken⟩
      -- only this entry has the frame, and it is not settled
      have hcount' := (h.held k' e he'').2.1
      obtain rfl : k' = k := by rw [← hcount', ← hcount, htaken]
      simp [SnapshotClient.ripe, hnew] at hripe
    · refine iff_of_true hmarked ?_
      by_cases hs : m.takenAt k ∈ m.sent
      · exact .inl hs
      · refine .inr ⟨k, e, he, ?_, rfl⟩
        have hnot : e.2.sent = false := Bool.eq_false_iff.2 fun hc => hs (hsent.1 hc)
        simp [SnapshotClient.ripe, hold, hnot]
  · intro n h1 hle hin hd hs
    have hs : n ∉ m.sent ++ (sentFrames (m.client.step depth).2).map m.takenAt := hs
    rw [List.mem_append, not_or] at hs
    obtain ⟨e, he, htaken, hnot⟩ := h.waits h1 hle hin hd hs.1
    refine ⟨e, hyoung _ e he ?_, htaken⟩
    -- it would have been sent now
    by_contra hold
    refine hs.2 ((hsends n).2 ⟨_, e, he, ?_, htaken⟩)
    simp [SnapshotClient.ripe, hold, hnot]
  · refine List.nodup_append.2 ⟨h.once, h.sends_nodup depth, ?_⟩
    rintro n hn n' hn' rfl
    obtain ⟨k, e, he, hripe, rfl⟩ := (hsends n).1 hn'
    have hsent := (h.held k e he).2.2.2.2.2.2.2 hn
    simp [SnapshotClient.ripe, hsent] at hripe
  · intro n hn
    rcases List.mem_append.1 hn with hn | hn
    · exact Nat.le_trans (h.settled n hn) (Nat.le_max_left _ _)
    · obtain ⟨k, e, he, hripe, rfl⟩ := (hsends n).1 hn
      obtain ⟨-, hcount, -, -, hle, hin, -⟩ := h.held k e he
      have hage := frameCount_sub hle hin
      rw [hcount] at hage
      simp only [SnapshotClient.ripe, Bool.and_eq_true, Bool.not_eq_true', decide_eq_false_iff_not] at hripe
      have hdepth : ¬frameCount m.frames - k < SnapshotClient.settledDepth depth := hripe.1
      refine Nat.le_trans ?_ (Nat.le_max_right _ _)
      omega
  · have hbound := h.bound
    exact Nat.max_le.2 ⟨hbound, Nat.sub_le _ _⟩

omit [DecidableEq σ] in
/-- Where every settled snapshot has been sent, the others are at most a settled depth of
frames, a wrap among them. -/
theorem waiting_le (h : Counted T m) {depth : Int}
    (hall : ∀ n : Nat, 1 ≤ n → IsMark n → n + depth ≤ T → n ∈ m.sent) (hdepth : 0 ≤ depth) :
    60 * (m.client.waiting : Int) ≤ depth + 120 := by
  have hkeys : ∀ k ∈ (m.client.snapshotMap.entries.filter fun e => !e.2.2.sent).map (·.1),
      (60 : Int) ∣ k ∧ (k ≤ frameCount T → frameCount T - depth + 1 ≤ k ∧ -32768 ≤ k) ∧
        (¬k ≤ frameCount T → frameCount T + 65536 - depth + 1 ≤ k ∧ k ≤ 32767) := by
    intro k hk
    obtain ⟨e, he, rfl⟩ := List.mem_map.1 hk
    obtain ⟨hmem, hunsent⟩ := List.mem_filter.1 he
    obtain ⟨-, hcount, hd, h1, hle, hin, hsent⟩ := h.held e.1 e.2 (IntMap.find_of_mem hmem)
    have hnot : m.takenAt e.1 ∉ m.sent := fun hc => by simp [hsent.2 hc] at hunsent
    have hyoung : (T : Int) < m.takenAt e.1 + depth := by
      by_contra hold
      exact hnot (hall _ h1 hd (by omega))
    have hage := frameCount_sub hle hin
    have hrange := frameCount_range (m.takenAt e.1)
    have hrangeT := frameCount_range T
    unfold IsMark at hd
    rw [hcount] at hage hrange hd
    exact ⟨hd, by omega, by omega⟩
  have hsorted : ((m.client.snapshotMap.entries.filter fun e => !e.2.2.sent).map (·.1)).Pairwise (· < ·) :=
    List.pairwise_map.2 (m.client.snapshotMap.sorted.filter _)
  have hlength : m.client.waiting = ((m.client.snapshotMap.entries.filter fun e => !e.2.2.sent).map (·.1)).length := by
    rw [List.length_map]
    exact List.countP_eq_length_filter
  rw [hlength]
  generalize (m.client.snapshotMap.entries.filter fun e => !e.2.2.sent).map (·.1) = keys at hkeys hsorted
  have hrange := frameCount_range T
  -- the keys up to the counter, and those from before it wrapped
  have hsplit : keys.length =
      (keys.filter fun k => k ≤ frameCount T).length + (keys.filter fun k => !decide (k ≤ frameCount T)).length :=
    List.length_eq_length_filter_add _
  have hlow : ∀ lo, (∀ k ∈ keys, k ≤ frameCount T → lo ≤ k) →
      keys.filter (fun k => k ≤ frameCount T) = [] ∨
        60 * ((keys.filter fun k => k ≤ frameCount T).length : Int) ≤ frameCount T - lo + 60 := by
    intro lo hlo
    refine or_iff_not_imp_left.2 (multiples_le (hsorted.filter _) (fun k hk => (hkeys k (List.mem_filter.1 hk).1).1) ?_)
    intro k hk
    obtain ⟨hk, hle⟩ := List.mem_filter.1 hk
    have hle := of_decide_eq_true hle
    exact ⟨hlo k hk hle, hle⟩
  have hhigh : keys.filter (fun k => !decide (k ≤ frameCount T)) = [] ∨
      60 * ((keys.filter fun k => !decide (k ≤ frameCount T)).length : Int) ≤
        32767 - (frameCount T + 65536 - depth + 1) + 60 := by
    refine or_iff_not_imp_left.2 (multiples_le (hsorted.filter _) (fun k hk => (hkeys k (List.mem_filter.1 hk).1).1) ?_)
    intro k hk
    obtain ⟨hk, hgt⟩ := List.mem_filter.1 hk
    exact (hkeys k hk).2.2 (by simpa using hgt)
  have hlow₁ := hlow (frameCount T - depth + 1) fun k hk hle => ((hkeys k hk).2.1 hle).1
  have hlow₂ := hlow (-32768) fun k hk hle => ((hkeys k hk).2.1 hle).2
  rw [hsplit, Int.natCast_add]
  rcases hhigh with hhigh | hhigh
  · rw [hhigh, List.length_nil]
    rcases hlow₁ with hlow₁ | hlow₁
    · rw [hlow₁, List.length_nil]
      omega
    · omega
  · rcases hlow₂ with hlow₂ | hlow₂
    · rw [hlow₂, List.length_nil]
      omega
    · omega

/-- A Step sends what is settled if and only if the numbers tell the age. -/
theorem sends_iff (h : Counted m.frames m) (a : Moment σ) : SendsSettled m a ↔ TellsAge m a := by
  cases a with
  | step depth =>
    have hsends := h.mem_sends depth
    have hmax : (60 : Int) ≤ SnapshotClient.settledDepth depth := Int.le_max_left ..
    have hsent : (m.step depth).sent = m.sent ++ (sentFrames (m.client.step depth).2).map m.takenAt := rfl
    constructor
    · intro hs n h1 hd hdue hnot
      have hmem : n ∈ (m.step depth).sent := List.count_pos_iff.1 (by rw [hs.once n h1 hd hdue]; exact Nat.one_pos)
      rw [hsent, List.mem_append, hsends] at hmem
      obtain ⟨k, e, he, hripe, rfl⟩ := hmem.resolve_left hnot
      obtain ⟨-, hcount, -, -, hle, hin, -⟩ := h.held k e he
      simp only [SnapshotClient.ripe, Bool.and_eq_true, Bool.not_eq_true', decide_eq_false_iff_not] at hripe
      have hold : ¬frameCount m.frames - k < SnapshotClient.settledDepth depth := hripe.1
      have hage := frameCount_sub hle hin
      rw [hcount] at hage ⊢
      omega
    · intro hage
      have hall : ∀ n : Nat, 1 ≤ n → IsMark n → n + SnapshotClient.settledDepth depth ≤ m.frames →
          n ∈ (m.step depth).sent := by
        intro n h1 hd hdue
        rw [hsent, List.mem_append, hsends]
        by_cases hs : n ∈ m.sent
        · exact .inl hs
        · have htold := hage n h1 hd hdue hs
          have hrange := frameCount_range n
          have hrange' := frameCount_range m.frames
          obtain ⟨e, he, htaken, hnot⟩ := h.waits h1 (by omega) (by omega) hd hs
          refine .inr ⟨_, e, he, ?_, htaken⟩
          simp only [SnapshotClient.ripe, hnot, Bool.not_false, Bool.and_true, Bool.not_eq_true', decide_eq_false_iff_not]
          show ¬frameCount m.frames - frameCount n < _
          omega
      have hnext := h.step depth
      have hframes : (m.step depth).frames = m.frames := (m.client.step_keeps depth).2.2.1
      rw [hframes] at hnext
      exact ⟨fun n h1 hd hdue => List.count_eq_one_of_mem hnext.once (hall n h1 hd hdue),
        hnext.waiting_le hall (by omega)⟩
  | _ => exact Iff.rfl

theorem next (h : Counted m.frames m) {a : Moment σ} (ha : Rewinds m a) :
    Counted (longMatch.next m a).1.frames (longMatch.next m a).1 := by
  cases a with
  | simulate state => exact h.simulate state
  | rollback frame states => exact h.rollback ha.1 ha.2.1 ha.2.2
  | arrive s =>
    have hframes : (m.arrive s).frames = m.frames := (m.client.receiveSnapshot_keeps s).2.2.1
    have hnext := h.arrive s
    rw [← hframes] at hnext
    exact hnext
  | step depth => exact h.step depth

end Counted

/-- A counter that has not wrapped yet tells every age. -/
theorem tellsAge_of_short {m : LongMatch σ} (h : m.frames < 32768) (a : Moment σ) : TellsAge m a := by
  cases a with
  | step depth =>
    intro n h1 hd hdue hs
    have hmax : (60 : Int) ≤ SnapshotClient.settledDepth depth := Int.le_max_left ..
    rw [frameCount_of_lt h, frameCount_of_lt (by omega)]
  | _ => trivial

/-- In a match under GGPO, every Step has sent what is settled, once, and leaves few snapshots
waiting, if and only if the counter does not wrap between a snapshot and the Step that finds it
settled. -/
theorem snapshots_settle [DecidableEq σ] (moments : List (Moment σ))
    (hggpo : longMatch.Meets (fun _ => Rewinds) .start [] moments) :
    longMatch.Meets (fun _ => SendsSettled) .start [] moments ↔ longMatch.Meets (fun _ => TellsAge) .start [] moments := by
  constructor
  · intro h
    exact Machine.meets_of_inv (fun _ m => Counted m.frames m) (fun _ _ _ hm ha => hm.next ha.1)
      (fun _ _ a hm ha => (hm.sends_iff a).1 ha.2) counted_start (hggpo.and h)
  · intro h
    exact Machine.meets_of_inv (fun _ m => Counted m.frames m) (fun _ _ _ hm ha => hm.next ha.1)
      (fun _ _ a hm ha => (hm.sends_iff a).2 ha.2) counted_start (hggpo.and h)

namespace Sample

/-- Two seconds, and a `Step`. -/
def seconds : List (Moment Unit) := List.replicate 125 (.simulate ()) ++ [.step none]

/-- Nine minutes, until the mark before the wrap is as far back as settled, and a `Step`. -/
def minutes : List (Moment Unit) := List.replicate 32820 (.simulate ()) ++ [.step none]

end Sample

instance (m : LongMatch σ) : (a : Moment σ) → Decidable (Rewinds m a)
  | .rollback frame states =>
    inferInstanceAs (Decidable (m.settled ≤ frame ∧ frame + states.length = m.frames ∧ states.length < 65536))
  | .simulate _ => isTrue trivial
  | .arrive _ => isTrue trivial
  | .step _ => isTrue trivial

theorem snapshots_settle_seconds : longMatch.Meets (fun _ => SendsSettled) .start [] Sample.seconds :=
  have hshort : longMatch.Meets (fun _ m _ => m.frames < 32768) .start [] Sample.seconds := by decide +kernel
  (snapshots_settle Sample.seconds (by decide +kernel)).2 (hshort.mono fun _ _ a h => tellsAge_of_short h a)

theorem frames_simulate (m : LongMatch σ) (state : σ) : (m.simulate state).frames = m.frames + 1 := by
  unfold LongMatch.simulate LongMatch.frames SnapshotClient.advanceFrame
  rcases SnapshotClient.captureSnapshot_cases { m.client with framesSimulated := m.client.framesSimulated + 1 } state with
    ⟨-, heq⟩ | ⟨-, heq⟩
  · rw [heq]
  · rw [heq]

/-- Frames on their own send nothing. -/
theorem run_simulate [DecidableEq σ] (state : σ) (n : Nat) :
    (longMatch.run .start (List.replicate n (.simulate state))).frames = n ∧
      (longMatch.run .start (List.replicate n (.simulate state))).sent = [] := by
  induction n with
  | zero => exact ⟨rfl, rfl⟩
  | succ n ih =>
    rw [List.replicate_succ', Machine.run_append]
    exact ⟨(frames_simulate _ state).trans (congrArg (· + 1) ih.1), ih.2⟩

/-- The snapshot of frame 32760 is not sent. -/
theorem mark_before_wrap_waits : ¬longMatch.Meets (fun _ => SendsSettled) .start [] Sample.minutes := by
  intro h
  obtain ⟨hframes, hsent⟩ := run_simulate () 32820
  have hrewinds : longMatch.Meets (fun _ => Rewinds) .start [] (List.replicate 32820 (.simulate ())) :=
    (Machine.meets_of_forall (D := fun a => a = .simulate ()) fun a ha => List.eq_of_mem_replicate ha).mono
      fun _ m a ha => ha ▸ trivial
  have hcounted : Counted (longMatch.run .start (List.replicate 32820 (.simulate ()))).frames
      (longMatch.run .start (List.replicate 32820 (.simulate ()))) :=
    Machine.inv_of_steps (fun _ m => Counted m.frames m) (fun _ _ _ hm ha => hm.next ha) counted_start hrewinds
  have hlast := (Machine.meets_append.1 h).2.1
  generalize longMatch.run .start (List.replicate 32820 (.simulate ())) = m at hframes hsent hcounted hlast
  have htells := (hcounted.sends_iff (.step none)).1 hlast 32760 (by decide) (by decide +kernel)
    (by rw [hframes]; decide) (by rw [hsent]; decide)
  rw [hframes] at htells
  revert htells
  decide +kernel

end Sf4e.Netplay
