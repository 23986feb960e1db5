import Sf4e.Netplay.Snapshots
import Sf4e.Lib.Machine
/-!
# Snapshots of earlier battles

A client that plays or watches one battle after the other. The local snapshots go
when a battle closes; what has arrived from the others is forgotten by a player
when the next battle begins, and by a spectator never. `compares_no_earlier` says
what it takes for no snapshot of an earlier battle to be compared, and
`spectator_compares_earlier` is an ordinary evening on which a spectator does.
-/
open Sf4e.Lib

namespace Sf4e.Netplay

variable {σ : Type}

/-! ## One client, battle after battle -/

structure Watcher (σ : Type) where
  client : SnapshotClient σ
  inBattle : Bool

/-- What happens on the client's PC. `isPlayer` is what the lobby data say when the
battle begins; an arriving snapshot may come from either player. -/
inductive Watch (σ : Type) where
  | beginBattle (isPlayer : Bool)
  | simulate (state : σ)
  | rollback (frame : Nat) (states : List σ)
  | arrive (m : StateSnapshot σ)
  | step (depth : Option Int)
  | closeBattle

/-- The game runs one battle at a time, and frames only in a battle. -/
def watcher [DecidableEq σ] : Machine (Watcher σ) (Watch σ) (Seen σ) where
  next w
    | .beginBattle isPlayer => (if w.inBattle then w else ⟨w.client.beginBattle isPlayer, true⟩, [])
    | .simulate state =>
      if w.inBattle then
        let (client, out) := w.client.advanceFrame state
        (⟨client, true⟩, out)
      else (w, [])
    | .rollback frame states =>
      if w.inBattle then
        let (client, out) := w.client.rollback frame states
        (⟨client, true⟩, out)
      else (w, [])
    | .arrive m =>
      let (client, out) := w.client.receiveSnapshot m
      ({ w with client }, out)
    | .step depth =>
      let (client, out) := w.client.step depth
      ({ w with client }, out)
    | .closeBattle => (⟨w.client.closeBattle, false⟩, [])

def Watcher.start (spectator : Bool) : Watcher σ := ⟨.connected spectator, false⟩

/-- A local snapshot is compared with one of an earlier battle. -/
def Seen.earlier : Seen σ → Bool
  | .compared mine theirs => decide (theirs.battle < mine.battle)
  | _ => false

/-- Nothing of an earlier battle is pending when a battle begins on a client that is
not one of its players, and none arrives while a later battle is open. -/
def InTime (w : Watcher σ) : Watch σ → Prop
  | .beginBattle isPlayer =>
    isPlayer = true ∨ ∀ e ∈ w.client.pendingRemoteSnapshots.entries, w.client.battle < e.2.battle
  | .arrive m => w.inBattle = true → w.client.battle ≤ m.battle
  | .simulate _ => True
  | .rollback .. => True
  | .step _ => True
  | .closeBattle => True

instance (w : Watcher σ) : (a : Watch σ) → Decidable (InTime w a)
  | .beginBattle _ => inferInstanceAs (Decidable (_ ∨ _))
  | .arrive _ => inferInstanceAs (Decidable (_ → _))
  | .simulate _ => .isTrue trivial
  | .rollback .. => .isTrue trivial
  | .step _ => .isTrue trivial
  | .closeBattle => .isTrue trivial

/-! ## What a client holds -/

/-- Every local snapshot is of this battle. -/
def OfBattle (battle : Nat) (m : IntMap (StateSnapshot σ × StateSnapshotMeta)) : Prop :=
  ∀ e ∈ m.entries, e.2.1.battle = battle

/-- Every snapshot that waits is of this battle or a later one. -/
def Since (battle : Nat) (m : IntMap (StateSnapshot σ)) : Prop := ∀ e ∈ m.entries, battle ≤ e.2.battle

structure Current (w : Watcher σ) : Prop where
  mine : OfBattle w.client.battle w.client.snapshotMap
  idle : w.inBattle = false → w.client.snapshotMap.entries = []
  theirs : w.inBattle = true → Since w.client.battle w.client.pendingRemoteSnapshots

theorem OfBattle.find {battle : Nat} {m : IntMap (StateSnapshot σ × StateSnapshotMeta)} (h : OfBattle battle m)
    {f : Int} {e : StateSnapshot σ × StateSnapshotMeta} (he : m.find f = some e) : e.1.battle = battle :=
  h _ (IntMap.mem_of_find he)

theorem OfBattle.erase {battle : Nat} {m : IntMap (StateSnapshot σ × StateSnapshotMeta)} (h : OfBattle battle m)
    (f : Int) : OfBattle battle (m.erase f) :=
  fun e he => h e ((List.mem_filter.1 he).1)

theorem OfBattle.insertOrAssign {battle : Nat} {m : IntMap (StateSnapshot σ × StateSnapshotMeta)}
    (h : OfBattle battle m) (f : Int) {e : StateSnapshot σ × StateSnapshotMeta} (he : e.1.battle = battle) :
    OfBattle battle (m.insertOrAssign f e) := by
  intro e' he'
  rcases IntMap.mem_place he' with rfl | he'
  · exact he
  · exact h e' he'

theorem Since.insertOrAssign {battle : Nat} {m : IntMap (StateSnapshot σ)} (h : Since battle m) (f : Int)
    {s : StateSnapshot σ} (hs : battle ≤ s.battle) : Since battle (m.insertOrAssign f s) := by
  intro e he
  rcases IntMap.mem_place he with rfl | he
  · exact hs
  · exact h e he

/-! ## Taking snapshots -/

theorem captureSnapshot_current {c : SnapshotClient σ} (h : OfBattle c.battle c.snapshotMap) (state : σ) :
    OfBattle c.battle (c.captureSnapshot state).1.snapshotMap ∧ (c.captureSnapshot state).1.battle = c.battle ∧
      (c.captureSnapshot state).1.pendingRemoteSnapshots = c.pendingRemoteSnapshots ∧
      ∀ e ∈ (c.captureSnapshot state).2, e.earlier = false := by
  rcases c.captureSnapshot_cases state with ⟨-, heq⟩ | ⟨-, heq⟩
  · rw [heq]
    exact ⟨h, rfl, rfl, by simp⟩
  · rw [heq]
    refine ⟨(h.erase _).insertOrAssign _ rfl, rfl, rfl, ?_⟩
    intro e he
    rw [List.mem_singleton.1 he]
    rfl

theorem advanceFrames_current {c : SnapshotClient σ} (h : OfBattle c.battle c.snapshotMap) (states : List σ) :
    OfBattle c.battle (c.advanceFrames states).1.snapshotMap ∧ (c.advanceFrames states).1.battle = c.battle ∧
      (c.advanceFrames states).1.pendingRemoteSnapshots = c.pendingRemoteSnapshots ∧
      ∀ e ∈ (c.advanceFrames states).2, e.earlier = false := by
  induction states generalizing c with
  | nil => exact ⟨h, rfl, rfl, by simp [SnapshotClient.advanceFrames]⟩
  | cons state states ih =>
    obtain ⟨hmap, hbattle, hpending, hout⟩ :=
      captureSnapshot_current (c := { c with framesSimulated := c.framesSimulated + 1 }) h state
    change OfBattle c.battle (c.advanceFrame state).1.snapshotMap at hmap
    change (c.advanceFrame state).1.battle = c.battle at hbattle
    rw [← hbattle] at hmap
    obtain ⟨hmap', hbattle', hpending', hout'⟩ := ih hmap
    rw [hbattle] at hmap'
    refine ⟨hmap', hbattle'.trans hbattle, hpending'.trans hpending, ?_⟩
    intro e he
    rcases List.mem_append.1 he with he | he
    · exact hout e he
    · exact hout' e he

/-! ## Comparing them -/

section Compare
variable [DecidableEq σ]

theorem compare_current {c : SnapshotClient σ} {mine theirs : StateSnapshot σ} (h : mine.battle ≤ theirs.battle) :
    ∀ e ∈ c.compare mine theirs, e.earlier = false := by
  intro e he
  unfold SnapshotClient.compare at he
  rcases List.mem_cons.1 he with rfl | he
  · exact decide_eq_false (Nat.not_lt.2 h)
  split at he
  · cases he
  · rw [List.mem_singleton.1 he]
    rfl

/-- The settled entries meet what waits for them. -/
theorem step_current {c : SnapshotClient σ} (h : OfBattle c.battle c.snapshotMap)
    (hpending : c.snapshotMap.entries = [] ∨ Since c.battle c.pendingRemoteSnapshots) (depth : Option Int) :
    OfBattle c.battle (c.step depth).1.snapshotMap ∧
      (c.snapshotMap.entries = [] → (c.step depth).1.snapshotMap.entries = []) ∧
      (Since c.battle c.pendingRemoteSnapshots → Since c.battle (c.step depth).1.pendingRemoteSnapshots) ∧
      ∀ e ∈ (c.step depth).2, e.earlier = false := by
  unfold SnapshotClient.step
  split
  · exact ⟨h, id, id, by simp⟩
  rcases hpending with hnil | hpending
  · -- nothing to walk over
    have hwalk : (IntMap.walk (c.reconcile depth) c.snapshotMap.entries c.pendingRemoteSnapshots) =
        ([], c.pendingRemoteSnapshots, []) := by
      rw [hnil]
      rfl
    have hsweep : (c.snapshotMap.sweep (c.reconcile depth) c.pendingRemoteSnapshots).1.entries = [] :=
      congrArg (·.1) hwalk
    have hrest : (c.snapshotMap.sweep (c.reconcile depth) c.pendingRemoteSnapshots).2 =
        (c.pendingRemoteSnapshots, []) := congrArg (·.2) hwalk
    simp only [hrest]
    refine ⟨?_, fun _ => hsweep, id, by simp⟩
    intro e he
    rw [hsweep] at he
    cases he
  · have hbody : ∀ f (e : StateSnapshot σ × StateSnapshotMeta) pending, e.1.battle = c.battle → Since c.battle pending →
        Since c.battle (c.reconcile depth f e pending).2.1 ∧
          (∀ e' ∈ (c.reconcile depth f e pending).1, e'.1.battle = c.battle) ∧
          ∀ o ∈ (c.reconcile depth f e pending).2.2, o.earlier = false := by
      rintro f ⟨mine, marks⟩ pending hmine hsince
      have hsend : ∀ o ∈ (if c.spectator || marks.sent then [] else [.sent mine] : List (Seen σ)),
          o.earlier = false := by
        split <;> simp [Seen.earlier]
      unfold SnapshotClient.reconcile
      split
      · exact ⟨hsince, by simpa using hmine, by simp⟩
      dsimp only
      split
      · exact ⟨hsince, by simp, hsend⟩
      split
      · rename_i theirs hfind
        refine ⟨fun e he => hsince e ((List.mem_filter.1 he).1), by simp, ?_⟩
        intro o ho
        rcases List.mem_append.1 ho with ho | ho
        · exact hsend o ho
        · have htheirs := hsince _ (IntMap.mem_of_find hfind)
          exact compare_current (Nat.le_trans (Nat.le_of_eq hmine) htheirs) o ho
      · exact ⟨hsince, by simpa using hmine, hsend⟩
    obtain ⟨hP, hS, hQ⟩ := IntMap.walk_inv
      (R := fun _ (e : StateSnapshot σ × StateSnapshotMeta) => e.1.battle = c.battle) hbody h hpending
    refine ⟨hS, ?_, fun _ => hP, hQ⟩
    intro hnil
    simp only [IntMap.sweep, hnil, IntMap.walk]

theorem receiveSnapshot_current {c : SnapshotClient σ} {m : StateSnapshot σ}
    (h : OfBattle c.battle c.snapshotMap) (hm : c.snapshotMap.entries = [] ∨ c.battle ≤ m.battle) :
    OfBattle c.battle (c.receiveSnapshot m).1.snapshotMap ∧
      (c.snapshotMap.entries = [] → (c.receiveSnapshot m).1.snapshotMap.entries = []) ∧
      (c.battle ≤ m.battle → Since c.battle c.pendingRemoteSnapshots →
        Since c.battle (c.receiveSnapshot m).1.pendingRemoteSnapshots) ∧
      ∀ e ∈ (c.receiveSnapshot m).2, e.earlier = false := by
  unfold SnapshotClient.receiveSnapshot
  split
  · rename_i mine marks hfind
    have hmine := h.find hfind
    have hne : c.snapshotMap.entries ≠ [] := List.ne_nil_of_mem (IntMap.mem_of_find hfind)
    have hle := hm.resolve_left hne
    refine ⟨?_, fun hnil => absurd hnil hne, fun _ hs => hs, compare_current (Nat.le_trans (Nat.le_of_eq hmine) hle)⟩
    dsimp only
    split
    · exact h.erase _
    · exact h.insertOrAssign _ hmine
  · exact ⟨h, id, fun hle hs => hs.insertOrAssign _ hle, by simp⟩

/-! ## Every run -/

/-- A step that is in time compares nothing earlier. -/
theorem current_step {w : Watcher σ} {a : Watch σ} (h : Current w) (ha : InTime w a) :
    Current ((watcher (σ := σ)).next w a).1 ∧ ∀ e ∈ ((watcher (σ := σ)).next w a).2, e.earlier = false := by
  cases a with
  | beginBattle isPlayer =>
    refine ⟨?_, by simp [watcher]⟩
    cases hin : w.inBattle with
    | true => simpa [watcher, hin] using h
    | false =>
      have hnil := h.idle hin
      simp only [watcher, hin, Bool.false_eq_true, if_false]
      refine ⟨?_, (fun hc => by cases hc), fun _ => ?_⟩
      · intro e he
        simp only [SnapshotClient.beginBattle, hnil] at he
        cases he
      · simp only [SnapshotClient.beginBattle]
        rcases ha with rfl | ha
        · intro e he
          cases he
        · split
          · intro e he
            cases he
          · exact ha
  | simulate state =>
    cases hin : w.inBattle with
    | false => simpa [watcher, hin] using h
    | true =>
      obtain ⟨hmap, hbattle, hpending, hout⟩ :=
        captureSnapshot_current (c := { w.client with framesSimulated := w.client.framesSimulated + 1 }) h.mine state
      simp only [watcher, hin, if_true]
      refine ⟨⟨hbattle.symm ▸ hmap, (fun hc => by cases hc), fun _ => ?_⟩, hout⟩
      exact hbattle.symm ▸ hpending.symm ▸ h.theirs hin
  | rollback frame states =>
    cases hin : w.inBattle with
    | false => simpa [watcher, hin] using h
    | true =>
      obtain ⟨hmap, hbattle, hpending, hout⟩ :=
        advanceFrames_current (c := { w.client with framesSimulated := frame }) h.mine states
      simp only [watcher, hin, if_true]
      refine ⟨⟨hbattle.symm ▸ hmap, (fun hc => by cases hc), fun _ => ?_⟩, hout⟩
      exact hbattle.symm ▸ hpending.symm ▸ h.theirs hin
  | arrive m =>
    obtain ⟨-, -, -, hbattle⟩ := w.client.receiveSnapshot_keeps m
    have hm : w.client.snapshotMap.entries = [] ∨ w.client.battle ≤ m.battle := by
      cases hin : w.inBattle with
      | false => exact .inl (h.idle hin)
      | true => exact .inr (ha hin)
    obtain ⟨hmap, hnil, hsince, hout⟩ := receiveSnapshot_current h.mine hm
    simp only [watcher]
    refine ⟨⟨hbattle.symm ▸ hmap, fun hin => hnil (h.idle hin), fun hin => ?_⟩, hout⟩
    exact hbattle.symm ▸ hsince (ha hin) (h.theirs hin)
  | step depth =>
    obtain ⟨-, -, -, hbattle⟩ := w.client.step_keeps depth
    have hpending : w.client.snapshotMap.entries = [] ∨ Since w.client.battle w.client.pendingRemoteSnapshots := by
      cases hin : w.inBattle with
      | false => exact .inl (h.idle hin)
      | true => exact .inr (h.theirs hin)
    obtain ⟨hmap, hnil, hsince, hout⟩ := step_current h.mine hpending depth
    simp only [watcher]
    refine ⟨⟨hbattle.symm ▸ hmap, fun hin => hnil (h.idle hin), fun hin => ?_⟩, hout⟩
    exact hbattle.symm ▸ hsince (h.theirs hin)
  | closeBattle =>
    refine ⟨⟨?_, fun _ => rfl, (fun hc => by cases hc)⟩, by simp [watcher]⟩
    intro e he
    cases he

/-- In a run that is in time throughout, no local snapshot is compared with one of an
earlier battle. -/
theorem compares_no_earlier (spectator : Bool) (as : List (Watch σ))
    (h : watcher.Meets (fun _ => InTime) (.start spectator) [] as) :
    ∀ e ∈ watcher.outs (.start spectator) as, e.earlier = false := by
  have hstart : Current (Watcher.start spectator : Watcher σ) :=
    ⟨fun e he => (by cases he), fun _ => rfl, (fun hc => by cases hc)⟩
  have hrun := Machine.inv_of_outs (M := watcher) (o := [])
    (fun o w => Current w ∧ ∀ e ∈ o, e.earlier = false)
    (fun o _ w a hI ha => by
      obtain ⟨hcur, hout⟩ := current_step hI.1 ha
      refine ⟨hcur, fun e he => ?_⟩
      rcases List.mem_append.1 he with he | he
      · exact hI.2 e he
      · exact hout e he)
    ⟨hstart, by simp⟩ h
  exact hrun.2

end Compare

namespace Sample

/-- Two battles. In the first both players' snapshots of frame 60 arrive, the second
of them when the frame is done with; the state of a battle is its number. -/
def twoBattles (isPlayer : Bool) : List (Watch Nat) :=
  [.beginBattle isPlayer] ++ List.replicate 60 (.simulate 1) ++ [.arrive ⟨60, 1, 1⟩] ++
    List.replicate 60 (.simulate 1) ++ [.step none, .arrive ⟨60, 1, 1⟩, .closeBattle, .beginBattle isPlayer] ++
    List.replicate 120 (.simulate 2) ++ [.step none, .arrive ⟨60, 2, 2⟩]

end Sample

/-- A player forgets the late one, and compares the frame in both battles. -/
theorem compares_no_earlier_player :
    (watcher.outs (.start false) (Sample.twoBattles true)).countP (fun e => e matches .compared ..) = 2 ∧
      ∀ e ∈ watcher.outs (.start false) (Sample.twoBattles true), e.earlier = false :=
  ⟨by decide +kernel, compares_no_earlier false (Sample.twoBattles true) (by decide +kernel)⟩

/-- A spectator keeps the late one, and compares it in the second battle. -/
theorem spectator_compares_earlier :
    (watcher.outs (.start true) (Sample.twoBattles false)).any Seen.earlier = true := by
  decide +kernel

end Sf4e.Netplay
