import Sf4e.Lib.IntMap
/-!
# Snapshots

How one PC takes snapshots of its battle, passes them on and compares them with
what the other PCs saw: `CaptureSnapshot`, the rollback that takes them again,
and the two places in `SessionClient::Step` that compare. What the state of a
battle is made of is left open.
-/
open Sf4e.Lib

namespace Sf4e.Netplay

/-! ## Data -/

/-- `integral` of the game's frame counter after `n` frames: a `short`. -/
def frameCount (n : Nat) : Int := (Int16.ofNat n).toInt

theorem frameCount_of_lt {n : Nat} (h : n < 32768) : frameCount n = n := by
  rw [frameCount]
  exact Int16.toInt_ofNat_of_lt h

/-- `StateSnapshot`. `battle` is the number of the battle it was taken in, which
no code reads. -/
structure StateSnapshot (σ : Type) where
  frameIdx : Int
  state : σ
  battle : Nat
  deriving DecidableEq

structure StateSnapshotMeta where
  confirmed : Bool
  sent : Bool
  deriving DecidableEq

/-- The snapshots of one PC: `fSystem::snapshotMap`, `pendingRemoteSnapshots`,
and what decides about them. `battle` is the number of battles begun, which no
code reads. -/
structure SnapshotClient (σ : Type) where
  spectator : Bool
  snapshotsEnabled : Bool
  framesSimulated : Nat
  battle : Nat
  snapshotMap : IntMap (StateSnapshot σ × StateSnapshotMeta)
  pendingRemoteSnapshots : IntMap (StateSnapshot σ)

/-- What a PC does with snapshots. `desync` is a call of `HandleDesync`. -/
inductive Seen (σ : Type) where
  | captured (s : StateSnapshot σ)
  | sent (s : StateSnapshot σ)
  | compared (mine theirs : StateSnapshot σ)
  | desync (mine theirs : StateSnapshot σ)
  deriving DecidableEq

variable {σ : Type}

namespace SnapshotClient

/-! ## Taking them -/

/-- `CaptureSnapshot`: one snapshot every 60 frames. A frame that is simulated
again gets a new one, neither sent nor confirmed. -/
def captureSnapshot (c : SnapshotClient σ) (state : σ) : SnapshotClient σ × List (Seen σ) :=
  let frameIdx := frameCount c.framesSimulated
  if frameIdx.tmod 60 ≠ 0 then (c, [])
  else
    let snapshot : StateSnapshot σ := ⟨frameIdx, state, c.battle⟩
    ({ c with snapshotMap := (c.snapshotMap.erase frameIdx).insertOrAssign frameIdx (snapshot, ⟨false, false⟩) },
      [.captured snapshot])

/-- One frame of the battle, which ends in `state`. -/
def advanceFrame (c : SnapshotClient σ) (state : σ) : SnapshotClient σ × List (Seen σ) :=
  captureSnapshot { c with framesSimulated := c.framesSimulated + 1 } state

def advanceFrames (c : SnapshotClient σ) : List σ → SnapshotClient σ × List (Seen σ)
  | [] => (c, [])
  | state :: states =>
    let now := c.advanceFrame state
    let later := now.1.advanceFrames states
    (later.1, now.2 ++ later.2)

/-- A rollback: the state after `frame` frames is loaded, and the frames after it
run again, each an `ggpo_advance_frame_callback`. -/
def rollback (c : SnapshotClient σ) (frame : Nat) (states : List σ) : SnapshotClient σ × List (Seen σ) :=
  advanceFrames { c with framesSimulated := frame } states

/-! ## Comparing them -/

section Compare
variable [DecidableEq σ]

/-- `memcmp`, and what a difference leads to. A spectator only writes a line. -/
def compare (c : SnapshotClient σ) (mine theirs : StateSnapshot σ) : List (Seen σ) :=
  .compared mine theirs ::
    if (mine.frameIdx = theirs.frameIdx && mine.state = theirs.state) || c.spectator then [] else [.desync mine theirs]

/-- A snapshot arrives. It is compared at once if this PC has one of the frame. -/
def receiveSnapshot (c : SnapshotClient σ) (m : StateSnapshot σ) : SnapshotClient σ × List (Seen σ) :=
  match c.snapshotMap.find m.frameIdx with
  | some (mine, sentOrNot) =>
    ({ c with
        snapshotMap :=
          if sentOrNot.sent then c.snapshotMap.erase m.frameIdx
          else c.snapshotMap.insertOrAssign m.frameIdx (mine, { sentOrNot with confirmed := true }) },
      c.compare mine m)
  | none => ({ c with pendingRemoteSnapshots := c.pendingRemoteSnapshots.insertOrAssign m.frameIdx m }, [])

/-- How far back a frame has to be; `depth` is the answer of
`ggpo_get_unconfirmed_depth`, if there is a session that gives one. -/
def settledDepth (depth : Option Int) : Int := max 60 (depth.getD 60)

/-- What `Step` does about one local snapshot. -/
def reconcile (c : SnapshotClient σ) (depth : Option Int) (frame : Int) (e : StateSnapshot σ × StateSnapshotMeta)
    (pending : IntMap (StateSnapshot σ)) :
    Option (StateSnapshot σ × StateSnapshotMeta) × IntMap (StateSnapshot σ) × List (Seen σ) :=
  if frameCount c.framesSimulated - frame < settledDepth depth then (some e, pending, [])
  else
    let (mine, marks) := e
    let send := if c.spectator || marks.sent then [] else [.sent mine]
    if marks.confirmed then (none, pending, send)
    else match pending.find frame with
      | some theirs => (none, pending.erase frame, send ++ c.compare mine theirs)
      | none => (some (mine, { marks with sent := true }), pending, send)

/-- The end of `SessionClient::Step`: what is settled is sent, and compared with
what has arrived before. -/
def step (c : SnapshotClient σ) (depth : Option Int) : SnapshotClient σ × List (Seen σ) :=
  if !c.snapshotsEnabled then (c, [])
  else
    let (snapshotMap, pendingRemoteSnapshots, out) :=
      c.snapshotMap.sweep (c.reconcile depth) c.pendingRemoteSnapshots
    ({ c with snapshotMap, pendingRemoteSnapshots }, out)

end Compare

/-! ## Battles -/

/-- `_OnVsBattleTasksRegistered`, for the snapshots. Only a player forgets what
has arrived. -/
def beginBattle (c : SnapshotClient σ) (isPlayer : Bool) : SnapshotClient σ :=
  { c with
    battle := c.battle + 1
    framesSimulated := 0
    pendingRemoteSnapshots := if isPlayer then .empty else c.pendingRemoteSnapshots }

/-- `CloseBattle`, for the snapshots. -/
def closeBattle (c : SnapshotClient σ) : SnapshotClient σ := { c with snapshotMap := .empty }

/-- A client that has just connected. -/
def connected (spectator : Bool) : SnapshotClient σ := ⟨spectator, true, 0, 0, .empty, .empty⟩

/-! ## Reading the operations -/

theorem captureSnapshot_cases (c : SnapshotClient σ) (state : σ) :
    (¬ (60 : Int) ∣ frameCount c.framesSimulated ∧ c.captureSnapshot state = (c, [])) ∨
      ((60 : Int) ∣ frameCount c.framesSimulated ∧
        c.captureSnapshot state =
          ({ c with
              snapshotMap := (c.snapshotMap.erase (frameCount c.framesSimulated)).insertOrAssign
                (frameCount c.framesSimulated) (⟨frameCount c.framesSimulated, state, c.battle⟩, ⟨false, false⟩) },
            [.captured ⟨frameCount c.framesSimulated, state, c.battle⟩])) := by
  by_cases h : (60 : Int) ∣ frameCount c.framesSimulated
  · exact .inr ⟨h, if_neg fun hne => hne (Int.tmod_eq_zero_of_dvd h)⟩
  · exact .inl ⟨h, if_pos fun h0 => h (Int.dvd_of_tmod_eq_zero h0)⟩

theorem step_keeps [DecidableEq σ] (c : SnapshotClient σ) (depth : Option Int) :
    (c.step depth).1.spectator = c.spectator ∧ (c.step depth).1.snapshotsEnabled = c.snapshotsEnabled ∧
      (c.step depth).1.framesSimulated = c.framesSimulated ∧ (c.step depth).1.battle = c.battle := by
  unfold step
  split <;> exact ⟨rfl, rfl, rfl, rfl⟩

theorem receiveSnapshot_keeps [DecidableEq σ] (c : SnapshotClient σ) (m : StateSnapshot σ) :
    (c.receiveSnapshot m).1.spectator = c.spectator ∧
      (c.receiveSnapshot m).1.snapshotsEnabled = c.snapshotsEnabled ∧
      (c.receiveSnapshot m).1.framesSimulated = c.framesSimulated ∧ (c.receiveSnapshot m).1.battle = c.battle := by
  unfold receiveSnapshot
  split <;> exact ⟨rfl, rfl, rfl, rfl⟩

end SnapshotClient

end Sf4e.Netplay
