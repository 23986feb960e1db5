import Sf4e.Battle.DesyncDump
import Sf4e.Lib.IntMap
import Sf4e.Lib.Log
import Sf4e.Lib.Machine
/-!
# The sync test

Offline, GGPO rolls a match back by some frames and simulates them again. The first time a frame
is saved its record is kept, and the second time the two are compared. A frame that can no longer
be simulated again is dropped.
-/
open Sf4e.Lib

namespace Sf4e.Battle

/-- What `SyncTestVerify` takes from a save state and from the game. The global data is a C
structure and has some bytes. -/
structure SavedState (σ : Type) where
  checksum : UInt32
  checksumRaw : UInt32
  globalChecksum : UInt32
  snapshot : σ
  keyChecksums : List KeyChecksum
  buffers : List Bytes
  globals : Bytes
  globals_ne : globals ≠ []

/-- `lastMismatchSummary`, before it is printed. `shown` are the keys it names. -/
structure MismatchSummary where
  frame : ℤ
  keyCounts : Option (ℕ × ℕ)
  shown : List ℕ
  differing : ℕ
  compared : ℕ
  globalDiffers : Bool
  deriving DecidableEq

/-- What the test has done. -/
inductive SyncEntry (σ : Type) where
  | started (checkDistance : ℤ) (running : Bool)
  | kept (frame : ℤ) (original : FrameRecord σ)
  | compared (frame : ℤ) (original replay : FrameRecord σ)
  | dumped (frame : ℤ) (original replay : FrameRecord σ)
  | closed

/-- `fVsBattle::OnTasksRegistered`: `other` is what a netplay match puts there. -/
inductive TasksHook where
  | startSyncTest
  | other
  deriving DecidableEq

structure SyncTest (σ : Type) where
  bArmed : Bool
  bActive : Bool
  bDumpOnMismatch : Bool
  bSoak : Bool
  nMatchesRun : ℕ
  nTotalFramesVerified : ℕ
  nTotalGameplayMismatches : ℕ
  nCheckDistance : ℤ
  nFramesVerified : ℕ
  nMismatches : ℕ
  nRawMismatches : ℕ
  nGameplayMismatches : ℕ
  nLastGameplayMismatchFrame : ℤ
  nLastMismatchFrame : ℤ
  nMaxDumps : ℤ
  nDumpsWritten : ℕ
  lastMismatchSummary : Option MismatchSummary
  records : IntMap (FrameRecord σ)
  onTasksRegistered : Option TasksHook
  bSoakRestartPending : Bool
  log : List (SyncEntry σ)

namespace SyncTest

variable {σ : Type} [DecidableEq σ]

def did (s : SyncTest σ) (e : SyncEntry σ) : SyncTest σ := { s with log := e :: s.log }

section

variable (GGPO_MAX_PREDICTION_FRAMES : ℕ)

def NUM_SAVE_STATES : ℕ := GGPO_MAX_PREDICTION_FRAMES + 2

/-- How far behind the newest save a record may be. -/
def window (checkDistance : ℤ) : ℤ := 2 * checkDistance + NUM_SAVE_STATES GGPO_MAX_PREDICTION_FRAMES + 8

/-- `ArmSyncTest`. -/
def armSyncTest (s : SyncTest σ) (checkDistance : ℤ) : SyncTest σ :=
  let checkDistance := if checkDistance < 1 then 1 else checkDistance
  let checkDistance :=
    if checkDistance > GGPO_MAX_PREDICTION_FRAMES then (GGPO_MAX_PREDICTION_FRAMES : ℤ) else checkDistance
  { s with nCheckDistance := checkDistance, bArmed := true, onTasksRegistered := some .startSyncTest }

/-- `DisarmSyncTest`. -/
def disarmSyncTest (s : SyncTest σ) : SyncTest σ :=
  { s with
    bArmed := false
    onTasksRegistered := if s.onTasksRegistered = some .startSyncTest then none else s.onTasksRegistered }

/-- `StartSyncTest`; `running` is whether GGPO started the session. -/
def startSyncTest (s : SyncTest σ) (running : Bool) : SyncTest σ :=
  { s.did (.started s.nCheckDistance running) with
    bArmed := false
    nFramesVerified := 0
    nMismatches := 0
    nRawMismatches := 0
    nGameplayMismatches := 0
    nLastGameplayMismatchFrame := -1
    nLastMismatchFrame := -1
    nDumpsWritten := 0
    lastMismatchSummary := none
    records := .empty
    bActive := s.bActive || running }

/-- `fVsBattle::RegisterTasks`. -/
def registerTasks (s : SyncTest σ) (running : Bool) : SyncTest σ :=
  match s.onTasksRegistered with
  | none => s
  | some .startSyncTest => { s.startSyncTest running with onTasksRegistered := none }
  | some .other => { s with onTasksRegistered := none }

/-! ### A save -/

/-- The loop over the keys both records have. -/
def differingKeys : List (KeyChecksum × KeyChecksum) → ℕ → List ℕ × ℕ → List ℕ × ℕ
  | [], _, found => found
  | (original, replay) :: keys, i, (shown, differing) =>
    differingKeys keys (i + 1)
      (if original.checksum ≠ replay.checksum then (if differing < 6 then shown ++ [i] else shown, differing + 1)
      else (shown, differing))

def summary (frame : ℤ) (original replay : FrameRecord σ) : MismatchSummary :=
  let (shown, differing) := differingKeys (original.keys.zip replay.keys) 0 ([], 0)
  { frame
    keyCounts :=
      if original.keys.length ≠ replay.keys.length then some (original.keys.length, replay.keys.length) else none
    shown
    differing
    compared := min original.keys.length replay.keys.length
    globalDiffers := original.globalChecksum ≠ replay.globalChecksum }

def mayDump (s : SyncTest σ) : Bool := s.bDumpOnMismatch && s.nDumpsWritten < s.nMaxDumps

/-- The record of a frame; its blob is captured while dumps may still be written. -/
def record (s : SyncTest σ) (state : SavedState σ) : FrameRecord σ :=
  let empty : FrameRecord σ :=
    ⟨state.checksum, state.checksumRaw, state.globalChecksum, state.snapshot, state.keyChecksums, [], []⟩
  if s.mayDump then empty.captureBlob state.buffers state.globals else empty

/-- The pass is written to files. -/
def dumps (s : SyncTest σ) (original replay : FrameRecord σ) : Bool :=
  original.checksum ≠ replay.checksum && s.mayDump && !replay.blob.isEmpty && !original.blob.isEmpty

/-- The second time: the replay pass. -/
def compare (s : SyncTest σ) (frame : ℤ) (original replay : FrameRecord σ) : SyncTest σ :=
  let mismatched : Bool := original.checksum ≠ replay.checksum
  let diverged : Bool := original.snapshot ≠ replay.snapshot
  let dumped := s.dumps original replay
  let log := .compared frame original replay :: s.log
  { s with
    nRawMismatches := s.nRawMismatches + if original.checksumRaw ≠ replay.checksumRaw then 1 else 0
    nGameplayMismatches := s.nGameplayMismatches + if diverged then 1 else 0
    nLastGameplayMismatchFrame := if diverged then frame else s.nLastGameplayMismatchFrame
    nFramesVerified := s.nFramesVerified + if mismatched then 0 else 1
    nMismatches := s.nMismatches + if mismatched then 1 else 0
    nLastMismatchFrame := if mismatched then frame else s.nLastMismatchFrame
    lastMismatchSummary := if mismatched then some (summary frame original replay) else s.lastMismatchSummary
    nDumpsWritten := s.nDumpsWritten + if dumped then 1 else 0
    records := s.records.erase frame
    log := if dumped then .dumped frame original replay :: log else log }

/-- `SyncTestVerify`. -/
def syncTestVerify (s : SyncTest σ) (frame : ℤ) (state : SavedState σ) : SyncTest σ :=
  let taken := s.record state
  let s :=
    match s.records.find frame with
    | none => { s.did (.kept frame taken) with records := s.records.insertOrAssign frame taken }
    | some original => s.compare frame original taken
  { s with records := s.records.dropBelow (frame - window GGPO_MAX_PREDICTION_FRAMES s.nCheckDistance) }

/-- `CloseBattle`: a soak arms the next match. -/
def closeBattle (s : SyncTest σ) : SyncTest σ :=
  if s.bActive then
    let s := { s.did .closed with
      nMatchesRun := s.nMatchesRun + 1
      nTotalFramesVerified := s.nTotalFramesVerified + s.nFramesVerified
      nTotalGameplayMismatches := s.nTotalGameplayMismatches + s.nGameplayMismatches
      bActive := false
      records := .empty }
    if s.bSoak then { s.armSyncTest GGPO_MAX_PREDICTION_FRAMES s.nCheckDistance with bSoakRestartPending := true }
    else s
  else { s with bActive := false, records := .empty }

end

/-- Before the first match. -/
def new (bSoak : Bool) : SyncTest σ where
  bArmed := false
  bActive := false
  bDumpOnMismatch := true
  bSoak
  nMatchesRun := 0
  nTotalFramesVerified := 0
  nTotalGameplayMismatches := 0
  nCheckDistance := 1
  nFramesVerified := 0
  nMismatches := 0
  nRawMismatches := 0
  nGameplayMismatches := 0
  nLastGameplayMismatchFrame := -1
  nLastMismatchFrame := -1
  nMaxDumps := 3
  nDumpsWritten := 0
  lastMismatchSummary := none
  records := .empty
  onTasksRegistered := none
  bSoakRestartPending := false
  log := []

end SyncTest

/-- What happens to the test. The panel offers `disarm` while the test is armed, and `arm` and
`configure` while it is neither armed nor active. -/
inductive SyncTestAct (σ : Type) where
  | arm (checkDistance : ℤ)
  | disarm
  | configure (bDumpOnMismatch : Bool) (nMaxDumps : ℤ)
  | hook
  | registerTasks (running : Bool)
  | saveGameState (frame : ℤ) (state : SavedState σ)
  | closeBattle

/-- The sync test, one call at a time. -/
def syncTest {σ : Type} [DecidableEq σ] (GGPO_MAX_PREDICTION_FRAMES : ℕ) :
    Machine (SyncTest σ) (SyncTestAct σ) Unit where
  next s
    | .arm checkDistance =>
      (if !s.bActive && !s.bArmed then s.armSyncTest GGPO_MAX_PREDICTION_FRAMES checkDistance else s, [])
    | .disarm => (if !s.bActive && s.bArmed then s.disarmSyncTest else s, [])
    | .configure bDumpOnMismatch nMaxDumps =>
      (if !s.bActive && !s.bArmed then { s with bDumpOnMismatch, nMaxDumps } else s, [])
    | .hook => ({ s with onTasksRegistered := some .other }, [])
    | .registerTasks running => (s.registerTasks running, [])
    | .saveGameState frame state =>
      (if s.bActive then s.syncTestVerify GGPO_MAX_PREDICTION_FRAMES frame state else s, [])
    | .closeBattle => (s.closeBattle GGPO_MAX_PREDICTION_FRAMES, [])

end Sf4e.Battle
