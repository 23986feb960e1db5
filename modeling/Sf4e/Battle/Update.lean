import Sf4e.Lib.Log
import Sf4e.Lib.Machine
import Sf4e.Netplay.PlayerAddresses
/-!
# The battle update

`BattleUpdate` runs once a frame. In a session it gives the local inputs to GGPO, takes back
those of both sides, has the game simulate the frame with these and advances GGPO. GGPO calls
back while it is called: it simulates frames again after a rollback, and it reports events.

What GGPO answers, what the clock shows and what the game makes of a frame come from outside.
`log` is what the updates have done, newest first.
-/
open Sf4e.Lib Sf4e.Netplay

namespace Sf4e.Battle

/-- The values of `CurrentBattleFlow`. -/
inductive BattleFlow where
  | startDemo
  | ready
  | fight
  | finish
  | roundResult
  | matchResult
  | drawResult
  | bonusResult
  | continues
  | gameOver
  | btlStart
  | btlOver
  | matchStart
  | matchOver
  | roundStart
  | roundOver
  | idle
  | restart
  deriving DecidableEq

/-! ## The pad -/

structure Inputs where
  mappedOn : UInt32
  rawOn : UInt32
  deriving DecidableEq

/-- While `playbackFrame` is not negative, the game reads the recording instead of the devices. -/
structure Pad where
  playbackData : List (Sides Inputs)
  playbackFrame : ℤ
  bSuppressGameInput : Bool
  deriving DecidableEq

namespace Pad

def PLAYBACK_MAX : ℕ := 60

def noInputs : Sides Inputs := ⟨⟨0, 0⟩, ⟨0, 0⟩⟩

def new : Pad := ⟨.replicate PLAYBACK_MAX noInputs, -1, false⟩

def getButtonsMappedOn (p : Pad) (device : Sides Inputs) (pindex : Side) : UInt32 :=
  if p.playbackFrame > -1 then ((p.playbackData.getD p.playbackFrame.toNat noInputs).get pindex).mappedOn
  else if p.bSuppressGameInput then 0
  else (device.get pindex).mappedOn

def getButtonsRawOn (p : Pad) (device : Sides Inputs) (pindex : Side) : UInt32 :=
  if p.playbackFrame > -1 then ((p.playbackData.getD p.playbackFrame.toNat noInputs).get pindex).rawOn
  else if p.bSuppressGameInput then 0
  else (device.get pindex).rawOn

/-- What both sides press, as the game reads it. -/
def reads (p : Pad) (device : Sides Inputs) : Sides Inputs :=
  .of fun side => ⟨p.getButtonsMappedOn device side, p.getButtonsRawOn device side⟩

/-- `playbackFrame = 0`, with these inputs there. -/
def play (p : Pad) (inputs : Sides Inputs) : Pad :=
  { p with playbackFrame := 0, playbackData := p.playbackData.set 0 inputs }

def release (p : Pad) : Pad := { p with playbackFrame := -1 }

end Pad

/-! ## GGPO -/

inductive GGPOErrorCode where
  | ok
  | predictionThreshold
  | failed
  deriving DecidableEq

inductive GGPOEvent where
  | connectedToPeer
  | synchronizingWithPeer
  | synchronizedWithPeer
  | running
  | connectionInterrupted
  | connectionResumed
  | disconnectedFromPeer (player : ℤ)
  | timesync (framesAhead : ℤ)

/-- A call back from GGPO. `battle` says whether there is a battle system, `inputs` is what
`ggpo_synchronize_input` left, `flow` what the game made of the frame. -/
inductive Callback where
  | advanceFrame (battle : Bool) (inputs : Sides Inputs) (flow : BattleFlow) (advanced : GGPOErrorCode)
  | onEvent (info : GGPOEvent) (limiterActive : Bool)
  | assertFailed (battle : Bool)

/-- A call of GGPO, with the calls back it made. -/
structure Reply where
  served : List Callback
  result : GGPOErrorCode

/-- `ggpo_synchronize_input`. -/
structure Synchronized extends Reply where
  inputs : Sides Inputs

/-! ## The log -/

/-- Who had a frame simulated: the update, a rollback, a spectator that catches up, the update
around GGPO, or the overlay. -/
inductive Simulation where
  | live
  | resimulated
  | caughtUp
  | untracked (session : Bool)
  | forwarded
  deriving DecidableEq

inductive Entry where
  | synchronized (inputs : Sides Inputs)
  | simulated (how : Simulation) (pad : Pad) (flow : BattleFlow)
  | advanced
  | captured
  | added (side : Side) (inputs : Inputs)
  | held
  | released
  | skipped
  | refused (flow : BattleFlow)
  | recommended (framesAhead : ℤ) (pacerEnabled playing limiterActive : Bool)
  | fed
  | starved (now : UInt64)
  | gaveUp (now : UInt64)
  | matchResult (winner : ℤ)
  | delayed (side : Side) (frameDelay : ℤ)
  | started
  | spectating
  | aborted
  | closed (counted : Bool)
  deriving DecidableEq

/-! ## The update -/

structure BattleLoop where
  ggpo : Bool
  localPlayerHandle : Option ℤ
  players : Sides GGPOPlayerType
  bUpdateAllowed : Bool
  bHaltAfterNext : Bool
  nExtraFramesToSimulate : ℕ
  nFramesToSkip : ℤ
  bRoundCheckpoint : Bool
  nCheckpointHeldFrames : ℕ
  bGgpoDuringIdle : Bool
  bMatchLeftIdle : Bool
  nIdleFramesInTimeline : ℕ
  nUntrackedIdleFrames : ℕ
  syncTestActive : Bool
  syncTestSoak : Bool
  bSoakTest : Bool
  nRandomizeLocalInputsEveryXFramesInGGPO : ℕ
  nLastRandomInputFrame : ℤ
  randomInputs : Sides Inputs
  pacerEnabled : Bool
  bPredictionStalled : Bool
  spectatorStarvedSince : UInt64
  ggpoStartTick : UInt32
  ggpoReachedRunning : Bool
  bGgpoAssertAbort : Bool
  leaving : Bool
  currentBattleFlow : BattleFlow
  lastFlow : Option BattleFlow
  pad : Pad
  log : List Entry

/-- An extra frame of a spectator: how far it is behind, GGPO's answers, and the flow after it. -/
structure Extra where
  localFramesBehind : Option ℤ
  synchronize : Synchronized
  flow : BattleFlow
  advance : Reply

/-- What one update finds. -/
structure Frame where
  tickCount : UInt32
  tickCount64 : UInt64
  idle : List Callback
  unconfirmedDepth : Option ℤ
  numFramesSimulated : ℤ
  device : Sides Inputs
  soakInputs : Sides Inputs
  rolledInputs : Sides Inputs
  addLocalInput : Sides Reply
  synchronize : Synchronized
  flow : BattleFlow
  advance : Reply
  extra : List Extra
  forward : ℕ → BattleFlow
  vit : Sides ℤ

namespace BattleLoop

def did (s : BattleLoop) (e : Entry) : BattleLoop := { s with log := e :: s.log }

/-- The game's own `BattleUpdate`, with the pad as it is. -/
def simulate (s : BattleLoop) (how : Simulation) (flowNow flowAfter : BattleFlow) : BattleLoop :=
  { s.did (.simulated how s.pad flowNow) with currentBattleFlow := flowAfter }

/-- The inputs GGPO has synchronized are what the game will read. -/
def playBack (s : BattleLoop) (inputs : Sides Inputs) : BattleLoop :=
  { s.did (.synchronized inputs) with pad := s.pad.play inputs }

def stopPlayBack (s : BattleLoop) : BattleLoop := { s with pad := s.pad.release }

/-! ### Calls back -/

/-- `ggpo_advance_frame_callback`. -/
def advanceFrameCallback (s : BattleLoop) (battle : Bool) (inputs : Sides Inputs) (flow : BattleFlow)
    (advanced : GGPOErrorCode) : BattleLoop :=
  let s := s.playBack inputs
  if !battle then (s.did .advanced).stopPlayBack
  else
    let s := (s.simulate .resimulated s.currentBattleFlow flow).did .advanced
    let s := if advanced = .ok then s.did .captured else s
    s.stopPlayBack

/-- `ggpo_on_event_callback`. -/
def onEvent (s : BattleLoop) (info : GGPOEvent) (limiterActive : Bool) : BattleLoop :=
  match info with
  | .connectedToPeer | .synchronizingWithPeer | .synchronizedWithPeer => s
  | .connectionInterrupted | .connectionResumed => s
  | .running => { s with ggpoReachedRunning := true, bUpdateAllowed := true }
  | .disconnectedFromPeer player => if player ≥ 1000 then s else { s with leaving := true }
  | .timesync framesAhead =>
    -- pacing repays the gap on its own
    let s := s.did (.recommended framesAhead s.pacerEnabled s.localPlayerHandle.isSome limiterActive)
    if s.pacerEnabled && s.localPlayerHandle.isSome && limiterActive then s
    else { s with nFramesToSkip := s.nFramesToSkip + framesAhead }

def callback (s : BattleLoop) : Callback → BattleLoop
  | .advanceFrame battle inputs flow advanced => s.advanceFrameCallback battle inputs flow advanced
  | .onEvent info limiterActive => s.onEvent info limiterActive
  | .assertFailed battle => { s with bGgpoAssertAbort := true, leaving := s.leaving || battle }

def serve (s : BattleLoop) (served : List Callback) : BattleLoop := served.foldl callback s

/-! ### A frame in the timeline -/

/-- The random inputs of a soak run. -/
def randomize (s : BattleLoop) (t : Frame) : BattleLoop :=
  if s.syncTestSoak then { s with randomInputs := t.soakInputs }
  else if s.nRandomizeLocalInputsEveryXFramesInGGPO ≠ 0 then
    let delta := t.numFramesSimulated - s.nLastRandomInputFrame
    if s.nLastRandomInputFrame < 0 || delta < 0 || delta > s.nRandomizeLocalInputsEveryXFramesInGGPO then
      { s with randomInputs := t.rolledInputs, nLastRandomInputFrame := t.numFramesSimulated }
    else s
  else s

def localInputs (s : BattleLoop) (t : Frame) (side : Side) : Inputs :=
  if s.nRandomizeLocalInputsEveryXFramesInGGPO ≠ 0 then s.randomInputs.get side
  else ⟨s.pad.getButtonsMappedOn t.device side, s.pad.getButtonsRawOn t.device side⟩

def addLocalInput (s : BattleLoop) (t : Frame) (side : Side) (result : GGPOErrorCode) : BattleLoop × GGPOErrorCode :=
  if result ≠ .ok || s.players.get side ≠ .localPlayer then (s, result)
  else
    let reply := t.addLocalInput.get side
    ((s.did (.added side (s.localInputs t side))).serve reply.served, reply.result)

def addLocalInputs (s : BattleLoop) (t : Frame) : BattleLoop × GGPOErrorCode :=
  if s.localPlayerHandle.isNone then (s, .ok)
  else
    let (s, result) := (s.randomize t).addLocalInput t 0 .ok
    s.addLocalInput t 1 result

/-- The inputs of both sides, the frame, and GGPO one frame further. -/
def synchronizeAndSimulate (s : BattleLoop) (t : Frame) (flowNow : BattleFlow) : BattleLoop × GGPOErrorCode :=
  let s := s.serve t.synchronize.served
  if t.synchronize.result = .ok then
    let s := ((s.playBack t.synchronize.inputs).simulate .live flowNow t.flow).stopPlayBack
    let s := (s.did .advanced).serve t.advance.served
    (if t.advance.result = .ok then s.did .captured else s, .ok)
  else (s, t.synchronize.result)

/-- `AdvanceSpectatorFrame`. -/
def advanceSpectatorFrame (s : BattleLoop) (e : Extra) : BattleLoop × Bool :=
  let s := s.serve e.synchronize.served
  if e.synchronize.result = .ok then
    let s := ((s.playBack e.synchronize.inputs).simulate .caughtUp s.currentBattleFlow e.flow).stopPlayBack
    ((s.did .advanced).serve e.advance.served, true)
  else (s, false)

/-- The loop over the extra frames; it ends when a spectator is close enough. -/
def catchUp (s : BattleLoop) : List Extra → BattleLoop
  | [] => s
  | e :: extra =>
    if e.localFramesBehind.all (· ≤ 6) then s
    else
      let (s, advanced) := s.advanceSpectatorFrame e
      if advanced then s.catchUp extra else s

/-- A spectator cannot simulate without the host's next frame. -/
def spectate (s : BattleLoop) (t : Frame) (result : GGPOErrorCode) : BattleLoop :=
  if result = .ok then
    { s.did .fed with spectatorStarvedSince := 0 }.catchUp (t.extra.take 3)
  else
    let s := s.did (.starved t.tickCount64)
    if s.spectatorStarvedSince = 0 then { s with spectatorStarvedSince := t.tickCount64 }
    else if t.tickCount64 - s.spectatorStarvedSince > 8000 then
      { s.did (.gaveUp t.tickCount64) with leaving := true, spectatorStarvedSince := t.tickCount64 }
    else s

def trackedFrame (s : BattleLoop) (t : Frame) : BattleLoop :=
  let flowNow := s.currentBattleFlow
  let (s, added) := s.addLocalInputs t
  let s := { s with bPredictionStalled := added = .predictionThreshold }
  let (s, result) := if added = .ok then s.synchronizeAndSimulate t flowNow else (s, added)
  let s := if result = .ok then s else s.did (.refused flowNow)
  if s.localPlayerHandle.isNone && !s.syncTestActive then s.spectate t result else s

/-! ### Around it -/

/-- `AbortMatchStart`. -/
def abortMatchStart (s : BattleLoop) : BattleLoop :=
  { s.did .aborted with ggpo := false, nFramesToSkip := 0, leaving := true }

/-- A soak match whose session never ran. -/
def watchdog (s : BattleLoop) (tickCount : UInt32) : BattleLoop :=
  if s.bSoakTest && s.ggpo && !s.ggpoReachedRunning && s.ggpoStartTick ≠ 0 && tickCount - s.ggpoStartTick > 30000 then
    { s with ggpoStartTick := 0 }.abortMatchStart
  else s

/-- The checkpoint at the round's boundaries; the second part says that the frame is held. -/
def checkpoint (s : BattleLoop) (unconfirmedDepth : Option ℤ) : BattleLoop × Bool :=
  if s.ggpo && !s.syncTestActive && s.bRoundCheckpoint then
    if s.currentBattleFlow ≠ .fight && unconfirmedDepth.any (· > 0) then
      if s.nCheckpointHeldFrames < 30 then
        ({ s.did .held with nCheckpointHeldFrames := s.nCheckpointHeldFrames + 1 }, true)
      else if s.nCheckpointHeldFrames = 30 then
        ({ s with nCheckpointHeldFrames := s.nCheckpointHeldFrames + 1 }, false)
      else (s, false)
    else ({ s.did .released with nCheckpointHeldFrames := 0 }, false)
  else (s, false)

/-- The frame goes through GGPO: a battle that has left idle once stays in the timeline. -/
def tracked (s : BattleLoop) : Bool :=
  s.ggpo && (s.currentBattleFlow ≠ .idle || s.bGgpoDuringIdle && s.bMatchLeftIdle)

def leaveIdle (s : BattleLoop) : BattleLoop :=
  let s := if s.ggpo && s.currentBattleFlow ≠ .idle then { s with bMatchLeftIdle := true } else s
  if s.ggpo && s.currentBattleFlow = .idle && s.bGgpoDuringIdle && s.bMatchLeftIdle then
    { s with nIdleFramesInTimeline := s.nIdleFramesInTimeline + 1 }
  else s

/-- The game goes on without GGPO. -/
def untrackedFrame (s : BattleLoop) (flow : BattleFlow) : BattleLoop :=
  let s := s.simulate (.untracked s.ggpo) s.currentBattleFlow flow
  if s.ggpo then { s with nUntrackedIdleFrames := s.nUntrackedIdleFrames + 1 } else s

/-- `n` frames of the overlay's recording, from frame `i` on. -/
def forwardFrames (s : BattleLoop) (flows : ℕ → BattleFlow) (i : ℕ) : ℕ → BattleLoop
  | 0 => s
  | n + 1 =>
    let s := { s with pad := { s.pad with playbackFrame := i } }
    (s.simulate .forwarded s.currentBattleFlow (flows i)).forwardFrames flows (i + 1) n

def forward (s : BattleLoop) (flows : ℕ → BattleFlow) : BattleLoop :=
  if s.nExtraFramesToSimulate > 0 then
    { (s.forwardFrames flows 0 s.nExtraFramesToSimulate).stopPlayBack with nExtraFramesToSimulate := 0 }
  else s

/-- Who has more life left has won. -/
def winnerOf (vit : Sides ℤ) : ℤ := if vit.s0 > vit.s1 then 0 else if vit.s1 > vit.s0 then 1 else -1

def reportFlow (s : BattleLoop) (vit : Sides ℤ) : BattleLoop :=
  if s.lastFlow = some s.currentBattleFlow then s
  else
    let decided := s.currentBattleFlow = .matchOver || s.currentBattleFlow = .matchResult
    let s := if s.ggpo && !s.syncTestActive && decided then s.did (.matchResult (winnerOf vit)) else s
    { s with lastFlow := some s.currentBattleFlow }

def halt (s : BattleLoop) : BattleLoop :=
  if s.bHaltAfterNext then { s with bHaltAfterNext := false, bUpdateAllowed := false } else s

/-- `BattleUpdate`, from where it no longer returns early. -/
def advance (s : BattleLoop) (t : Frame) : BattleLoop :=
  let s := s.leaveIdle
  let s := if s.tracked then s.trackedFrame t else s.untrackedFrame t.flow
  ((s.forward t.forward).reportFlow t.vit).halt

/-- `BattleUpdate`. -/
def battleUpdate (s : BattleLoop) (t : Frame) : BattleLoop :=
  let s := s.watchdog t.tickCount
  if !s.bUpdateAllowed then s
  else
    let s := if s.ggpo && !s.syncTestActive then s.serve t.idle else s
    let (s, held) := s.checkpoint t.unconfirmedDepth
    if held then s
    else if s.ggpo && s.nFramesToSkip > 0 then { s.did .skipped with nFramesToSkip := s.nFramesToSkip - 1 }
    else s.advance t

/-! ### Sessions -/

/-- `ggpo_add_player` for one of the two sides. -/
def addPlayer (s : BattleLoop) (side : Side) (type : GGPOPlayerType) (frameDelay : ℤ) (result : GGPOErrorCode)
    (handle : ℤ) : BattleLoop × Bool :=
  let s := { s with players := s.players.set side type }
  if result ≠ .ok then (s, false)
  else if type = .localPlayer then ({ s.did (.delayed side frameDelay) with localPlayerHandle := some handle }, true)
  else (s, true)

/-- The player list of a match: the two sides, in order. -/
def listReady (inPlayers : List (GGPOPlayerType × ℤ)) : Option (Sides GGPOPlayerType) :=
  match inPlayers with
  | (type0, num0) :: (type1, num1) :: _ =>
    if num0 = 1 && num1 = 2 && type0 ≠ .spectator && type1 ≠ .spectator then some ⟨type0, type1⟩ else none
  | _ => none

/-- `StartGGPO`. -/
def startGGPO (s : BattleLoop) (inPlayers : List (GGPOPlayerType × ℤ)) (frameDelay : ℤ) (pacing : Bool)
    (tickCount : UInt32) (session : GGPOErrorCode) (added : Sides (GGPOErrorCode × ℤ)) : BattleLoop :=
  let s := { s with pacerEnabled := pacing, bPredictionStalled := false }
  let frameDelay := if frameDelay < 1 then 1 else frameDelay
  let s := if s.bSoakTest then { s with nRandomizeLocalInputsEveryXFramesInGGPO := 8 } else s
  match listReady inPlayers with
  | none => s.abortMatchStart
  | some types =>
    let s := { s with ggpoStartTick := tickCount, ggpoReachedRunning := false }
    if session ≠ .ok then s.abortMatchStart
    else
      let s := { s with ggpo := true }
      let (s, first) := s.addPlayer 0 types.s0 frameDelay added.s0.1 added.s0.2
      if !first then { s with ggpo := false }.abortMatchStart
      else
        let (s, second) := s.addPlayer 1 types.s1 frameDelay added.s1.1 added.s1.2
        if !second then { s with ggpo := false }.abortMatchStart
        else { s.did .started with bUpdateAllowed := false }

/-- `StartSpectating`. -/
def startSpectating (s : BattleLoop) (session : GGPOErrorCode) : BattleLoop :=
  { s.did .spectating with
    pacerEnabled := false
    bPredictionStalled := false
    localPlayerHandle := none
    players := ⟨.spectator, .spectator⟩
    spectatorStarvedSince := 0
    ggpo := s.ggpo || session = .ok
    bUpdateAllowed := false }

/-- `StartSyncTest`. -/
def startSyncTest (s : BattleLoop) (session : GGPOErrorCode) (added : Sides (GGPOErrorCode × ℤ)) : BattleLoop :=
  if session ≠ .ok then { s with ggpo := false }
  else
    let handleOf (reply : GGPOErrorCode × ℤ) := if reply.1 = .ok then some reply.2 else none
    { s.did .started with
      ggpo := true
      localPlayerHandle := handleOf added.s0 <|> handleOf added.s1
      players := ⟨.localPlayer, .localPlayer⟩
      syncTestActive := true
      nRandomizeLocalInputsEveryXFramesInGGPO :=
        if s.syncTestSoak then 8 else s.nRandomizeLocalInputsEveryXFramesInGGPO
      bUpdateAllowed := false }

/-- `CloseBattle`. The idle frames are counted up to here if there is a session or a sync test. -/
def closeBattle (s : BattleLoop) : BattleLoop :=
  let counted := s.ggpo || s.syncTestActive
  { s.did (.closed counted) with
    nIdleFramesInTimeline := if counted then 0 else s.nIdleFramesInTimeline
    nUntrackedIdleFrames := if counted then 0 else s.nUntrackedIdleFrames
    bPredictionStalled := if s.ggpo then false else s.bPredictionStalled
    ggpo := false
    bMatchLeftIdle := false
    nFramesToSkip := 0
    syncTestActive := false }

/-- Before the first match. `SF4E_GGPO_IDLE`, `SF4E_ROUND_CHECKPOINT` and the soak runs are set by
the environment. -/
def new (bGgpoDuringIdle bRoundCheckpoint bSoakTest syncTestSoak : Bool) : BattleLoop where
  ggpo := false
  localPlayerHandle := none
  players := ⟨.spectator, .spectator⟩
  bUpdateAllowed := true
  bHaltAfterNext := false
  nExtraFramesToSimulate := 0
  nFramesToSkip := 0
  bRoundCheckpoint
  nCheckpointHeldFrames := 0
  bGgpoDuringIdle
  bMatchLeftIdle := false
  nIdleFramesInTimeline := 0
  nUntrackedIdleFrames := 0
  syncTestActive := false
  syncTestSoak
  bSoakTest
  nRandomizeLocalInputsEveryXFramesInGGPO := 0
  nLastRandomInputFrame := -1
  randomInputs := Pad.noInputs
  pacerEnabled := false
  bPredictionStalled := false
  spectatorStarvedSince := 0
  ggpoStartTick := 0
  ggpoReachedRunning := false
  bGgpoAssertAbort := false
  leaving := false
  currentBattleFlow := .idle
  lastFlow := none
  pad := .new
  log := []

end BattleLoop

/-! ## Everything that happens to it -/

/-- `idle` is the `ggpo_idle` of `Steam_PostUpdate`; the game sets the flow outside of the update as
well; the last ones are the lobby's and the overlay's. -/
inductive BattleAct where
  | battleUpdate (t : Frame)
  | idle (served : List Callback)
  | startGGPO (inPlayers : List (GGPOPlayerType × ℤ)) (frameDelay : ℤ) (pacing : Bool) (tickCount : UInt32)
      (session : GGPOErrorCode) (added : Sides (GGPOErrorCode × ℤ))
  | startSpectating (session : GGPOErrorCode)
  | startSyncTest (session : GGPOErrorCode) (added : Sides (GGPOErrorCode × ℤ))
  | closeBattle
  | setBattleFlow (flow : BattleFlow)
  | enterGame (leaving : Bool)
  | suppress (bSuppressGameInput : Bool)
  | allow (bUpdateAllowed : Bool)
  | haltAfterNext
  | simulate (nExtraFramesToSimulate : ℤ)
  | edit (frame : ℕ) (inputs : Sides Inputs)

/-- The battle, one call at a time. -/
def battle : Machine BattleLoop BattleAct Unit where
  next s
    | .battleUpdate t => (s.battleUpdate t, [])
    | .idle served => (if s.ggpo then s.serve served else s, [])
    | .startGGPO inPlayers frameDelay pacing tickCount session added =>
      (s.startGGPO inPlayers frameDelay pacing tickCount session added, [])
    | .startSpectating session => (s.startSpectating session, [])
    | .startSyncTest session added => (s.startSyncTest session added, [])
    | .closeBattle => (s.closeBattle, [])
    | .setBattleFlow flow => ({ s with currentBattleFlow := flow }, [])
    | .enterGame leaving => ({ s with leaving }, [])
    | .suppress bSuppressGameInput => ({ s with pad := { s.pad with bSuppressGameInput } }, [])
    | .allow bUpdateAllowed => ({ s with bUpdateAllowed }, [])
    | .haltAfterNext => ({ s with bHaltAfterNext := true }, [])
    | .simulate n => ({ s with nExtraFramesToSimulate := (max 1 (min n Pad.PLAYBACK_MAX)).toNat }, [])
    | .edit frame inputs => ({ s with pad := { s.pad with playbackData := s.pad.playbackData.set frame inputs } }, [])

namespace Sample

/-- A frame at this time, with this answer of GGPO's. -/
def frameAt (now : UInt64) (synchronize : Synchronized) : Frame where
  tickCount := 0
  tickCount64 := now
  idle := []
  unconfirmedDepth := none
  numFramesSimulated := 0
  device := Pad.noInputs
  soakInputs := Pad.noInputs
  rolledInputs := Pad.noInputs
  addLocalInput := ⟨⟨[], .ok⟩, ⟨[], .ok⟩⟩
  synchronize
  flow := .fight
  advance := ⟨[], .ok⟩
  extra := []
  forward _ := .fight
  vit := ⟨0, 0⟩

end Sample

end Sf4e.Battle
