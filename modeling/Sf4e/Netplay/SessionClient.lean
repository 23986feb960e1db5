import Sf4e.Session.Step
/-!
# The session client and the lobby screen

`sf4e__SessionClient`, and what `sf4e__Lobby`, `sf4e__UserApp` and
`sf4e__GameEvents` do around a match, on one PC with a session and the lobby
open. The connection is reliable, so a send succeeds. Direct play and the soak
test are left out.
-/
open Sf4e.Lib Sf4e.Session

namespace Sf4e.Netplay

/-! ## Data -/

/-- A message from the client on its way. `battle` is the battle it was sent in
or after, which no code reads. -/
structure Up where
  msg : ClientMsg
  number : Nat
  battle : Nat

/-- A message from the server on its way. `battle` is the battle of the message
it passes on, or the number of calls so far, which no code reads. -/
structure Down where
  msg : ServerMsg
  battle : Nat

/-- One PC. `conn` is its connection's handle at the server. `battle` is the
number of the call that began the latest battle, which no code reads. -/
structure SessionClient where
  conn : Conn
  sidecarHash : Bytes
  name : Bytes
  ggpoPort : UInt16
  joinSecret : Bytes
  spectator : Bool
  connected : Bool
  cid : ConnectionID
  lobbyData : LobbyData
  matchData : MatchData
  outstandingReadyRequestNumber : Int
  messagesSent : Nat
  desyncReported : Bool
  bDesyncAbort : Bool
  sentReady : Bool
  hiddenForBattle : Bool
  hasResult : Bool
  resultWinner : Int32
  mySideAtResult : Int
  onMainMenu : Bool
  bSessionSentLoaded : Bool
  bSessionSynced : Bool
  battle : Nat

/-- What the player has chosen on the lobby screen, with the pings and the
random number taken when READY is pressed. -/
structure Choices where
  cond : CharaConditions
  stage : Int32
  rngSeed : UInt32
  delay : Int32
  serverPingMs : Int32
  directRoundTripMs : Int32

/-! ## What a client is told about its match -/

def sanitizeCharaConditions (c : CharaConditions) : CharaConditions :=
  { c with
    charaID := if c.charaID ≥ CHARA_COUNT then 0 else c.charaID
    costume := if c.costume ≥ COSTUME_COUNT then 0 else c.costume
    color := if c.color ≥ COLOR_COUNT then 0 else c.color
    ultraCombo := if c.ultraCombo ≥ ULTRA_COUNT then 0 else c.ultraCombo
    handicap := 0 }

theorem sanitizeCharaConditions_valid (c : CharaConditions) :
    charaConditionsValid (sanitizeCharaConditions c) = true := by
  have hcap : ∀ x n : UInt8, 0 < n → (if x ≥ n then 0 else x) < n := by
    intro x n hn
    split
    · exact hn
    · rename_i h
      exact UInt8.not_le.1 h
  have hchara := hcap c.charaID CHARA_COUNT (by decide)
  have hcostume := hcap c.costume COSTUME_COUNT (by decide)
  have hcolor := hcap c.color COLOR_COUNT (by decide)
  have hultra := hcap c.ultraCombo ULTRA_COUNT (by decide)
  simp only [charaConditionsValid, Bool.and_eq_true, decide_eq_true_iff]
  exact ⟨⟨⟨⟨hchara, hcostume⟩, hcolor⟩, hultra⟩, rfl⟩

/-- The identities of the players in an update, in the order of the seats. -/
def seating (l : LobbyData) : List ConnectionID := (l.members.filter fun m => !m.spectator).map (·.connId)

namespace SessionClient

/-- `MySide`. -/
def mySide (c : SessionClient) : Int :=
  if c.spectator then -1
  else match (seating c.lobbyData).findIdx? (· = c.cid) with
    | some n => n
    | none => -1

/-! ## Sending -/

def sendAll (c : SessionClient) (msgs : List ClientMsg) : SessionClient × List Up :=
  ({ c with messagesSent := c.messagesSent + msgs.length },
    msgs.zipIdx.map fun (msg, i) => ⟨msg, c.messagesSent + 1 + i, c.battle⟩)

/-- `SendReady`, from the lobby screen. -/
def sendReady (c : SessionClient) (o : Choices) : SessionClient × List Up :=
  if c.sentReady then (c, [])
  else
    let msgs := [.setChara (some o.cond)] ++
      (if c.mySide = 0 then [.setEnv (some o.rngSeed), .setStage (some o.stage)] else []) ++
      [.lobbyReady (some ⟨o.delay, true, o.serverPingMs, o.directRoundTripMs⟩)]
    { c with sentReady := true, outstandingReadyRequestNumber := c.messagesSent + msgs.length }.sendAll msgs

/-- The B button on the lobby screen takes a ready back. -/
def takeReadyBack (c : SessionClient) : SessionClient × List Up :=
  if c.sentReady then
    { c with sentReady := false }.sendAll [.lobbyReady (some { LobbyReady.default with ready := false })]
  else (c, [])

def onMatchResult (c : SessionClient) (winnerSide : Int32) : SessionClient :=
  { c with hasResult := true, resultWinner := winnerSide, mySideAtResult := c.mySide }

/-- The side that is reported as the loser; a draw is reported as P2 losing. -/
def loserSide (c : SessionClient) : Int32 := if c.hasResult && c.resultWinner ≥ 0 then 1 - c.resultWinner else 1

/-- `Lobby::Draw`, up to the return from a battle. Only side 0 reports. -/
def draw (c : SessionClient) : SessionClient × List Up :=
  if !c.onMainMenu then ({ c with hiddenForBattle := true }, [])
  else if c.hiddenForBattle then
    { c with
      hiddenForBattle := false
      sentReady := false
      hasResult := false
      bDesyncAbort := false }.sendAll (if c.mySide = 0 then [.reportResults (some c.loserSide)] else [])
  else (c, [])

/-- `HasInitialized` of the battle event: the load is reported once. -/
def hasInitialized (c : SessionClient) : SessionClient × List Up :=
  if c.bSessionSentLoaded then (c, []) else { c with bSessionSentLoaded := true }.sendAll [.battleLoaded]

/-- The battle event leaves the foreground and the main menu is back. -/
def exitForeground (c : SessionClient) : SessionClient :=
  { c with bSessionSentLoaded := false, bSessionSynced := false, onMainMenu := true }

/-! ## Desyncs -/

/-- `ReportDesync`; the diff is cut at 700 bytes. -/
def reportDesync (c : SessionClient) (r : DesyncReport) : SessionClient × List Up :=
  if c.desyncReported || !c.connected then (c, [])
  else { c with desyncReported := true }.sendAll [.desyncReport (some { r with diff := r.diff.take 700 })]

/-- `AbortForDesync`. The game leaves its battle, if it is in one. -/
def abortForDesync (c : SessionClient) : SessionClient × Bool := ({ c with bDesyncAbort := true }, !c.onMainMenu)

/-- `HandleDesync`, for two snapshots that differ as `r` says. A difference that
is not one of gameplay is only logged. -/
def handleDesync (c : SessionClient) (r : DesyncReport) : SessionClient × List Up × Bool :=
  if r.gameplay then
    let (c, sent) := c.reportDesync r
    let (c, leave) := c.abortForDesync
    (c, sent, leave)
  else (c, [], false)

/-! ## Receiving -/

/-- `OnReady`: only the main menu can go into a battle. -/
def onReady (c : SessionClient) (battle : Nat) : SessionClient :=
  if c.onMainMenu then { c with onMainMenu := false, battle } else c

/-- The data update; an answered ready is no longer outstanding. -/
def onDataUpdate (c : SessionClient) (lobbyData : LobbyData) (matchData : MatchData) : SessionClient :=
  let matchData := { matchData with
    chara := ⟨sanitizeCharaConditions matchData.chara.s0, sanitizeCharaConditions matchData.chara.s1⟩
    stageID := if matchData.stageID ≠ -1 && !stageIDValid matchData.stageID then 0 else matchData.stageID }
  let c := { c with lobbyData, matchData }
  if c.outstandingReadyRequestNumber > -1 then
    match (lobbyData.members.take 2).findIdx? (·.name = c.name) with
    | some 0 =>
      if matchData.readyMessageNum.s0 = c.outstandingReadyRequestNumber then
        { c with outstandingReadyRequestNumber := -1 }
      else c
    | some 1 =>
      if matchData.readyMessageNum.s1 = c.outstandingReadyRequestNumber then
        { c with outstandingReadyRequestNumber := -1 }
      else c
    | _ => c
  else c

/-- One message in `SessionClient::Step`: the client, what it sends, and whether
it is told to leave its battle. A rejected client's session is deleted. -/
def receive (c : SessionClient) (d : Down) : SessionClient × List Up × Bool :=
  match d.msg with
  | .helloResp cid =>
    let (c, sent) := { c with cid }.sendAll
      [.joinReq (some ⟨c.sidecarHash, c.name, c.ggpoPort, c.spectator, c.joinSecret⟩)]
    (c, sent, false)
  | .joinReject _ => ({ c with connected := false }, [], false)
  | .dataUpdate lobbyData matchData => (c.onDataUpdate lobbyData matchData, [], false)
  | .lobbyAllReady => (c.onReady d.battle, [], false)
  | .battleSynced => ({ c with bSessionSynced := true }, [], false)
  | .desyncReport _ =>
    if c.bDesyncAbort then (c, [], false)
    else
      let (c, leave) := c.abortForDesync
      (c, [], leave)
  | .directPeer _ => (c, [], false)
  | .forwarded _ => (c, [], false)

end SessionClient

/-! ## One PC -/

/-- What happens on a PC, apart from the messages it receives. -/
inductive Doing where
  | draw
  | ready (o : Choices)
  | takeReadyBack
  | matchResult (winnerSide : Int32)
  | hasInitialized
  | exitForeground
  | snapshot (data : Bytes)
  | desync (r : DesyncReport)

/-- What a PC finds out about its battle: that the games' states differ, and
that it has to leave. -/
inductive Told where
  | found (battle : Nat)
  | leave (battle : Nat)
  deriving DecidableEq

namespace SessionClient

/-- The lobby screen takes input once the return from a battle is handled. -/
def onLobbyScreen (c : SessionClient) : Bool := c.onMainMenu && !c.hiddenForBattle

/-- Snapshots, results and the load report are made in a battle only. -/
def doing (c : SessionClient) : Doing → SessionClient × List Up × List Told
  | .draw => (c.draw.1, c.draw.2, [])
  | .ready o => if c.onLobbyScreen then ((c.sendReady o).1, (c.sendReady o).2, []) else (c, [], [])
  | .takeReadyBack => if c.onLobbyScreen then (c.takeReadyBack.1, c.takeReadyBack.2, []) else (c, [], [])
  | .matchResult winnerSide => if c.onMainMenu then (c, [], []) else (c.onMatchResult winnerSide, [], [])
  | .hasInitialized => if c.onMainMenu then (c, [], []) else (c.hasInitialized.1, c.hasInitialized.2, [])
  | .exitForeground => if c.onMainMenu then (c, [], []) else (c.exitForeground, [], [])
  | .snapshot data =>
    if c.onMainMenu then (c, [], [])
    else
      let (c, sent) := c.sendAll [.battleSnapshot data]
      (c, sent, [])
  | .desync r =>
    if c.onMainMenu then (c, [], [])
    else
      let (c', sent, leave) := c.handleDesync r
      (c', sent, (if r.gameplay then [.found c.battle] else []) ++ if leave then [.leave c.battle] else [])

/-- A PC whose session is deleted sends and receives nothing. -/
def perform (c : SessionClient) (d : Doing) : SessionClient × List Up × List Told :=
  if c.connected then c.doing d else (c, [], [])

/-! ## What stays the same -/

/-- Who the client is at the server, and that it is there to play. -/
def badge (c : SessionClient) : Conn × ConnectionID × Bool × Bool := (c.conn, c.cid, c.spectator, c.connected)

theorem sendAll_msgs (c : SessionClient) (msgs : List ClientMsg) : (c.sendAll msgs).2.map (·.msg) = msgs := by
  simp only [sendAll, List.map_map]
  calc msgs.zipIdx.map ((·.msg) ∘ fun (msg, i) => (⟨msg, c.messagesSent + 1 + i, c.battle⟩ : Up))
      = msgs.zipIdx.map Prod.fst := List.map_congr_left fun _ _ => rfl
    _ = msgs := List.zipIdx_map_fst 0 msgs

theorem perform_keeps (c : SessionClient) (d : Doing) :
    (c.perform d).1.badge = c.badge ∧ (c.perform d).1.lobbyData = c.lobbyData := by
  unfold perform
  split
  · cases d <;>
      simp only [doing, draw, sendReady, takeReadyBack, hasInitialized, handleDesync, reportDesync,
        abortForDesync, sendAll] <;>
      (repeat' split) <;> exact ⟨rfl, rfl⟩
  · exact ⟨rfl, rfl⟩

end SessionClient

end Sf4e.Netplay
