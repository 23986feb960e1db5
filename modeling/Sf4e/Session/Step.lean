import Sf4e.Session.Server
import Sf4e.Lib.Machine
/-!
# `SessionServer::Step`

One function per message branch, then the end of the Step. `step` is a whole
call; `sessionServer` is the same code one message at a time, as a machine.
-/
open Sf4e.Lib

namespace Sf4e.Session

/-- `ISteamNetworkingMessage`; `tick` is what the clock and the random device
give while the message is handled. -/
structure IncomingMsg where
  conn : Conn
  msg : ClientMsg
  messageNumber : Nat
  peerAddr : PeerAddr
  tick : Tick

/-- The server inside a Step, with the two flags local to it. -/
structure Stepping where
  server : SessionServer
  bSendLobbyAllReady : Bool
  bSendBattleSynced : Bool
  deriving DecidableEq

namespace SessionServer

/-! ## The branches -/

/-- The identity `hello` assigns. -/
def cidOf (s : SessionServer) (conn : Conn) : ConnectionID := ⟨s.identity, toDecimal conn.toNat⟩

def onHello (s : SessionServer) (conn : Conn) : SessionServer × List Out :=
  ({ s with cidMap := s.cidMap.insert conn (s.cidOf conn) }, [.respond conn (.helloResp (s.cidOf conn))])

def onForward (s : SessionServer) (conn : Conn) (msg : Json) (fwd : Option ForwardMessage) : List Out :=
  match fwd with
  | none => []
  | some fwd =>
    if fwd.src.host = s.identity && fwd.src.user ≠ toDecimal conn.toNat then []
    else if s.clients.any fun m => m.data.connId = fwd.dest then [.respond conn (.forwarded msg)]
    else []

def onJoinRequest (s : SessionServer) (m : IncomingMsg) (cid : ConnectionID)
    (request : Option SessionJoinRequest) : SessionServer × List Out :=
  match request with
  | none => (s, [.respond m.conn (.joinReject .requestInvalid)])
  | some request =>
    match s.registerToWait m.conn request m.peerAddr cid with
    | .error reason => (s, [.respond m.conn (.joinReject reason)])
    | .ok s' => ({ s' with dataDirty := true }, [])

def onSetChara (s : SessionServer) (conn : Conn) (request : Option CharaConditions) : SessionServer :=
  match s.sideOf conn, request with
  | some (side, member), some chara =>
    if charaConditionsValid chara then
      { s with
        matchData := { s.matchData with chara := s.matchData.chara.set side chara }
        charaOwner := s.charaOwner.set side member.data.connId
        dataDirty := true }
    else s
  | _, _ => s

/-- One of the first `PlayerCount()` entries belongs to the sender. -/
def fromPlayer (s : SessionServer) (conn : Conn) : Bool :=
  (s.clients.take s.playerCount).any fun m => m.conn = conn

def onDesyncReport (s : SessionServer) (conn : Conn) (report : Option DesyncReport) (tick : Tick) :
    SessionServer × List Out :=
  match report with
  | none => (s, [])
  | some report =>
    if !s.fromPlayer conn || s.desyncReports ≥ 20 then (s, [])
    else
      let report := { report with diff := report.diff.take 512 }
      let others := s.clients.filter fun other => other.conn ≠ conn && other.conn ≠ k_HSteamNetConnection_Invalid
      ({ s with desyncReports := s.desyncReports + 1 },
        .logStat (.desync report) tick.time :: others.map fun other => .respond other.conn (.desyncReport report))

def onDirectOffer (s : SessionServer) (conn : Conn) (offer : Option DirectOffer) (tick : Tick) :
    SessionServer × List Out :=
  match s.sideOf conn, offer with
  | some (side, _), some offer =>
    maybeExchangeDirectEndpoints
      { s with
        directExchanged := false
        clients := s.clients.modify side.val fun m => { m with direct := offer } } tick
  | _, _ => (s, [])

def onSetEnv (s : SessionServer) (conn : Conn) (rngSeed : Option UInt32) : SessionServer :=
  match s.sideOf conn, rngSeed with
  | some (0, _), some rngSeed => { s with matchData := { s.matchData with rngSeed }, dataDirty := true }
  | _, _ => s

def onSetStage (s : SessionServer) (conn : Conn) (stageID : Option Int32) : SessionServer :=
  match s.sideOf conn, stageID with
  | some (0, _), some stageID =>
    if stageIDValid stageID.toInt then
      { s with matchData := { s.matchData with stageID := stageID.toInt }, dataDirty := true }
    else s
  | _, _ => s

def markLoaded (conn : Conn) (m : SessionMember) : SessionMember :=
  if m.conn = conn then { m with data := { m.data with battleLoaded := true } } else m

/-- Every player's flag is set: only the players gate the start. -/
def allLoaded (s : SessionServer) : Bool := s.clients.all fun m => m.data.spectator || m.data.battleLoaded

def onBattleLoaded (s : SessionServer) (conn : Conn) : SessionServer :=
  { s with clients := s.clients.map (markLoaded conn), dataDirty := true }

/-- Back to not ready, unless the match is already starting. -/
def onUnready (s : SessionServer) (side : Side) : SessionServer :=
  if s.matchData.isAllReady then s
  else
    { s with
      matchData := { s.matchData with
        readyMessageNum := s.matchData.readyMessageNum.set side (-1)
        inputDelay := s.matchData.inputDelay.set side (-1) }
      readyRequest := s.readyRequest.set side .default
      dataDirty := true }

def markReady (s : SessionServer) (side : Side) (messageNumber : Nat) (request : LobbyReady) : SessionServer :=
  { s with
    matchData := { s.matchData with
      readyMessageNum := s.matchData.readyMessageNum.set side messageNumber
      inputDelay := s.matchData.inputDelay.set side request.inputDelay }
    readyRequest := s.readyRequest.set side request
    dataDirty := true }

/-- Both seats play at the shared delay once both are ready. -/
def stampDelay (s : SessionServer) : SessionServer :=
  if s.matchData.isAllReady then
    let shared := sharedInputDelay s.readyRequest
    { s with matchData := { s.matchData with inputDelay := ⟨shared, shared⟩ } }
  else s

def onReady (s : SessionServer) (side : Side) (messageNumber : Nat) (request : LobbyReady) : SessionServer :=
  (s.markReady side messageNumber request).stampDelay

def onReportResults (s : SessionServer) (loserSide : Option Int32) (tick : Tick) : SessionServer × List Out :=
  match loserSide with
  | none => (s, [])
  | some loserSide =>
    let (s, out) := s.handleResults loserSide.toInt tick
    ({ s with dataDirty := true }, out)

/-- A spectator's state must never end a players' match. -/
def onBattleSnapshot (s : SessionServer) (conn : Conn) (data : Bytes) : List Out :=
  if s.clients.any fun m => m.conn = conn && m.data.spectator then []
  else (s.clients.filter fun m => m.conn ≠ conn).map fun m => .relay m.conn data

end SessionServer

/-! ## A message -/

/-- A branch that leaves the flags of the Step alone. -/
def Stepping.serve (p : Stepping) (r : SessionServer × List Out) : Stepping × List Out :=
  ({ p with server := r.1 }, r.2)

/-- The LobbyReady branch. -/
def Stepping.lobbyReady (p : Stepping) (m : IncomingMsg) (request : Option LobbyReady) : Stepping :=
  match p.server.sideOf m.conn, request with
  | some (side, _), some request =>
    if request.ready then
      let s := p.server.onReady side m.messageNumber request
      { p with server := s, bSendLobbyAllReady := p.bSendLobbyAllReady || s.matchData.isAllReady }
    else { p with server := p.server.onUnready side }
  | _, _ => p

/-- The BATTLE_LOADED branch. -/
def Stepping.battleLoaded (p : Stepping) (m : IncomingMsg) : Stepping :=
  let s := p.server.onBattleLoaded m.conn
  { p with server := s, bSendBattleSynced := s.allLoaded }

/-- A message from a connection that `hello` has given the identity `cid`. -/
def handleKnown (p : Stepping) (m : IncomingMsg) (cid : ConnectionID) : Stepping × List Out :=
  match m.msg with
  | .forward msg fwd => p.serve (p.server, p.server.onForward m.conn msg fwd)
  | .joinReq request => p.serve (p.server.onJoinRequest m cid request)
  | .setChara request => p.serve (p.server.onSetChara m.conn request, [])
  | .desyncReport report => p.serve (p.server.onDesyncReport m.conn report m.tick)
  | .directOffer offer => p.serve (p.server.onDirectOffer m.conn offer m.tick)
  | .setEnv rngSeed => p.serve (p.server.onSetEnv m.conn rngSeed, [])
  | .setStage stageID => p.serve (p.server.onSetStage m.conn stageID, [])
  | .battleLoaded => (p.battleLoaded m, [])
  | .lobbyReady request => (p.lobbyReady m request, [])
  | .reportResults loserSide => p.serve (p.server.onReportResults loserSide m.tick)
  | .battleSnapshot data => p.serve (p.server, p.server.onBattleSnapshot m.conn data)
  | .notJson => (p, [])
  | .untyped => (p, [])
  | .hello => (p, [])
  | .unrecognized => (p, [])

def handleMessage (p : Stepping) (m : IncomingMsg) : Stepping × List Out :=
  match p.server.cidMap.find m.conn with
  | some cid => handleKnown p m cid
  | none =>
    match m.msg with
    | .hello => p.serve (p.server.onHello m.conn)
    | _ => (p, [])

/-! ## The branches that leave the room alone -/

namespace SessionServer

/-- Only the match, what the players asked for it, the count of reports and the mark for an update may differ. -/
def SameRoom (s s' : SessionServer) : Prop :=
  ∃ matchData charaOwner readyRequest desyncReports dataDirty,
    s' = { s with
      matchData := matchData
      charaOwner := charaOwner
      readyRequest := readyRequest
      desyncReports := desyncReports
      dataDirty := dataDirty }

theorem SameRoom.refl (s : SessionServer) : SameRoom s s := ⟨_, _, _, _, _, rfl⟩

/-- What does not read these fields is kept. -/
theorem SameRoom.keeps {α : Type} {s s' : SessionServer} {f : SessionServer → α} (h : SameRoom s s')
    (hf : ∀ matchData charaOwner readyRequest desyncReports dataDirty,
      f { s with
        matchData := matchData
        charaOwner := charaOwner
        readyRequest := readyRequest
        desyncReports := desyncReports
        dataDirty := dataDirty } = f s) : f s' = f s := by
  obtain ⟨_, _, _, _, _, rfl⟩ := h
  exact hf _ _ _ _ _

theorem setChara_room (s : SessionServer) (conn : Conn) (request : Option CharaConditions) :
    SameRoom s (s.onSetChara conn request) := by
  unfold onSetChara
  repeat' split
  · exact ⟨_, _, _, _, _, rfl⟩
  · exact .refl s
  · exact .refl s

theorem desyncReport_room (s : SessionServer) (conn : Conn) (report : Option DesyncReport) (tick : Tick) :
    SameRoom s (s.onDesyncReport conn report tick).1 := by
  unfold onDesyncReport
  repeat' split
  · exact .refl s
  · exact .refl s
  · exact ⟨_, _, _, _, _, rfl⟩

theorem setEnv_room (s : SessionServer) (conn : Conn) (rngSeed : Option UInt32) :
    SameRoom s (s.onSetEnv conn rngSeed) := by
  unfold onSetEnv
  split
  · exact ⟨_, _, _, _, _, rfl⟩
  · exact .refl s

theorem setStage_room (s : SessionServer) (conn : Conn) (stageID : Option Int32) :
    SameRoom s (s.onSetStage conn stageID) := by
  unfold onSetStage
  repeat' split
  · exact ⟨_, _, _, _, _, rfl⟩
  · exact .refl s
  · exact .refl s

theorem unready_room (s : SessionServer) (side : Side) : SameRoom s (s.onUnready side) := by
  unfold onUnready
  split
  · exact .refl s
  · exact ⟨_, _, _, _, _, rfl⟩

theorem ready_room (s : SessionServer) (side : Side) (messageNumber : Nat) (request : LobbyReady) :
    SameRoom s (s.onReady side messageNumber request) := by
  unfold onReady stampDelay
  split
  · exact ⟨_, _, _, _, _, rfl⟩
  · exact ⟨_, _, _, _, _, rfl⟩

end SessionServer

theorem Stepping.lobbyReady_room (p : Stepping) (m : IncomingMsg) (request : Option LobbyReady) :
    p.server.SameRoom (p.lobbyReady m request).server := by
  unfold lobbyReady
  repeat' split
  · exact p.server.ready_room _ m.messageNumber _
  · exact p.server.unready_room _
  · exact .refl p.server

/-! ## The end of a Step -/

namespace SessionServer

def updateMsg (s : SessionServer) : ServerMsg :=
  .dataUpdate { s.lobbyData with members := s.clients.map (·.data) } s.matchData

def broadcast (s : SessionServer) (msg : ServerMsg) : Out := .broadcast (s.clients.map (·.conn)) msg

def sendUpdate (s : SessionServer) : SessionServer × List Out :=
  if s.dataDirty then ({ s with dataDirty := false }, [s.broadcast s.updateMsg]) else (s, [])

/-- The spectators in the room are the ones P1 will wait for. -/
def callSpectators (s : SessionServer) : SessionServer :=
  { s with
    clients := s.clients.map fun m =>
      if m.data.spectator then { m with data := { m.data with watching := true } } else m }

def sendAllReady (s : SessionServer) (tick : Tick) : SessionServer × List Out :=
  let s := s.callSpectators
  let unreported :=
    if s.matchStartMs ≠ 0 then
      [.logStat (.matchEnd (wholeSeconds (tick.nowMs - s.matchStartMs)) s.spectatorCount false) tick.time]
    else []
  ({ s with matchStartMs := tick.nowMs },
    [s.broadcast s.updateMsg, s.broadcast .lobbyAllReady] ++ unreported ++
      [.logStat (.matchStart s.playerCount s.spectatorCount) tick.time])

end SessionServer

/-- What `Step` does after the last message. -/
def finishStep (p : Stepping) (tick : Tick) : Stepping × List Out :=
  let (s, peers) := p.server.dropCharaFromVacatedSeats.maybeExchangeDirectEndpoints tick
  let (s, update) := s.sendUpdate
  let (s, ready) := if p.bSendLobbyAllReady then s.sendAllReady tick else (s, [])
  let synced := if p.bSendBattleSynced then [s.broadcast .battleSynced] else []
  (⟨s, false, false⟩, peers ++ update ++ ready ++ synced)

/-- `Step`, with the messages the poll returned. -/
def SessionServer.step (s : SessionServer) (msgs : List IncomingMsg) (tick : Tick) : SessionServer × List Out :=
  let (p, out) := msgs.foldl
    (fun (p, out) m =>
      let (p, more) := handleMessage p m
      (p, out ++ more))
    ((⟨s, false, false⟩ : Stepping), [])
  let (p, more) := finishStep p tick
  (p.server, out ++ more)

/-! ## Everything that can happen -/

/-- What happens between Steps: connection callbacks and calls of the host. -/
inductive Event where
  | connecting (conn : Conn) (ip : UInt32) (acceptOk : Bool)
  | closed (conn : Conn) (wasConnected : Bool)
  | create (hash secret : Bytes) (isPublic : Bool)
  | release
  | resetBattleSync

def SessionServer.host (s : SessionServer) : Event → SessionServer × List Out
  | .connecting conn ip acceptOk => s.connecting conn ip acceptOk
  | .closed conn wasConnected => s.connectionClosed conn wasConnected
  | .create hash secret isPublic =>
    let (s, out) := s.disconnectAll
    ((resetLobby { s with sidecarHash := hash, joinSecret := secret }).setPublic isPublic, out)
  | .release =>
    let (s, out) := (setPublic { s with sidecarHash := [], joinSecret := [] } false).disconnectAll
    (s.resetLobby, out)
  | .resetBattleSync => (s.resetBattleSync, [])

/-- One thing the server does. A Step is its messages, one `message` each, and
an `endStep`. -/
inductive Act where
  | message (m : IncomingMsg)
  | endStep (tick : Tick)
  | event (e : Event)

def act (p : Stepping) : Act → Stepping × List Out
  | .message m => handleMessage p m
  | .endStep tick => finishStep p tick
  | .event e => p.serve (p.server.host e)

/-- The session server, one message, end of Step or event at a time. -/
def sessionServer : Machine Stepping Act Out := ⟨act⟩

/-- The server a host has just set up. -/
def start (cfg : HostConfig) : Stepping := ⟨.new cfg, false, false⟩

theorem next_message (p : Stepping) (m : IncomingMsg) :
    sessionServer.next p (.message m) = handleMessage p m := rfl

theorem next_endStep (p : Stepping) (tick : Tick) :
    sessionServer.next p (.endStep tick) = finishStep p tick := rfl

theorem next_event (p : Stepping) (e : Event) :
    sessionServer.next p (.event e) = p.serve (p.server.host e) := rfl

theorem foldl_messages (p : Stepping) (out : List Out) (msgs : List IncomingMsg) :
    msgs.foldl
        (fun (po : Stepping × List Out) m => ((handleMessage po.1 m).1, po.2 ++ (handleMessage po.1 m).2)) (p, out) =
      (sessionServer.run p (msgs.map .message), out ++ sessionServer.outs p (msgs.map .message)) := by
  induction msgs generalizing p out with
  | nil => simp [Machine.outs]
  | cons m msgs ih =>
    simp only [List.foldl_cons, ih, List.map_cons, Machine.run_cons, Machine.outs, next_message,
      List.append_assoc]

/-- A call of `Step` is a run of the machine. -/
theorem step_eq_run (s : SessionServer) (msgs : List IncomingMsg) (tick : Tick) :
    s.step msgs tick =
      ((sessionServer.run ⟨s, false, false⟩ (msgs.map .message ++ [.endStep tick])).server,
        sessionServer.outs ⟨s, false, false⟩ (msgs.map .message ++ [.endStep tick])) := by
  unfold SessionServer.step
  rw [foldl_messages]
  simp only [Machine.run_append, Machine.outs_append, Machine.run_cons, Machine.run_nil, Machine.outs,
    next_endStep, List.append_nil, List.nil_append]

end Sf4e.Session
