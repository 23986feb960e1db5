import Sf4e.Session.Wire
import Mathlib.Data.List.InsertIdx
/-!
# The session server's state

`SessionServer` and the operations that `Step` and the connection callbacks are
made of. What a call sends or logs is a list of `Out`.
-/
open Sf4e.Lib

namespace Sf4e.Session

/-- What a call needs from outside: the two clocks, and the random token of a
direct pairing. -/
structure Tick where
  nowMs : UInt64
  time : Int
  token : List (Fin 16)

/-- An effect on the outside. -/
inductive Out where
  | respond (conn : Conn) (msg : ServerMsg)
  | broadcast (conns : List Conn) (msg : ServerMsg)
  | relay (conn : Conn) (data : Bytes)
  | logStat (stat : Stat) (time : Int)
  | closeConnection (conn : Conn)

structure SessionMember where
  data : MemberData
  conn : Conn
  spectatorSlot : Option Nat
  peerIPv4 : UInt32
  direct : DirectOffer
  deriving DecidableEq

structure SessionServer where
  identity : Bytes
  sidecarHash : Bytes
  relayPort : UInt16
  spectatorRelayBase : UInt16
  spectatorSlots : Nat
  joinSecret : Bytes
  requireJoinSecret : Bool
  desyncReports : Nat
  accepted : Assoc Conn UInt32
  readyRequest : Sides LobbyReady
  directExchanged : Bool
  charaOwner : Sides ConnectionID
  matchStartMs : UInt64
  cidMap : Assoc Conn ConnectionID
  clients : List SessionMember
  dataDirty : Bool
  lobbyData : LobbyData
  matchData : MatchData
  deriving DecidableEq

/-- What the host sets up once, before the first connection. -/
structure HostConfig where
  identity : Bytes
  sidecarHash : Bytes
  editionSelect : Bool
  roundCount : Int32
  roundTime : FixedPoint
  relayPort : UInt16
  spectatorRelayBase : UInt16
  spectatorSlots : Nat
  requireJoinSecret : Bool

namespace SessionServer

/-- The constructor, then `SetRelayPort`, `SetSpectatorRelayPorts` and `RequireJoinSecret`. -/
def new (cfg : HostConfig) : SessionServer where
  identity := cfg.identity
  sidecarHash := cfg.sidecarHash
  relayPort := cfg.relayPort
  spectatorRelayBase := cfg.spectatorRelayBase
  spectatorSlots := cfg.spectatorSlots
  joinSecret := []
  requireJoinSecret := cfg.requireJoinSecret
  desyncReports := 0
  accepted := []
  readyRequest := ⟨.default, .default⟩
  directExchanged := false
  charaOwner := ⟨.null, .null⟩
  matchStartMs := 0
  cidMap := []
  clients := []
  dataDirty := false
  lobbyData := {
    id := ⟨cfg.identity, ascii "1"⟩
    editionSelect := cfg.editionSelect
    roundCount := cfg.roundCount
    roundTime := cfg.roundTime
    isPublic := false
    members := [] }
  matchData := .clear

/-! ## Seats -/

/-- `clients.at(side)`. -/
def entry (s : SessionServer) (side : Side) : Option SessionMember := s.clients[side.val]?

/-- The first of the entries 0 and 1 that belongs to `conn`, a spectator's or not. -/
def sideOf (s : SessionServer) (conn : Conn) : Option (Side × SessionMember) :=
  match s.entry 0, s.entry 1 with
  | some a, b =>
    if a.conn = conn then some (0, a)
    else match b with
      | some b => if b.conn = conn then some (1, b) else none
      | none => none
  | none, _ => none

def playerCount (s : SessionServer) : Nat := s.clients.countP fun m => !m.data.spectator

def spectatorCount (s : SessionServer) : Nat := s.clients.length - s.playerCount

/-! ## Membership -/

def onMembershipChanged (s : SessionServer) : SessionServer :=
  { s with directExchanged := false, dataDirty := true }

/-- The player seat is taken by the connection that owns the seat's pick. -/
def sameOwner (s : SessionServer) (side : Side) : Bool :=
  (s.entry side).any fun m => !m.data.spectator && s.charaOwner.get side = m.data.connId

def dropCharaFromVacatedSeat (s : SessionServer) (side : Side) : SessionServer :=
  if !s.sameOwner side && (s.matchData.chara.get side).charaID ≠ 0 then
    { s with
      matchData := { s.matchData with
        chara := s.matchData.chara.set side .zero
        readyMessageNum := s.matchData.readyMessageNum.set side (-1) }
      charaOwner := s.charaOwner.set side .null
      dataDirty := true }
  else s

def dropCharaFromVacatedSeats (s : SessionServer) : SessionServer :=
  (s.dropCharaFromVacatedSeat 0).dropCharaFromVacatedSeat 1

/-- The characters of `static const char HEX[]`. -/
def hexDigit (d : Fin 16) : UInt8 := if d.val < 10 then 48 + UInt8.ofNat d.val else 87 + UInt8.ofNat d.val

def directPeerOf (other : SessionMember) (tick : Tick) : DirectPeer where
  ip := other.direct.ip
  port := other.direct.port
  localIp := other.direct.localIp
  localPort := other.direct.localPort
  token := tick.token.map hexDigit

def maybeExchangeDirectEndpoints (s : SessionServer) (tick : Tick) : SessionServer × List Out :=
  if s.directExchanged || s.playerCount < 2 then (s, [])
  else match s.entry 0, s.entry 1 with
    | some a, some b =>
      if a.direct.port = 0 || b.direct.port = 0 then (s, [])
      else ({ s with directExchanged := true },
        [.respond a.conn (.directPeer (directPeerOf b tick)), .respond b.conn (.directPeer (directPeerOf a tick))])
    | _, _ => (s, [])

/-- The name as stored: bytes below 0x20 and 0x7f are left out, and the rest is
cut at 32 bytes. -/
def storedName (rawName : Bytes) : Bytes :=
  let name := (rawName.filter fun ch => 0x20 ≤ ch && ch ≠ 0x7f).take 32
  if name = [] then ascii "Player" else name

/-- The lowest relay pipe no member holds. -/
def freeSlot (clients : List SessionMember) : Nat :=
  ((List.range clients.length).find? fun slot => !clients.any fun m => m.spectatorSlot = some slot).getD
    clients.length

def newMember (s : SessionServer) (conn : Conn) (request : SessionJoinRequest) (peerAddr : PeerAddr)
    (cid : ConnectionID) : SessionMember :=
  let slot := if request.spectator && s.spectatorRelayBase ≠ 0 then some (freeSlot s.clients) else none
  { conn
    spectatorSlot := slot
    peerIPv4 := peerAddr.ipv4.getD 0
    direct := ⟨[], 0, [], 0⟩
    data := {
      connId := cid
      name := storedName request.username
      ip := if s.relayPort ≠ 0 || peerAddr.localHost then [] else peerAddr.text
      port := match slot with
        | some k => s.spectatorRelayBase + UInt16.ofNat (2 * k)
        | none => if s.relayPort ≠ 0 then s.relayPort else request.port
      battleLoaded := false
      spectator := request.spectator
      watching := false
      hostPort := match slot with
        | some k => s.spectatorRelayBase + UInt16.ofNat (2 * k) + 1
        | none => 0 } }

/-- Why `RegisterToWait` refuses a request, if it does. -/
def joinRefusal (s : SessionServer) (request : SessionJoinRequest) : Option JoinResult :=
  if s.requireJoinSecret && (s.joinSecret = [] || request.secret ≠ s.joinSecret) then some .secretInvalid
  else if s.sidecarHash ≠ [] && request.sidecarHash ≠ s.sidecarHash then some .hashInvalid
  else if s.clients.length ≥ MAX_SF4E_PROTOCOL_USERS then some .lobbyFull
  else if !request.spectator && s.playerCount ≥ 2 then some .lobbyFull
  else if request.spectator && s.spectatorCount ≥ MAX_SF4E_SPECTATORS then some .lobbyFull
  else if request.spectator && s.spectatorRelayBase ≠ 0 && s.spectatorCount ≥ s.spectatorSlots then
    some .lobbyFull
  else if s.clients.any fun m => m.data.name = storedName request.username then some .nameTaken
  else none

/-- Players stay in front of the spectators. -/
def seatMember (s : SessionServer) (m : SessionMember) : SessionServer :=
  if m.data.spectator then { s with clients := s.clients ++ [m] }
  else onMembershipChanged { s with clients := s.clients.insertIdx s.playerCount m }

def registerToWait (s : SessionServer) (conn : Conn) (request : SessionJoinRequest) (peerAddr : PeerAddr)
    (cid : ConnectionID) : Except JoinResult SessionServer :=
  match s.joinRefusal request with
  | some reason => .error reason
  | none => .ok (s.seatMember (s.newMember conn request peerAddr cid))

/-! ## Readiness and results -/

/-- `MeasuredRoundTripMs`, over `_readyRequest`. -/
def measuredRoundTripMs (readyRequest : Sides LobbyReady) : Int32 :=
  let a := readyRequest.s0
  let b := readyRequest.s1
  if a.directRoundTripMs ≥ 0 && b.directRoundTripMs ≥ 0 then
    if a.directRoundTripMs > b.directRoundTripMs then a.directRoundTripMs else b.directRoundTripMs
  else if a.serverPingMs ≥ 0 && b.serverPingMs ≥ 0 then a.serverPingMs + b.serverPingMs
  else -1

/-- The delay one seat asks for, with `automatic` for a seat that leaves it to the server. -/
def chosenDelay (automatic : Int32) (r : LobbyReady) : Int32 :=
  let chosen := if r.inputDelay ≤ INPUT_DELAY_AUTO then automatic else r.inputDelay
  if chosen > INPUT_DELAY_MAX then INPUT_DELAY_MAX else chosen

/-- `SharedInputDelay`, over `_readyRequest`. -/
def sharedInputDelay (readyRequest : Sides LobbyReady) : Int32 :=
  let automatic := inputDelayForRoundTrip (measuredRoundTripMs readyRequest)
  let a := chosenDelay automatic readyRequest.s0
  let b := chosenDelay automatic readyRequest.s1
  let shared := if a > 0 then a else 0
  if b > shared then b else shared

/-- `(int)(ms / 1000)`. -/
def wholeSeconds (ms : UInt64) : Int32 := Int32.ofNat (ms / 1000).toNat

/-- The match clock when a result arrives. -/
def closeMatchClock (s : SessionServer) (tick : Tick) : SessionServer × List Out :=
  if s.matchStartMs ≠ 0 && tick.nowMs - s.matchStartMs ≥ 3000 then
    ({ s with matchStartMs := 0 },
      [.logStat (.matchEnd (wholeSeconds (tick.nowMs - s.matchStartMs)) s.spectatorCount true) tick.time])
  else (s, [])

/-- The loser moves behind the other player; the picks follow a swap. -/
def rotateLoser (s : SessionServer) (loserIndex : Int) : SessionServer :=
  let nPlayers := s.playerCount
  if 0 ≤ loserIndex && loserIndex < nPlayers && nPlayers > 1 then
    match s.clients[loserIndex.toNat]? with
    | none => s
    | some loser =>
      let s := { s with clients := (s.clients.eraseIdx loserIndex.toNat).insertIdx (nPlayers - 1) loser }
      if nPlayers = 2 && loserIndex = 0 then
        { s with
          matchData := { s.matchData with chara := s.matchData.chara.swap }
          charaOwner := s.charaOwner.swap }
      else s
  else s

def clearWatching (s : SessionServer) : SessionServer :=
  { s with clients := s.clients.map fun m => { m with data := { m.data with watching := false } } }

def clearReadyMarks (s : SessionServer) : SessionServer :=
  { s with matchData := { s.matchData with readyMessageNum := ⟨-1, -1⟩ } }

def handleResults (s : SessionServer) (loserIndex : Int) (tick : Tick) : SessionServer × List Out :=
  let (s, out) := s.closeMatchClock tick
  ((s.rotateLoser loserIndex).clearWatching.clearReadyMarks, out)

/-! ## The host's calls -/

def resetBattleSync (s : SessionServer) : SessionServer :=
  { s with clients := s.clients.map fun m => { m with data := { m.data with battleLoaded := false } } }

def disconnectAll (s : SessionServer) : SessionServer × List Out :=
  let closed := { s with accepted := [], cidMap := [] }
  let left := if s.clients = [] then closed else onMembershipChanged { closed with clients := [] }
  ({ left with dataDirty := true }, s.accepted.map fun e => .closeConnection e.1)

def resetLobby (s : SessionServer) : SessionServer :=
  let s := { s with matchData := .clear, desyncReports := 0 }
  { s.clearWatching.resetBattleSync with dataDirty := true }

def setPublic (s : SessionServer) (isPublic : Bool) : SessionServer :=
  { s with lobbyData := { s.lobbyData with isPublic }, dataDirty := true }

/-! ## Connections -/

/-- `ClosedByPeer` and `ProblemDetectedLocally`; only the first entry of the connection goes. -/
def connectionClosed (s : SessionServer) (conn : Conn) (wasConnected : Bool) : SessionServer × List Out :=
  let s :=
    if wasConnected && s.clients.any (fun m => m.conn = conn) then
      onMembershipChanged { s with clients := s.clients.eraseP fun m => m.conn = conn }
    else s
  ({ s with cidMap := s.cidMap.erase conn, accepted := s.accepted.erase conn }, [.closeConnection conn])

/-- `Connecting`, with the answer of `AcceptConnection`. -/
def connecting (s : SessionServer) (conn : Conn) (ip : UInt32) (acceptOk : Bool) :
    SessionServer × List Out :=
  let fromSameIp := s.accepted.countP fun e => e.2 = ip
  if s.accepted.length ≥ 2 * MAX_SF4E_PROTOCOL_USERS || fromSameIp ≥ MAX_SF4E_PROTOCOL_USERS || !acceptOk then
    (s, [.closeConnection conn])
  else ({ s with accepted := s.accepted.insert conn ip }, [])

end SessionServer

end Sf4e.Session
