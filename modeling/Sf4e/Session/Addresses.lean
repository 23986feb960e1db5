import Sf4e.Session.Pairing
import Sf4e.Session.Members
/-!
# Addresses stay with the two players

`hidden` takes the addresses out of a state and out of an action: the real
addresses of the members, and what an offer says beyond whether it has a port.
With a relay port, hiding commutes with every action and changes no message
except DirectPeer (`hides_next`). So two runs that differ in addresses alone
look the same from every other connection: `address_privacy`.
-/
open Sf4e.Lib

namespace Sf4e.Session

/-! ## Hiding the addresses -/

/-- All that is left of an offer is whether it has a port. -/
def DirectOffer.hidden (offer : DirectOffer) : DirectOffer := ⟨[], if offer.port = 0 then 0 else 1, [], 0⟩

def SessionMember.hidden (m : SessionMember) : SessionMember := { m with peerIPv4 := 0, direct := m.direct.hidden }

def SessionServer.hidden (s : SessionServer) : SessionServer :=
  { s with accepted := [], clients := s.clients.map (·.hidden) }

def Stepping.hidden (p : Stepping) : Stepping := { p with server := p.server.hidden }

def ClientMsg.hidden : ClientMsg → ClientMsg
  | .directOffer (some offer) => .directOffer (some offer.hidden)
  | msg => msg

def IncomingMsg.hidden (m : IncomingMsg) : IncomingMsg :=
  { m with msg := m.msg.hidden, peerAddr := ⟨none, false, [], by simp⟩ }

/-- Whether a connection is accepted hangs on its address too. -/
def Event.hidden : Event → Event
  | .connecting conn _ _ => .connecting conn 0 false
  | e => e

def Act.hidden : Act → Act
  | .message m => .message m.hidden
  | .endStep tick => .endStep tick
  | .event e => .event e.hidden

/-- The output reaches a connection, and is no DirectPeer. -/
def Out.plain : Out → Bool
  | .respond _ (.directPeer _) => false
  | .broadcast _ (.directPeer _) => false
  | .closeConnection _ => false
  | _ => true

/-- The same without the addresses. -/
structure Hides (r r' : SessionServer × List Out) : Prop where
  state : r'.1 = r.1.hidden
  out : Machine.seen Out.plain r'.2 = Machine.seen Out.plain r.2

theorem hidden_offer {m : IncomingMsg} {offer : Option DirectOffer} (hmsg : m.msg = .directOffer offer) :
    m.hidden.msg = .directOffer (offer.map (·.hidden)) := by
  cases offer <;> simp [IncomingMsg.hidden, hmsg, ClientMsg.hidden]

theorem DirectOffer.hidden_port (offer : DirectOffer) : offer.hidden.port = 0 ↔ offer.port = 0 := by
  unfold hidden
  split <;> simp_all

namespace SessionServer

variable (s : SessionServer)

theorem clients_hidden : s.hidden.clients = s.clients.map (·.hidden) := rfl

theorem entry_hidden (side : Side) : s.hidden.entry side = (s.entry side).map (·.hidden) := List.getElem?_map

theorem playerCount_hidden : s.hidden.playerCount = s.playerCount := List.countP_map

theorem spectatorCount_hidden : s.hidden.spectatorCount = s.spectatorCount := by
  rw [spectatorCount, spectatorCount, playerCount_hidden, clients_hidden, List.length_map]

/-- A question about members that does not look at addresses. -/
theorem any_hidden (f : SessionMember → Bool) (hf : ∀ m, f m.hidden = f m) : s.hidden.clients.any f = s.clients.any f := by
  rw [clients_hidden, List.any_map]
  exact congrArg s.clients.any (funext hf)

theorem filter_hidden (f : SessionMember → Bool) (hf : ∀ m, f m.hidden = f m) :
    s.hidden.clients.filter f = (s.clients.filter f).map (·.hidden) := by
  rw [clients_hidden, List.filter_map]
  exact congrArg (fun g => (s.clients.filter g).map (·.hidden)) (funext hf)

theorem sideOf_hidden (conn : Conn) :
    s.hidden.sideOf conn = (s.sideOf conn).map fun found => (found.1, found.2.hidden) := by
  unfold sideOf
  rw [entry_hidden, entry_hidden]
  cases s.entry 0 with
  | none => rfl
  | some a =>
    cases s.entry 1 with
    | none =>
      show (if a.conn = conn then _ else _) = _
      dsimp only
      split <;> rfl
    | some b =>
      show (if a.conn = conn then _ else if b.conn = conn then _ else _) = _
      dsimp only
      split
      · rfl
      · split <;> rfl

/-! ## The branches -/

theorem hides_exchange (tick : Tick) :
    Hides (s.maybeExchangeDirectEndpoints tick) (s.hidden.maybeExchangeDirectEndpoints tick) := by
  unfold maybeExchangeDirectEndpoints
  rw [entry_hidden, entry_hidden, playerCount_hidden]
  show Hides _ (if s.directExchanged || s.playerCount < 2 then _ else _)
  split
  · exact ⟨rfl, rfl⟩
  · cases s.entry 0 with
    | none => exact ⟨rfl, rfl⟩
    | some a =>
      cases s.entry 1 with
      | none => exact ⟨rfl, rfl⟩
      | some b =>
        have hports : (decide (a.hidden.direct.port = 0) || decide (b.hidden.direct.port = 0)) =
            (decide (a.direct.port = 0) || decide (b.direct.port = 0)) := by
          simp only [SessionMember.hidden, DirectOffer.hidden_port]
        simp only [Option.map_some, hports]
        split <;> exact ⟨rfl, rfl⟩

theorem hides_offer (conn : Conn) (offer : Option DirectOffer) (tick : Tick) :
    Hides (s.onDirectOffer conn offer tick) (s.hidden.onDirectOffer conn (offer.map (·.hidden)) tick) := by
  unfold onDirectOffer
  rw [sideOf_hidden]
  cases s.sideOf conn with
  | none => exact ⟨rfl, rfl⟩
  | some found =>
    cases offer with
    | none => exact ⟨rfl, rfl⟩
    | some offer =>
      obtain ⟨side, e⟩ := found
      have hstored : (s.clients.modify side.val fun m => { m with direct := offer }).map (·.hidden) =
          (s.clients.map (·.hidden)).modify side.val fun m => { m with direct := offer.hidden } := by
        apply List.ext_getElem?
        intro i
        simp only [List.getElem?_map, List.getElem?_modify]
        split
        · cases s.clients[i]? <;> rfl
        · cases s.clients[i]? <;> rfl
      have h := hides_exchange { s with
        directExchanged := false
        clients := s.clients.modify side.val fun m => { m with direct := offer } } tick
      simp only [hidden, hstored] at h
      exact h

theorem newMember_hidden (hrelay : s.relayPort ≠ 0) (m : IncomingMsg) (request : SessionJoinRequest)
    (cid : ConnectionID) :
    s.hidden.newMember m.conn request m.hidden.peerAddr cid = (s.newMember m.conn request m.peerAddr cid).hidden := by
  have hslot : freeSlot s.hidden.clients = freeSlot s.clients := by
    unfold freeSlot
    have hheld : ∀ slot, (s.hidden.clients.any fun m => m.spectatorSlot = some slot) =
        s.clients.any fun m => m.spectatorSlot = some slot := fun slot => s.any_hidden _ fun _ => rfl
    simp only [hheld]
    rw [clients_hidden, List.length_map]
  have hport : s.hidden.relayPort = s.relayPort := rfl
  have hbase : s.hidden.spectatorRelayBase = s.spectatorRelayBase := rfl
  -- with a relay port nothing of the address is kept for others
  simp only [newMember, hslot, hport, hbase]
  simp [SessionMember.hidden, DirectOffer.hidden, hrelay, IncomingMsg.hidden]

theorem joinRefusal_hidden (request : SessionJoinRequest) : s.hidden.joinRefusal request = s.joinRefusal request := by
  have hlen : s.hidden.clients.length = s.clients.length := by rw [clients_hidden, List.length_map]
  have hname : (s.hidden.clients.any fun m => m.data.name = storedName request.username) =
      s.clients.any fun m => m.data.name = storedName request.username := s.any_hidden _ fun _ => rfl
  unfold joinRefusal
  rw [playerCount_hidden, spectatorCount_hidden, hlen, hname]
  rfl

theorem seatMember_hidden (m : SessionMember) : s.hidden.seatMember m.hidden = (s.seatMember m).hidden := by
  have hrole : m.hidden.data.spectator = m.data.spectator := rfl
  unfold seatMember
  rw [hrole, playerCount_hidden, clients_hidden]
  split
  · simp [hidden]
  · simp [hidden, onMembershipChanged, List.map_insertIdx]

theorem hides_join (hrelay : s.relayPort ≠ 0) (m : IncomingMsg) (cid : ConnectionID)
    (request : Option SessionJoinRequest) :
    Hides (s.onJoinRequest m cid request) (s.hidden.onJoinRequest m.hidden cid request) := by
  cases request with
  | none => exact ⟨rfl, rfl⟩
  | some request =>
    simp only [onJoinRequest, registerToWait, joinRefusal_hidden]
    cases s.joinRefusal request with
    | some reason => exact ⟨rfl, rfl⟩
    | none =>
      have hconn : m.hidden.conn = m.conn := rfl
      dsimp only
      rw [hconn, newMember_hidden s hrelay, seatMember_hidden]
      exact ⟨rfl, rfl⟩

theorem setChara_hidden (conn : Conn) (request : Option CharaConditions) :
    s.hidden.onSetChara conn request = (s.onSetChara conn request).hidden := by
  unfold onSetChara
  rw [sideOf_hidden]
  cases s.sideOf conn with
  | none => rfl
  | some found =>
    cases request with
    | none => rfl
    | some chara =>
      dsimp only [Option.map_some]
      split <;> rfl

theorem hides_desync (conn : Conn) (report : Option DesyncReport) (tick : Tick) :
    Hides (s.onDesyncReport conn report tick) (s.hidden.onDesyncReport conn report tick) := by
  cases report with
  | none => exact ⟨rfl, rfl⟩
  | some report =>
    have hfrom : s.hidden.fromPlayer conn = s.fromPlayer conn := by
      unfold fromPlayer
      rw [playerCount_hidden, clients_hidden, ← List.map_take, List.any_map]
      rfl
    have hcount : s.hidden.desyncReports = s.desyncReports := rfl
    simp only [onDesyncReport, hfrom, hcount]
    split
    · exact ⟨rfl, rfl⟩
    · refine ⟨rfl, ?_⟩
      rw [filter_hidden s _ fun _ => rfl, List.map_map]
      rfl

theorem setEnv_hidden (conn : Conn) (rngSeed : Option UInt32) :
    s.hidden.onSetEnv conn rngSeed = (s.onSetEnv conn rngSeed).hidden := by
  unfold onSetEnv
  rw [sideOf_hidden]
  match s.sideOf conn, rngSeed with
  | none, _ => rfl
  | some (0, _), none => rfl
  | some (0, _), some _ => rfl
  | some (1, _), _ => rfl

theorem setStage_hidden (conn : Conn) (stageID : Option Int32) :
    s.hidden.onSetStage conn stageID = (s.onSetStage conn stageID).hidden := by
  unfold onSetStage
  rw [sideOf_hidden]
  match s.sideOf conn, stageID with
  | none, _ => rfl
  | some (0, _), none => rfl
  | some (0, _), some stageID =>
    cases hv : stageIDValid stageID.toInt <;> simp only [Option.map_some, hv] <;> rfl
  | some (1, _), _ => rfl

theorem battleLoaded_hidden (conn : Conn) : s.hidden.onBattleLoaded conn = (s.onBattleLoaded conn).hidden := by
  have hmark : (s.clients.map (·.hidden)).map (markLoaded conn) = (s.clients.map (markLoaded conn)).map (·.hidden) := by
    rw [List.map_map, List.map_map]
    refine List.map_congr_left fun m _ => ?_
    simp only [Function.comp, markLoaded]
    show (if m.conn = conn then _ else _) = _
    split <;> rfl
  simp only [onBattleLoaded, hidden, hmark]

theorem ready_hidden (side : Side) (num : Nat) (request : LobbyReady) :
    s.hidden.onReady side num request = (s.onReady side num request).hidden := by
  simp only [onReady, stampDelay]
  show (if (s.markReady side num request).matchData.isAllReady then _ else _) = _
  split <;> rfl

theorem unready_hidden (side : Side) : s.hidden.onUnready side = (s.onUnready side).hidden := by
  unfold onUnready
  show (if s.matchData.isAllReady then _ else _) = _
  split <;> rfl

theorem rotate_hidden (loser : Int) : s.hidden.rotateLoser loser = (s.rotateLoser loser).hidden := by
  simp only [rotateLoser, playerCount_hidden, clients_hidden, List.getElem?_map]
  split
  · cases s.clients[loser.toNat]? with
    | none => rfl
    | some e =>
      dsimp only [Option.map_some]
      have hmoved : ((s.clients.map (·.hidden)).eraseIdx loser.toNat).insertIdx (s.playerCount - 1) e.hidden =
          ((s.clients.eraseIdx loser.toNat).insertIdx (s.playerCount - 1) e).map (·.hidden) := by
        rw [List.eraseIdx_map, List.map_insertIdx]
      rw [hmoved]
      split <;> rfl
  · rfl

theorem hides_results (loser : Option Int32) (tick : Tick) :
    Hides (s.onReportResults loser tick) (s.hidden.onReportResults loser tick) := by
  cases loser with
  | none => exact ⟨rfl, rfl⟩
  | some loser =>
    have hclock : s.hidden.closeMatchClock tick = ((s.closeMatchClock tick).1.hidden, (s.closeMatchClock tick).2) := by
      unfold closeMatchClock
      rw [spectatorCount_hidden]
      show (if s.matchStartMs ≠ 0 && tick.nowMs - s.matchStartMs ≥ 3000 then _ else _) = _
      split <;> rfl
    have hwatch : ∀ s : SessionServer, s.hidden.clearWatching = s.clearWatching.hidden := by
      intro s
      simp only [clearWatching, hidden, List.map_map]
      rfl
    simp only [onReportResults, handleResults, hclock, rotate_hidden, hwatch]
    exact ⟨rfl, rfl⟩

theorem snapshot_hidden (conn : Conn) (data : Bytes) :
    s.hidden.onBattleSnapshot conn data = s.onBattleSnapshot conn data := by
  have hspec : (s.hidden.clients.any fun m => m.conn = conn && m.data.spectator) =
      s.clients.any fun m => m.conn = conn && m.data.spectator := s.any_hidden _ fun _ => rfl
  unfold onBattleSnapshot
  rw [hspec, filter_hidden s _ fun _ => rfl, List.map_map]
  rfl

theorem forward_hidden (conn : Conn) (msg : Json) (fwd : Option ForwardMessage) :
    s.hidden.onForward conn msg fwd = s.onForward conn msg fwd := by
  cases fwd with
  | none => rfl
  | some fwd =>
    have hdest : (s.hidden.clients.any fun m => m.data.connId = fwd.dest) = s.clients.any fun m => m.data.connId = fwd.dest :=
      s.any_hidden _ fun _ => rfl
    have hidentity : s.hidden.identity = s.identity := rfl
    simp only [onForward, hdest, hidentity]

/-! ## The end of a Step -/

theorem dropped_hidden (side : Side) : s.hidden.dropCharaFromVacatedSeat side = (s.dropCharaFromVacatedSeat side).hidden := by
  have howner : s.hidden.sameOwner side = s.sameOwner side := by
    unfold sameOwner
    rw [entry_hidden, Option.any_map]
    rfl
  unfold dropCharaFromVacatedSeat
  rw [howner]
  show (if !s.sameOwner side && (s.matchData.chara.get side).charaID ≠ 0 then _ else _) = _
  split <;> rfl

theorem updateMsg_hidden : s.hidden.updateMsg = s.updateMsg := by
  simp only [updateMsg, clients_hidden, List.map_map]
  rfl

theorem broadcast_hidden (msg : ServerMsg) : s.hidden.broadcast msg = s.broadcast msg := by
  simp only [broadcast, clients_hidden, List.map_map]
  rfl

theorem sendUpdate_hidden : s.hidden.sendUpdate = (s.sendUpdate.1.hidden, s.sendUpdate.2) := by
  unfold sendUpdate
  rw [broadcast_hidden, updateMsg_hidden]
  show (if s.dataDirty then _ else _) = _
  split <;> rfl

theorem sendAllReady_hidden (tick : Tick) :
    s.hidden.sendAllReady tick = ((s.sendAllReady tick).1.hidden, (s.sendAllReady tick).2) := by
  have hcall : s.hidden.callSpectators = s.callSpectators.hidden := by
    simp only [callSpectators, hidden, List.map_map]
    congr 1
    refine List.map_congr_left fun m _ => ?_
    simp only [Function.comp]
    show (if m.data.spectator then _ else _) = _
    split <;> rfl
  simp only [sendAllReady, hcall, broadcast_hidden, updateMsg_hidden, playerCount_hidden, spectatorCount_hidden]
  rfl

/-! ## The host's calls and callbacks -/

theorem hides_disconnectAll : Hides s.disconnectAll s.hidden.disconnectAll := by
  have hquiet : ∀ l : List (Conn × UInt32), Machine.seen Out.plain (l.map fun e => Out.closeConnection e.1) = [] := by
    intro l
    simp [Machine.seen, List.filter_map, Function.comp_def, Out.plain]
  refine ⟨?_, (hquiet _).trans (hquiet _).symm⟩
  by_cases hnil : s.clients = []
  · have hnil' : s.hidden.clients = [] := by rw [clients_hidden, hnil, List.map_nil]
    simp only [disconnectAll, hnil, hnil', if_true]
    simp only [hidden, hnil, List.map_nil]
  · have hnil' : s.hidden.clients ≠ [] := by rwa [clients_hidden, Ne, List.map_eq_nil_iff]
    simp only [disconnectAll, hnil, hnil', if_false]
    rfl

theorem resetBattleSync_hidden : s.hidden.resetBattleSync = s.resetBattleSync.hidden := by
  simp only [resetBattleSync, hidden, List.map_map]
  rfl

theorem resetLobby_hidden : s.hidden.resetLobby = s.resetLobby.hidden := by
  simp only [resetLobby, resetBattleSync, clearWatching, hidden, List.map_map]
  rfl

theorem hides_closed (conn : Conn) (wasConnected : Bool) :
    Hides (s.connectionClosed conn wasConnected) (s.hidden.connectionClosed conn wasConnected) := by
  have hany : (s.hidden.clients.any fun m => m.conn = conn) = s.clients.any fun m => m.conn = conn :=
    s.any_hidden _ fun _ => rfl
  have herase : (s.clients.map (·.hidden)).eraseP (fun m => m.conn = conn) =
      (s.clients.eraseP fun m => m.conn = conn).map (·.hidden) := by
    rw [List.eraseP_map]
    rfl
  unfold connectionClosed
  rw [hany, clients_hidden, herase]
  split <;> exact ⟨rfl, rfl⟩

theorem hides_host (e : Event) : Hides (s.host e) (s.hidden.host e.hidden) := by
  cases e with
  | connecting conn ip acceptOk =>
    -- accepted or not, what is kept of it is hidden
    have hleft : s.hidden.host (Event.connecting conn ip acceptOk).hidden = (s.hidden, [.closeConnection conn]) := by
      simp [host, connecting, Event.hidden]
    rw [hleft]
    simp only [host, connecting]
    split <;> exact ⟨rfl, rfl⟩
  | closed conn wasConnected => exact s.hides_closed conn wasConnected
  | create hash secret isPublic =>
    obtain ⟨hstate, hout⟩ := s.hides_disconnectAll
    refine ⟨?_, hout⟩
    show ((resetLobby { s.hidden.disconnectAll.1 with sidecarHash := hash, joinSecret := secret }).setPublic isPublic) = _
    rw [hstate]
    exact congrArg (·.setPublic isPublic)
      (resetLobby_hidden { s.disconnectAll.1 with sidecarHash := hash, joinSecret := secret })
  | release =>
    obtain ⟨hstate, hout⟩ := hides_disconnectAll (setPublic { s with sidecarHash := [], joinSecret := [] } false)
    refine ⟨?_, hout⟩
    show (setPublic { s with sidecarHash := [], joinSecret := [] } false).hidden.disconnectAll.1.resetLobby = _
    rw [hstate]
    exact resetLobby_hidden _
  | resetBattleSync => exact ⟨s.resetBattleSync_hidden, rfl⟩

end SessionServer

theorem known_hidden {p : Stepping} (hrelay : p.server.relayPort ≠ 0) (m : IncomingMsg) (cid : ConnectionID) :
    (handleKnown p.hidden m.hidden cid).1 = (handleKnown p m cid).1.hidden ∧
      Machine.seen Out.plain (handleKnown p.hidden m.hidden cid).2 = Machine.seen Out.plain (handleKnown p m cid).2 := by
  -- a branch that leaves the flags alone
  have hserve : ∀ {r r' : SessionServer × List Out}, Hides r r' →
      (p.hidden.serve r').1 = (p.serve r).1.hidden ∧
        Machine.seen Out.plain (p.hidden.serve r').2 = Machine.seen Out.plain (p.serve r).2 := by
    rintro ⟨s, out⟩ ⟨s', out'⟩ ⟨rfl, hout⟩
    exact ⟨rfl, hout⟩
  have hserver : p.hidden.server = p.server.hidden := rfl
  have hconn : m.hidden.conn = m.conn := rfl
  unfold handleKnown
  cases hmsg : m.msg with
  | directOffer offer =>
    rw [hidden_offer hmsg]
    exact hserve (p.server.hides_offer m.conn offer m.tick)
  | joinReq request =>
    have hhid : m.hidden.msg = .joinReq request := by simp [IncomingMsg.hidden, hmsg, ClientMsg.hidden]
    rw [hhid]
    exact hserve (p.server.hides_join hrelay m cid request)
  | setChara request =>
    have hhid : m.hidden.msg = .setChara request := by simp [IncomingMsg.hidden, hmsg, ClientMsg.hidden]
    rw [hhid]
    exact hserve ⟨p.server.setChara_hidden m.conn request, rfl⟩
  | desyncReport report =>
    have hhid : m.hidden.msg = .desyncReport report := by simp [IncomingMsg.hidden, hmsg, ClientMsg.hidden]
    rw [hhid]
    exact hserve (p.server.hides_desync m.conn report m.tick)
  | setEnv rngSeed =>
    have hhid : m.hidden.msg = .setEnv rngSeed := by simp [IncomingMsg.hidden, hmsg, ClientMsg.hidden]
    rw [hhid]
    exact hserve ⟨p.server.setEnv_hidden m.conn rngSeed, rfl⟩
  | setStage stageID =>
    have hhid : m.hidden.msg = .setStage stageID := by simp [IncomingMsg.hidden, hmsg, ClientMsg.hidden]
    rw [hhid]
    exact hserve ⟨p.server.setStage_hidden m.conn stageID, rfl⟩
  | reportResults loser =>
    have hhid : m.hidden.msg = .reportResults loser := by simp [IncomingMsg.hidden, hmsg, ClientMsg.hidden]
    rw [hhid]
    exact hserve (p.server.hides_results loser m.tick)
  | forward msg fwd =>
    have hhid : m.hidden.msg = .forward msg fwd := by simp [IncomingMsg.hidden, hmsg, ClientMsg.hidden]
    rw [hhid]
    exact hserve ⟨rfl, by rw [hconn, hserver, p.server.forward_hidden m.conn msg fwd]⟩
  | battleSnapshot data =>
    have hhid : m.hidden.msg = .battleSnapshot data := by simp [IncomingMsg.hidden, hmsg, ClientMsg.hidden]
    rw [hhid]
    exact hserve ⟨rfl, by rw [hconn, hserver, p.server.snapshot_hidden m.conn data]⟩
  | battleLoaded =>
    have hhid : m.hidden.msg = .battleLoaded := by simp [IncomingMsg.hidden, hmsg, ClientMsg.hidden]
    rw [hhid]
    have hall : (p.server.hidden.onBattleLoaded m.conn).allLoaded = (p.server.onBattleLoaded m.conn).allLoaded := by
      rw [SessionServer.battleLoaded_hidden, SessionServer.allLoaded, SessionServer.clients_hidden, List.all_map]
      rfl
    refine ⟨?_, rfl⟩
    simp only [Stepping.battleLoaded]
    rw [hconn, hserver, hall, SessionServer.battleLoaded_hidden]
    rfl
  | lobbyReady request =>
    have hhid : m.hidden.msg = .lobbyReady request := by simp [IncomingMsg.hidden, hmsg, ClientMsg.hidden]
    rw [hhid]
    refine ⟨?_, rfl⟩
    simp only [Stepping.lobbyReady]
    rw [hconn, hserver, SessionServer.sideOf_hidden]
    cases p.server.sideOf m.conn with
    | none => rfl
    | some found =>
      cases request with
      | none => rfl
      | some request =>
        dsimp only [Option.map_some]
        rw [SessionServer.ready_hidden, SessionServer.unready_hidden]
        split <;> rfl
  | _ =>
    have hhid : m.hidden.msg = m.msg := by simp [IncomingMsg.hidden, hmsg, ClientMsg.hidden]
    rw [hhid, hmsg]
    exact ⟨rfl, rfl⟩

theorem finish_hidden (p : Stepping) (tick : Tick) :
    (finishStep p.hidden tick).1 = (finishStep p tick).1.hidden ∧
      Machine.seen Out.plain (finishStep p.hidden tick).2 = Machine.seen Out.plain (finishStep p tick).2 := by
  have hserver : p.hidden.server = p.server.hidden := rfl
  have hdrop : p.hidden.server.dropCharaFromVacatedSeats = p.server.dropCharaFromVacatedSeats.hidden := by
    rw [hserver, SessionServer.dropCharaFromVacatedSeats, SessionServer.dropCharaFromVacatedSeats,
      SessionServer.dropped_hidden, SessionServer.dropped_hidden]
  obtain ⟨hstate, hout⟩ := p.server.dropCharaFromVacatedSeats.hides_exchange tick
  have hset : settled p.hidden tick = (settled p tick).hidden := by
    rw [settled, hdrop, hstate]
    rfl
  have hpost : (finishStep p.hidden tick).1.server = (finishStep p tick).1.server.hidden := by
    rw [finishStep_server, finishStep_server, hset, SessionServer.sendUpdate_hidden, SessionServer.sendAllReady_hidden]
    show (if p.bSendLobbyAllReady then _ else _) = _
    split <;> rfl
  have hready : (if p.hidden.bSendLobbyAllReady then ((settled p.hidden tick).sendUpdate.1.sendAllReady tick).2 else []) =
      if p.bSendLobbyAllReady then ((settled p tick).sendUpdate.1.sendAllReady tick).2 else [] := by
    rw [hset, SessionServer.sendUpdate_hidden, SessionServer.sendAllReady_hidden]
    rfl
  have hsync : (if p.hidden.bSendBattleSynced then [(finishStep p.hidden tick).1.server.broadcast .battleSynced] else []) =
      if p.bSendBattleSynced then [(finishStep p tick).1.server.broadcast .battleSynced] else [] := by
    rw [hpost, SessionServer.broadcast_hidden]
    rfl
  refine ⟨congrArg (fun s => (⟨s, false, false⟩ : Stepping)) hpost, ?_⟩
  have hupd : (settled p.hidden tick).sendUpdate.2 = (settled p tick).sendUpdate.2 := by
    rw [hset, SessionServer.sendUpdate_hidden]
  rw [finishStep_out, finishStep_out, hready, hsync, hupd, hdrop]
  simp only [Machine.seen, List.filter_append] at hout ⊢
  rw [hout]

/-- With a relay port, hiding commutes with every action and changes no message but DirectPeer. -/
theorem next_hidden {p : Stepping} (hrelay : p.server.relayPort ≠ 0) (a : Act) :
    (sessionServer.next p.hidden a.hidden).1 = (sessionServer.next p a).1.hidden ∧
      Machine.seen Out.plain (sessionServer.next p.hidden a.hidden).2 =
        Machine.seen Out.plain (sessionServer.next p a).2 := by
  cases a with
  | message m =>
    rw [Act.hidden, next_message, next_message]
    have hfind : p.hidden.server.cidMap.find m.hidden.conn = p.server.cidMap.find m.conn := rfl
    unfold handleMessage
    rw [hfind]
    cases p.server.cidMap.find m.conn with
    | some cid => exact known_hidden hrelay m cid
    | none =>
      cases hmsg : m.msg with
      | directOffer offer =>
        rw [hidden_offer hmsg]
        exact ⟨rfl, rfl⟩
      | _ =>
        have hhid : m.hidden.msg = m.msg := by simp [IncomingMsg.hidden, hmsg, ClientMsg.hidden]
        rw [hhid, hmsg]
        exact ⟨rfl, rfl⟩
  | endStep tick => exact finish_hidden p tick
  | event e =>
    obtain ⟨hstate, hout⟩ := p.server.hides_host e
    exact ⟨congrArg (fun s => ({ p with server := s } : Stepping)) hstate, hout⟩

/-! ## What a connection receives -/

inductive Arrival where
  | message (msg : ServerMsg)
  | data (data : Bytes)

def Arrival.isPeer : Arrival → Bool
  | .message (.directPeer _) => true
  | _ => false

def Out.arrivals (conn : Conn) : Out → List Arrival
  | .respond dest msg => if dest = conn then [.message msg] else []
  | .broadcast conns msg => (conns.filter (· = conn)).map fun _ => .message msg
  | .relay dest data => if dest = conn then [.data data] else []
  | _ => []

def arrivals (conn : Conn) (out : List Out) : List Arrival := out.flatMap (Out.arrivals conn)

theorem arrivals_plain (conn : Conn) (out : List Out) :
    (arrivals conn out).filter (!·.isPeer) = arrivals conn (Machine.seen Out.plain out) := by
  induction out with
  | nil => rfl
  | cons o out ih =>
    have hhead : (Out.arrivals conn o).filter (!·.isPeer) = if o.plain then Out.arrivals conn o else [] := by
      cases o with
      | respond dest msg => cases msg <;> simp only [Out.arrivals, Out.plain] <;> split <;> rfl
      | broadcast conns msg => cases msg <;> simp [Out.arrivals, Out.plain, Arrival.isPeer]
      | relay dest data =>
        simp only [Out.arrivals, Out.plain]
        split <;> rfl
      | _ => rfl
    simp only [arrivals, Machine.seen] at ih ⊢
    rw [List.flatMap_cons, List.filter_append, hhead, ih, List.filter_cons]
    split
    · rw [List.flatMap_cons]
    · rfl

theorem peer_of_arrival {conn : Conn} {out : List Out} {peer : DirectPeer}
    (h : .message (.directPeer peer) ∈ arrivals conn out) : (conn, peer) ∈ peersOf out := by
  obtain ⟨o, ho, hmem⟩ := List.mem_flatMap.1 h
  refine List.mem_flatMap.2 ⟨o, ho, ?_⟩
  cases o with
  | respond dest msg =>
    simp only [Out.arrivals] at hmem
    split at hmem
    · rename_i hdest
      obtain rfl := by simpa using hmem
      simp [Out.peers, hdest]
    · cases hmem
  | broadcast conns msg =>
    simp only [Out.arrivals, List.mem_map, List.mem_filter, decide_eq_true_eq] at hmem
    obtain ⟨dest, ⟨hdest, rfl⟩, hmsg⟩ := hmem
    obtain rfl := by simpa using hmsg
    exact List.mem_map.2 ⟨dest, hdest, rfl⟩
  | relay dest data =>
    simp only [Out.arrivals] at hmem
    split at hmem
    · simp at hmem
    · cases hmem
  | _ => cases hmem

/-- Somebody who is sent no DirectPeer receives plain messages only. -/
theorem arrivals_of_no_peer {conn : Conn} {out : List Out} (h : ∀ sent ∈ peersOf out, sent.1 ≠ conn) :
    (arrivals conn out).filter (!·.isPeer) = arrivals conn out := by
  refine List.filter_eq_self.2 fun x hx => ?_
  cases hpeer : x.isPeer with
  | false => rfl
  | true =>
    cases x with
    | data bytes => cases hpeer
    | message msg =>
      cases msg with
      | directPeer peer => exact absurd rfl (h _ (peer_of_arrival hx))
      | _ => cases hpeer

/-! ## Two runs -/

theorem plays_hidden (p : Stepping) (conn : Conn) : p.hidden.plays conn ↔ p.plays conn := by
  have hentry : ∀ side, p.hidden.server.entry side = (p.server.entry side).map (·.hidden) := p.server.entry_hidden
  constructor
  · rintro ⟨side, e, he, hplayer, hconn⟩
    rw [hentry] at he
    obtain ⟨m, hm, rfl⟩ := Option.map_eq_some_iff.1 he
    exact ⟨side, m, hm, hplayer, hconn⟩
  · rintro ⟨side, m, hm, hplayer, hconn⟩
    exact ⟨side, m.hidden, by rw [hentry, hm]; rfl, hplayer, hconn⟩

/-- Two actions that differ in addresses alone: the real address of a connection or of a message's
sender, and what an offer says beyond whether it has a port. -/
def SameButAddresses (a b : Act) : Prop := a.hidden = b.hidden

/-- Two lobbies that differ in addresses alone. -/
structure Readdressed (p q : Stepping) : Prop where
  same : p.hidden = q.hidden
  relay : p.server.relayPort ≠ 0
  left : p.server.WellSeated
  right : q.server.WellSeated

/-- The same players, and the same messages: all of them for everybody else, and all but
DirectPeer for the two players. -/
structure SameArrivals (t t' : Taken Stepping Act Out) : Prop where
  players : ∀ conn, t.post.plays conn ↔ t'.post.plays conn
  others : ∀ conn, ¬t.post.plays conn → arrivals conn t.out = arrivals conn t'.out
  plain : ∀ conn, (arrivals conn t.out).filter (!·.isPeer) = (arrivals conn t'.out).filter (!·.isPeer)

theorem readdressed_next {p q : Stepping} {a b : Act} (h : Readdressed p q) (hab : SameButAddresses a b) :
    Readdressed (sessionServer.next p a).1 (sessionServer.next q b).1 ∧
      SameArrivals (sessionServer.taken p a) (sessionServer.taken q b) := by
  have hrelay : q.server.relayPort ≠ 0 := by
    have hports : p.hidden.server.relayPort = q.hidden.server.relayPort := by rw [h.same]
    exact fun hzero => h.relay (hports.trans hzero)
  obtain ⟨hp, hpout⟩ := next_hidden h.relay a
  obtain ⟨hq, hqout⟩ := next_hidden hrelay b
  have hside : sessionServer.next p.hidden a.hidden = sessionServer.next q.hidden b.hidden := by
    rw [h.same, show a.hidden = b.hidden from hab]
  have hpost : (sessionServer.next p a).1.hidden = (sessionServer.next q b).1.hidden := by rw [← hp, ← hq, hside]
  have hplain : Machine.seen Out.plain (sessionServer.next p a).2 = Machine.seen Out.plain (sessionServer.next q b).2 := by
    rw [← hpout, ← hqout, hside]
  have hplayers : ∀ conn, (sessionServer.next p a).1.plays conn ↔ (sessionServer.next q b).1.plays conn := by
    intro conn
    rw [← plays_hidden, hpost, plays_hidden]
  have hfiltered : ∀ conn, (arrivals conn (sessionServer.next p a).2).filter (!·.isPeer) =
      (arrivals conn (sessionServer.next q b).2).filter (!·.isPeer) := by
    intro conn
    rw [arrivals_plain, arrivals_plain, hplain]
  refine ⟨⟨hpost, ?_, wellSeated_next h.left a, wellSeated_next h.right b⟩, hplayers, fun conn hnot => ?_, hfiltered⟩
  · rw [relayPort_next]
    exact h.relay
  · -- the DirectPeers of this step go to the players
    have hnone : (arrivals conn (sessionServer.next p a).2).filter (!·.isPeer) = _ :=
      arrivals_of_no_peer fun sent hsent hconn => by
        subst hconn
        exact hnot (peers_to_players h.left a sent hsent)
    have hnone' : (arrivals conn (sessionServer.next q b).2).filter (!·.isPeer) = _ :=
      arrivals_of_no_peer fun sent hsent hconn => by
        subst hconn
        exact hnot ((hplayers _).2 (peers_to_players h.right b sent hsent))
    exact hnone.symm.trans ((hfiltered conn).trans hnone')

/-- Two runs that differ in addresses alone look the same, step by step, to everybody but the
two players, and to them apart from DirectPeer. -/
theorem address_privacy (cfg : HostConfig) (hrelay : cfg.relayPort ≠ 0) {as bs : List Act}
    (h : List.Forall₂ SameButAddresses as bs) :
    List.Forall₂ SameArrivals (sessionServer.hist (start cfg) [] as) (sessionServer.hist (start cfg) [] bs) :=
  Machine.forall₂_hist Readdressed SameButAddresses SameArrivals (fun _ _ _ _ hR hA => readdressed_next hR hA)
    ⟨rfl, hrelay, wellSeated_start cfg, wellSeated_start cfg⟩ h .nil

namespace Sample

/-- The two offers from other addresses. -/
def bothOfferElsewhere : List IncomingMsg := [say 1 (offer "9.9.9.9" 4001), say 2 (offer "" 1)]

end Sample

theorem same_offer (conn : Conn) {offer offer' : DirectOffer} (h : offer.hidden = offer'.hidden) :
    SameButAddresses (.message (Sample.say conn (.directOffer (some offer))))
      (.message (Sample.say conn (.directOffer (some offer')))) := by
  simp only [SameButAddresses, Act.hidden, IncomingMsg.hidden, Sample.say, ClientMsg.hidden, h]

/-- Two players that offer other endpoints. -/
theorem address_privacy_offers :
    List.Forall₂ SameArrivals
      (sessionServer.hist (start (lobbyHost 0)) [] (acts (Sample.twoPlayers ++ [.step Sample.bothOffer Sample.tick])))
      (sessionServer.hist (start (lobbyHost 0)) []
        (acts (Sample.twoPlayers ++ [.step Sample.bothOfferElsewhere Sample.tick]))) := by
  have hseats : List.Forall₂ SameButAddresses (acts Sample.twoPlayers) (acts Sample.twoPlayers) :=
    List.forall₂_same.2 fun _ _ => rfl
  have hoffers : List.Forall₂ SameButAddresses (acts [.step Sample.bothOffer Sample.tick])
      (acts [.step Sample.bothOfferElsewhere Sample.tick]) :=
    .cons (same_offer 1 (by decide)) (.cons (same_offer 2 (by decide)) (.cons rfl .nil))
  have hrelay : (lobbyHost 0).relayPort ≠ 0 := by decide
  have hruns : List.Forall₂ SameButAddresses (acts (Sample.twoPlayers ++ [.step Sample.bothOffer Sample.tick]))
      (acts (Sample.twoPlayers ++ [.step Sample.bothOfferElsewhere Sample.tick])) := by
    rw [acts, List.flatMap_append, acts, List.flatMap_append]
    exact List.rel_append hseats hoffers
  exact address_privacy (lobbyHost 0) hrelay hruns

end Sf4e.Session
