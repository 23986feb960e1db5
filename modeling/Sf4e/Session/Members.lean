import Sf4e.Session.Runs
import Mathlib.Data.List.Perm.Basic
/-!
# The member list

What an action does to the members, to the connections that are known, and to
what a join is judged by. `membership_of` lists it once, for the invariants of
the modules after this one.
-/
open Sf4e.Lib

namespace Sf4e.Session

/-- A member without what changes while it stays. -/
def SessionMember.standing (m : SessionMember) : SessionMember :=
  { m with
    direct := ⟨[], 0, [], 0⟩
    data := { m.data with battleLoaded := false, watching := false } }

/-- Who is here, who is known, and what the host has set. -/
structure Register where
  members : List SessionMember
  cidMap : Assoc Conn ConnectionID
  identity : Bytes
  sidecarHash : Bytes
  relayPort : UInt16
  spectatorRelayBase : UInt16
  spectatorSlots : Nat
  joinSecret : Bytes
  requireJoinSecret : Bool

def SessionServer.register (s : SessionServer) : Register where
  members := s.clients.map (·.standing)
  cidMap := s.cidMap
  identity := s.identity
  sidecarHash := s.sidecarHash
  relayPort := s.relayPort
  spectatorRelayBase := s.spectatorRelayBase
  spectatorSlots := s.spectatorSlots
  joinSecret := s.joinSecret
  requireJoinSecret := s.requireJoinSecret

/-- The server with other members. -/
theorem register_of_members {s s' : SessionServer} (hc : s'.clients.map (·.standing) = s.clients.map (·.standing))
    (hs : s' = { s with
      clients := s'.clients, desyncReports := s'.desyncReports, accepted := s'.accepted
      readyRequest := s'.readyRequest, directExchanged := s'.directExchanged, charaOwner := s'.charaOwner
      matchStartMs := s'.matchStartMs, dataDirty := s'.dataDirty, lobbyData := s'.lobbyData
      matchData := s'.matchData }) : s'.register = s.register := by
  rw [hs]
  simp only [SessionServer.register, hc]

/-- What an action does to the register. -/
inductive Membership (s : SessionServer) : Act → Register → Prop where
  | same {a : Act} : Membership s a s.register
  | hello {m : IncomingMsg} (hnew : s.cidMap.find m.conn = none) :
      Membership s (.message m) { s.register with cidMap := s.cidMap.insert m.conn (s.cidOf m.conn) }
  | join {m : IncomingMsg} {cid : ConnectionID} {request : SessionJoinRequest}
      (hcid : s.cidMap.find m.conn = some cid) (hmsg : m.msg = .joinReq (some request))
      (hok : s.joinRefusal request = none) :
      Membership s (.message m) (s.seatMember (s.newMember m.conn request m.peerAddr cid)).register
  | moved {m : IncomingMsg} {members : List SessionMember} (hperm : members.Perm s.register.members) :
      Membership s (.message m) { s.register with members }
  | leave {conn : Conn} :
      Membership s (.event (.closed conn true))
        { s.register with
          members := s.register.members.eraseP fun m => m.conn = conn
          cidMap := s.cidMap.erase conn }
  | lost {conn : Conn} : Membership s (.event (.closed conn false)) { s.register with cidMap := s.cidMap.erase conn }
  | create {hash secret : Bytes} {isPublic : Bool} :
      Membership s (.event (.create hash secret isPublic))
        { s.register with members := [], cidMap := [], sidecarHash := hash, joinSecret := secret }
  | release :
      Membership s (.event .release)
        { s.register with members := [], cidMap := [], sidecarHash := [], joinSecret := [] }

namespace SessionServer

theorem SameRoom.register {s s' : SessionServer} (h : SameRoom s s') : s'.register = s.register :=
  h.keeps fun _ _ _ _ _ => rfl

theorem standing_map_of_keeps {f : SessionMember → SessionMember} (hf : ∀ m, (f m).standing = m.standing)
    (l : List SessionMember) : (l.map f).map (·.standing) = l.map (·.standing) := by
  rw [List.map_map]
  exact List.map_congr_left fun m _ => hf m

theorem register_exchange (s : SessionServer) (tick : Tick) :
    (s.maybeExchangeDirectEndpoints tick).1.register = s.register := by
  rcases maybeExchange_eq s tick with he | he <;> rw [he]
  rfl

theorem register_dropped (s : SessionServer) (side : Side) :
    (s.dropCharaFromVacatedSeat side).register = s.register := by
  unfold dropCharaFromVacatedSeat
  split <;> rfl

theorem register_clearWatching (s : SessionServer) : s.clearWatching.register = s.register :=
  register_of_members (standing_map_of_keeps (by intro m; rfl) _) rfl

theorem register_resetBattleSync (s : SessionServer) : s.resetBattleSync.register = s.register :=
  register_of_members (standing_map_of_keeps (by intro m; rfl) _) rfl

theorem register_callSpectators (s : SessionServer) : s.callSpectators.register = s.register := by
  refine register_of_members (standing_map_of_keeps (fun m => ?_) _) rfl
  split <;> rfl

theorem seatMember_perm (s : SessionServer) (m : SessionMember) : (s.seatMember m).clients.Perm (m :: s.clients) := by
  unfold seatMember
  split
  · exact List.perm_append_singleton m s.clients
  · exact List.perm_insertIdx m s.clients List.countP_le_length

/-- What holds of every member, and of one that joins, holds of every member afterwards. -/
theorem forall_members {P : SessionMember → Prop} {s : SessionServer} {a : Act} {r : Register} (h : Membership s a r)
    (hs : ∀ m ∈ s.register.members, P m)
    (hjoin : ∀ m cid request, a = .message m → m.msg = .joinReq (some request) →
      P (s.newMember m.conn request m.peerAddr cid).standing) : ∀ m ∈ r.members, P m := by
  cases h with
  | same | hello | lost => exact hs
  | create | release => exact fun _ hm => nomatch hm
  | leave => exact fun m hm => hs m (List.mem_of_mem_eraseP hm)
  | moved hperm => exact fun m hm => hs m (hperm.mem_iff.1 hm)
  | @join m cid request hcid hmsg hok =>
    intro e he
    have hmem := ((seatMember_perm s (s.newMember m.conn request m.peerAddr cid)).map (·.standing)).mem_iff.1 he
    rcases List.mem_cons.1 hmem with rfl | hmem
    · exact hjoin m cid request rfl hmsg
    · exact hs e hmem

/-- The loser only moves. -/
theorem register_rotateLoser (s : SessionServer) (loser : Int) :
    ∃ members, members.Perm s.register.members ∧ (s.rotateLoser loser).register = { s.register with members } := by
  unfold rotateLoser
  dsimp only
  split
  · cases hl : s.clients[loser.toNat]? with
    | none => exact ⟨_, .refl _, rfl⟩
    | some e =>
      obtain ⟨hlt, he⟩ := List.getElem?_eq_some_iff.1 hl
      have hplace : s.playerCount - 1 ≤ (s.clients.eraseIdx loser.toNat).length := by
        have hcount : s.playerCount ≤ s.clients.length := List.countP_le_length
        rw [List.length_eraseIdx_of_lt hlt]
        omega
      have hperm : ((s.clients.eraseIdx loser.toNat).insertIdx (s.playerCount - 1) e).Perm s.clients := by
        refine (List.perm_insertIdx e _ hplace).trans ?_
        rw [← he]
        exact List.getElem_cons_eraseIdx_perm hlt
      refine ⟨_, hperm.map _, ?_⟩
      dsimp only
      split <;> rfl
  · exact ⟨_, .refl _, rfl⟩

theorem register_results (s : SessionServer) (loser : Int) (tick : Tick) :
    ∃ members, members.Perm s.register.members ∧
      (s.handleResults loser tick).1.register = { s.register with members } := by
  have hclock : (s.closeMatchClock tick).1.register = s.register := by
    unfold closeMatchClock
    split <;> rfl
  obtain ⟨members, hperm, hmoved⟩ := (s.closeMatchClock tick).1.register_rotateLoser loser
  rw [hclock] at hperm hmoved
  have hserver : (s.handleResults loser tick).1 =
      ((s.closeMatchClock tick).1.rotateLoser loser).clearWatching.clearReadyMarks := by
    simp only [handleResults]
  have hmarks : ∀ s : SessionServer, s.clearReadyMarks.register = s.register := fun _ => rfl
  exact ⟨members, hperm, by rw [hserver, hmarks, register_clearWatching, hmoved]⟩

theorem register_finish (p : Stepping) (tick : Tick) : (finishStep p tick).1.server.register = p.server.register := by
  have hsettled : (settled p tick).register = p.server.register := by
    rw [settled, register_exchange, dropCharaFromVacatedSeats, register_dropped, register_dropped]
  have hupdate : (settled p tick).sendUpdate.1.register = (settled p tick).register := by
    unfold sendUpdate
    split <;> rfl
  rw [finishStep_server]
  split
  · have hready : ((settled p tick).sendUpdate.1.sendAllReady tick).1.register =
        (settled p tick).sendUpdate.1.callSpectators.register := rfl
    rw [hready, register_callSpectators, hupdate, hsettled]
  · rw [hupdate, hsettled]

/-! ## Every action -/

theorem register_closed (s : SessionServer) (conn : Conn) (wasConnected : Bool) :
    (s.connectionClosed conn wasConnected).1.register =
      { s.register with
        members := if wasConnected then s.register.members.eraseP (fun m => m.conn = conn) else s.register.members
        cidMap := s.cidMap.erase conn } := by
  have herase : (s.clients.eraseP fun m => m.conn = conn).map (·.standing) =
      (s.clients.map (·.standing)).eraseP fun m => m.conn = conn := by
    rw [List.eraseP_map]
    rfl
  unfold connectionClosed
  cases wasConnected with
  | false => rfl
  | true =>
    by_cases hany : s.clients.any (fun m => m.conn = conn) = true
    · simp only [hany, Bool.and_self, if_true, onMembershipChanged, register, herase]
    · have hnone : (s.clients.map (·.standing)).eraseP (fun m => m.conn = conn) = s.clients.map (·.standing) := by
        rw [← herase, List.eraseP_of_forall_not]
        simpa using hany
      simp only [hany, Bool.and_false, Bool.false_eq_true, if_false, if_true, register, hnone]

/-- A request that is not refused is granted. -/
theorem register_join {p : Stepping} {m : IncomingMsg} {cid : ConnectionID} {request : SessionJoinRequest}
    (hcid : p.server.cidMap.find m.conn = some cid) (hmsg : m.msg = .joinReq (some request))
    (hok : p.server.joinRefusal request = none) :
    (handleMessage p m).1.server.register =
      (p.server.seatMember (p.server.newMember m.conn request m.peerAddr cid)).register := by
  simp only [handleMessage, hcid, handleKnown, hmsg, Stepping.serve, onJoinRequest, registerToWait, hok]
  rfl

theorem membership_known (p : Stepping) (m : IncomingMsg) {cid : ConnectionID}
    (hcid : p.server.cidMap.find m.conn = some cid) :
    Membership p.server (.message m) (handleKnown p m cid).1.server.register := by
  have hsame : ∀ s' : SessionServer, s'.register = p.server.register →
      Membership p.server (.message m) s'.register := by
    intro s' h
    rw [h]
    exact .same
  simp only [handleKnown]
  cases hmsg : m.msg with
  | joinReq request =>
    cases request with
    | none => exact .same
    | some request =>
      simp only [Stepping.serve, onJoinRequest, registerToWait]
      cases hok : p.server.joinRefusal request with
      | some reason => exact .same
      | none => exact .join hcid hmsg hok
  | setChara request => exact hsame _ (p.server.setChara_room m.conn request).register
  | desyncReport report => exact hsame _ (p.server.desyncReport_room m.conn report m.tick).register
  | directOffer offer =>
    apply hsame
    simp only [Stepping.serve, onDirectOffer]
    split
    · rw [register_exchange]
      refine register_of_members ?_ rfl
      exact map_modify_of_keeps (by intro e; rfl) _ _
    · rfl
  | setEnv rngSeed => exact hsame _ (p.server.setEnv_room m.conn rngSeed).register
  | setStage stageID => exact hsame _ (p.server.setStage_room m.conn stageID).register
  | battleLoaded =>
    apply hsame
    refine register_of_members (standing_map_of_keeps (fun e => ?_) _) rfl
    unfold markLoaded
    split <;> rfl
  | lobbyReady request => exact hsame _ (p.lobbyReady_room m request).register
  | reportResults loserSide =>
    cases loserSide with
    | none => exact .same
    | some loser =>
      obtain ⟨members, hperm, hmoved⟩ := p.server.register_results loser.toInt m.tick
      have hreg : (p.serve (p.server.onReportResults (some loser) m.tick)).1.server.register =
          (p.server.handleResults loser.toInt m.tick).1.register := rfl
      rw [hreg, hmoved]
      exact .moved hperm
  | _ => exact .same

theorem register_disconnectAll (s : SessionServer) :
    s.disconnectAll.1.register = { s.register with members := [], cidMap := [] } := by
  unfold disconnectAll
  split
  · rename_i hnil
    simp [register, hnil]
  · rfl

theorem register_resetLobby (s : SessionServer) : s.resetLobby.register = s.register := by
  have h : s.resetLobby.register =
      ({ s with matchData := .clear, desyncReports := 0 } : SessionServer).clearWatching.resetBattleSync.register := rfl
  rw [h, register_resetBattleSync, register_clearWatching]
  rfl

theorem register_create (s : SessionServer) (hash secret : Bytes) (isPublic : Bool) :
    (s.host (.create hash secret isPublic)).1.register =
      { s.register with members := [], cidMap := [], sidecarHash := hash, joinSecret := secret } := by
  have h : (s.host (.create hash secret isPublic)).1.register =
      (resetLobby { s.disconnectAll.1 with sidecarHash := hash, joinSecret := secret }).register := rfl
  rw [h, register_resetLobby]
  have hd := s.register_disconnectAll
  simp only [register, Register.mk.injEq] at hd ⊢
  simp only [hd]
  trivial

theorem register_release (s : SessionServer) :
    (s.host .release).1.register =
      { s.register with members := [], cidMap := [], sidecarHash := [], joinSecret := [] } := by
  have h : (s.host .release).1.register =
      (setPublic { s with sidecarHash := [], joinSecret := [] } false).disconnectAll.1.resetLobby.register := rfl
  rw [h, register_resetLobby, register_disconnectAll]
  rfl

theorem membership_host (p : Stepping) (e : Event) :
    Membership p.server (.event e) (p.serve (p.server.host e)).1.server.register := by
  have hserve : (p.serve (p.server.host e)).1.server = (p.server.host e).1 := rfl
  rw [hserve]
  cases e with
  | connecting conn ip acceptOk =>
    have h : (p.server.host (.connecting conn ip acceptOk)).1.register = p.server.register := by
      simp only [host, connecting]
      split <;> rfl
    rw [h]
    exact .same
  | closed conn wasConnected =>
    have h := p.server.register_closed conn wasConnected
    simp only [host]
    rw [h]
    cases wasConnected with
    | true => exact .leave
    | false => exact .lost
  | create hash secret isPublic =>
    rw [register_create]
    exact .create
  | release =>
    rw [register_release]
    exact .release
  | resetBattleSync =>
    have h : (p.server.host .resetBattleSync).1.register = p.server.register := p.server.register_resetBattleSync
    rw [h]
    exact .same

end SessionServer

/-- Every action does one of the things `Membership` lists. -/
theorem membership_of (p : Stepping) (a : Act) :
    Membership p.server a (sessionServer.next p a).1.server.register := by
  cases a with
  | message m =>
    rw [next_message, handleMessage]
    cases hcid : p.server.cidMap.find m.conn with
    | some cid => exact SessionServer.membership_known p m hcid
    | none =>
      cases m.msg with
      | hello => exact .hello hcid
      | _ => exact .same
  | endStep tick =>
    rw [next_endStep, SessionServer.register_finish]
    exact .same
  | event e => exact SessionServer.membership_host p e

theorem relayPort_next (p : Stepping) (a : Act) : (sessionServer.next p a).1.server.relayPort = p.server.relayPort := by
  show (sessionServer.next p a).1.server.register.relayPort = p.server.register.relayPort
  have hstep := membership_of p a
  generalize (sessionServer.next p a).1.server.register = r at hstep
  cases hstep with
  | join hcid hmsg hok =>
    show (p.server.seatMember _).relayPort = _
    unfold SessionServer.seatMember
    split <;> rfl
  | _ => rfl

end Sf4e.Session
