import Sf4e.Session.Readiness
/-!
# Connections that are not members

Anyone who finds the port can connect and say hello. `Screened` names the three
messages such a connection must not send for the lobby to be the same with and
without it. The proof is an unwinding: the two runs differ in the identities of
outsiders alone.
-/
open Sf4e.Lib

namespace Sf4e.Session

/-! ## The identities do not matter to the others -/

def SessionServer.withCids (s : SessionServer) (cids : Assoc Conn ConnectionID) : SessionServer :=
  { s with cidMap := cids }

def Stepping.withCids (p : Stepping) (cids : Assoc Conn ConnectionID) : Stepping :=
  { p with server := p.server.withCids cids }

/-- The same result with other identities. -/
def relabel (r : SessionServer × List Out) (cids : Assoc Conn ConnectionID) : SessionServer × List Out :=
  (r.1.withCids cids, r.2)

namespace SessionServer

variable (s : SessionServer) (cids : Assoc Conn ConnectionID)

theorem entry_withCids (side : Side) : (s.withCids cids).entry side = s.entry side := rfl

theorem sideOf_withCids (conn : Conn) : (s.withCids cids).sideOf conn = s.sideOf conn := rfl

theorem exchange_withCids (tick : Tick) :
    (s.withCids cids).maybeExchangeDirectEndpoints tick = relabel (s.maybeExchangeDirectEndpoints tick) cids := by
  unfold maybeExchangeDirectEndpoints
  rw [entry_withCids, entry_withCids]
  show (if s.directExchanged || s.playerCount < 2 then _ else _) = _
  split
  · rfl
  · cases s.entry 0 with
    | none => rfl
    | some a =>
      cases s.entry 1 with
      | none => rfl
      | some b =>
        dsimp only
        split <;> rfl

theorem join_withCids (m : IncomingMsg) (cid : ConnectionID) (request : Option SessionJoinRequest) :
    (s.withCids cids).onJoinRequest m cid request = relabel (s.onJoinRequest m cid request) cids := by
  cases request with
  | none => rfl
  | some request =>
    simp only [onJoinRequest, registerToWait]
    have href : (s.withCids cids).joinRefusal request = s.joinRefusal request := rfl
    rw [href]
    cases s.joinRefusal request with
    | some reason => rfl
    | none =>
      have hnew : (s.withCids cids).newMember m.conn request m.peerAddr cid =
          s.newMember m.conn request m.peerAddr cid := rfl
      simp only [hnew, seatMember]
      split <;> rfl

theorem setChara_withCids (conn : Conn) (request : Option CharaConditions) :
    (s.withCids cids).onSetChara conn request = (s.onSetChara conn request).withCids cids := by
  unfold onSetChara
  rw [sideOf_withCids]
  cases s.sideOf conn with
  | none => rfl
  | some found =>
    cases request with
    | none => rfl
    | some chara =>
      dsimp only
      split <;> rfl

theorem desync_withCids (conn : Conn) (report : Option DesyncReport) (tick : Tick) :
    (s.withCids cids).onDesyncReport conn report tick = relabel (s.onDesyncReport conn report tick) cids := by
  cases report with
  | none => rfl
  | some report =>
    simp only [onDesyncReport]
    have hfrom : (s.withCids cids).fromPlayer conn = s.fromPlayer conn := rfl
    have hcount : (s.withCids cids).desyncReports = s.desyncReports := rfl
    rw [hfrom, hcount]
    split <;> rfl

theorem offer_withCids (conn : Conn) (offer : Option DirectOffer) (tick : Tick) :
    (s.withCids cids).onDirectOffer conn offer tick = relabel (s.onDirectOffer conn offer tick) cids := by
  unfold onDirectOffer
  rw [sideOf_withCids]
  cases s.sideOf conn with
  | none => rfl
  | some found =>
    cases offer with
    | none => rfl
    | some offer =>
      obtain ⟨side, e⟩ := found
      exact exchange_withCids
        { s with
          directExchanged := false
          clients := s.clients.modify side.val fun m => { m with direct := offer } } cids tick

theorem setEnv_withCids (conn : Conn) (rngSeed : Option UInt32) :
    (s.withCids cids).onSetEnv conn rngSeed = (s.onSetEnv conn rngSeed).withCids cids := by
  unfold onSetEnv
  rw [sideOf_withCids]
  match s.sideOf conn, rngSeed with
  | none, _ => rfl
  | some (0, _), none => rfl
  | some (0, _), some _ => rfl
  | some (1, _), _ => rfl

theorem setStage_withCids (conn : Conn) (stageID : Option Int32) :
    (s.withCids cids).onSetStage conn stageID = (s.onSetStage conn stageID).withCids cids := by
  unfold onSetStage
  rw [sideOf_withCids]
  match s.sideOf conn, stageID with
  | none, _ => rfl
  | some (0, _), none => rfl
  | some (0, _), some stageID =>
    cases hv : stageIDValid stageID.toInt <;> simp only [hv] <;> rfl
  | some (1, _), _ => rfl

theorem ready_withCids (side : Side) (num : Nat) (request : LobbyReady) :
    (s.withCids cids).onReady side num request = (s.onReady side num request).withCids cids := by
  simp only [onReady, stampDelay]
  show (if (s.markReady side num request).matchData.isAllReady then _ else _) = _
  split <;> rfl

theorem unready_withCids (side : Side) :
    (s.withCids cids).onUnready side = (s.onUnready side).withCids cids := by
  unfold onUnready
  show (if s.matchData.isAllReady then _ else _) = _
  split <;> rfl

theorem rotate_withCids (loser : Int) :
    (s.withCids cids).rotateLoser loser = (s.rotateLoser loser).withCids cids := by
  simp only [rotateLoser]
  have hcount : (s.withCids cids).playerCount = s.playerCount := rfl
  have hclients : (s.withCids cids).clients = s.clients := rfl
  rw [hcount, hclients]
  split
  · cases s.clients[loser.toNat]? with
    | none => rfl
    | some e =>
      dsimp only
      split <;> rfl
  · rfl

theorem results_withCids (loser : Option Int32) (tick : Tick) :
    (s.withCids cids).onReportResults loser tick = relabel (s.onReportResults loser tick) cids := by
  cases loser with
  | none => rfl
  | some loser =>
    have hclock : (s.withCids cids).closeMatchClock tick = relabel (s.closeMatchClock tick) cids := by
      unfold closeMatchClock
      show (if s.matchStartMs ≠ 0 && tick.nowMs - s.matchStartMs ≥ 3000 then _ else _) = _
      split <;> rfl
    simp only [onReportResults, handleResults, hclock, relabel, rotate_withCids]
    rfl

end SessionServer

theorem known_withCids (p : Stepping) (cids : Assoc Conn ConnectionID) (m : IncomingMsg) (cid : ConnectionID) :
    handleKnown (p.withCids cids) m cid =
      ((handleKnown p m cid).1.withCids cids, (handleKnown p m cid).2) := by
  unfold handleKnown
  cases m.msg with
  | joinReq request =>
    show Stepping.serve _ _ = _
    rw [show (p.withCids cids).server = p.server.withCids cids from rfl, SessionServer.join_withCids]
    rfl
  | setChara request =>
    show Stepping.serve _ _ = _
    rw [show (p.withCids cids).server = p.server.withCids cids from rfl, SessionServer.setChara_withCids]
    rfl
  | desyncReport report =>
    show Stepping.serve _ _ = _
    rw [show (p.withCids cids).server = p.server.withCids cids from rfl, SessionServer.desync_withCids]
    rfl
  | directOffer offer =>
    show Stepping.serve _ _ = _
    rw [show (p.withCids cids).server = p.server.withCids cids from rfl, SessionServer.offer_withCids]
    rfl
  | setEnv rngSeed =>
    show Stepping.serve _ _ = _
    rw [show (p.withCids cids).server = p.server.withCids cids from rfl, SessionServer.setEnv_withCids]
    rfl
  | setStage stageID =>
    show Stepping.serve _ _ = _
    rw [show (p.withCids cids).server = p.server.withCids cids from rfl, SessionServer.setStage_withCids]
    rfl
  | lobbyReady request =>
    simp only [Stepping.lobbyReady]
    rw [show (p.withCids cids).server = p.server.withCids cids from rfl, SessionServer.sideOf_withCids]
    cases p.server.sideOf m.conn with
    | none => rfl
    | some found =>
      cases request with
      | none => rfl
      | some request =>
        dsimp only
        rw [SessionServer.ready_withCids, SessionServer.unready_withCids]
        split <;> rfl
  | reportResults loser =>
    show Stepping.serve _ _ = _
    rw [show (p.withCids cids).server = p.server.withCids cids from rfl, SessionServer.results_withCids]
    rfl
  | _ => rfl

theorem finish_withCids (p : Stepping) (cids : Assoc Conn ConnectionID) (tick : Tick) :
    finishStep (p.withCids cids) tick = ((finishStep p tick).1.withCids cids, (finishStep p tick).2) := by
  have hdrop : ∀ (s : SessionServer) (side : Side),
      (s.withCids cids).dropCharaFromVacatedSeat side = (s.dropCharaFromVacatedSeat side).withCids cids := by
    intro s side
    unfold SessionServer.dropCharaFromVacatedSeat
    show (if !s.sameOwner side && (s.matchData.chara.get side).charaID ≠ 0 then _ else _) = _
    split <;> rfl
  have hupdate : ∀ s : SessionServer, (s.withCids cids).sendUpdate = relabel s.sendUpdate cids := by
    intro s
    unfold SessionServer.sendUpdate
    show (if s.dataDirty then _ else _) = _
    split <;> rfl
  have hall : ∀ s : SessionServer, (s.withCids cids).sendAllReady tick = relabel (s.sendAllReady tick) cids :=
    fun _ => rfl
  have hdrops : (p.server.withCids cids).dropCharaFromVacatedSeats =
      p.server.dropCharaFromVacatedSeats.withCids cids := by
    unfold SessionServer.dropCharaFromVacatedSeats
    rw [hdrop, hdrop]
  simp only [finishStep]
  rw [show (p.withCids cids).server = p.server.withCids cids from rfl, hdrops, SessionServer.exchange_withCids]
  simp only [relabel, hupdate, hall]
  cases hr : p.bSendLobbyAllReady <;> cases hs : p.bSendBattleSynced <;>
    simp only [Stepping.withCids, hr, hs] <;> rfl

/-! ## Who is a member -/

namespace SessionServer

/-- No member of `s'` is new. -/
def NoNewcomer (s s' : SessionServer) : Prop := ∀ e ∈ s'.clients, ∃ e₀ ∈ s.clients, e₀.conn = e.conn

theorem NoNewcomer.same {s s' : SessionServer} (h : s'.clients = s.clients) : NoNewcomer s s' :=
  fun e he => ⟨e, h ▸ he, rfl⟩

theorem NoNewcomer.of_conns {s s' : SessionServer} (h : s'.clients.map (·.conn) = s.clients.map (·.conn)) :
    NoNewcomer s s' := by
  intro e he
  have hmem : e.conn ∈ s.clients.map (·.conn) := h ▸ List.mem_map_of_mem he
  exact List.mem_map.1 hmem

theorem NoNewcomer.room {s s' : SessionServer} (h : SameRoom s s') : NoNewcomer s s' :=
  .same (h.keeps fun _ _ _ _ _ => rfl)

theorem NoNewcomer.trans {s s' s'' : SessionServer} (h : NoNewcomer s s') (h' : NoNewcomer s' s'') :
    NoNewcomer s s'' := by
  intro e he
  obtain ⟨e₁, h₁, hc₁⟩ := h' e he
  obtain ⟨e₀, h₀, hc₀⟩ := h e₁ h₁
  exact ⟨e₀, h₀, hc₀.trans hc₁⟩

theorem conns_map {f : SessionMember → SessionMember} (hf : ∀ m, (f m).conn = m.conn) (l : List SessionMember) :
    (l.map f).map (·.conn) = l.map (·.conn) := by
  rw [List.map_map]
  exact List.map_congr_left fun m _ => hf m

theorem NoNewcomer.results (s : SessionServer) (loser : Int) (tick : Tick) :
    NoNewcomer s (s.handleResults loser tick).1 := by
  intro e he
  obtain ⟨e₀, h₀, rfl⟩ := members_results s loser tick e he
  exact ⟨e₀, h₀, rfl⟩

end SessionServer

section

open SessionServer

/-- A member that was not there before is the sender of a message. -/
theorem newcomer_next (p : Stepping) (a : Act) :
    ∀ e ∈ (sessionServer.next p a).1.server.clients,
      (∃ e₀ ∈ p.server.clients, e₀.conn = e.conn) ∨ ∃ m, a = .message m ∧ e.conn = m.conn := by
  have hold : NoNewcomer p.server (sessionServer.next p a).1.server →
      ∀ e ∈ (sessionServer.next p a).1.server.clients,
        (∃ e₀ ∈ p.server.clients, e₀.conn = e.conn) ∨ ∃ m, a = .message m ∧ e.conn = m.conn :=
    fun h e he => .inl (h e he)
  cases a with
  | message m =>
    show ∀ e ∈ (handleMessage p m).1.server.clients, _
    unfold handleMessage
    cases p.server.cidMap.find m.conn with
    | none => cases m.msg <;> exact fun e he => .inl ⟨e, he, rfl⟩
    | some cid =>
      simp only [handleKnown]
      have hkeep : ∀ s : SessionServer, NoNewcomer p.server s →
          ∀ e ∈ s.clients, (∃ e₀ ∈ p.server.clients, e₀.conn = e.conn) ∨
            ∃ m', Act.message m = .message m' ∧ e.conn = m'.conn := fun _ h e he => .inl (h e he)
      cases m.msg with
      | joinReq request =>
        cases request with
        | none => exact hkeep _ (.same rfl)
        | some request =>
          simp only [Stepping.serve, onJoinRequest, registerToWait]
          cases p.server.joinRefusal request with
          | some reason => exact hkeep _ (.same rfl)
          | none =>
            intro e he
            have hnew : e = p.server.newMember m.conn request m.peerAddr cid ∨ e ∈ p.server.clients := by
              simp only [seatMember] at he
              split at he
              · exact (List.mem_append.1 he).symm.imp_left List.mem_singleton.1
              · exact List.eq_or_mem_of_mem_insertIdx he
            rcases hnew with rfl | hmem
            · exact .inr ⟨m, rfl, rfl⟩
            · exact .inl ⟨e, hmem, rfl⟩
      | setChara request => exact hkeep _ (.room (p.server.setChara_room m.conn request))
      | desyncReport report => exact hkeep _ (.room (p.server.desyncReport_room m.conn report m.tick))
      | directOffer offer =>
        refine hkeep _ ?_
        simp only [Stepping.serve, onDirectOffer]
        split
        · rename_i side e offer hside
          have hmod : NoNewcomer p.server { p.server with
              directExchanged := false
              clients := p.server.clients.modify side.val fun m => { m with direct := offer } } :=
            .of_conns (map_modify_of_keeps (by intro m; rfl) _ _)
          refine hmod.trans ?_
          rcases maybeExchange_eq { p.server with
              directExchanged := false
              clients := p.server.clients.modify side.val fun m => { m with direct := offer } } m.tick with he | he <;>
            rw [he] <;> exact .same rfl
        · exact .same rfl
      | setEnv rngSeed => exact hkeep _ (.room (p.server.setEnv_room m.conn rngSeed))
      | setStage stageID => exact hkeep _ (.room (p.server.setStage_room m.conn stageID))
      | battleLoaded =>
        refine hkeep _ (.of_conns (conns_map (fun e => ?_) _))
        unfold markLoaded
        split <;> rfl
      | lobbyReady request => exact hkeep _ (.room (p.lobbyReady_room m request))
      | reportResults loser =>
        cases loser with
        | none => exact hkeep _ (.same rfl)
        | some loser => exact hkeep _ (NoNewcomer.results p.server loser.toInt m.tick)
      | _ => exact hkeep _ (.same rfl)
  | endStep tick =>
    refine hold ?_
    show NoNewcomer p.server (finishStep p tick).1.server
    have hset : (settled p tick).clients = p.server.clients := by
      have hdrop : ∀ (s : SessionServer) side, (s.dropCharaFromVacatedSeat side).clients = s.clients := by
        intro s side
        unfold dropCharaFromVacatedSeat
        split <;> rfl
      unfold settled
      rcases maybeExchange_eq p.server.dropCharaFromVacatedSeats tick with he | he <;> rw [he] <;>
        exact (hdrop _ 1).trans (hdrop _ 0)
    obtain ⟨hc, -⟩ := (settled p tick).sendUpdate_same
    rw [finishStep_server]
    split
    · refine (NoNewcomer.same (hc.trans hset)).trans (.of_conns ?_)
      refine conns_map (fun m => ?_) _
      split <;> rfl
    · exact .same (hc.trans hset)
  | event e =>
    refine hold ?_
    show NoNewcomer p.server (p.server.host e).1
    cases e with
    | connecting conn ip acceptOk =>
      simp only [host, connecting]
      split <;> exact .same rfl
    | closed conn wasConnected =>
      simp only [host, connectionClosed]
      split
      · exact fun e he => ⟨e, List.mem_of_mem_eraseP he, rfl⟩
      · exact .same rfl
    | create hash secret isPublic =>
      intro e he
      have hc := (disconnectAll_same p.server).1
      simp [host, setPublic, resetLobby, resetBattleSync, SessionServer.clearWatching, hc] at he
    | release =>
      intro e he
      have hc := (disconnectAll_same (setPublic { p.server with sidecarHash := [], joinSecret := [] } false)).1
      simp [host, resetLobby, resetBattleSync, SessionServer.clearWatching, hc] at he
    | resetBattleSync => exact .of_conns (conns_map (by intro m; rfl) _)

end

/-! ## Outsiders -/

section

variable (F : Conn → Bool)

/-- The action is a message of an outsider. -/
def fromOutsider : Act → Bool
  | .message m => F m.conn
  | _ => false

/-- The effect concerns someone who is not an outsider. -/
def concernsOthers : Out → Bool
  | .respond conn _ => !F conn
  | .relay conn _ => !F conn
  | .broadcast conns _ => conns.any fun conn => !F conn
  | .logStat _ _ => true
  | .closeConnection conn => !F conn

/-- No outsider is let into the lobby. Without an identity it cannot be. -/
def NotAdmitted (p : Stepping) (a : Act) : Prop :=
  match a with
  | .message m => F m.conn = true → registered p m = true → match m.msg with
    | .joinReq (some request) => (p.server.joinRefusal request).isSome = true
    | _ => True
  | _ => True

/-- No outsider that has said hello sends BATTLE_LOADED, a result report or a snapshot. -/
def Screened (p : Stepping) (a : Act) : Prop :=
  match a with
  | .message m => F m.conn = true → registered p m = true → match m.msg with
    | .battleLoaded => False
    | .reportResults (some _) => False
    | .battleSnapshot _ => False
    | _ => True
  | _ => True

/-- The two lobbies differ in the identities of outsiders alone. -/
structure SameLobby (p q : Stepping) : Prop where
  members : ∀ e ∈ p.server.clients, F e.conn = false
  same : q = p.withCids q.server.cidMap
  cids : ∀ conn, F conn = false → q.server.cidMap.find conn = p.server.cidMap.find conn

end

theorem sideOf_of_outsider {s : SessionServer} {conn : Conn} (h : ∀ e ∈ s.clients, e.conn ≠ conn) :
    s.sideOf conn = none := by
  cases hs : s.sideOf conn with
  | none => rfl
  | some found =>
    obtain ⟨side, e⟩ := found
    obtain ⟨he, hc⟩ := SessionServer.sideOf_some hs
    exact absurd hc (h e (List.mem_of_getElem? he))

/-- With an identity, a screened outsider changes nothing at all. -/
theorem outsider_known {F : Conn → Bool} {p : Stepping} {m : IncomingMsg} {cid : ConnectionID}
    (hF : F m.conn = true) (hout : ∀ e ∈ p.server.clients, F e.conn = false)
    (hcid : p.server.cidMap.find m.conn = some cid) (hjoin : NotAdmitted F p (.message m))
    (hscreen : Screened F p (.message m)) :
    ∃ out, handleKnown p m cid = (p, out) ∧ ∀ o ∈ out, concernsOthers F o = false := by
  have hne : ∀ e ∈ p.server.clients, e.conn ≠ m.conn := by
    intro e he hc
    have := hout e he
    rw [hc, hF] at this
    cases this
  have hside := sideOf_of_outsider hne
  have hplayer : p.server.fromPlayer m.conn = false := by
    apply List.any_eq_false.2
    intro e he
    simpa using hne e (List.mem_of_mem_take he)
  have hknown : registered p m = true := by simp [registered, hcid]
  have hscr := hscreen hF hknown
  have hadm := hjoin hF hknown
  unfold handleKnown
  cases hmsg : m.msg with
  | forward msg fwd =>
    refine ⟨_, rfl, ?_⟩
    simp only [SessionServer.onForward]
    repeat' split
    all_goals simp [concernsOthers, hF]
  | joinReq request =>
    cases request with
    | none => exact ⟨[.respond m.conn (.joinReject .requestInvalid)], rfl, by simp [concernsOthers, hF]⟩
    | some request =>
      rw [hmsg] at hadm
      obtain ⟨reason, hreason⟩ := Option.isSome_iff_exists.1 hadm
      refine ⟨[.respond m.conn (.joinReject reason)], ?_, by simp [concernsOthers, hF]⟩
      simp only [Stepping.serve, SessionServer.onJoinRequest, SessionServer.registerToWait, hreason]
  | setChara request =>
    exact ⟨[], by simp only [Stepping.serve, SessionServer.onSetChara, hside], by simp⟩
  | desyncReport report =>
    refine ⟨[], ?_, by simp⟩
    cases report with
    | none => rfl
    | some report =>
      simp only [Stepping.serve, SessionServer.onDesyncReport, hplayer, Bool.not_false, Bool.true_or, if_true]
  | directOffer offer =>
    exact ⟨[], by simp only [Stepping.serve, SessionServer.onDirectOffer, hside], by simp⟩
  | setEnv rngSeed =>
    exact ⟨[], by simp only [Stepping.serve, SessionServer.onSetEnv, hside], by simp⟩
  | setStage stageID =>
    exact ⟨[], by simp only [Stepping.serve, SessionServer.onSetStage, hside], by simp⟩
  | lobbyReady request =>
    exact ⟨[], by simp only [Stepping.lobbyReady, hside], by simp⟩
  | reportResults loser =>
    cases loser with
    | none => exact ⟨[], rfl, by simp⟩
    | some loser => rw [hmsg] at hscr; exact hscr.elim
  | battleLoaded => rw [hmsg] at hscr; exact hscr.elim
  | battleSnapshot data => rw [hmsg] at hscr; exact hscr.elim
  | _ => exact ⟨[], rfl, by simp⟩

/-- A screened message of an outsider changes nothing but its own identity, and
is answered to nobody else. -/
theorem outsider_message {F : Conn → Bool} {p : Stepping} {m : IncomingMsg} (hF : F m.conn = true)
    (hout : ∀ e ∈ p.server.clients, F e.conn = false) (hjoin : NotAdmitted F p (.message m))
    (hscreen : Screened F p (.message m)) :
    (handleMessage p m).1 = p.withCids (handleMessage p m).1.server.cidMap ∧
      (∀ conn, F conn = false →
        (handleMessage p m).1.server.cidMap.find conn = p.server.cidMap.find conn) ∧
      ∀ o ∈ (handleMessage p m).2, concernsOthers F o = false := by
  unfold handleMessage
  cases hcid : p.server.cidMap.find m.conn with
  | some cid =>
    obtain ⟨out, he, ho⟩ := outsider_known hF hout hcid hjoin hscreen
    dsimp only
    rw [he]
    exact ⟨rfl, fun _ _ => rfl, ho⟩
  | none =>
    cases m.msg with
    | hello =>
      refine ⟨rfl, fun conn hconn => ?_, ?_⟩
      · have hc : conn ≠ m.conn := fun he => by rw [he, hF] at hconn; cases hconn
        exact Assoc.find_insert_ne _ _ hc
      · simp [Stepping.serve, SessionServer.onHello, concernsOthers, hF]
    | _ => exact ⟨rfl, fun _ _ => rfl, by simp⟩

/-- What an event does to the identities. -/
def Event.cids (e : Event) (cids : Assoc Conn ConnectionID) : Assoc Conn ConnectionID :=
  match e with
  | .closed conn _ => cids.erase conn
  | .create _ _ _ => []
  | .release => []
  | _ => cids

theorem host_withCids (s : SessionServer) (cids : Assoc Conn ConnectionID) (e : Event) :
    (s.withCids cids).host e = relabel (s.host e) (e.cids cids) := by
  have hall : ∀ s : SessionServer, (s.withCids cids).disconnectAll = relabel s.disconnectAll [] := by
    intro s
    unfold SessionServer.disconnectAll
    dsimp only
    rw [show (s.withCids cids).clients = s.clients from rfl]
    split <;> rfl
  cases e with
  | connecting conn ip acceptOk =>
    simp only [SessionServer.host, SessionServer.connecting]
    rw [show (s.withCids cids).accepted = s.accepted from rfl]
    split <;> rfl
  | closed conn wasConnected =>
    simp only [SessionServer.host, SessionServer.connectionClosed]
    rw [show (s.withCids cids).clients = s.clients from rfl]
    split <;> rfl
  | create hash secret isPublic =>
    simp only [SessionServer.host, hall]
    rfl
  | release =>
    have := hall (SessionServer.setPublic { s with sidecarHash := [], joinSecret := [] } false)
    simp only [SessionServer.host]
    rw [show SessionServer.setPublic { s.withCids cids with sidecarHash := [], joinSecret := [] } false =
      (SessionServer.setPublic { s with sidecarHash := [], joinSecret := [] } false).withCids cids from rfl, this]
    rfl
  | resetBattleSync => rfl

theorem SameLobby.relabel {F : Conn → Bool} {p : Stepping} {cids : Assoc Conn ConnectionID}
    (hm : ∀ e ∈ p.server.clients, F e.conn = false)
    (hc : ∀ conn, F conn = false → cids.find conn = p.server.cidMap.find conn) : SameLobby F p (p.withCids cids) :=
  ⟨hm, rfl, hc⟩

/-- Any other action does the same in two such lobbies. -/
theorem others_same {F : Conn → Bool} {p q : Stepping} {a : Act} (hpq : SameLobby F p q)
    (ha : fromOutsider F a = false) :
    SameLobby F (sessionServer.next p a).1 (sessionServer.next q a).1 ∧
      (sessionServer.next q a).2 = (sessionServer.next p a).2 := by
  have hmembers : ∀ e ∈ (sessionServer.next p a).1.server.clients, F e.conn = false := by
    intro e he
    rcases newcomer_next p a e he with ⟨e₀, h₀, hc⟩ | ⟨m, rfl, hc⟩
    · rw [← hc]
      exact hpq.members e₀ h₀
    · rw [hc]
      exact ha
  obtain ⟨-, hsame, hcids⟩ := hpq
  generalize q.server.cidMap = cids at hsame hcids
  subst hsame
  -- the same result, with identities that agree again
  have hdone : ∀ (r : Stepping × List Out) (cids' : Assoc Conn ConnectionID),
      sessionServer.next p a = r → sessionServer.next (p.withCids cids) a = (r.1.withCids cids', r.2) →
      (∀ conn, F conn = false → cids'.find conn = r.1.server.cidMap.find conn) →
      SameLobby F (sessionServer.next p a).1 (sessionServer.next (p.withCids cids) a).1 ∧
        (sessionServer.next (p.withCids cids) a).2 = (sessionServer.next p a).2 := by
    intro r cids' hr hq hc
    rw [hr] at hmembers ⊢
    rw [hq]
    exact ⟨.relabel hmembers hc, rfl⟩
  cases a with
  | message m =>
    have hfind : (p.withCids cids).server.cidMap.find m.conn = p.server.cidMap.find m.conn := hcids m.conn ha
    cases hcid : p.server.cidMap.find m.conn with
    | some cid =>
      have hkeep : (handleKnown p m cid).1.server.cidMap = p.server.cidMap :=
        congrArg (fun r => r.1.server.cidMap) (known_withCids p p.server.cidMap m cid)
      refine hdone (handleKnown p m cid) cids ?_ ?_ (hkeep ▸ hcids)
      · rw [next_message, handleMessage, hcid]
      · rw [next_message, handleMessage, hfind, hcid]
        exact known_withCids p cids m cid
    | none =>
      rw [hcid] at hfind
      by_cases hmsg : m.msg = .hello
      · refine hdone (p.serve (p.server.onHello m.conn)) (cids.insert m.conn (p.server.cidOf m.conn)) ?_ ?_ ?_
        · simp only [next_message, handleMessage, hcid, hmsg]
        · simp only [next_message, handleMessage, hfind, hmsg]
          rfl
        · intro conn hconn
          show _ = (p.server.cidMap.insert m.conn _).find conn
          by_cases hc : conn = m.conn
          · subst hc
            rw [Assoc.find_insert_self, Assoc.find_insert_self]
          · rw [Assoc.find_insert_ne _ _ hc, Assoc.find_insert_ne _ _ hc]
            exact hcids conn hconn
      · have hquiet : ∀ p' : Stepping, p'.server.cidMap.find m.conn = none →
            sessionServer.next p' (.message m) = (p', []) := by
          intro p' hp'
          simp only [next_message, handleMessage, hp']
        exact hdone (p, []) cids (hquiet p hcid) (hquiet _ hfind) hcids
  | endStep tick =>
    have hkeep : (finishStep p tick).1.server.cidMap = p.server.cidMap :=
      congrArg (fun r => r.1.server.cidMap) (finish_withCids p p.server.cidMap tick)
    exact hdone (finishStep p tick) cids rfl (finish_withCids p cids tick) (hkeep ▸ hcids)
  | event e =>
    have hhost := host_withCids p.server cids e
    have hkeep : (p.server.host e).1.cidMap = e.cids p.server.cidMap :=
      congrArg (fun r => r.1.cidMap) (host_withCids p.server p.server.cidMap e)
    refine hdone (p.serve (p.server.host e)) (e.cids cids) rfl ?_ fun conn hconn => ?_
    · rw [next_event, show (p.withCids cids).server = p.server.withCids cids from rfl, hhost]
      rfl
    · show _ = (p.server.host e).1.cidMap.find conn
      rw [hkeep]
      cases e with
      | closed c was =>
        show (cids.erase c).find conn = (p.server.cidMap.erase c).find conn
        by_cases hc : conn = c
        · subst hc
          rw [Assoc.find_erase_self, Assoc.find_erase_self]
        · rw [Assoc.find_erase_ne _ hc, Assoc.find_erase_ne _ hc]
          exact hcids conn hconn
      | connecting c ip ok => exact hcids conn hconn
      | create hash secret isPublic => rfl
      | release => rfl
      | resetBattleSync => exact hcids conn hconn

/-! ## The two runs -/

theorem lobby_unwind {F : Conn → Bool} {p q : Stepping} {h : Past} {as : List Act} (hpq : SameLobby F p q)
    (hm : sessionServer.Meets (fun _ p a => NotAdmitted F p a ∧ Screened F p a) p h as) :
    SameLobby F (sessionServer.run p as) (sessionServer.run q (as.filter fun a => !fromOutsider F a)) ∧
      Machine.seen (concernsOthers F) (sessionServer.outs p as) =
        Machine.seen (concernsOthers F) (sessionServer.outs q (as.filter fun a => !fromOutsider F a)) := by
  refine Machine.unwind (SameLobby F) (fromOutsider F) (concernsOthers F)
    (fun p a => NotAdmitted F p a ∧ Screened F p a) ?_ ?_ hpq hm
  · intro p q a hpq ⟨hjoin, hscreen⟩ ha
    cases a with
    | message m =>
      obtain ⟨hsame, hcids, hquiet⟩ := outsider_message ha hpq.members hjoin hscreen
      refine ⟨?_, List.filter_eq_nil_iff.2 fun o ho => by simp [hquiet o ho]⟩
      have hp : (sessionServer.next p (.message m)).1 = p.withCids (handleMessage p m).1.server.cidMap := hsame
      rw [hp]
      refine ⟨hpq.members, ?_, fun conn hconn => (hpq.cids conn hconn).trans (hcids conn hconn).symm⟩
      have hq := hpq.same
      rw [hq]
      rfl
    | endStep tick => cases ha
    | event e => cases ha
  · intro p q a hpq _ ha
    obtain ⟨hsame, hout⟩ := others_same hpq ha
    exact ⟨hsame, by rw [hout]⟩

/-- The lobby: everything the server holds but the identities it has assigned. -/
def Stepping.lobby (p : Stepping) : Stepping := p.withCids []

/-- Outsiders whose messages are screened change nothing: with their messages
erased, every run from every state ends in the same lobby and has the same
effects on everyone else. -/
theorem outsiders_change_nothing (F : Conn → Bool) (p : Stepping) (as : List Act)
    (hout : ∀ e ∈ p.server.clients, F e.conn = false)
    (hjoin : sessionServer.Meets (fun _ p a => NotAdmitted F p a) p [] as)
    (hscreen : sessionServer.Meets (fun _ p a => Screened F p a) p [] as) :
    (sessionServer.run p as).lobby = (sessionServer.run p (as.filter fun a => !fromOutsider F a)).lobby ∧
      (sessionServer.outs p as).filter (concernsOthers F) =
        (sessionServer.outs p (as.filter fun a => !fromOutsider F a)).filter (concernsOthers F) := by
  obtain ⟨hsame, hseen⟩ := lobby_unwind (q := p) ⟨hout, rfl, fun _ _ => rfl⟩ (hjoin.and hscreen)
  refine ⟨?_, hseen⟩
  have hq := hsame.same
  rw [hq]
  rfl

instance (F : Conn → Bool) (p : Stepping) (a : Act) : Decidable (NotAdmitted F p a) := by
  induction a using Act.casesOn with
  | message m =>
    obtain ⟨conn, msg, num, peerAddr, tick⟩ := m
    induction msg using ClientMsg.casesOn with
    | joinReq request =>
      induction request using Option.casesOn with
      | none => exact inferInstanceAs (Decidable (_ → _ → True))
      | some request => exact inferInstanceAs (Decidable (_ → _ → _ = true))
    | _ => exact inferInstanceAs (Decidable (_ → _ → True))
  | _ => exact .isTrue trivial

instance (F : Conn → Bool) (p : Stepping) (a : Act) : Decidable (Screened F p a) := by
  induction a using Act.casesOn with
  | message m =>
    obtain ⟨conn, msg, num, peerAddr, tick⟩ := m
    induction msg using ClientMsg.casesOn with
    | battleLoaded => exact inferInstanceAs (Decidable (_ → _ → False))
    | reportResults loser =>
      induction loser using Option.casesOn with
      | none => exact inferInstanceAs (Decidable (_ → _ → True))
      | some loser => exact inferInstanceAs (Decidable (_ → _ → False))
    | battleSnapshot data => exact inferInstanceAs (Decidable (_ → _ → False))
    | _ => exact inferInstanceAs (Decidable (_ → _ → True))
  | _ => exact .isTrue trivial

namespace Sample

/-- Connection 9 never joins. -/
def stranger (conn : Conn) : Bool := conn = 9

/-- Two players who have readied up, with a match called. -/
def inMatch : Stepping := sessionServer.run (start (lobbyHost 0)) (acts bothReady)

end Sample

/-- A stranger asks to join before it says hello, is refused once it has, and tries to pick a character. -/
theorem outsiders_change_nothing_refused :
    let as := acts [Sample.step [Sample.say 9 (Sample.joinAs "C" true), Sample.say 9 .hello,
      Sample.say 9 (Sample.joinAs "A" false), Sample.say 9 (.setChara (some .zero))]]
    (sessionServer.run Sample.inMatch as).lobby =
        (sessionServer.run Sample.inMatch (as.filter fun a => !fromOutsider Sample.stranger a)).lobby ∧
      (sessionServer.outs Sample.inMatch as).filter (concernsOthers Sample.stranger) =
        (sessionServer.outs Sample.inMatch
          (as.filter fun a => !fromOutsider Sample.stranger a)).filter (concernsOthers Sample.stranger) :=
  outsiders_change_nothing Sample.stranger Sample.inMatch _ (by decide +kernel) (by decide +kernel)
    (by decide +kernel)

/-- A stranger says hello and reports seat 0 as the loser: the players change
seats and both readies are gone. -/
theorem outsider_report_rotates :
    ¬ ∀ (F : Conn → Bool) (p : Stepping) (as : List Act), (∀ e ∈ p.server.clients, F e.conn = false) →
      sessionServer.Meets (fun _ p a => NotAdmitted F p a) p [] as →
      (sessionServer.run p as).lobby = (sessionServer.run p (as.filter fun a => !fromOutsider F a)).lobby := by
  intro h
  have hsame := h Sample.stranger Sample.inMatch
    (acts [Sample.step [Sample.say 9 .hello, Sample.say 9 (Sample.loses 0)]]) (by decide +kernel) (by decide +kernel)
  exact absurd hsame (by decide +kernel)

end Sf4e.Session
