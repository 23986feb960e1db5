import Sf4e.Session.Table
/-!
# What an action does to the table

`effect_of`: every action of the server changes the table in one of the ways
`Effect` lists, or is idle and leaves it alone. `wellSeated_next`: the seating
stays well formed.
-/
open Sf4e.Lib

namespace Sf4e.Session

/-- The actions that leave the table alone. -/
def Idle (p : Stepping) : Act → Prop
  | .endStep _ => False
  | .event (.connecting _ _ _) => True
  | .event (.closed _ wasConnected) => wasConnected = false
  | .event _ => False
  | .message m =>
    p.server.cidMap.find m.conn = none ∨
      match m.msg with
      | .joinReq (some request) => request.spectator = true ∨ (p.server.joinRefusal request).isSome = true
      | .setChara (some chara) => p.server.sideOf m.conn = none ∨ charaConditionsValid chara = false
      | .setEnv (some _) => ∀ e, p.server.sideOf m.conn ≠ some (0, e)
      | .setStage (some stageID) =>
        (∀ e, p.server.sideOf m.conn ≠ some (0, e)) ∨ stageIDValid stageID.toInt = false
      | .lobbyReady (some request) =>
        p.server.sideOf m.conn = none ∨ (request.ready = false ∧ p.server.matchData.isAllReady = true)
      | .battleLoaded => False
      | .reportResults (some _) => False
      | _ => True

/-- The message neither seats a player nor changes a pick, the seed or the stage. -/
def SettingsKept (p : Stepping) (conn : Conn) : ClientMsg → Prop
  | .joinReq (some request) => request.spectator = true ∨ (p.server.joinRefusal request).isSome = true
  | .setChara (some chara) =>
    ∀ found ∈ p.server.sideOf conn, charaConditionsValid chara = true →
      p.server.matchData.chara.get found.1 = chara
  | .setEnv (some rngSeed) =>
    ∀ found ∈ p.server.sideOf conn, found.1 = 0 → p.server.matchData.rngSeed = rngSeed
  | .setStage (some stageID) =>
    ∀ found ∈ p.server.sideOf conn, found.1 = 0 → stageIDValid stageID.toInt = true →
      p.server.matchData.stageID = stageID.toInt
  | _ => True

instance (p : Stepping) (conn : Conn) (msg : ClientMsg) : Decidable (SettingsKept p conn msg) := by
  unfold SettingsKept
  split <;> infer_instance

/-- The table after an action. -/
inductive Effect (p : Stepping) : Act → Table → Prop where
  | idle {a : Act} (h : Idle p a) : Effect p a p.table
  | sit {m : IncomingMsg} {cid : ConnectionID} {request : SessionJoinRequest}
      (hcid : p.server.cidMap.find m.conn = some cid) (hmsg : m.msg = .joinReq (some request))
      (hrole : request.spectator = false) (hok : p.server.joinRefusal request = none) :
      Effect p (.message m) (p.table.sit ⟨m.conn, cid, false⟩)
  | pick {m : IncomingMsg} {cid : ConnectionID} {chara : CharaConditions} {side : Side} {e : SessionMember}
      (hcid : p.server.cidMap.find m.conn = some cid) (hmsg : m.msg = .setChara (some chara))
      (hside : p.server.sideOf m.conn = some (side, e)) (hvalid : charaConditionsValid chara = true) :
      Effect p (.message m) (p.table.pick side e.data.connId chara)
  | seed {m : IncomingMsg} {cid : ConnectionID} {rngSeed : UInt32} {e : SessionMember}
      (hcid : p.server.cidMap.find m.conn = some cid) (hmsg : m.msg = .setEnv (some rngSeed))
      (hside : p.server.sideOf m.conn = some (0, e)) : Effect p (.message m) (p.table.setSeed rngSeed)
  | stage {m : IncomingMsg} {cid : ConnectionID} {stageID : Int32} {e : SessionMember}
      (hcid : p.server.cidMap.find m.conn = some cid) (hmsg : m.msg = .setStage (some stageID))
      (hside : p.server.sideOf m.conn = some (0, e)) (hvalid : stageIDValid stageID.toInt = true) :
      Effect p (.message m) (p.table.setStage stageID.toInt)
  | load {m : IncomingMsg} {cid : ConnectionID} (hcid : p.server.cidMap.find m.conn = some cid)
      (hmsg : m.msg = .battleLoaded) : Effect p (.message m) (p.table.load m.conn)
  | ready {m : IncomingMsg} {cid : ConnectionID} {request : LobbyReady} {side : Side} {e : SessionMember}
      (hcid : p.server.cidMap.find m.conn = some cid) (hmsg : m.msg = .lobbyReady (some request))
      (hside : p.server.sideOf m.conn = some (side, e)) (hready : request.ready = true) :
      Effect p (.message m) (p.table.ready side m.messageNumber request)
  | unready {m : IncomingMsg} {cid : ConnectionID} {request : LobbyReady} {side : Side} {e : SessionMember}
      (hcid : p.server.cidMap.find m.conn = some cid) (hmsg : m.msg = .lobbyReady (some request))
      (hside : p.server.sideOf m.conn = some (side, e)) (hready : request.ready = false)
      (hopen : p.server.matchData.isAllReady = false) : Effect p (.message m) (p.table.unready side)
  | result {m : IncomingMsg} {cid : ConnectionID} {loser : Int32}
      (hcid : p.server.cidMap.find m.conn = some cid) (hmsg : m.msg = .reportResults (some loser)) :
      Effect p (.message m) (p.table.result loser.toInt)
  | leave {conn : Conn} : Effect p (.event (.closed conn true)) (p.table.leave conn)
  | create {hash secret : Bytes} {isPublic : Bool} : Effect p (.event (.create hash secret isPublic)) p.table.clear
  | release : Effect p (.event .release) p.table.clear
  | unload : Effect p (.event .resetBattleSync) p.table.unload
  | finish {tick : Tick} : Effect p (.endStep tick) p.table.finish

namespace SessionServer

/-! ## The seating stays well formed -/

theorem cards_map_of_keeps {f : SessionMember → SessionMember} (hf : ∀ m, card (f m) = card m)
    (l : List SessionMember) : (l.map f).map card = l.map card := by
  rw [List.map_map]
  exact List.map_congr_left fun m _ => hf m

theorem roster_map_of_keeps {f : SessionMember → SessionMember}
    (hf : ∀ m, ((f m).seat, (f m).isPlayer) = (m.seat, m.isPlayer)) {s s' : SessionServer}
    (hc : s'.clients = s.clients.map f) : s'.roster = s.roster := by
  refine roster_of_seats ?_
  rw [hc, List.map_map]
  exact List.map_congr_left fun m _ => hf m

theorem maybeExchange_eq (s : SessionServer) (tick : Tick) :
    (s.maybeExchangeDirectEndpoints tick).1 = s ∨
      (s.maybeExchangeDirectEndpoints tick).1 = { s with directExchanged := true } := by
  unfold maybeExchangeDirectEndpoints
  split
  · exact .inl rfl
  · split
    · split
      · exact .inl rfl
      · exact .inr rfl
    · exact .inl rfl

theorem room_of_joinRefusal {s : SessionServer} {request : SessionJoinRequest}
    (h : s.joinRefusal request = none) (hrole : request.spectator = false) : s.roster.length < 2 := by
  unfold joinRefusal at h
  simp only [hrole, Bool.not_false, Bool.true_and] at h
  repeat' split at h
  all_goals first
    | cases h; done
    | skip
  rename_i hroom _ _ _
  rw [← playerCount_eq]
  simpa using hroom

theorem newMember_seat (s : SessionServer) (conn : Conn) (request : SessionJoinRequest) (peerAddr : PeerAddr)
    (cid : ConnectionID) :
    (s.newMember conn request peerAddr cid).seat = ⟨conn, cid, false⟩ ∧
      (s.newMember conn request peerAddr cid).data.spectator = request.spectator :=
  ⟨rfl, rfl⟩

theorem WellSeated.same {s s' : SessionServer} (h : WellSeated s) (hc : s'.clients = s.clients)
    (hm : s'.cidMap = s.cidMap) (hi : s'.identity = s.identity) : WellSeated s' :=
  h.of_cards (congrArg (List.map card) hc) hm hi

theorem WellSeated.room {s s' : SessionServer} (h : WellSeated s) (hr : SameRoom s s') : WellSeated s' := by
  obtain ⟨_, _, _, _, _, rfl⟩ := hr
  exact h.same rfl rfl rfl

theorem WellSeated.hello {s : SessionServer} (h : WellSeated s) (conn : Conn) : WellSeated (s.onHello conn).1 where
  front := h.front
  two := h.two
  ids := h.ids
  cids := by
    intro c cid hf
    simp only [onHello] at hf
    by_cases hc : c = conn
    · subst hc
      rw [Assoc.find_insert_self] at hf
      cases hf
      rfl
    · rw [Assoc.find_insert_ne _ _ hc] at hf
      exact h.cids c cid hf

theorem WellSeated.empty {s : SessionServer} (hc : s.clients = []) (hm : s.cidMap = []) : WellSeated s where
  front := by rw [hc]; exact Fronted.nil
  two := by simp [roster, players, hc]
  ids := by simp [hc]
  cids := by simp [hm]

theorem WellSeated.exchange {s : SessionServer} (h : WellSeated s) (tick : Tick) :
    WellSeated (s.maybeExchangeDirectEndpoints tick).1 := by
  rcases maybeExchange_eq s tick with he | he
  · rw [he]; exact h
  · rw [he]; exact h.same rfl rfl rfl

theorem WellSeated.dropped {s : SessionServer} (h : WellSeated s) (side : Side) :
    WellSeated (s.dropCharaFromVacatedSeat side) := by
  unfold dropCharaFromVacatedSeat
  split
  · exact h.same rfl rfl rfl
  · exact h

theorem WellSeated.clearWatching {s : SessionServer} (h : WellSeated s) : WellSeated s.clearWatching :=
  h.of_cards (cards_map_of_keeps (by intro m; rfl) _) rfl rfl

theorem WellSeated.resetBattleSync {s : SessionServer} (h : WellSeated s) : WellSeated s.resetBattleSync :=
  h.of_cards (cards_map_of_keeps (by intro m; rfl) _) rfl rfl

theorem WellSeated.join {s : SessionServer} (h : WellSeated s) {m : IncomingMsg} {cid : ConnectionID}
    (hcid : s.cidMap.find m.conn = some cid) {request : SessionJoinRequest}
    (hok : s.joinRefusal request = none) :
    WellSeated (s.seatMember (s.newMember m.conn request m.peerAddr cid)) := by
  refine h.seatMember ?_ fun hrole => room_of_joinRefusal hok hrole
  exact h.cids _ _ hcid

theorem WellSeated.result {s : SessionServer} (h : WellSeated s) (loser : Int) (tick : Tick) :
    WellSeated (s.handleResults loser tick).1 := by
  have hclock : WellSeated (s.closeMatchClock tick).1 := by
    unfold closeMatchClock
    split
    · exact h.same rfl rfl rfl
    · exact h
  have hrot : WellSeated ((s.closeMatchClock tick).1.rotateLoser loser) := by
    rcases rotateLoser_cases hclock loser with ⟨_, he⟩ | ⟨_, a, b, back, hpair, he⟩
    · rw [he]; exact hclock
    · rw [he]; exact hclock.swapSeats hpair
  exact hrot.clearWatching.same rfl rfl rfl

/-- A result only moves the members and ends their watching. -/
theorem members_results (s : SessionServer) (loser : Int) (tick : Tick) :
    ∀ e ∈ (s.handleResults loser tick).1.clients,
      ∃ e₀ ∈ s.clients, e = { e₀ with data := { e₀.data with watching := false } } := by
  have hclock : (s.closeMatchClock tick).1.clients = s.clients := by
    unfold closeMatchClock
    split <;> rfl
  have hrotate : ∀ s : SessionServer, ∀ e ∈ (s.rotateLoser loser).clients, e ∈ s.clients := by
    intro s
    simp only [rotateLoser]
    split
    · cases hl : s.clients[loser.toNat]? with
      | none => exact fun e he => he
      | some e =>
        have hmem : ∀ m ∈ (s.clients.eraseIdx loser.toNat).insertIdx (s.playerCount - 1) e, m ∈ s.clients := by
          intro m hm
          rcases List.eq_or_mem_of_mem_insertIdx hm with rfl | hm
          · exact List.mem_of_getElem? hl
          · exact List.mem_of_mem_eraseIdx hm
        dsimp only
        split <;> exact hmem
    · exact fun e he => he
  intro e he
  obtain ⟨e₀, h₀, rfl⟩ := List.mem_map.1 he
  exact ⟨e₀, hclock ▸ hrotate _ e₀ h₀, rfl⟩

end SessionServer

/-! ## One message -/

theorem wellSeated_message {p : Stepping} (h : SessionServer.WellSeated p.server) (m : IncomingMsg) :
    SessionServer.WellSeated (handleMessage p m).1.server := by
  unfold handleMessage
  cases hcid : p.server.cidMap.find m.conn with
  | none =>
    cases m.msg
    case hello => exact h.hello m.conn
    all_goals exact h
  | some cid =>
    simp only [handleKnown]
    cases m.msg with
    | joinReq request =>
      cases request with
      | none => exact h
      | some request =>
        simp only [Stepping.serve, SessionServer.onJoinRequest, SessionServer.registerToWait]
        cases hok : p.server.joinRefusal request with
        | some reason => exact h
        | none => exact (h.join hcid hok).same rfl rfl rfl
    | setChara request => exact h.room (p.server.setChara_room m.conn request)
    | desyncReport report => exact h.room (p.server.desyncReport_room m.conn report m.tick)
    | directOffer offer =>
      simp only [Stepping.serve, SessionServer.onDirectOffer]
      split
      · refine SessionServer.WellSeated.exchange ?_ m.tick
        refine h.of_cards ?_ rfl rfl
        exact SessionServer.map_modify_of_keeps (by intro e; rfl) _ _
      · exact h
    | setEnv rngSeed => exact h.room (p.server.setEnv_room m.conn rngSeed)
    | setStage stageID => exact h.room (p.server.setStage_room m.conn stageID)
    | battleLoaded =>
      refine h.of_cards (SessionServer.cards_map_of_keeps (fun e => ?_) _) rfl rfl
      unfold SessionServer.markLoaded
      split <;> rfl
    | lobbyReady request => exact h.room (p.lobbyReady_room m request)
    | reportResults loserSide =>
      cases loserSide with
      | none => exact h
      | some loser => exact (h.result loser.toInt m.tick).same rfl rfl rfl
    | _ => exact h

/-! ## The other actions -/

theorem SessionServer.sendUpdate_same (s : SessionServer) :
    s.sendUpdate.1.clients = s.clients ∧ s.sendUpdate.1.cidMap = s.cidMap ∧
      s.sendUpdate.1.identity = s.identity ∧ s.sendUpdate.1.matchData = s.matchData ∧
      s.sendUpdate.1.charaOwner = s.charaOwner ∧ s.sendUpdate.1.readyRequest = s.readyRequest := by
  unfold sendUpdate
  split <;> simp

theorem card_callSpectator (m : SessionMember) :
    let m' := if m.data.spectator then { m with data := { m.data with watching := true } } else m
    (m'.seat, m'.isPlayer) = (m.seat, m.isPlayer) := by
  dsimp only
  split <;> rfl

theorem SessionServer.WellSeated.ready {s : SessionServer} (h : WellSeated s) (tick : Tick) :
    WellSeated (s.sendAllReady tick).1 := by
  refine h.of_cards ?_ rfl rfl
  simp only [sendAllReady, callSpectators]
  refine cards_map_of_keeps (fun m => ?_) _
  split <;> rfl

/-- The server at the end of a Step, before the broadcasts. -/
def settled (p : Stepping) (tick : Tick) : SessionServer :=
  (p.server.dropCharaFromVacatedSeats.maybeExchangeDirectEndpoints tick).1

theorem finishStep_server (p : Stepping) (tick : Tick) :
    (finishStep p tick).1.server =
      if p.bSendLobbyAllReady then ((settled p tick).sendUpdate.1.sendAllReady tick).1
      else (settled p tick).sendUpdate.1 := by
  simp only [finishStep, settled]
  split <;> rfl

theorem wellSeated_settled {p : Stepping} (h : SessionServer.WellSeated p.server) (tick : Tick) :
    SessionServer.WellSeated (settled p tick) :=
  ((h.dropped 0).dropped 1).exchange tick

theorem wellSeated_finish {p : Stepping} (h : SessionServer.WellSeated p.server) (tick : Tick) :
    SessionServer.WellSeated (finishStep p tick).1.server := by
  obtain ⟨hc, hm, hi, -⟩ := (settled p tick).sendUpdate_same
  have hupd : SessionServer.WellSeated (settled p tick).sendUpdate.1 := (wellSeated_settled h tick).same hc hm hi
  rw [finishStep_server]
  split
  · exact hupd.ready tick
  · exact hupd

theorem wellSeated_host {s : SessionServer} (h : s.WellSeated) (e : Event) : (s.host e).1.WellSeated := by
  have hgone : ∀ s : SessionServer, s.disconnectAll.1.clients = [] ∧ s.disconnectAll.1.cidMap = [] := by
    intro s
    unfold SessionServer.disconnectAll
    split <;> simp_all [SessionServer.onMembershipChanged]
  cases e with
  | connecting conn ip acceptOk =>
    simp only [SessionServer.host, SessionServer.connecting]
    split
    · exact h
    · exact h.same rfl rfl rfl
  | closed conn wasConnected =>
    simp only [SessionServer.host, SessionServer.connectionClosed]
    have herase : ∀ s' : SessionServer, s'.clients = s.clients → s'.cidMap = s.cidMap.erase conn →
        s'.identity = s.identity → s'.WellSeated := by
      intro s' hc hm hi
      refine ⟨hc ▸ h.front, ?_, ?_, ?_⟩
      · simpa only [SessionServer.roster, SessionServer.players, hc] using h.two
      · simpa only [hc, SessionServer.cidOf, hi] using h.ids
      · intro c cid hf
        rw [hm] at hf
        by_cases hcc : c = conn
        · subst hcc; simp at hf
        · rw [Assoc.find_erase_ne _ hcc] at hf
          rw [h.cids c cid hf, SessionServer.cidOf, SessionServer.cidOf, hi]
    split
    · exact h.eraseP rfl rfl rfl
    · exact herase _ rfl rfl rfl
  | create hash secret isPublic =>
    obtain ⟨hc, hm⟩ := hgone s
    refine SessionServer.WellSeated.empty ?_ hm
    simp [SessionServer.host, SessionServer.setPublic, SessionServer.resetLobby, SessionServer.resetBattleSync,
      SessionServer.clearWatching, hc]
  | release =>
    obtain ⟨hc, hm⟩ := hgone (SessionServer.setPublic { s with sidecarHash := [], joinSecret := [] } false)
    refine SessionServer.WellSeated.empty ?_ hm
    simp [SessionServer.host, SessionServer.resetLobby, SessionServer.resetBattleSync,
      SessionServer.clearWatching, hc]
  | resetBattleSync => exact h.resetBattleSync

theorem wellSeated_next {p : Stepping} (h : p.server.WellSeated) (a : Act) :
    (sessionServer.next p a).1.server.WellSeated := by
  cases a with
  | message m => exact wellSeated_message h m
  | endStep tick => exact wellSeated_finish h tick
  | event e => exact wellSeated_host h e

theorem wellSeated_start (cfg : HostConfig) : (start cfg).server.WellSeated :=
  SessionServer.WellSeated.empty rfl rfl

/-! ## The identities -/

/-- The lobby's own identity, and those it has given out. -/
def SessionServer.identities (s : SessionServer) : Bytes × Assoc Conn ConnectionID := (s.identity, s.cidMap)

theorem SessionServer.SameRoom.identities {s s' : SessionServer} (h : s.SameRoom s') : s'.identities = s.identities :=
  h.keeps fun _ _ _ _ _ => rfl

/-- Only `hello` and the end of a connection change who is known. -/
theorem identities_known (p : Stepping) (m : IncomingMsg) (cid : ConnectionID) :
    (handleKnown p m cid).1.server.identities = p.server.identities := by
  unfold handleKnown
  cases m.msg with
  | joinReq request =>
    simp only [Stepping.serve, SessionServer.onJoinRequest, SessionServer.registerToWait, SessionServer.seatMember,
      SessionServer.onMembershipChanged]
    split
    · rfl
    · cases p.server.joinRefusal _ with
      | some reason => rfl
      | none =>
        dsimp only
        split <;> rfl
  | setChara request => exact (p.server.setChara_room m.conn request).identities
  | desyncReport report => exact (p.server.desyncReport_room m.conn report m.tick).identities
  | directOffer offer =>
    simp only [Stepping.serve, SessionServer.onDirectOffer]
    split
    · rename_i side e offer _
      rcases SessionServer.maybeExchange_eq { p.server with
          directExchanged := false
          clients := p.server.clients.modify side.val fun m => { m with direct := offer } } m.tick with he | he <;>
        rw [he] <;> rfl
    · rfl
  | setEnv rngSeed => exact (p.server.setEnv_room m.conn rngSeed).identities
  | setStage stageID => exact (p.server.setStage_room m.conn stageID).identities
  | lobbyReady request => exact (p.lobbyReady_room m request).identities
  | reportResults loser =>
    cases loser with
    | none => rfl
    | some loser =>
      simp only [Stepping.serve, SessionServer.onReportResults, SessionServer.handleResults,
        SessionServer.rotateLoser, SessionServer.closeMatchClock]
      repeat' split
      all_goals rfl
  | _ => rfl

theorem identities_finish (p : Stepping) (tick : Tick) :
    (finishStep p tick).1.server.identities = p.server.identities := by
  have hdrop : ∀ (s : SessionServer) (side : Side), (s.dropCharaFromVacatedSeat side).identities = s.identities := by
    intro s side
    unfold SessionServer.dropCharaFromVacatedSeat
    split <;> rfl
  have hset : (settled p tick).identities = p.server.identities := by
    unfold settled
    rcases SessionServer.maybeExchange_eq p.server.dropCharaFromVacatedSeats tick with he | he
    · rw [he, SessionServer.dropCharaFromVacatedSeats, hdrop, hdrop]
    · rw [he]
      exact (hdrop _ 1).trans (hdrop _ 0)
  have hupd : (settled p tick).sendUpdate.1.identities = (settled p tick).identities := by
    unfold SessionServer.sendUpdate
    split <;> rfl
  have hready : ∀ s : SessionServer, (s.sendAllReady tick).1.identities = s.identities := fun _ => rfl
  rw [finishStep_server]
  split
  · rw [hready, hupd, hset]
  · rw [hupd, hset]

/-- The lobby keeps the identity it was made with. -/
theorem identity_next (p : Stepping) (a : Act) :
    (sessionServer.next p a).1.server.identity = p.server.identity := by
  cases a with
  | message m =>
    rw [next_message, handleMessage]
    cases p.server.cidMap.find m.conn with
    | some cid => exact congrArg Prod.fst (identities_known p m cid)
    | none => cases m.msg <;> rfl
  | endStep tick => exact congrArg Prod.fst (identities_finish p tick)
  | event e =>
    have hall : ∀ s : SessionServer, s.disconnectAll.1.identity = s.identity := by
      intro s
      unfold SessionServer.disconnectAll
      dsimp only
      split <;> rfl
    rw [next_event]
    cases e with
    | connecting conn ip acceptOk =>
      simp only [Stepping.serve, SessionServer.host, SessionServer.connecting]
      split <;> rfl
    | closed conn wasConnected =>
      simp only [Stepping.serve, SessionServer.host, SessionServer.connectionClosed]
      split <;> rfl
    | create hash secret isPublic => exact hall p.server
    | release => exact hall _
    | resetBattleSync => rfl

/-! ## What a message does to the table -/

theorem SessionServer.roster_same {s s' : SessionServer} (hc : s'.clients = s.clients) : s'.roster = s.roster := by
  rw [roster, players, hc]
  rfl

theorem effect_join {p : Stepping} (h : p.server.WellSeated) {m : IncomingMsg} {cid : ConnectionID}
    (hcid : p.server.cidMap.find m.conn = some cid) {request : Option SessionJoinRequest}
    (hmsg : m.msg = .joinReq request) :
    Effect p (.message m) (p.serve (p.server.onJoinRequest m cid request)).1.table := by
  cases request with
  | none => exact .idle (.inr (by rw [hmsg]; trivial))
  | some request =>
    simp only [Stepping.serve, SessionServer.onJoinRequest, SessionServer.registerToWait]
    cases hok : p.server.joinRefusal request with
    | some reason => exact .idle (.inr (by rw [hmsg]; exact .inr (by simp [hok])))
    | none =>
      cases hrole : request.spectator with
      | true =>
        have hr := SessionServer.roster_seatMember_spectator (s := p.server)
          (m := p.server.newMember m.conn request m.peerAddr cid) hrole
        have ht : Stepping.table ⟨{ p.server.seatMember (p.server.newMember m.conn request m.peerAddr cid) with
            dataDirty := true }, p.bSendLobbyAllReady, p.bSendBattleSynced⟩ = p.table := by
          refine Table.ext hr ?_ ?_ ?_ rfl rfl <;>
            simp [Stepping.table, SessionServer.seatMember, SessionServer.newMember, hrole]
        rw [ht]
        exact .idle (.inr (by rw [hmsg]; exact .inl hrole))
      | false =>
        have hr := SessionServer.roster_seatMember_player h
          (m := p.server.newMember m.conn request m.peerAddr cid) hrole
        have ht : Stepping.table ⟨{ p.server.seatMember (p.server.newMember m.conn request m.peerAddr cid) with
            dataDirty := true }, p.bSendLobbyAllReady, p.bSendBattleSynced⟩ =
              p.table.sit ⟨m.conn, cid, false⟩ := by
          refine Table.ext hr ?_ ?_ ?_ rfl rfl <;>
            simp [Stepping.table, Table.sit, SessionServer.seatMember, SessionServer.newMember, hrole,
              SessionServer.onMembershipChanged]
        rw [ht]
        exact .sit hcid hmsg hrole hok

/-! A request that did not parse is ignored. -/

theorem SessionServer.setChara_none (s : SessionServer) (conn : Conn) : s.onSetChara conn none = s := by
  unfold onSetChara
  cases s.sideOf conn <;> rfl

theorem SessionServer.setEnv_none (s : SessionServer) (conn : Conn) : s.onSetEnv conn none = s := by
  unfold onSetEnv
  split
  · contradiction
  · rfl

theorem SessionServer.setStage_none (s : SessionServer) (conn : Conn) : s.onSetStage conn none = s := by
  unfold onSetStage
  split
  · contradiction
  · rfl

theorem Stepping.lobbyReady_none (p : Stepping) (m : IncomingMsg) : p.lobbyReady m none = p := by
  unfold lobbyReady
  cases p.server.sideOf m.conn <;> rfl

theorem effect_pick {p : Stepping} {m : IncomingMsg} {cid : ConnectionID}
    (hcid : p.server.cidMap.find m.conn = some cid) {request : Option CharaConditions}
    (hmsg : m.msg = .setChara request) :
    Effect p (.message m) (p.serve (p.server.onSetChara m.conn request, [])).1.table := by
  cases request with
  | none =>
    rw [SessionServer.setChara_none]
    exact .idle (.inr (by rw [hmsg]; trivial))
  | some chara =>
    cases hside : p.server.sideOf m.conn with
    | none =>
      have ht : p.server.onSetChara m.conn (some chara) = p.server := by
        simp [SessionServer.onSetChara, hside]
      rw [ht]
      exact .idle (.inr (by rw [hmsg]; exact .inl hside))
    | some found =>
      obtain ⟨side, e⟩ := found
      cases hvalid : charaConditionsValid chara with
      | false =>
        have ht : p.server.onSetChara m.conn (some chara) = p.server := by
          simp [SessionServer.onSetChara, hside, hvalid]
        rw [ht]
        exact .idle (.inr (by rw [hmsg]; exact .inr hvalid))
      | true =>
        simp only [SessionServer.onSetChara, hside, hvalid, if_true]
        exact .pick hcid hmsg hside hvalid

theorem effect_seed {p : Stepping} {m : IncomingMsg} {cid : ConnectionID}
    (hcid : p.server.cidMap.find m.conn = some cid) {rngSeed : Option UInt32} (hmsg : m.msg = .setEnv rngSeed) :
    Effect p (.message m) (p.serve (p.server.onSetEnv m.conn rngSeed, [])).1.table := by
  cases rngSeed with
  | none =>
    rw [SessionServer.setEnv_none]
    exact .idle (.inr (by rw [hmsg]; trivial))
  | some seed =>
    by_cases hs : ∃ e, p.server.sideOf m.conn = some (0, e)
    · obtain ⟨e, hside⟩ := hs
      simp only [SessionServer.onSetEnv, hside]
      exact .seed hcid hmsg hside
    · have ht : p.server.onSetEnv m.conn (some seed) = p.server := by
        unfold SessionServer.onSetEnv
        split
        · rename_i e _ hside _
          exact absurd ⟨e, hside⟩ hs
        · rfl
      rw [ht]
      exact .idle (.inr (by rw [hmsg]; exact fun e he => hs ⟨e, he⟩))

theorem effect_stage {p : Stepping} {m : IncomingMsg} {cid : ConnectionID}
    (hcid : p.server.cidMap.find m.conn = some cid) {stageID : Option Int32} (hmsg : m.msg = .setStage stageID) :
    Effect p (.message m) (p.serve (p.server.onSetStage m.conn stageID, [])).1.table := by
  cases stageID with
  | none =>
    rw [SessionServer.setStage_none]
    exact .idle (.inr (by rw [hmsg]; trivial))
  | some stageID =>
    by_cases hs : ∃ e, p.server.sideOf m.conn = some (0, e)
    · obtain ⟨e, hside⟩ := hs
      simp only [SessionServer.onSetStage, hside]
      split
      · rename_i hvalid
        exact .stage hcid hmsg hside hvalid
      · rename_i hvalid
        exact .idle (.inr (by rw [hmsg]; exact .inr (by simpa using hvalid)))
    · have ht : p.server.onSetStage m.conn (some stageID) = p.server := by
        unfold SessionServer.onSetStage
        split
        · rename_i e _ hside _
          exact absurd ⟨e, hside⟩ hs
        · rfl
      rw [ht]
      exact .idle (.inr (by rw [hmsg]; exact .inl fun e he => hs ⟨e, he⟩))

theorem effect_load {p : Stepping} {m : IncomingMsg} {cid : ConnectionID}
    (hcid : p.server.cidMap.find m.conn = some cid) (hmsg : m.msg = .battleLoaded) :
    Effect p (.message m) (p.battleLoaded m).table := by
  have hkeep : ∀ e, (SessionServer.markLoaded m.conn e).isPlayer = e.isPlayer := by
    intro e
    unfold SessionServer.markLoaded
    split <;> rfl
  have hseat : ∀ e : SessionMember, (SessionServer.markLoaded m.conn e).seat =
      if e.seat.conn = m.conn then { e.seat with loaded := true } else e.seat := by
    intro e
    unfold SessionServer.markLoaded
    show _ = if e.conn = m.conn then _ else _
    split <;> rfl
  have hr : (p.server.onBattleLoaded m.conn).roster =
      p.server.roster.map fun seat => if seat.conn = m.conn then { seat with loaded := true } else seat := by
    rw [SessionServer.roster_map hkeep rfl, SessionServer.roster, List.map_map]
    exact List.map_congr_left fun e _ => hseat e
  have hall : ∀ s : SessionServer, s.allLoaded = s.roster.all (·.loaded) := by
    intro s
    rw [SessionServer.allLoaded, SessionServer.roster, SessionServer.players, List.all_map, List.all_filter]
    refine List.all_congr ?_ fun e => ?_
    · rfl
    · cases he : e.data.spectator <;> simp [SessionMember.isPlayer, SessionMember.seat, he]
  have ht : (p.battleLoaded m).table = p.table.load m.conn := by
    refine Table.ext hr rfl rfl rfl rfl ?_
    show SessionServer.allLoaded _ = _
    rw [hall, hr]
    rfl
  rw [ht]
  exact .load hcid hmsg

theorem table_ready (p : Stepping) (side : Side) (num : Nat) (request : LobbyReady) :
    Stepping.table
      { p with
        server := p.server.onReady side num request
        bSendLobbyAllReady :=
          p.bSendLobbyAllReady || (p.server.onReady side num request).matchData.isAllReady } =
      p.table.ready side num request := by
  have hmark : Stepping.table { p with server := p.server.markReady side num request } =
      p.table.mark side num request := rfl
  have hstamp : ∀ q : Stepping, Stepping.table { q with server := q.server.stampDelay } = q.table.stamp := by
    intro q
    unfold SessionServer.stampDelay Table.stamp
    show _ = if q.server.matchData.isAllReady then _ else _
    split <;> rfl
  have hboth := hstamp { p with server := p.server.markReady side num request }
  rw [hmark] at hboth
  unfold Table.ready SessionServer.onReady
  rw [← hboth]
  rfl

theorem effect_ready {p : Stepping} {m : IncomingMsg} {cid : ConnectionID}
    (hcid : p.server.cidMap.find m.conn = some cid) {request : Option LobbyReady}
    (hmsg : m.msg = .lobbyReady request) : Effect p (.message m) (p.lobbyReady m request).table := by
  cases request with
  | none =>
    rw [Stepping.lobbyReady_none]
    exact .idle (.inr (by rw [hmsg]; trivial))
  | some request =>
    cases hside : p.server.sideOf m.conn with
    | none =>
      have ht : p.lobbyReady m (some request) = p := by simp [Stepping.lobbyReady, hside]
      rw [ht]
      exact .idle (.inr (by rw [hmsg]; exact .inl hside))
    | some found =>
      obtain ⟨side, e⟩ := found
      cases hready : request.ready with
      | true =>
        simp only [Stepping.lobbyReady, hside, hready, if_true]
        rw [table_ready]
        exact .ready hcid hmsg hside hready
      | false =>
        simp only [Stepping.lobbyReady, hside, hready, Bool.false_eq_true, if_false, SessionServer.onUnready]
        split
        · rename_i hall
          exact .idle (.inr (by rw [hmsg]; exact .inr ⟨hready, hall⟩))
        · rename_i hall
          exact .unready hcid hmsg hside hready (by simpa using hall)

theorem table_result (s : SessionServer) (h : s.WellSeated) (loser : Int) (tick : Tick) (ready synced : Bool) :
    Stepping.table ⟨(s.handleResults loser tick).1, ready, synced⟩ =
      (Stepping.table ⟨s, ready, synced⟩).result loser := by
  have hclock : Stepping.table ⟨(s.closeMatchClock tick).1, ready, synced⟩ = Stepping.table ⟨s, ready, synced⟩ := by
    unfold SessionServer.closeMatchClock
    split <;> rfl
  have hw : (s.closeMatchClock tick).1.WellSeated := by
    unfold SessionServer.closeMatchClock
    split
    · exact h.same rfl rfl rfl
    · exact h
  have hclear : ∀ s' : SessionServer,
      Stepping.table ⟨s'.clearWatching.clearReadyMarks, ready, synced⟩ =
        (Stepping.table ⟨s', ready, synced⟩).clearMarks := by
    intro s'
    refine Table.ext ?_ rfl rfl rfl rfl rfl
    show SessionServer.roster _ = SessionServer.roster _
    have hc : s'.clearWatching.clearReadyMarks.clients =
        s'.clients.map fun m => { m with data := { m.data with watching := false } } := rfl
    exact SessionServer.roster_map_of_keeps (by intro m; rfl) hc
  unfold SessionServer.handleResults
  rw [hclear, Table.result, ← hclock]
  refine congrArg Table.clearMarks ?_
  rcases SessionServer.rotateLoser_cases hw loser with ⟨hno, he⟩ | ⟨h0, a, b, back, hpair, he⟩
  · have hrot : ¬(Stepping.table ⟨(s.closeMatchClock tick).1, ready, synced⟩).rotates loser := hno
    rw [he, if_neg hrot]
  · have hrot : (Stepping.table ⟨(s.closeMatchClock tick).1, ready, synced⟩).rotates loser :=
      ⟨by simp [Stepping.table, hpair.roster], h0⟩
    rw [he, if_pos hrot]
    refine Table.ext ?_ rfl rfl rfl rfl rfl
    show SessionServer.roster _ = (SessionServer.roster _).reverse
    rw [hpair.swapped.roster, hpair.roster]
    rfl

theorem table_offer (p : Stepping) (conn : Conn) (offer : Option DirectOffer) (tick : Tick) :
    (p.serve (p.server.onDirectOffer conn offer tick)).1.table = p.table := by
  cases hside : p.server.sideOf conn with
  | none => simp [Stepping.serve, SessionServer.onDirectOffer, hside]
  | some found =>
    obtain ⟨side, e⟩ := found
    cases offer with
    | none => simp [Stepping.serve, SessionServer.onDirectOffer, hside]
    | some offer =>
      simp only [Stepping.serve, SessionServer.onDirectOffer, hside]
      generalize hs : ({ p.server with
        directExchanged := false
        clients := p.server.clients.modify side.val fun m => { m with direct := offer } } : SessionServer) = s
      have ht : Stepping.table { p with server := s } = p.table := by
        subst hs
        refine Table.ext ?_ rfl rfl rfl rfl rfl
        exact SessionServer.roster_of_seats (SessionServer.map_modify_of_keeps (by intro e; rfl) _ _)
      rw [← ht]
      rcases SessionServer.maybeExchange_eq s tick with he | he
      · rw [he]
      · rw [he]; rfl

/-- What a message does to the table. -/
theorem effect_message {p : Stepping} (h : p.server.WellSeated) (m : IncomingMsg) :
    Effect p (.message m) (handleMessage p m).1.table := by
  unfold handleMessage
  cases hcid : p.server.cidMap.find m.conn with
  | none =>
    cases m.msg
    all_goals exact .idle (.inl hcid)
  | some cid =>
    simp only [handleKnown]
    cases hmsg : m.msg with
    | joinReq request => exact effect_join h hcid hmsg
    | setChara request => exact effect_pick hcid hmsg
    | setEnv rngSeed => exact effect_seed hcid hmsg
    | setStage stageID => exact effect_stage hcid hmsg
    | battleLoaded => exact effect_load hcid hmsg
    | lobbyReady request => exact effect_ready hcid hmsg
    | reportResults loserSide =>
      cases loserSide with
      | none => exact .idle (.inr (by rw [hmsg]; trivial))
      | some loser =>
        have ht := table_result p.server h loser.toInt m.tick p.bSendLobbyAllReady p.bSendBattleSynced
        exact ht ▸ .result hcid hmsg
    | desyncReport report =>
      have ht : (p.serve (p.server.onDesyncReport m.conn report m.tick)).1.table = p.table := by
        simp only [Stepping.serve, SessionServer.onDesyncReport]
        repeat' split
        all_goals rfl
      rw [ht]
      exact .idle (.inr (by rw [hmsg]; trivial))
    | directOffer offer =>
      rw [table_offer]
      exact .idle (.inr (by rw [hmsg]; trivial))
    | _ => exact .idle (.inr (by rw [hmsg]; trivial))

/-! ## The other actions -/

theorem sameOwner_table {s : SessionServer} (h : s.WellSeated) (called synced : Bool) (side : Side) :
    (Stepping.table ⟨s, called, synced⟩).sameOwner side = s.sameOwner side := by
  unfold Table.sameOwner SessionServer.sameOwner Table.seatAt
  show (s.roster[side.val]?).any _ = _
  cases hs : s.roster[side.val]? with
  | some seat =>
    obtain ⟨m, he, hp, rfl⟩ := SessionServer.entry_of_seatAt h hs
    have hp' : m.data.spectator = false := by simpa [SessionMember.isPlayer] using hp
    simp only [he, hp', Option.any_some, Bool.not_false, Bool.true_and]
    rfl
  | none =>
    cases he : s.entry side with
    | none => rfl
    | some m =>
      cases hp : m.isPlayer with
      | true =>
        rw [SessionServer.seatAt_of_entry h he hp] at hs
        cases hs
      | false =>
        have hp' : m.data.spectator = true := by simpa [SessionMember.isPlayer] using hp
        simp [hp']

theorem table_dropped {s : SessionServer} (h : s.WellSeated) (called synced : Bool) (side : Side) :
    Stepping.table ⟨s.dropCharaFromVacatedSeat side, called, synced⟩ =
      (Stepping.table ⟨s, called, synced⟩).dropPick side := by
  unfold SessionServer.dropCharaFromVacatedSeat Table.dropPick
  rw [sameOwner_table h]
  show _ = if !s.sameOwner side && (s.matchData.chara.get side).charaID ≠ 0 then _ else _
  split <;> rfl

theorem table_settled {p : Stepping} (h : p.server.WellSeated) (tick : Tick) :
    Stepping.table { p with server := settled p tick } = p.table.dropPicks := by
  have hdrop : Stepping.table { p with server := p.server.dropCharaFromVacatedSeats } = p.table.dropPicks := by
    unfold SessionServer.dropCharaFromVacatedSeats Table.dropPicks
    rw [table_dropped (h.dropped 0), table_dropped h]
  rw [← hdrop]
  unfold settled
  rcases SessionServer.maybeExchange_eq p.server.dropCharaFromVacatedSeats tick with he | he
  · rw [he]
  · rw [he]; rfl

theorem table_sendUpdate (s : SessionServer) (called synced : Bool) :
    Stepping.table ⟨s.sendUpdate.1, called, synced⟩ = Stepping.table ⟨s, called, synced⟩ := by
  obtain ⟨hc, -, -, hmd, ho, hr⟩ := s.sendUpdate_same
  exact Table.ext (SessionServer.roster_same hc) hmd ho hr rfl rfl

theorem table_callSpectators (s : SessionServer) (called synced : Bool) :
    Stepping.table ⟨s.callSpectators, called, synced⟩ = Stepping.table ⟨s, called, synced⟩ := by
  refine Table.ext ?_ rfl rfl rfl rfl rfl
  show s.callSpectators.roster = s.roster
  exact SessionServer.roster_map_of_keeps card_callSpectator rfl

theorem table_sendAllReady (s : SessionServer) (tick : Tick) (called synced : Bool) :
    Stepping.table ⟨(s.sendAllReady tick).1, called, synced⟩ = Stepping.table ⟨s, called, synced⟩ :=
  table_callSpectators s called synced

theorem table_finish {p : Stepping} (h : p.server.WellSeated) (tick : Tick) :
    (finishStep p tick).1.table = p.table.finish := by
  have hflags : ∀ s, Stepping.table ⟨s, false, false⟩ =
      { Stepping.table { p with server := s } with called := false, synced := false } := fun _ => rfl
  have hfin : (finishStep p tick).1 = ⟨(finishStep p tick).1.server, false, false⟩ := by
    simp only [finishStep]
  have hset := hflags (settled p tick)
  rw [table_settled h] at hset
  rw [hfin, finishStep_server, Table.finish, ← hset]
  split
  · rw [table_sendAllReady, table_sendUpdate]
  · rw [table_sendUpdate]

theorem table_cleared (s : SessionServer) (hc : s.clients = []) (called synced : Bool) :
    Stepping.table ⟨s.resetLobby, called, synced⟩ = (Stepping.table ⟨s, called, synced⟩).clear := by
  refine Table.ext ?_ rfl rfl rfl rfl rfl
  simp [Stepping.table, Table.clear, SessionServer.roster, SessionServer.players, SessionServer.resetLobby,
    SessionServer.resetBattleSync, SessionServer.clearWatching, hc]

theorem disconnectAll_same (s : SessionServer) :
    s.disconnectAll.1.clients = [] ∧ s.disconnectAll.1.cidMap = [] ∧
      s.disconnectAll.1.charaOwner = s.charaOwner ∧ s.disconnectAll.1.readyRequest = s.readyRequest := by
  unfold SessionServer.disconnectAll
  split <;> simp_all [SessionServer.onMembershipChanged]

theorem effect_event {p : Stepping} (h : p.server.WellSeated) (e : Event) :
    Effect p (.event e) (p.serve (p.server.host e)).1.table := by
  cases e with
  | connecting conn ip acceptOk =>
    have ht : (p.serve (p.server.host (.connecting conn ip acceptOk))).1.table = p.table := by
      simp only [Stepping.serve, SessionServer.host, SessionServer.connecting]
      split <;> rfl
    rw [ht]
    exact .idle trivial
  | closed conn wasConnected =>
    cases wasConnected with
    | false => exact .idle rfl
    | true =>
      have ht : (p.serve (p.server.host (.closed conn true))).1.table = p.table.leave conn := by
        refine Table.ext ?_ ?_ ?_ ?_ rfl rfl
        · refine SessionServer.roster_eraseP h ?_
          simp only [Stepping.serve, SessionServer.host, SessionServer.connectionClosed, Bool.true_and]
          split
          · rfl
          · rename_i hno
            exact (List.eraseP_of_forall_not (by simpa using hno)).symm
        all_goals
          simp only [Stepping.serve, SessionServer.host, SessionServer.connectionClosed, Stepping.table]
          split <;> rfl
      rw [ht]
      exact .leave
  | create hash secret isPublic =>
    obtain ⟨hc, -, ho, hr⟩ := disconnectAll_same p.server
    have ht : (p.serve (p.server.host (.create hash secret isPublic))).1.table = p.table.clear := by
      have := table_cleared { p.server.disconnectAll.1 with sidecarHash := hash, joinSecret := secret } hc
        p.bSendLobbyAllReady p.bSendBattleSynced
      refine Eq.trans (Eq.trans rfl this) (Table.ext rfl rfl ho hr rfl rfl)
    rw [ht]
    exact .create
  | release =>
    obtain ⟨hc, -, ho, hr⟩ :=
      disconnectAll_same (SessionServer.setPublic { p.server with sidecarHash := [], joinSecret := [] } false)
    have ht : (p.serve (p.server.host .release)).1.table = p.table.clear := by
      have := table_cleared _ hc p.bSendLobbyAllReady p.bSendBattleSynced
      refine Eq.trans (Eq.trans rfl this) (Table.ext rfl rfl ho hr rfl rfl)
    rw [ht]
    exact .release
  | resetBattleSync =>
    have ht : (p.serve (p.server.host .resetBattleSync)).1.table = p.table.unload := by
      refine Table.ext ?_ rfl rfl rfl rfl rfl
      show SessionServer.roster _ = _
      rw [SessionServer.roster_map (s := p.server) (f := fun m => { m with data := { m.data with battleLoaded := false } })
        (by intro m; rfl) rfl]
      simp only [Table.unload, Stepping.table, SessionServer.roster, List.map_map]
      rfl
    rw [ht]
    exact .unload

/-- Every action of the server does one of the things `Effect` lists to the table. -/
theorem effect_of {p : Stepping} (h : p.server.WellSeated) (a : Act) :
    Effect p a (sessionServer.next p a).1.table := by
  cases a with
  | message m => exact effect_message h m
  | endStep tick =>
    rw [next_endStep, table_finish h]
    exact .finish
  | event e => exact effect_event h e

end Sf4e.Session
