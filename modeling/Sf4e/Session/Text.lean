import Sf4e.Session.Outsiders
/-!
# What the server can dump

`dump` throws on a string that is not valid UTF-8, and nothing catches it in
`Respond`, `BroadcastMessage` and `LogStat`. All text the server holds is valid
while the two cuts it makes, of names and of desync diffs, fall between
characters.
-/
open Sf4e.Lib

namespace Sf4e.Session

/-- `SF4E_STATS_FILE` is set, and the label in `SF4E_REGION`. -/
structure StatsEnv where
  enabled : Bool
  region : Bytes
  region_utf8 : ValidUtf8 region

/-- Every `dump` this needs returns. -/
def Out.Dumps (env : StatsEnv) : Out → Prop
  | .respond _ msg => msg.toJson.Dumps
  | .broadcast _ msg => msg.toJson.Dumps
  | .logStat stat time => env.enabled = true → (stat.toJson env.region time).Dumps
  | .relay _ _ => True
  | .closeConnection _ => True

instance (env : StatsEnv) (o : Out) : Decidable (o.Dumps env) := by
  unfold Out.Dumps
  split <;> infer_instance

/-- The text in a message that the server may store or send on. -/
def ClientMsg.TextOk : ClientMsg → Prop
  | .forward msg _ => msg.Dumps
  | .desyncReport (some report) => ValidUtf8 report.diff
  | .directOffer (some offer) => ValidUtf8 offer.ip ∧ ValidUtf8 offer.localIp
  | _ => True

/-- Where the server cuts a string, it cuts between characters: the name of a
member, and the diff of a desync report that is logged or passed on. -/
def CutsWhole (env : StatsEnv) (p : Stepping) (m : IncomingMsg) : Prop :=
  registered p m = true →
    match m.msg with
    | .joinReq (some request) =>
      p.server.joinRefusal request = none → ValidUtf8 (SessionServer.storedName request.username)
    | .desyncReport (some report) =>
      p.server.fromPlayer m.conn = true → p.server.desyncReports < 20 →
        env.enabled = true ∨ (∃ other ∈ p.server.clients,
          other.conn ≠ m.conn ∧ other.conn ≠ k_HSteamNetConnection_Invalid) →
            ValidUtf8 (report.diff.take 512)
    | _ => True

instance (env : StatsEnv) (p : Stepping) (m : IncomingMsg) : Decidable (CutsWhole env p m) := by
  obtain ⟨conn, msg, num, peerAddr, tick⟩ := m
  induction msg using ClientMsg.casesOn with
  | joinReq request =>
    induction request using Option.casesOn with
    | none => exact inferInstanceAs (Decidable (_ → True))
    | some request => exact inferInstanceAs (Decidable (_ → _ → ValidUtf8 _))
  | desyncReport report =>
    induction report using Option.casesOn with
    | none => exact inferInstanceAs (Decidable (_ → True))
    | some report => exact inferInstanceAs (Decidable (_ → _ → _ → _ ∨ (∃ other ∈ _, _ ∧ _) → ValidUtf8 _))
  | _ => exact inferInstanceAs (Decidable (_ → True))

/-! ## Text in messages -/

theorem dumps_jsonObj {fs : List (String × Json)} (hk : ∀ k ∈ fs.map Prod.fst, isAscii k = true)
    (hv : ∀ v ∈ fs.map Prod.snd, v.Dumps) : (jsonObj fs).Dumps := by
  apply Json.dumps_obj.2
  intro e he
  obtain ⟨kv, hmem, rfl⟩ := List.mem_map.1 he
  exact ⟨validUtf8_ascii (hk kv.1 (List.mem_map_of_mem hmem)), hv kv.2 (List.mem_map_of_mem hmem)⟩

def ConnectionID.TextOk (c : ConnectionID) : Prop := ValidUtf8 c.host ∧ ValidUtf8 c.user

def MemberData.TextOk (m : MemberData) : Prop := m.connId.TextOk ∧ ValidUtf8 m.name ∧ ValidUtf8 m.ip

theorem dumps_connectionID {c : ConnectionID} (h : c.TextOk) : c.toJson.Dumps := by
  refine dumps_jsonObj (by simp) ?_
  simpa [ConnectionID.TextOk] using h

theorem dumps_member {m : MemberData} (h : m.TextOk) : m.toJson.Dumps := by
  refine dumps_jsonObj (by simp) ?_
  simpa using ⟨dumps_connectionID h.1, h.2⟩

theorem dumps_type (t : MessageType) : t.toJson.Dumps := by
  cases t <;> exact Json.dumps_str.2 (validUtf8_ascii (by decide))

theorem dumps_chara (c : CharaConditions) : c.toJson.Dumps := by
  refine dumps_jsonObj (by simp) ?_
  simp

theorem dumps_matchData (d : MatchData) : d.toJson.Dumps := by
  refine dumps_jsonObj (by simp) ?_
  simp [dumps_chara]

theorem dumps_lobbyData {l : LobbyData} (hid : ValidUtf8 l.id.host ∧ ValidUtf8 l.id.key)
    (hm : ∀ m ∈ l.members, m.TextOk) : l.toJson.Dumps := by
  have hidj : (jsonObj [("host", .str l.id.host), ("key", .str l.id.key)]).Dumps := by
    refine dumps_jsonObj (by simp) ?_
    simpa using hid
  have htime : l.roundTime.toJson.Dumps := by
    refine dumps_jsonObj (by simp) ?_
    simp
  refine dumps_jsonObj (by simp) ?_
  simpa [hidj, htime] using fun m hmem => dumps_member (hm m hmem)

theorem dumps_desync {r : DesyncReport} (h : ValidUtf8 r.diff) : r.toJson.Dumps := by
  refine dumps_jsonObj (by simp) ?_
  simpa [dumps_type] using h

theorem dumps_joinResult (r : JoinResult) : r.toJson.Dumps := by
  cases r <;> exact Json.dumps_str.2 (validUtf8_ascii (by decide))

/-- The text of a message the server sends. -/
def ServerMsg.TextOk : ServerMsg → Prop
  | .helloResp cid => cid.TextOk
  | .dataUpdate l _ => (ValidUtf8 l.id.host ∧ ValidUtf8 l.id.key) ∧ ∀ m ∈ l.members, m.TextOk
  | .desyncReport r => ValidUtf8 r.diff
  | .directPeer peer => ValidUtf8 peer.ip ∧ ValidUtf8 peer.localIp ∧ ValidUtf8 peer.token
  | .forwarded msg => msg.Dumps
  | .joinReject _ => True
  | .lobbyAllReady => True
  | .battleSynced => True

theorem dumps_serverMsg (msg : ServerMsg) (h : msg.TextOk) : msg.toJson.Dumps := by
  cases msg with
  | forwarded j => exact h
  | desyncReport r => exact dumps_desync h
  | helloResp cid =>
    refine dumps_jsonObj (by simp) ?_
    simpa [dumps_type] using dumps_connectionID h
  | joinReject r =>
    refine dumps_jsonObj (by simp) ?_
    simp [dumps_type, dumps_joinResult]
  | dataUpdate l d =>
    refine dumps_jsonObj (by simp) ?_
    simpa [dumps_type, dumps_matchData] using dumps_lobbyData h.1 h.2
  | directPeer peer =>
    refine dumps_jsonObj (by simp) ?_
    simpa [dumps_type, ServerMsg.TextOk] using h
  | lobbyAllReady =>
    refine dumps_jsonObj (by simp) ?_
    simp [dumps_type]
  | battleSynced =>
    refine dumps_jsonObj (by simp) ?_
    simp [dumps_type]

def Stat.TextOk : Stat → Prop
  | .desync r => ValidUtf8 r.diff
  | _ => True

/-- A line of the stats file carries the region at its end. -/
theorem dumps_line {fs : List (String × Json)} (hk : ∀ k ∈ fs.map Prod.fst, isAscii k = true)
    (hv : ∀ v ∈ fs.map Prod.snd, v.Dumps) {region : Bytes} (hr : ValidUtf8 region) :
    (jsonObj (fs ++ if region = [] then [] else [("region", .str region)])).Dumps := by
  have hregion : isAscii "region" = true := by decide
  split
  · rw [List.append_nil]
    exact dumps_jsonObj hk hv
  · refine dumps_jsonObj (fun k hmem => ?_) (fun v hmem => ?_)
    · rw [List.map_append] at hmem
      rcases List.mem_append.1 hmem with hmem | hmem
      · exact hk k hmem
      · rw [List.mem_singleton.1 hmem]
        exact hregion
    · rw [List.map_append] at hmem
      rcases List.mem_append.1 hmem with hmem | hmem
      · exact hv v hmem
      · rw [List.mem_singleton.1 hmem]
        exact Json.dumps_str.2 hr

theorem dumps_stat (stat : Stat) (h : stat.TextOk) {region : Bytes} (hr : ValidUtf8 region) (ts : Int) :
    (stat.toJson region ts).Dumps := by
  have hassoc : stat.toJson region ts =
      jsonObj ((stat.fields ++ [("ts", .int ts)]) ++ if region = [] then [] else [("region", .str region)]) := by
    simp [Stat.toJson]
  rw [hassoc]
  refine dumps_line ?_ ?_ hr
  · cases stat <;> simp [Stat.fields]
  · cases stat with
    | matchEnd seconds spectators reported => simp [Stat.fields]
    | matchStart players spectators => simp [Stat.fields]
    | desync r => simpa [Stat.fields] using (show ValidUtf8 r.diff from h)

/-! ## Text the server holds -/

def SessionMember.TextOk (m : SessionMember) : Prop :=
  m.data.TextOk ∧ ValidUtf8 m.direct.ip ∧ ValidUtf8 m.direct.localIp

namespace SessionServer

structure TextOk (s : SessionServer) : Prop where
  identity : ValidUtf8 s.identity
  id : ValidUtf8 s.lobbyData.id.host ∧ ValidUtf8 s.lobbyData.id.key
  members : ∀ m ∈ s.clients, m.TextOk
  cids : ∀ conn cid, s.cidMap.find conn = some cid → cid.TextOk

theorem TextOk.same {s s' : SessionServer} (h : TextOk s) (hi : s'.identity = s.identity)
    (hl : s'.lobbyData.id = s.lobbyData.id) (hc : s'.clients = s.clients) (hm : s'.cidMap = s.cidMap) : TextOk s' :=
  ⟨hi ▸ h.identity, hl ▸ h.id, hc ▸ h.members, hm ▸ h.cids⟩

theorem TextOk.room {s s' : SessionServer} (h : TextOk s) (hr : SameRoom s s') : TextOk s' := by
  obtain ⟨_, _, _, _, _, rfl⟩ := hr
  exact h.same rfl rfl rfl rfl

/-- Members may leave, and change anything but their text. -/
theorem TextOk.fewer {s s' : SessionServer} (h : TextOk s) (hi : s'.identity = s.identity)
    (hl : s'.lobbyData.id = s.lobbyData.id)
    (hc : ∀ m' ∈ s'.clients, ∃ m ∈ s.clients, m.TextOk → m'.TextOk)
    (hm : ∀ conn cid, s'.cidMap.find conn = some cid → s.cidMap.find conn = some cid) : TextOk s' where
  identity := hi ▸ h.identity
  id := hl ▸ h.id
  members := by
    intro m' hm'
    obtain ⟨m, hmem, hok⟩ := hc m' hm'
    exact hok (h.members m hmem)
  cids := fun conn cid hf => h.cids conn cid (hm conn cid hf)

/-- Every member after `f` is a member before. -/
theorem text_map {f : SessionMember → SessionMember} (hf : ∀ m, m.TextOk → (f m).TextOk) (l : List SessionMember) :
    ∀ m' ∈ l.map f, ∃ m ∈ l, m.TextOk → m'.TextOk := by
  intro m' hm'
  obtain ⟨m, hmem, rfl⟩ := List.mem_map.1 hm'
  exact ⟨m, hmem, hf m⟩

theorem text_cidOf {s : SessionServer} (h : TextOk s) (conn : Conn) : (s.cidOf conn).TextOk :=
  ⟨h.identity, validUtf8_of_ascii (toDecimal_ascii _)⟩

theorem TextOk.hello {s : SessionServer} (h : TextOk s) (conn : Conn) : TextOk (s.onHello conn).1 where
  identity := h.identity
  id := h.id
  members := h.members
  cids := by
    intro c cid hf
    simp only [onHello] at hf
    by_cases hc : c = conn
    · subst hc
      rw [Assoc.find_insert_self] at hf
      cases hf
      exact text_cidOf h c
    · rw [Assoc.find_insert_ne _ _ hc] at hf
      exact h.cids c cid hf

/-- A newcomer's text is its identity, its stored name and its address. -/
theorem text_newMember {s : SessionServer} (h : TextOk s) {m : IncomingMsg} {cid : ConnectionID}
    (hcid : s.cidMap.find m.conn = some cid) {request : SessionJoinRequest}
    (hname : ValidUtf8 (storedName request.username)) : (s.newMember m.conn request m.peerAddr cid).TextOk := by
  refine ⟨⟨h.cids _ _ hcid, hname, ?_⟩, validUtf8_nil, validUtf8_nil⟩
  simp only [newMember]
  split
  · exact validUtf8_nil
  · exact validUtf8_of_ascii m.peerAddr.text_ascii

theorem TextOk.join {s : SessionServer} (h : TextOk s) {m : IncomingMsg} {cid : ConnectionID}
    (hcid : s.cidMap.find m.conn = some cid) {request : SessionJoinRequest}
    (hname : ValidUtf8 (storedName request.username)) :
    TextOk (s.seatMember (s.newMember m.conn request m.peerAddr cid)) := by
  have hnew := text_newMember h hcid hname
  unfold seatMember
  split
  · refine ⟨h.identity, h.id, fun e he => ?_, h.cids⟩
    rcases List.mem_append.1 he with he | he
    · exact h.members e he
    · rw [List.mem_singleton.1 he]
      exact hnew
  · refine ⟨h.identity, h.id, fun e he => ?_, h.cids⟩
    rcases List.eq_or_mem_of_mem_insertIdx he with rfl | he
    · exact hnew
    · exact h.members e he

theorem hexDigit_ascii : ∀ d : Fin 16, hexDigit d < 0x80 := by decide

/-- The text of a direct pairing is the players' own, and a token of hexadecimal digits. -/
theorem text_exchange {s : SessionServer} (h : TextOk s) (env : StatsEnv) (tick : Tick) :
    TextOk (s.maybeExchangeDirectEndpoints tick).1 ∧
      ∀ o ∈ (s.maybeExchangeDirectEndpoints tick).2, o.Dumps env := by
  have htoken : ValidUtf8 (tick.token.map hexDigit) := by
    apply validUtf8_of_ascii
    intro b hb
    obtain ⟨d, -, rfl⟩ := List.mem_map.1 hb
    exact hexDigit_ascii d
  have hpeer : ∀ m ∈ s.clients, (ServerMsg.directPeer (directPeerOf m tick)).TextOk := by
    intro m hm
    obtain ⟨-, hip, hlocal⟩ := h.members m hm
    exact ⟨hip, hlocal, htoken⟩
  constructor
  · rcases maybeExchange_eq s tick with he | he
    · rw [he]; exact h
    · rw [he]; exact h.same rfl rfl rfl rfl
  · unfold maybeExchangeDirectEndpoints
    split
    · simp
    · split
      · rename_i a b ha hb
        split
        · simp
        · intro o ho
          simp only [List.mem_cons, List.not_mem_nil, or_false] at ho
          rcases ho with rfl | rfl
          · exact dumps_serverMsg _ (hpeer b (List.mem_of_getElem? hb))
          · exact dumps_serverMsg _ (hpeer a (List.mem_of_getElem? ha))
      · simp

theorem text_results {s : SessionServer} (h : TextOk s) (env : StatsEnv) (loser : Int32) (tick : Tick) :
    TextOk (s.onReportResults (some loser) tick).1 ∧
      ∀ o ∈ (s.onReportResults (some loser) tick).2, o.Dumps env := by
  have hclock : ∀ o ∈ (s.closeMatchClock tick).2, o.Dumps env := by
    unfold closeMatchClock
    split
    · intro o ho
      rw [List.mem_singleton.1 ho]
      exact fun _ => dumps_stat (.matchEnd _ _ true) trivial env.region_utf8 _
    · simp
  have hrest : (s.handleResults loser.toInt tick).1.identity = s.identity ∧
      (s.handleResults loser.toInt tick).1.lobbyData.id = s.lobbyData.id ∧
      (s.handleResults loser.toInt tick).1.cidMap = s.cidMap := by
    simp only [handleResults, rotateLoser, closeMatchClock, clearWatching, clearReadyMarks]
    repeat' split
    all_goals exact ⟨rfl, rfl, rfl⟩
  refine ⟨h.fewer hrest.1 hrest.2.1 (fun e he => ?_) (fun conn cid hf => ?_), hclock⟩
  · obtain ⟨e₀, h₀, rfl⟩ := members_results s loser.toInt tick e he
    exact ⟨e₀, h₀, id⟩
  · have hf' : (s.handleResults loser.toInt tick).1.cidMap.find conn = some cid := hf
    rwa [hrest.2.2] at hf'

theorem text_update {s : SessionServer} (h : TextOk s) : s.updateMsg.TextOk := by
  refine ⟨h.id, fun d hd => ?_⟩
  obtain ⟨m, hm, rfl⟩ := List.mem_map.1 hd
  exact (h.members m hm).1

end SessionServer

/-! ## One message -/

open SessionServer

/-- The text that a message adds is valid where it is cut between characters. -/
theorem text_known {env : StatsEnv} {p : Stepping} (h : p.server.TextOk) {m : IncomingMsg} {cid : ConnectionID}
    (hcid : p.server.cidMap.find m.conn = some cid) (hm : m.msg.TextOk) (hC : CutsWhole env p m) :
    (handleKnown p m cid).1.server.TextOk ∧ ∀ o ∈ (handleKnown p m cid).2, o.Dumps env := by
  have hC' := hC (by simp [registered, hcid])
  -- nothing is sent, and nothing but flags and numbers changes
  have hsame : ∀ s : SessionServer, SameRoom p.server s → s.TextOk ∧ ∀ o ∈ ([] : List Out), o.Dumps env :=
    fun s hr => ⟨h.room hr, by simp⟩
  unfold handleKnown
  cases hmsg : m.msg with
  | forward msg fwd =>
    rw [hmsg] at hm
    refine ⟨h, ?_⟩
    simp only [Stepping.serve, onForward]
    repeat' split
    · simp
    · simp
    · intro o ho
      rw [List.mem_singleton.1 ho]
      exact hm
    · simp
  | joinReq request =>
    rw [hmsg] at hC'
    have hreject : ∀ reason, ∀ o ∈ [Out.respond m.conn (.joinReject reason)], o.Dumps env := by
      intro reason o ho
      rw [List.mem_singleton.1 ho]
      exact dumps_serverMsg (.joinReject reason) trivial
    cases request with
    | none => exact ⟨h, hreject _⟩
    | some request =>
      simp only [Stepping.serve, onJoinRequest, registerToWait]
      cases href : p.server.joinRefusal request with
      | some reason => exact ⟨h, hreject _⟩
      | none => exact ⟨(h.join hcid (hC' href)).same rfl rfl rfl rfl, by simp⟩
  | setChara request => exact hsame _ (p.server.setChara_room m.conn request)
  | desyncReport report =>
    cases report with
    | none => exact ⟨h, by simp [Stepping.serve, onDesyncReport]⟩
    | some report =>
      rw [hmsg] at hC'
      simp only [Stepping.serve, onDesyncReport]
      split
      · exact ⟨h, by simp⟩
      · rename_i hgo
        simp only [Bool.or_eq_true, Bool.not_eq_true', decide_eq_true_eq, not_or, Bool.not_eq_false] at hgo
        have hcut := hC' hgo.1 (by omega)
        refine ⟨h.same rfl rfl rfl rfl, fun o ho => ?_⟩
        rcases List.mem_cons.1 ho with rfl | ho
        · intro hon
          exact dumps_stat (.desync { report with diff := report.diff.take 512 }) (hcut (.inl hon)) env.region_utf8 _
        · obtain ⟨other, hother, rfl⟩ := List.mem_map.1 ho
          obtain ⟨hmem, hne⟩ := List.mem_filter.1 hother
          rw [Bool.and_eq_true, decide_eq_true_eq, decide_eq_true_eq] at hne
          exact dumps_serverMsg (.desyncReport { report with diff := report.diff.take 512 })
            (hcut (.inr ⟨other, hmem, hne⟩))
  | directOffer offer =>
    rw [hmsg] at hm
    simp only [Stepping.serve, onDirectOffer]
    split
    · rename_i side e offer hside
      let offered : SessionServer := { p.server with
        directExchanged := false
        clients := p.server.clients.modify side.val fun m => { m with direct := offer } }
      have hoffered : offered.TextOk := by
        refine ⟨h.identity, h.id, fun e' he' => ?_, h.cids⟩
        obtain ⟨i, hi⟩ := List.mem_iff_getElem?.1 he'
        rw [List.getElem?_modify] at hi
        obtain ⟨e₀, h₀, rfl⟩ := Option.map_eq_some_iff.1 hi
        have hok := h.members e₀ (List.mem_of_getElem? h₀)
        split
        · exact ⟨hok.1, hm⟩
        · exact hok
      exact text_exchange hoffered env m.tick
    · exact ⟨h, by simp⟩
  | setEnv rngSeed => exact hsame _ (p.server.setEnv_room m.conn rngSeed)
  | setStage stageID => exact hsame _ (p.server.setStage_room m.conn stageID)
  | battleLoaded =>
    refine ⟨h.fewer rfl rfl (text_map (fun e he => ?_) _) fun _ _ hf => hf, by simp⟩
    unfold markLoaded
    split
    · exact he
    · exact he
  | lobbyReady request => exact hsame _ (p.lobbyReady_room m request)
  | reportResults loser =>
    cases loser with
    | none => exact ⟨h, by simp [Stepping.serve, onReportResults]⟩
    | some loser => exact text_results h env loser m.tick
  | battleSnapshot data =>
    refine ⟨h, ?_⟩
    simp only [Stepping.serve, onBattleSnapshot]
    split
    · simp
    · intro o ho
      obtain ⟨other, -, rfl⟩ := List.mem_map.1 ho
      trivial
  | _ => exact ⟨h, by simp⟩

theorem text_message {env : StatsEnv} {p : Stepping} (h : p.server.TextOk) {m : IncomingMsg} (hm : m.msg.TextOk)
    (hC : CutsWhole env p m) :
    (handleMessage p m).1.server.TextOk ∧ ∀ o ∈ (handleMessage p m).2, o.Dumps env := by
  unfold handleMessage
  cases hcid : p.server.cidMap.find m.conn with
  | some cid => exact text_known h hcid hm hC
  | none =>
    cases m.msg with
    | hello =>
      refine ⟨h.hello m.conn, fun o ho => ?_⟩
      rw [List.mem_singleton.1 ho]
      exact dumps_serverMsg (.helloResp _) (text_cidOf h m.conn)
    | _ => exact ⟨h, by simp⟩

/-! ## The other actions -/

theorem text_callSpectators {s : SessionServer} (h : s.TextOk) : s.callSpectators.TextOk := by
  refine h.fewer rfl rfl (text_map (fun e he => ?_) _) fun _ _ hf => hf
  split <;> exact he

theorem text_dropped {s : SessionServer} (h : s.TextOk) : s.dropCharaFromVacatedSeats.TextOk := by
  have hdrop : ∀ (s : SessionServer) (side : Side), s.TextOk → (s.dropCharaFromVacatedSeat side).TextOk := by
    intro s side hs
    unfold dropCharaFromVacatedSeat
    split
    · exact hs.same rfl rfl rfl rfl
    · exact hs
  exact hdrop _ 1 (hdrop _ 0 h)

theorem text_finish {p : Stepping} (h : p.server.TextOk) (env : StatsEnv) (tick : Tick) :
    (finishStep p tick).1.server.TextOk ∧ ∀ o ∈ (finishStep p tick).2, o.Dumps env := by
  obtain ⟨hset, hpeers⟩ := text_exchange (text_dropped h) env tick
  have hupd : (settled p tick).sendUpdate.1.TextOk := by
    unfold sendUpdate
    split
    · exact hset.same rfl rfl rfl rfl
    · exact hset
  have hcall := text_callSpectators hupd
  refine ⟨?_, fun o ho => ?_⟩
  · rw [finishStep_server]
    split
    · exact hcall.same rfl rfl rfl rfl
    · exact hupd
  · rw [finishStep_out] at ho
    simp only [List.mem_append] at ho
    rcases ho with ((ho | ho) | ho) | ho
    · exact hpeers o ho
    · rw [sendUpdate_out _ o ho]
      exact dumps_serverMsg _ (text_update hset)
    · split at ho
      · simp only [sendAllReady, List.mem_append, List.mem_cons, List.not_mem_nil, or_false] at ho
        rcases ho with ((rfl | rfl) | ho) | rfl
        · exact dumps_serverMsg _ (text_update hcall)
        · exact dumps_serverMsg .lobbyAllReady trivial
        · split at ho
          · rw [List.mem_singleton.1 ho]
            exact fun _ => dumps_stat (.matchEnd _ _ false) trivial env.region_utf8 _
          · cases ho
        · exact fun _ => dumps_stat (.matchStart _ _) trivial env.region_utf8 _
      · cases ho
    · split at ho
      · rw [List.mem_singleton.1 ho]
        exact dumps_serverMsg .battleSynced trivial
      · cases ho

theorem text_host {s : SessionServer} (h : s.TextOk) (e : Event) :
    (s.host e).1.TextOk ∧ ∀ env : StatsEnv, ∀ o ∈ (s.host e).2, o.Dumps env := by
  have hreset : ∀ s : SessionServer, s.TextOk → s.resetLobby.TextOk := by
    intro s hs
    refine hs.fewer rfl rfl ?_ fun _ _ hf => hf
    intro m' hm'
    obtain ⟨m₁, h₁, rfl⟩ := List.mem_map.1 hm'
    obtain ⟨m₀, h₀, rfl⟩ := List.mem_map.1 h₁
    exact ⟨m₀, h₀, id⟩
  have hall : ∀ s : SessionServer, s.TextOk →
      s.disconnectAll.1.TextOk ∧ ∀ env : StatsEnv, ∀ o ∈ s.disconnectAll.2, o.Dumps env := by
    intro s hs
    obtain ⟨hc, hm, -, -⟩ := disconnectAll_same s
    refine ⟨⟨?_, ?_, by simp [hc], by simp [hm]⟩, fun env o ho => ?_⟩
    · unfold disconnectAll
      dsimp only
      split <;> exact hs.identity
    · unfold disconnectAll
      dsimp only
      split <;> exact hs.id
    · obtain ⟨e, -, rfl⟩ := List.mem_map.1 ho
      trivial
  cases e with
  | connecting conn ip acceptOk =>
    simp only [host, connecting]
    split
    · refine ⟨h, fun env o ho => ?_⟩
      rw [List.mem_singleton.1 ho]
      trivial
    · exact ⟨h.same rfl rfl rfl rfl, by simp⟩
  | closed conn wasConnected =>
    have herase : ∀ c cid, (s.cidMap.erase conn).find c = some cid → s.cidMap.find c = some cid := by
      intro c cid hf
      by_cases hc : c = conn
      · subst hc
        simp at hf
      · rwa [Assoc.find_erase_ne _ hc] at hf
    refine ⟨?_, fun env o ho => ?_⟩
    · simp only [host, connectionClosed]
      split
      · exact h.fewer rfl rfl (fun m' hm' => ⟨m', List.mem_of_mem_eraseP hm', id⟩) herase
      · exact h.fewer rfl rfl (fun m' hm' => ⟨m', hm', id⟩) herase
    · rw [List.mem_singleton.1 ho]
      trivial
  | create hash secret isPublic =>
    obtain ⟨hs, hout⟩ := hall s h
    exact ⟨(hreset _ (hs.same rfl rfl rfl rfl)).same rfl rfl rfl rfl, hout⟩
  | release =>
    have hpub : (setPublic { s with sidecarHash := [], joinSecret := [] } false).TextOk := h.same rfl rfl rfl rfl
    obtain ⟨hs, hout⟩ := hall _ hpub
    exact ⟨hreset _ hs, hout⟩
  | resetBattleSync =>
    refine ⟨h.fewer rfl rfl (fun m' hm' => ?_) fun _ _ hf => hf, by simp [host]⟩
    obtain ⟨m₀, h₀, rfl⟩ := List.mem_map.1 hm'
    exact ⟨m₀, h₀, id⟩

/-! ## Reading a message -/

theorem ok_of_toOption {α : Type} {x : Except JsonError α} {a : α} (h : x.toOption = some a) : x = .ok a := by
  cases x with
  | error e => cases h
  | ok b =>
    cases h
    rfl

theorem bind_ok {α β : Type} {x : Except JsonError α} {f : α → Except JsonError β} {b : β}
    (h : (x >>= f) = .ok b) : ∃ a, x = .ok a ∧ f a = .ok b := by
  cases x with
  | error e => cases h
  | ok a => exact ⟨a, rfl, h⟩

/-- A string member of a document that dumps. -/
theorem utf8_field {j : Json} {key : String} {s : Bytes} (hj : j.Dumps) (h : field j key Json.getStr = .ok s) :
    ValidUtf8 s := by
  obtain ⟨v, hv, hs⟩ := bind_ok h
  have hd := Json.dumps_of_at hj hv
  cases v with
  | str t =>
    cases hs
    exact Json.dumps_str.1 hd
  | _ => cases hs

theorem utf8_desyncReport {j : Json} {r : DesyncReport} (hj : j.Dumps) (h : DesyncReport.ofJson j = .ok r) :
    ValidUtf8 r.diff := by
  unfold DesyncReport.ofJson at h
  obtain ⟨_, -, h⟩ := bind_ok h
  obtain ⟨_, -, h⟩ := bind_ok h
  obtain ⟨_, -, h⟩ := bind_ok h
  obtain ⟨_, -, h⟩ := bind_ok h
  obtain ⟨_, -, h⟩ := bind_ok h
  obtain ⟨_, -, h⟩ := bind_ok h
  obtain ⟨diff, hdiff, h⟩ := bind_ok h
  cases h
  exact utf8_field hj hdiff

theorem utf8_directOffer {j : Json} {o : DirectOffer} (hj : j.Dumps) (h : DirectOffer.ofJson j = .ok o) :
    ValidUtf8 o.ip ∧ ValidUtf8 o.localIp := by
  unfold DirectOffer.ofJson at h
  obtain ⟨ip, hip, h⟩ := bind_ok h
  obtain ⟨_, -, h⟩ := bind_ok h
  obtain ⟨localIp, hlocal, h⟩ := bind_ok h
  obtain ⟨_, -, h⟩ := bind_ok h
  cases h
  exact ⟨utf8_field hj hip, utf8_field hj hlocal⟩

/-- What is read from bytes holds valid text, as `json::parse` accepts nothing else. -/
theorem textOk_ofBytes {parse : Bytes → Option Json} (hparse : ∀ data j, parse data = some j → j.Dumps)
    (data : Bytes) : (ClientMsg.ofBytes parse data).TextOk := by
  unfold ClientMsg.ofBytes
  cases hj : parse data with
  | none => trivial
  | some j =>
    have hd := hparse data j hj
    simp only [ClientMsg.ofJson]
    split
    · trivial
    · rename_i t ht
      cases hty : MessageType.ofJson t with
      | forward => exact hd
      | desyncReport =>
        show ClientMsg.TextOk (.desyncReport (DesyncReport.ofJson j).toOption)
        cases hr : (DesyncReport.ofJson j).toOption with
        | none => trivial
        | some r => exact utf8_desyncReport hd (ok_of_toOption hr)
      | directOffer =>
        show ClientMsg.TextOk (.directOffer (DirectOffer.ofJson j).toOption)
        cases ho : (DirectOffer.ofJson j).toOption with
        | none => trivial
        | some o => exact utf8_directOffer hd (ok_of_toOption ho)
      | _ => trivial

end Sf4e.Session
