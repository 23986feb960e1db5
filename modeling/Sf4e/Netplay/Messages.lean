import Sf4e.Netplay.DataUpdate
/-!
# Every message on the wire

What a client writes is read by the server as the message it was written from. What the server
writes is handled by the client as the message, up to the flags of members, which are not
written.
-/
open Sf4e.Lib

namespace Sf4e.Session

/-! ## What a client writes -/

def DirectOffer.toJson (o : DirectOffer) : Json :=
  jsonObj [("type", MessageType.directOffer.toJson), ("ip", .str o.ip), ("port", .int o.port.toNat),
    ("localIp", .str o.localIp), ("localPort", .int o.localPort.toNat)]

namespace ClientMsg

/-- What `Send` is given. A snapshot is the text it was dumped as, and nothing calls `Forward`. -/
def toJson : ClientMsg → Option Json
  | hello => some (jsonObj [("type", MessageType.sessionHello.toJson)])
  | joinReq (some request) => some request.toJson
  | setChara (some chara) =>
    some (jsonObj [("type", MessageType.preBattleSetChara.toJson), ("chara", chara.toJson)])
  | setEnv (some rngSeed) =>
    some (jsonObj [("type", MessageType.preBattleSetEnv.toJson), ("rngSeed", .int rngSeed.toNat)])
  | setStage (some stageID) =>
    some (jsonObj [("type", MessageType.preBattleSetStage.toJson), ("stageID", .int stageID.toInt)])
  | lobbyReady (some request) => some request.toJson
  | reportResults (some loserSide) =>
    some (jsonObj [("type", MessageType.lobbyReportResults.toJson), ("loserSide", .int loserSide.toInt)])
  | desyncReport (some report) => some report.toJson
  | directOffer (some offer) => some offer.toJson
  | battleLoaded => some (jsonObj [("type", MessageType.battleLoaded.toJson)])
  | _ => none

/-- The text in it is valid. -/
def Utf8 : ClientMsg → Prop
  | joinReq (some r) => ValidUtf8 r.sidecarHash ∧ ValidUtf8 r.username ∧ ValidUtf8 r.secret
  | desyncReport (some r) => ValidUtf8 r.diff
  | directOffer (some o) => ValidUtf8 o.ip ∧ ValidUtf8 o.localIp
  | _ => True

end ClientMsg

/-! ## The server reads it -/

theorem SessionJoinRequest.ofJson_toJson (r : SessionJoinRequest) : SessionJoinRequest.ofJson r.toJson = .ok r := by
  simp (disch := decide) only [SessionJoinRequest.ofJson, SessionJoinRequest.toJson, field_head, field_tail,
    Json.getUInt16_int]
  rfl

theorem LobbyReady.ofJson_toJson (r : LobbyReady) : LobbyReady.ofJson r.toJson = .ok r := by
  simp (disch := decide) only [LobbyReady.ofJson, LobbyReady.toJson, value_head, value_tail, Json.getInt32_int]
  rfl

theorem DesyncReport.ofJson_toJson (r : DesyncReport) : DesyncReport.ofJson r.toJson = .ok r := by
  simp (disch := decide) only [DesyncReport.ofJson, DesyncReport.toJson, field_head, field_tail, Json.getInt32_int]
  rfl

theorem DirectOffer.ofJson_toJson (o : DirectOffer) : DirectOffer.ofJson o.toJson = .ok o := by
  simp (disch := decide) only [DirectOffer.ofJson, DirectOffer.toJson, field_head, field_tail, Json.getUInt16_int]
  rfl

/-- The type is written first. -/
theorem at_type (t : MessageType) (fs : List (String × Json)) :
    (jsonObj (("type", t.toJson) :: fs)).at' (ascii "type") = .ok t.toJson := by
  simp only [jsonObj, Json.at', List.map_cons, Json.member, if_true]

theorem ClientMsg.ofJson_jsonObj (data : Bytes) (t : MessageType) (fs : List (String × Json)) :
    ClientMsg.ofJson data (jsonObj (("type", t.toJson) :: fs)) =
      ClientMsg.body data (jsonObj (("type", t.toJson) :: fs)) t := by
  simp only [ClientMsg.ofJson, at_type, MessageType.ofJson_toJson]

theorem ClientMsg.ofJson_toJson {msg : ClientMsg} {j : Json} (h : msg.toJson = some j) (data : Bytes) :
    ClientMsg.ofJson data j = msg := by
  cases msg with
  | hello =>
    obtain rfl := Option.some.inj h
    rw [ofJson_jsonObj]
    rfl
  | joinReq request =>
    cases request with
    | none => cases h
    | some request =>
      obtain rfl := Option.some.inj h
      have hread := request.ofJson_toJson
      unfold SessionJoinRequest.toJson at hread ⊢
      rw [ofJson_jsonObj, body, hread]
      rfl
  | setChara chara =>
    cases chara with
    | none => cases h
    | some chara =>
      obtain rfl := Option.some.inj h
      rw [ofJson_jsonObj, body]
      simp (disch := decide) only [field_head, field_tail, CharaConditions.ofJson_toJson]
      rfl
  | setEnv rngSeed =>
    cases rngSeed with
    | none => cases h
    | some rngSeed =>
      obtain rfl := Option.some.inj h
      rw [ofJson_jsonObj, body]
      simp (disch := decide) only [field_head, field_tail, Json.getUInt32_int]
      rfl
  | setStage stageID =>
    cases stageID with
    | none => cases h
    | some stageID =>
      obtain rfl := Option.some.inj h
      rw [ofJson_jsonObj, body]
      simp (disch := decide) only [field_head, field_tail, Json.getInt32_int]
      rfl
  | lobbyReady request =>
    cases request with
    | none => cases h
    | some request =>
      obtain rfl := Option.some.inj h
      have hread := request.ofJson_toJson
      unfold LobbyReady.toJson at hread ⊢
      rw [ofJson_jsonObj, body, hread]
      rfl
  | reportResults loserSide =>
    cases loserSide with
    | none => cases h
    | some loserSide =>
      obtain rfl := Option.some.inj h
      rw [ofJson_jsonObj, body]
      simp (disch := decide) only [field_head, field_tail, Json.getInt32_int]
      rfl
  | desyncReport report =>
    cases report with
    | none => cases h
    | some report =>
      obtain rfl := Option.some.inj h
      have hread := report.ofJson_toJson
      unfold DesyncReport.toJson at hread ⊢
      rw [ofJson_jsonObj, body, hread]
      rfl
  | directOffer offer =>
    cases offer with
    | none => cases h
    | some offer =>
      obtain rfl := Option.some.inj h
      have hread := offer.ofJson_toJson
      unfold DirectOffer.toJson at hread ⊢
      rw [ofJson_jsonObj, body, hread]
      rfl
  | battleLoaded =>
    obtain rfl := Option.some.inj h
    rw [ofJson_jsonObj]
    rfl
  | notJson => cases h
  | untyped => cases h
  | forward msg fwd => cases h
  | battleSnapshot snapshot => cases h
  | unrecognized => cases h

/-! ## What it may be written as -/

theorem MessageType.plain (t : MessageType) : t.toJson.Plain := by
  cases t <;> exact .str (validUtf8_ascii (by decide))

/-- A message of a type, and what it carries. -/
theorem plain_message (t : MessageType) {fs : List (String × Json)} (hkeys : KeysOk ("type" :: fs.map Prod.fst))
    (h : ∀ e ∈ fs, e.2.Plain) : (jsonObj (("type", t.toJson) :: fs)).Plain :=
  plain_jsonObj hkeys (List.forall_mem_cons.2 ⟨t.plain, h⟩)

theorem DesyncReport.plain {r : DesyncReport} (h : ValidUtf8 r.diff) : r.toJson.Plain := by
  refine plain_message .desyncReport (by simp only [List.map_cons, List.map_nil]; decide) ?_
  simp only [List.forall_mem_cons]
  exact ⟨Json.plain_int32 _, .bool _, .bool _, Json.plain_int32 _, .bool _, Json.plain_int32 _, .str h, nofun⟩

theorem ClientMsg.plain {msg : ClientMsg} {j : Json} (h : msg.toJson = some j) (hutf8 : msg.Utf8) : j.Plain := by
  cases msg with
  | hello =>
    obtain rfl := Option.some.inj h
    exact plain_message .sessionHello (by decide) nofun
  | joinReq request =>
    cases request with
    | none => cases h
    | some request =>
      obtain rfl := Option.some.inj h
      obtain ⟨hhash, hname, hsecret⟩ := hutf8
      refine plain_message .sessionJoinReq (by simp only [List.map_cons, List.map_nil]; decide) ?_
      simp only [List.forall_mem_cons]
      exact ⟨.str hhash, .str hname, Json.plain_uint16 _, .bool _, .str hsecret, nofun⟩
  | setChara chara =>
    cases chara with
    | none => cases h
    | some chara =>
      obtain rfl := Option.some.inj h
      refine plain_message .preBattleSetChara (by simp only [List.map_cons, List.map_nil]; decide) ?_
      simp only [List.forall_mem_cons]
      exact ⟨chara.plain, nofun⟩
  | setEnv rngSeed =>
    cases rngSeed with
    | none => cases h
    | some rngSeed =>
      obtain rfl := Option.some.inj h
      refine plain_message .preBattleSetEnv (by simp only [List.map_cons, List.map_nil]; decide) ?_
      simp only [List.forall_mem_cons]
      exact ⟨Json.plain_uint32 _, nofun⟩
  | setStage stageID =>
    cases stageID with
    | none => cases h
    | some stageID =>
      obtain rfl := Option.some.inj h
      refine plain_message .preBattleSetStage (by simp only [List.map_cons, List.map_nil]; decide) ?_
      simp only [List.forall_mem_cons]
      exact ⟨Json.plain_int32 _, nofun⟩
  | lobbyReady request =>
    cases request with
    | none => cases h
    | some request =>
      obtain rfl := Option.some.inj h
      refine plain_message .lobbyReady (by simp only [List.map_cons, List.map_nil]; decide) ?_
      simp only [List.forall_mem_cons]
      exact ⟨Json.plain_int32 _, .bool _, Json.plain_int32 _, Json.plain_int32 _, nofun⟩
  | reportResults loserSide =>
    cases loserSide with
    | none => cases h
    | some loserSide =>
      obtain rfl := Option.some.inj h
      refine plain_message .lobbyReportResults (by simp only [List.map_cons, List.map_nil]; decide) ?_
      simp only [List.forall_mem_cons]
      exact ⟨Json.plain_int32 _, nofun⟩
  | desyncReport report =>
    cases report with
    | none => cases h
    | some report =>
      obtain rfl := Option.some.inj h
      exact DesyncReport.plain hutf8
  | directOffer offer =>
    cases offer with
    | none => cases h
    | some offer =>
      obtain rfl := Option.some.inj h
      obtain ⟨hip, hlocal⟩ := hutf8
      refine plain_message .directOffer (by simp only [List.map_cons, List.map_nil]; decide) ?_
      simp only [List.forall_mem_cons]
      exact ⟨.str hip, Json.plain_uint16 _, .str hlocal, Json.plain_uint16 _, nofun⟩
  | battleLoaded =>
    obtain rfl := Option.some.inj h
    exact plain_message .battleLoaded (by decide) nofun
  | notJson => cases h
  | untyped => cases h
  | forward msg fwd => cases h
  | battleSnapshot snapshot => cases h
  | unrecognized => cases h

namespace ServerMsg

/-- What goes over the wire as it is: the text is valid and the match fits its types. Forwarded messages are
left out. -/
def Writable : ServerMsg → Prop
  | helloResp cid => cid.Utf8
  | dataUpdate l d => l.Utf8 ∧ d.Sane
  | desyncReport r => ValidUtf8 r.diff
  | directPeer peer => ValidUtf8 peer.ip ∧ ValidUtf8 peer.localIp ∧ ValidUtf8 peer.token
  | forwarded _ => False
  | joinReject _ => True
  | lobbyAllReady => True
  | battleSynced => True

theorem Writable.plain {msg : ServerMsg} (h : msg.Writable) : msg.toJson.Plain := by
  cases msg with
  | helloResp cid =>
    refine plain_message .sessionHelloResp (by simp only [List.map_cons, List.map_nil]; decide) ?_
    simp only [List.forall_mem_cons]
    exact ⟨ConnectionID.plain h, nofun⟩
  | joinReject r =>
    have hresult : r.toJson.Plain := by cases r <;> exact .str (validUtf8_ascii (by decide))
    refine plain_message .sessionJoinRej (by simp only [List.map_cons, List.map_nil]; decide) ?_
    simp only [List.forall_mem_cons]
    exact ⟨hresult, nofun⟩
  | dataUpdate l d =>
    refine plain_message .sessionDataUpdate (by simp only [List.map_cons, List.map_nil]; decide) ?_
    simp only [List.forall_mem_cons]
    exact ⟨LobbyData.plain h.1, MatchData.plain h.2.marks h.2.stage_fits, nofun⟩
  | desyncReport r => exact DesyncReport.plain h
  | directPeer peer =>
    obtain ⟨hip, hlocal, htoken⟩ := h
    refine plain_message .directPeer (by simp only [List.map_cons, List.map_nil]; decide) ?_
    simp only [List.forall_mem_cons]
    exact ⟨.str hip, Json.plain_uint16 _, .str hlocal, Json.plain_uint16 _, .str htoken, nofun⟩
  | lobbyAllReady => exact plain_message .lobbyAllReady (by decide) nofun
  | battleSynced => exact plain_message .battleSynced (by decide) nofun
  | forwarded j => exact h.elim

end ServerMsg

/-! ## The client reads it -/

namespace JoinResult

/-- The pairs of `NLOHMANN_JSON_SERIALIZE_ENUM(JoinResult, ...)`, in order. -/
def table : List (JoinResult × Bytes) :=
  [(joinOk, ascii "ok"), (requestInvalid, ascii "request_invalid"), (lobbyFull, ascii "lobby_full"),
    (nameTaken, ascii "name_taken"), (hashInvalid, ascii "hash_invalid"), (secretInvalid, ascii "secret_invalid")]

/-- What is not in the table reads as the first entry. -/
def ofJson (j : Json) : JoinResult :=
  match j with
  | .str s => ((table.find? fun e => e.2 = s).map (·.1)).getD joinOk
  | _ => joinOk

theorem ofJson_toJson (r : JoinResult) : ofJson r.toJson = r := by
  cases r <;> rfl

end JoinResult

def DirectPeer.ofJson (j : Json) : Except JsonError DirectPeer := do
  return {
    ip := ← field j "ip" Json.getStr
    port := ← field j "port" Json.getUInt16
    localIp := ← field j "localIp" Json.getStr
    localPort := ← field j "localPort" Json.getUInt16
    token := ← field j "token" Json.getStr }

theorem DirectPeer.ofJson_toJson (peer : DirectPeer) :
    DirectPeer.ofJson (ServerMsg.directPeer peer).toJson = .ok peer := by
  simp (disch := decide) only [DirectPeer.ofJson, ServerMsg.toJson, field_head, field_tail, Json.getUInt16_int]
  rfl

/-- The message as its reader has it. -/
def ServerMsg.unflagged : ServerMsg → ServerMsg
  | .dataUpdate l d => .dataUpdate l.unflagged d
  | msg => msg

end Sf4e.Session

namespace Sf4e.Netplay

open Sf4e.Session

namespace SessionClient

/-- A message in `SessionClient::Step`, once it is parsed. What cannot be read is dropped. Snapshots
are compared elsewhere. -/
def receiveJson (c : SessionClient) (j : Json) (battle : ℕ) : SessionClient × List Up × Bool :=
  match j.at' (ascii "type") with
  | .error _ => (c, [], false)
  | .ok t =>
    match MessageType.ofJson t with
    | .sessionHelloResp =>
      match field j "cid" ConnectionID.ofJson with
      | .error _ => (c, [], false)
      | .ok cid => c.receive ⟨.helloResp cid, battle⟩
    | .sessionJoinRej =>
      match field j "result" (fun r => .ok (JoinResult.ofJson r)) with
      | .error _ => (c, [], false)
      | .ok result => c.receive ⟨.joinReject result, battle⟩
    | .sessionDataUpdate =>
      match updateOfJson j with
      | .error _ => (c, [], false)
      | .ok (lobbyData, matchData) => c.receive ⟨.dataUpdate lobbyData matchData, battle⟩
    | .lobbyAllReady => c.receive ⟨.lobbyAllReady, battle⟩
    | .battleSynced => c.receive ⟨.battleSynced, battle⟩
    | .directPeer =>
      match DirectPeer.ofJson j with
      | .error _ => (c, [], false)
      | .ok peer => c.receive ⟨.directPeer peer, battle⟩
    | .desyncReport =>
      if c.bDesyncAbort then (c, [], false)
      else
        let (c, leave) := c.abortForDesync
        (c, [], leave)
    | .battleSnapshot => (c, [], false)
    | .forward => (c, [], false)
    | _ => (c, [], false)

def receiveBytes (parse : Bytes → Option Json) (c : SessionClient) (data : Bytes) (battle : ℕ) :
    SessionClient × List Up × Bool :=
  match parse data with
  | none => (c, [], false)
  | some j => c.receiveJson j battle

/-- The client handles the document as the message it was written from. -/
theorem receiveJson_toJson (c : SessionClient) {msg : ServerMsg} (h : msg.Writable) (battle : ℕ) :
    c.receiveJson msg.toJson battle = c.receive ⟨msg.unflagged, battle⟩ := by
  cases msg with
  | helloResp cid =>
    have hcid : field (ServerMsg.helloResp cid).toJson "cid" ConnectionID.ofJson = .ok cid := by
      simp (disch := decide) only [ServerMsg.toJson, field_head, field_tail, ConnectionID.ofJson_toJson]
    unfold ServerMsg.toJson at hcid ⊢
    simp only [receiveJson, at_type, MessageType.ofJson_toJson, hcid]
    rfl
  | joinReject r =>
    have hresult : field (ServerMsg.joinReject r).toJson "result" (fun j => .ok (JoinResult.ofJson j)) = .ok r := by
      simp (disch := decide) only [ServerMsg.toJson, field_head, field_tail, JoinResult.ofJson_toJson]
    unfold ServerMsg.toJson at hresult ⊢
    simp only [receiveJson, at_type, MessageType.ofJson_toJson, hresult]
    rfl
  | dataUpdate l d =>
    have hread := updateOfJson_toJson l h.2
    unfold ServerMsg.toJson at hread ⊢
    simp only [receiveJson, at_type, MessageType.ofJson_toJson, hread]
    rfl
  | desyncReport r =>
    simp only [ServerMsg.toJson, DesyncReport.toJson, receiveJson, at_type, MessageType.ofJson_toJson]
    rfl
  | directPeer peer =>
    have hread := peer.ofJson_toJson
    unfold ServerMsg.toJson at hread ⊢
    simp only [receiveJson, at_type, MessageType.ofJson_toJson, hread]
    rfl
  | lobbyAllReady =>
    simp only [ServerMsg.toJson, receiveJson, at_type, MessageType.ofJson_toJson]
    rfl
  | battleSynced =>
    simp only [ServerMsg.toJson, receiveJson, at_type, MessageType.ofJson_toJson]
    rfl
  | forwarded j => exact h.elim

/-! ## The flags of members -/

/-- The client as it is when the flags of the members never reach it. -/
def unflagged (c : SessionClient) : SessionClient := { c with lobbyData := c.lobbyData.unflagged }

theorem mySide_unflagged (c : SessionClient) : c.unflagged.mySide = c.mySide := by
  have hseating : seating c.lobbyData.unflagged = seating c.lobbyData := by
    simp only [seating, LobbyData.unflagged, List.filter_map, List.map_map]
    rfl
  simp only [mySide, unflagged, hseating]
  rfl

/-- The client does not read the flags of members. -/
theorem perform_unflagged (c : SessionClient) (d : Doing) :
    c.unflagged.perform d = ((c.perform d).1.unflagged, (c.perform d).2) := by
  have hside := c.mySide_unflagged
  unfold perform
  rw [show c.unflagged.connected = c.connected from rfl]
  split
  · cases d with
    | draw =>
      simp only [doing, draw, hside, show c.unflagged.onMainMenu = c.onMainMenu from rfl,
        show c.unflagged.hiddenForBattle = c.hiddenForBattle from rfl]
      split
      · rfl
      · split
        · rfl
        · rfl
    | ready o =>
      simp only [doing, sendReady, hside, show c.unflagged.onLobbyScreen = c.onLobbyScreen from rfl,
        show c.unflagged.sentReady = c.sentReady from rfl]
      split
      · split
        · rfl
        · rfl
      · rfl
    | takeReadyBack =>
      simp only [doing, takeReadyBack, show c.unflagged.onLobbyScreen = c.onLobbyScreen from rfl,
        show c.unflagged.sentReady = c.sentReady from rfl]
      split
      · split
        · rfl
        · rfl
      · rfl
    | matchResult winnerSide =>
      simp only [doing, onMatchResult, hside, show c.unflagged.onMainMenu = c.onMainMenu from rfl]
      split
      · rfl
      · rfl
    | hasInitialized =>
      simp only [doing, hasInitialized, show c.unflagged.onMainMenu = c.onMainMenu from rfl,
        show c.unflagged.bSessionSentLoaded = c.bSessionSentLoaded from rfl]
      split
      · rfl
      · split
        · rfl
        · rfl
    | exitForeground =>
      simp only [doing, show c.unflagged.onMainMenu = c.onMainMenu from rfl]
      split
      · rfl
      · rfl
    | snapshot data =>
      simp only [doing, show c.unflagged.onMainMenu = c.onMainMenu from rfl]
      split
      · rfl
      · rfl
    | desync r =>
      simp only [doing, handleDesync, reportDesync, show c.unflagged.onMainMenu = c.onMainMenu from rfl,
        show c.unflagged.desyncReported = c.desyncReported from rfl, show c.unflagged.connected = c.connected from rfl]
      split
      · rfl
      · split
        · split
          · rfl
          · rfl
        · rfl
  · rfl

theorem receive_unflagged (c : SessionClient) (msg : ServerMsg) (battle : ℕ) :
    c.unflagged.receive ⟨msg.unflagged, battle⟩ =
      ((c.receive ⟨msg, battle⟩).1.unflagged, (c.receive ⟨msg, battle⟩).2) := by
  cases msg with
  | dataUpdate l d =>
    have hname : (l.unflagged.members.take 2).findIdx? (fun m => m.name = c.name) =
        (l.members.take 2).findIdx? (fun m => m.name = c.name) := by
      simp only [LobbyData.unflagged, ← List.map_take, List.findIdx?_map]
      rfl
    simp only [receive, ServerMsg.unflagged, onDataUpdate, show c.unflagged.name = c.name from rfl, hname,
      show c.unflagged.outstandingReadyRequestNumber = c.outstandingReadyRequestNumber from rfl]
    generalize (l.members.take 2).findIdx? (fun m => m.name = c.name) = seat
    split
    · match seat with
      | none => rfl
      | some 0 =>
        by_cases hanswered : d.readyMessageNum.s0 = c.outstandingReadyRequestNumber
        · simp only [if_pos hanswered]
          rfl
        · simp only [if_neg hanswered]
          rfl
      | some 1 =>
        by_cases hanswered : d.readyMessageNum.s1 = c.outstandingReadyRequestNumber
        · simp only [if_pos hanswered]
          rfl
        · simp only [if_neg hanswered]
          rfl
      | some (_ + 2) => rfl
    · rfl
  | lobbyAllReady =>
    simp only [receive, ServerMsg.unflagged, onReady, show c.unflagged.onMainMenu = c.onMainMenu from rfl]
    split
    · rfl
    · rfl
  | desyncReport r =>
    simp only [receive, ServerMsg.unflagged, show c.unflagged.bDesyncAbort = c.bDesyncAbort from rfl]
    split
    · rfl
    · rfl
  | _ => rfl

end SessionClient

end Sf4e.Netplay
