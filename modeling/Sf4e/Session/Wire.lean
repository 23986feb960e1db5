import Sf4e.Session.Protocol
/-!
# The JSON form of the messages

`ClientMsg` is a message as the server reads it: what the parse gave, the
message type, and the body or the fact that it could not be read. `ServerMsg`
is a message the server sends.
-/
open Sf4e.Lib

namespace Sf4e.Session

/-! ## Message types -/

inductive MessageType where
  | sessionHello
  | sessionHelloResp
  | sessionDataUpdate
  | sessionJoinRej
  | sessionJoinReq
  | lobbyReady
  | lobbyAllReady
  | lobbyReportResults
  | preBattleSetEnv
  | preBattleSetChara
  | preBattleSetStage
  | battleLoaded
  | battleSynced
  | battleSnapshot
  | directOffer
  | directPeer
  | desyncReport
  | forward
  deriving DecidableEq

namespace MessageType

/-- The pairs of `NLOHMANN_JSON_SERIALIZE_ENUM(MessageType, ...)`, in order. -/
def table : List (MessageType × Bytes) :=
  [(sessionHello, ascii "hello"), (sessionHelloResp, ascii "hello_resp"),
    (sessionDataUpdate, ascii "data_update"), (sessionJoinRej, ascii "join_rej"),
    (sessionJoinReq, ascii "join_req"), (lobbyReady, ascii "lobby_ready"),
    (lobbyAllReady, ascii "lobby_allready"), (lobbyReportResults, ascii "lobby_reportresults"),
    (preBattleSetEnv, ascii "prebattle_setenv"), (preBattleSetChara, ascii "prebattle_setchara"),
    (preBattleSetStage, ascii "prebattle_setstage"), (battleLoaded, ascii "battle_loaded"),
    (battleSynced, ascii "battle_synced"), (battleSnapshot, ascii "battle_snapshot"),
    (directOffer, ascii "direct_offer"), (directPeer, ascii "direct_peer"),
    (desyncReport, ascii "desync_report"), (forward, ascii "forward")]

/-- A name that is not in the table, and a value that is not a string, read as
the first entry. -/
def ofJson (j : Json) : MessageType :=
  match j with
  | .str s => ((table.find? fun e => e.2 = s).map (·.1)).getD sessionHello
  | _ => sessionHello

def toJson (t : MessageType) : Json := .str (((table.find? fun e => e.1 = t).map (·.2)).getD [])

theorem ofJson_toJson (t : MessageType) : ofJson t.toJson = t := by
  cases t <;> rfl

end MessageType

/-! ## Reading a message -/

/-- `j.at(key).get_to(field)`. -/
def field {α : Type} (j : Json) (key : String) (get : Json → Except JsonError α) : Except JsonError α := do
  get (← j.at' (ascii key))

def ConnectionID.ofJson (j : Json) : Except JsonError ConnectionID := do
  return { host := ← field j "host" Json.getStr, user := ← field j "user" Json.getStr }

def ForwardMessage.ofJson (j : Json) : Except JsonError ForwardMessage := do
  return {
    src := ← field j "src" ConnectionID.ofJson
    dest := ← field j "dest" ConnectionID.ofJson
    msg := ← field j "msg" Except.ok }

def SessionJoinRequest.ofJson (j : Json) : Except JsonError SessionJoinRequest := do
  return {
    sidecarHash := ← field j "sidecarHash" Json.getStr
    username := ← field j "username" Json.getStr
    port := ← field j "port" Json.getUInt16
    spectator := ← field j "spectator" Json.getBool
    secret := ← field j "secret" Json.getStr }

def CharaConditions.ofJson (j : Json) : Except JsonError CharaConditions := do
  return {
    charaID := ← field j "charaID" Json.getUInt8
    costume := ← field j "costume" Json.getUInt8
    color := ← field j "color" Json.getUInt8
    unused := ← field j "_unused" Json.getUInt8
    personalAction := ← field j "personalAction" Json.getUInt8
    winQuote := ← field j "winQuote" Json.getUInt8
    ultraCombo := ← field j "ultraCombo" Json.getUInt8
    handicap := ← field j "handicap" Json.getUInt8
    unc_edition := ← field j "unc_edition" Json.getUInt8 }

/-- `NLOHMANN_DEFINE_TYPE_NON_INTRUSIVE_WITH_DEFAULT`: every field may be missing. -/
def LobbyReady.ofJson (j : Json) : Except JsonError LobbyReady := do
  return {
    inputDelay := ← j.value (ascii "inputDelay") Json.getInt32 LobbyReady.default.inputDelay
    ready := ← j.value (ascii "ready") Json.getBool LobbyReady.default.ready
    serverPingMs := ← j.value (ascii "serverPingMs") Json.getInt32 LobbyReady.default.serverPingMs
    directRoundTripMs :=
      ← j.value (ascii "directRoundTripMs") Json.getInt32 LobbyReady.default.directRoundTripMs }

def DirectOffer.ofJson (j : Json) : Except JsonError DirectOffer := do
  return {
    ip := ← field j "ip" Json.getStr
    port := ← field j "port" Json.getUInt16
    localIp := ← field j "localIp" Json.getStr
    localPort := ← field j "localPort" Json.getUInt16 }

def DesyncReport.ofJson (j : Json) : Except JsonError DesyncReport := do
  return {
    frame := ← field j "frame" Json.getInt32
    gameplay := ← field j "gameplay" Json.getBool
    flowDiffers := ← field j "flowDiffers" Json.getBool
    inputDelay := ← field j "inputDelay" Json.getInt32
    direct := ← field j "direct" Json.getBool
    pingMs := ← field j "pingMs" Json.getInt32
    diff := ← field j "diff" Json.getStr }

/-- A message from a client. `none` is a body that could not be read. -/
inductive ClientMsg where
  | notJson
  | untyped
  | hello
  | forward (msg : Json) (fwd : Option ForwardMessage)
  | joinReq (request : Option SessionJoinRequest)
  | setChara (request : Option CharaConditions)
  | desyncReport (report : Option DesyncReport)
  | directOffer (offer : Option DirectOffer)
  | setEnv (rngSeed : Option UInt32)
  | setStage (stageID : Option Int32)
  | battleLoaded
  | lobbyReady (request : Option LobbyReady)
  | reportResults (loserSide : Option Int32)
  | battleSnapshot (data : Bytes)
  | unrecognized

namespace ClientMsg

/-- The body under a message type. `data` is what a snapshot is forwarded as. -/
def body (data : Bytes) (j : Json) : MessageType → ClientMsg
  | .sessionHello => .hello
  | .forward => .forward j (ForwardMessage.ofJson j).toOption
  | .sessionJoinReq => .joinReq (SessionJoinRequest.ofJson j).toOption
  | .preBattleSetChara => .setChara (field j "chara" CharaConditions.ofJson).toOption
  | .desyncReport => .desyncReport (DesyncReport.ofJson j).toOption
  | .directOffer => .directOffer (DirectOffer.ofJson j).toOption
  | .preBattleSetEnv => .setEnv (field j "rngSeed" Json.getUInt32).toOption
  | .preBattleSetStage => .setStage (field j "stageID" Json.getInt32).toOption
  | .battleLoaded => .battleLoaded
  | .lobbyReady => .lobbyReady (LobbyReady.ofJson j).toOption
  | .lobbyReportResults => .reportResults (field j "loserSide" Json.getInt32).toOption
  | .battleSnapshot => .battleSnapshot data
  | .sessionHelloResp => .unrecognized
  | .sessionDataUpdate => .unrecognized
  | .sessionJoinRej => .unrecognized
  | .lobbyAllReady => .unrecognized
  | .battleSynced => .unrecognized
  | .directPeer => .unrecognized

def ofJson (data : Bytes) (j : Json) : ClientMsg :=
  match j.at' (ascii "type") with
  | .error _ => .untyped
  | .ok t => body data j (.ofJson t)

/-- What the server reads from the bytes `data`, with `parse` for `json::parse`. -/
def ofBytes (parse : Bytes → Option Json) (data : Bytes) : ClientMsg :=
  match parse data with
  | none => .notJson
  | some j => ofJson data j

end ClientMsg

/-! ## Writing a message -/

/-- `json{ {key, value}, ... }`. -/
def jsonObj (fs : List (String × Json)) : Json := .obj (fs.map fun e => (ascii e.1, e.2))

def ConnectionID.toJson (c : ConnectionID) : Json :=
  jsonObj [("host", .str c.host), ("user", .str c.user)]

def CharaConditions.toJson (c : CharaConditions) : Json :=
  jsonObj [("charaID", .int c.charaID.toNat), ("costume", .int c.costume.toNat),
    ("color", .int c.color.toNat), ("_unused", .int c.unused.toNat),
    ("personalAction", .int c.personalAction.toNat), ("winQuote", .int c.winQuote.toNat),
    ("ultraCombo", .int c.ultraCombo.toNat), ("handicap", .int c.handicap.toNat),
    ("unc_edition", .int c.unc_edition.toNat)]

def MemberData.toJson (m : MemberData) : Json :=
  jsonObj [("connId", m.connId.toJson), ("name", .str m.name), ("ip", .str m.ip),
    ("port", .int m.port.toNat), ("spectator", .bool m.spectator), ("watching", .bool m.watching),
    ("hostPort", .int m.hostPort.toNat)]

def FixedPoint.toJson (v : FixedPoint) : Json :=
  jsonObj [("fractional", .int v.fractional.toNat), ("integral", .int v.integral.toInt)]

def LobbyData.toJson (l : LobbyData) : Json :=
  jsonObj [("id", jsonObj [("host", .str l.id.host), ("key", .str l.id.key)]),
    ("editionSelect", .bool l.editionSelect), ("roundCount", .int l.roundCount.toInt),
    ("roundTime", l.roundTime.toJson), ("members", .arr (l.members.map MemberData.toJson)),
    ("isPublic", .bool l.isPublic)]

def MatchData.toJson (d : MatchData) : Json :=
  jsonObj [("readyMessageNum", .arr [.int d.readyMessageNum.s0, .int d.readyMessageNum.s1]),
    ("chara", .arr [d.chara.s0.toJson, d.chara.s1.toJson]), ("stageID", .int d.stageID),
    ("rngSeed", .int d.rngSeed.toNat),
    ("inputDelay", .arr [.int d.inputDelay.s0.toInt, .int d.inputDelay.s1.toInt])]

def JoinResult.toJson : JoinResult → Json
  | .joinOk => .str (ascii "ok")
  | .requestInvalid => .str (ascii "request_invalid")
  | .lobbyFull => .str (ascii "lobby_full")
  | .nameTaken => .str (ascii "name_taken")
  | .hashInvalid => .str (ascii "hash_invalid")
  | .secretInvalid => .str (ascii "secret_invalid")

def DesyncReport.toJson (r : DesyncReport) : Json :=
  jsonObj [("type", MessageType.desyncReport.toJson), ("frame", .int r.frame.toInt),
    ("gameplay", .bool r.gameplay), ("flowDiffers", .bool r.flowDiffers),
    ("inputDelay", .int r.inputDelay.toInt), ("direct", .bool r.direct),
    ("pingMs", .int r.pingMs.toInt), ("diff", .str r.diff)]

def LobbyReady.toJson (r : LobbyReady) : Json :=
  jsonObj [("type", MessageType.lobbyReady.toJson), ("inputDelay", .int r.inputDelay.toInt),
    ("ready", .bool r.ready), ("serverPingMs", .int r.serverPingMs.toInt),
    ("directRoundTripMs", .int r.directRoundTripMs.toInt)]

def SessionJoinRequest.toJson (r : SessionJoinRequest) : Json :=
  jsonObj [("type", MessageType.sessionJoinReq.toJson), ("sidecarHash", .str r.sidecarHash),
    ("username", .str r.username), ("port", .int r.port.toNat), ("spectator", .bool r.spectator),
    ("secret", .str r.secret)]

/-- A message from the server. `forwarded` is a forward message sent back as it came. -/
inductive ServerMsg where
  | helloResp (cid : ConnectionID)
  | joinReject (result : JoinResult)
  | dataUpdate (lobbyData : LobbyData) (matchData : MatchData)
  | desyncReport (report : DesyncReport)
  | directPeer (peer : DirectPeer)
  | lobbyAllReady
  | battleSynced
  | forwarded (msg : Json)

namespace ServerMsg

def toJson : ServerMsg → Json
  | helloResp cid => jsonObj [("type", MessageType.sessionHelloResp.toJson), ("cid", cid.toJson)]
  | joinReject r => jsonObj [("type", MessageType.sessionJoinRej.toJson), ("result", r.toJson)]
  | dataUpdate l d =>
    jsonObj [("type", MessageType.sessionDataUpdate.toJson), ("lobbyData", l.toJson), ("matchData", d.toJson)]
  | desyncReport r => r.toJson
  | directPeer p =>
    jsonObj [("type", MessageType.directPeer.toJson), ("ip", .str p.ip), ("port", .int p.port.toNat),
      ("localIp", .str p.localIp), ("localPort", .int p.localPort.toNat), ("token", .str p.token)]
  | lobbyAllReady => jsonObj [("type", MessageType.lobbyAllReady.toJson)]
  | battleSynced => jsonObj [("type", MessageType.battleSynced.toJson)]
  | forwarded j => j

end ServerMsg

/-- A line of the stats file. -/
inductive Stat where
  | matchEnd (seconds : Int32) (spectators : Nat) (reported : Bool)
  | matchStart (players spectators : Nat)
  | desync (report : DesyncReport)
  deriving DecidableEq

namespace Stat

def fields : Stat → List (String × Json)
  | matchEnd sec n rep =>
    [("seconds", .int sec.toInt), ("spectators", .int n), ("reported", .bool rep), ("event", .str (ascii "match_end"))]
  | matchStart p n =>
    [("players", .int p), ("spectators", .int n), ("event", .str (ascii "match_start"))]
  | desync r =>
    [("frame", .int r.frame.toInt), ("gameplay", .bool r.gameplay), ("flow_differs", .bool r.flowDiffers),
      ("input_delay", .int r.inputDelay.toInt), ("direct", .bool r.direct), ("ping_ms", .int r.pingMs.toInt),
      ("diff", .str r.diff), ("event", .str (ascii "desync"))]

/-- The line `LogStat` writes, at time `ts`; an empty `region` is left out. -/
def toJson (region : Bytes) (ts : Int) (s : Stat) : Json :=
  jsonObj (s.fields ++ ("ts", .int ts) :: if region = [] then [] else [("region", .str region)])

end Stat

end Sf4e.Session
