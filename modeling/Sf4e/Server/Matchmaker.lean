import Mathlib
import Sf4e.Session.Runs
/-!
# The lobby server

`lobby_server.cxx`: the table of lobbies, each with its session server, and the
matchmaker that hands out codes. The relays are not part of the table; an
output says when a lobby's are cleared.
-/
open Sf4e.Lib Sf4e.Session

namespace Sf4e.Server

def NUM_LOBBIES : Nat := 20
def FIRST_SESSION_PORT : UInt16 := 23401
def MAX_PLAYERS_PER_LOBBY : Nat := 2
def MAX_SPECTATORS_PER_LOBBY : Nat := MAX_SF4E_SPECTATORS
def EMPTY_LOBBY_TIMEOUT_MS : UInt64 := 90 * 1000
def MAX_LOBBY_AGE_MS : UInt64 := 12 * 3600 * 1000
def MAX_LOBBIES_PER_IP : Nat := 2
def MATCHMAKER_BURST : Rat := 20
def MATCHMAKER_PER_SECOND : Rat := 5
def CODE_ALPHABET : List UInt8 := ascii "ABCDEFGHJKMNPQRSTUVWXYZ23456789"
def CODE_LENGTH : Nat := 6
def SF4E_VERSION : Bytes := ascii "1.2.1"

/-! ## Data -/

structure Lobby where
  index : Nat
  active : Bool
  code : Bytes
  hash : Bytes
  isPublic : Bool
  title : Bytes
  sessionPort : UInt16
  secret : Bytes
  creatorIp : UInt32
  createdAt : UInt64
  lastNonEmpty : UInt64
  server : Stepping

structure Bucket where
  tokens : Rat
  last : UInt64

structure LobbyServer where
  lobbies : List Lobby
  buckets : Assoc UInt32 Bucket
  recentBrowsers : Assoc UInt32 UInt64

/-- The draws that make one code. -/
structure CodeDraw where
  letters : List (Fin 31)
  length_eq : letters.length = CODE_LENGTH

/-- The draws that make a secret. -/
structure SecretDraw where
  digits : List (Fin 16)
  length_eq : digits.length = 32

/-- A matchmaker datagram, with the clocks and what the random device gives
while it is served. `codes` are the codes drawn, one after the other. -/
structure Datagram where
  data : Bytes
  ip : UInt32
  port : UInt16
  now : UInt64
  time : Int
  codes : List CodeDraw
  secret : SecretDraw

inductive LobbyStat where
  | lobbyCreated (index : Nat)
  | lobbyReleased (index : Nat)

def LobbyStat.toJson (region : Bytes) (ts : Int) (s : LobbyStat) : Json :=
  let (event, index) := match s with
    | lobbyCreated i => ("lobby_created", i)
    | lobbyReleased i => ("lobby_released", i)
  jsonObj ([("lobby", .int index), ("event", .str (ascii event)), ("ts", .int ts)] ++
    if region = [] then [] else [("region", .str region)])

inductive Output where
  | session (index : Nat) (o : Out)
  | reply (ip : UInt32) (port : UInt16) (msg : Json)
  | logStat (stat : LobbyStat) (time : Int)
  | clearRelays (index : Nat)

namespace Lobby

def playerCount (l : Lobby) : Nat := l.server.server.playerCount

def spectatorCount (l : Lobby) : Nat := l.server.server.spectatorCount

def memberCount (l : Lobby) : Nat := l.server.server.clients.length

/-- The lobby after something happens to its session server. -/
def host (l : Lobby) (e : Event) : Lobby × List Output :=
  let (server, out) := l.server.serve (l.server.server.host e)
  ({ l with server }, out.map (.session l.index))

/-- `ResetLobby`. -/
def reset (l : Lobby) (now : UInt64) (time : Int) : Lobby × List Output :=
  let released := if l.active then [.logStat (.lobbyReleased l.index) time] else []
  let (l, out) := { l with
    active := false
    code := []
    hash := []
    secret := []
    creatorIp := 0
    isPublic := false
    title := []
    lastNonEmpty := now }.host .release
  (l, released ++ .clearRelays l.index :: out)

end Lobby

/-! ## Codes and secrets -/

def CodeDraw.text (d : CodeDraw) : Bytes := d.letters.map fun i => CODE_ALPHABET.getD i.val 0

def SecretDraw.text (d : SecretDraw) : Bytes := d.digits.map SessionServer.hexDigit

/-- `NewCode`: the first code drawn that no active lobby has. The loop draws
until there is one; `none` says that it has not come to an end. -/
def newCode (lobbies : List Lobby) (codes : List CodeDraw) : Option Bytes :=
  (codes.map CodeDraw.text).find? fun code => !lobbies.any fun l => l.active && l.code = code

def findByCode (lobbies : List Lobby) (code : Bytes) : Option Lobby :=
  lobbies.find? fun l => l.active && l.code = code

/-! ## Who may ask -/

/-- `AllowMatchmaker`: a token bucket for each address. -/
def LobbyServer.allowMatchmaker (s : LobbyServer) (ip : UInt32) (now : UInt64) : LobbyServer × Bool :=
  let buckets : Assoc UInt32 Bucket := if s.buckets.length > 50000 then [] else s.buckets
  let b := (buckets.find ip).getD ⟨MATCHMAKER_BURST, 0⟩
  let tokens :=
    if b.last ≠ 0 then
      min MATCHMAKER_BURST (b.tokens + ((now - b.last).toNat : Rat) * MATCHMAKER_PER_SECOND / 1000)
    else b.tokens
  if tokens < 1 then ({ s with buckets := buckets.insert ip ⟨tokens, now⟩ }, false)
  else ({ s with buckets := buckets.insert ip ⟨tokens - 1, now⟩ }, true)

/-! ## Requests -/

/-- Printable ASCII only, bounded. -/
def cleanText (s : Bytes) (cap : Nat) : Bytes := (s.filter fun c => 0x20 ≤ c && c ≤ 0x7e).take cap

/-- `toupper` of every byte, in the C locale. -/
def upper (s : Bytes) : Bytes := s.map fun c => if 0x61 ≤ c && c ≤ 0x7a then c - 0x20 else c

/-- What `inet_ntop` prints for an address. -/
def ipText (ip : UInt32) : Bytes :=
  toDecimal (ip.toNat / 2 ^ 24) ++ ascii "." ++ toDecimal (ip.toNat / 2 ^ 16 % 256) ++ ascii "." ++
    toDecimal (ip.toNat / 2 ^ 8 % 256) ++ ascii "." ++ toDecimal (ip.toNat % 256)

def str (req : Json) (key fallback : String) : Except JsonError Bytes :=
  req.value (ascii key) Json.getStr (ascii fallback)

def refusal (error : String) : Json := jsonObj [("ok", .bool false), ("error", .str (ascii error))]

/-- What a request that got a lobby is told. -/
def admission (l : Lobby) : Json :=
  jsonObj [("ok", .bool true), ("code", .str l.code), ("session_port", .int l.sessionPort.toNat),
    ("secret", .str l.secret)]

structure CreateRequest where
  hash : Bytes
  isPublic : Bool
  title : Bytes

def CreateRequest.ofJson (req : Json) : Except JsonError (Option CreateRequest) := do
  let hash ← str req "hash" ""
  if hash = [] then return none
  let isPublic ← req.value (ascii "public") Json.getBool false
  let title := cleanText (← str req "title" "") 24
  if title ≠ [] then return some ⟨hash, isPublic, title⟩
  let who := cleanText (← str req "name" "") 16
  return some ⟨hash, isPublic, if who = [] then ascii "open lobby" else ascii "lobby by " ++ who⟩

namespace LobbyServer

def countPlayers (s : LobbyServer) : Nat := ((s.lobbies.filter (·.active)).map (·.memberCount)).sum

def countBrowsing (s : LobbyServer) (ip : UInt32) (now : UInt64) : LobbyServer × Nat :=
  let browsers := (s.recentBrowsers.insert ip now).filter fun e => !(now - e.2 > 60000)
  ({ s with recentBrowsers := browsers }, browsers.length)

/-- A lobby that its creator has left is released before the cap is counted. -/
def releaseOwn (lobbies : List Lobby) (ip : UInt32) (now : UInt64) (time : Int) : List (Lobby × List Output) :=
  lobbies.map fun l =>
    if l.active && l.creatorIp = ip && l.memberCount = 0 then l.reset now time else (l, [])

/-- The lobbies of this address that count against the cap. -/
def heldBy (lobbies : List Lobby) (ip : UInt32) : Nat :=
  lobbies.countP fun l => l.active && l.creatorIp = ip && l.memberCount ≠ 0

/-- A free lobby under a new code and secret. -/
def activate (l : Lobby) (r : CreateRequest) (code : Bytes) (d : Datagram) : Lobby × List Output :=
  let (l, out) := { l with
    active := true
    code
    secret := d.secret.text
    hash := r.hash
    creatorIp := d.ip
    createdAt := d.now
    isPublic := r.isPublic
    title := r.title
    lastNonEmpty := d.now }.host (.create r.hash d.secret.text r.isPublic)
  (l, .clearRelays l.index :: out ++ [.logStat (.lobbyCreated l.index) d.time])

/-- The create request. The log line reads the name after everything is done. -/
def onCreate (s : LobbyServer) (req : Json) (r : CreateRequest) (d : Datagram) :
    Option (LobbyServer × List Output × Except JsonError Json) :=
  let released := releaseOwn s.lobbies d.ip d.now d.time
  let lobbies := released.map (·.1)
  let out := released.flatMap (·.2)
  if heldBy s.lobbies d.ip ≥ MAX_LOBBIES_PER_IP then
    some ({ s with lobbies }, out, .ok (refusal "server_full"))
  else match lobbies.findIdx? fun l => !l.active with
    | none => some ({ s with lobbies }, out, .ok (refusal "server_full"))
    | some i =>
      match lobbies[i]?, newCode lobbies d.codes with
      | some l, some code =>
        let (l, more) := activate l r code d
        some ({ s with lobbies := lobbies.set i l }, out ++ more, do
          let _ ← str req "name" "?"
          return admission l)
      | _, _ => none

def listing (l : Lobby) (now : UInt64) : Json :=
  jsonObj [("code", .str l.code), ("title", .str l.title), ("players", .int l.playerCount),
    ("spectators", .int l.spectatorCount), ("full", .bool (l.playerCount ≥ MAX_PLAYERS_PER_LOBBY)),
    ("spectators_max", .int MAX_SPECTATORS_PER_LOBBY),
    ("age", .int (SessionServer.wholeSeconds (now - l.createdAt)).toInt)]

/-- The join request: a lookup, which changes nothing. -/
def onJoin (s : LobbyServer) (req : Json) : Except JsonError Json := do
  let code := upper (← str req "code" "")
  let spectate ← req.value (ascii "spectate") Json.getBool false
  match findByCode s.lobbies code with
  | none => return refusal "not_found"
  | some l =>
    if !spectate && l.playerCount ≥ MAX_PLAYERS_PER_LOBBY then return refusal "lobby_full"
    if spectate && l.spectatorCount ≥ MAX_SPECTATORS_PER_LOBBY then return refusal "spectators_full"
    let hash ← str req "hash" ""
    if hash = [] || hash ≠ l.hash then return refusal "version_mismatch"
    let _ ← str req "name" "?"
    return admission l

def pingReply (s : LobbyServer) (browsing : Nat) : Json :=
  jsonObj [("ok", .bool true), ("lobbies", .int (s.lobbies.countP (·.active))), ("capacity", .int NUM_LOBBIES),
    ("version", .str SF4E_VERSION), ("players", .int s.countPlayers), ("browsing", .int browsing)]

def listReply (s : LobbyServer) (now : UInt64) (browsing : Nat) : Json :=
  let shown := (s.lobbies.filter fun l => l.active && l.isPublic && l.memberCount ≠ 0).take 20
  jsonObj [("ok", .bool true), ("list", .arr (shown.map fun l => listing l now)), ("players", .int s.countPlayers),
    ("browsing", .int browsing)]

def stunReply (d : Datagram) : Json :=
  jsonObj [("ok", .bool true), ("ip", .str (ipText d.ip)), ("port", .int d.port.toNat)]

/-- `HandleMatchmaker`. What is done before an exception stays done. -/
def handleMatchmaker (s : LobbyServer) (req : Json) (d : Datagram) :
    Option (LobbyServer × List Output × Except JsonError Json) :=
  match str req "type" "" with
  | .error e => some (s, [], .error e)
  | .ok type =>
    if type = ascii "stun" then some (s, [], .ok (stunReply d))
    else match str req "op" "" with
      | .error e => some (s, [], .error e)
      | .ok op =>
        if op = ascii "ping" then
          let (s, browsing) := s.countBrowsing d.ip d.now
          some (s, [], .ok (s.pingReply browsing))
        else if op = ascii "create" then
          match CreateRequest.ofJson req with
          | .error e => some (s, [], .error e)
          | .ok none => some (s, [], .ok (refusal "bad_request"))
          | .ok (some r) => s.onCreate req r d
        else if op = ascii "list" then
          let (s, browsing) := s.countBrowsing d.ip d.now
          some (s, [], .ok (s.listReply d.now browsing))
        else if op = ascii "join" then some (s, [], s.onJoin req)
        else some (s, [], .ok (refusal "bad_request"))

/-- `ServeMatchmaker`, for one datagram. The buffer holds 1499 bytes and is read
as a C string; an exception is answered with `bad_request`. -/
def serveMatchmaker (parse : Bytes → Option Json) (s : LobbyServer) (d : Datagram) : LobbyServer × List Output :=
  if d.data = [] then (s, [])
  else
    let (s', allowed) := s.allowMatchmaker d.ip d.now
    if !allowed then (s', [])
    else match parse ((d.data.take 1499).takeWhile (· ≠ 0)) with
      | none => (s', [.reply d.ip d.port (refusal "bad_request")])
      | some req =>
        match s'.handleMatchmaker req d with
        | none => (s, [])
        | some (s'', out, .ok reply) => (s'', out ++ [.reply d.ip d.port reply])
        | some (s'', out, .error _) => (s'', out ++ [.reply d.ip d.port (refusal "bad_request")])

end LobbyServer

/-! ## The process -/

/-- What the main loop does with one lobby after its Step. -/
def Lobby.housekeeping (l : Lobby) (now : UInt64) (time : Int) : Lobby × List Output :=
  if !l.active then (l, [])
  else
    let (l, empty) :=
      if l.memberCount > 0 then ({ l with lastNonEmpty := now }, [])
      else if now - l.lastNonEmpty > EMPTY_LOBBY_TIMEOUT_MS then l.reset now time
      else (l, [])
    if l.active && now - l.createdAt > MAX_LOBBY_AGE_MS then
      let (l, old) := l.reset now time
      (l, empty ++ old)
    else (l, empty)

/-- A session message as it arrives. -/
structure RawMsg where
  conn : Conn
  data : Bytes
  messageNumber : Nat
  peerAddr : PeerAddr
  tick : Tick

def RawMsg.read (parse : Bytes → Option Json) (m : RawMsg) : IncomingMsg where
  conn := m.conn
  msg := ClientMsg.ofBytes parse m.data
  messageNumber := m.messageNumber
  peerAddr := m.peerAddr
  tick := m.tick

/-- One thing that happens to the process: to the session server of a lobby, or
to the table. -/
inductive Input where
  | message (index : Nat) (m : RawMsg)
  | endStep (index : Nat) (tick : Tick)
  | connecting (index : Nat) (conn : Conn) (ip : UInt32) (acceptOk : Bool)
  | closed (index : Nat) (conn : Conn) (wasConnected : Bool)
  | datagram (d : Datagram)
  | housekeeping (index : Nat) (now : UInt64) (time : Int)

/-- Something done to one lobby. -/
def LobbyServer.onLobby (s : LobbyServer) (index : Nat) (f : Lobby → Lobby × List Output) :
    LobbyServer × List Output :=
  match s.lobbies[index]? with
  | none => (s, [])
  | some l => ({ s with lobbies := s.lobbies.set index (f l).1 }, (f l).2)

/-- The session server of the lobby takes an action. -/
def Lobby.act (l : Lobby) (a : Act) : Lobby × List Output :=
  let (server, out) := Session.act l.server a
  ({ l with server }, out.map (.session l.index))

/-- The lobby server, one input at a time; `parse` is `json::parse`. -/
def lobbyServer (parse : Bytes → Option Json) : Machine LobbyServer Input Output where
  next s
    | .message i m => s.onLobby i fun l => l.act (.message (m.read parse))
    | .endStep i tick => s.onLobby i fun l => l.act (.endStep tick)
    | .connecting i conn ip ok => s.onLobby i fun l => l.act (.event (.connecting conn ip ok))
    | .closed i conn was => s.onLobby i fun l => l.act (.event (.closed conn was))
    | .datagram d => s.serveMatchmaker parse d
    | .housekeeping i now time => s.onLobby i fun l => l.housekeeping now time

def Lobby.new (index : Nat) : Lobby where
  index
  active := false
  code := []
  hash := []
  isPublic := false
  title := []
  sessionPort := FIRST_SESSION_PORT + UInt16.ofNat index
  secret := []
  creatorIp := 0
  createdAt := 0
  lastNonEmpty := 0
  server := Session.start (lobbyHost index)

/-- The process as `main` sets it up. -/
def LobbyServer.start : LobbyServer := ⟨(List.range NUM_LOBBIES).map Lobby.new, [], []⟩

end Sf4e.Server
