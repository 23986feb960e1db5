import Sf4e.Server.MatchmakerClient
import Sf4e.Server.Atomic
/-!
# A client and the lobby server

The two over UDP: a datagram that has been sent may arrive never, late, out of order, or
many times. A reply does not say which request it is for. The text that `dump` writes is
read back as the document, or not at all where it was cut.
-/
open Sf4e.Lib Sf4e.Session

namespace Sf4e.Server

/-- A datagram of the client: for which of its requests, and what it says. -/
structure Sent where
  number : Nat
  msg : Json

/-- A copy of it that has reached the server. `read` is what `json::parse` makes of it. -/
structure Service where
  sent : Sent
  read : Option Json
  d : Datagram
  pre : LobbyServer
  post : LobbyServer
  out : List Output

/-- The client, the server, and what has been sent and served, oldest first. `request` is
the latest of the requests. -/
structure Exchange where
  client : Matchmaker
  server : LobbyServer
  requests : Nat
  request : Option Request
  sent : List Sent
  services : List Service

/-- What `recvfrom` finds: a copy of the reply of a service, or something from elsewhere. -/
inductive Arrival where
  | nothing
  | reply (k : Nat) (data : Bytes) (whole : Bool)
  | stray (p : Packet) (read : Option Json)

/-- A call of the client, a datagram of it that arrives, or anything else that happens to
the server. Nobody else has the client's socket. -/
inductive Action where
  | request (r : Request) (time now later : UInt64) (arrival : Arrival)
  | poll (now later : UInt64) (arrival : Arrival)
  | cancel
  | serve (k : Nat) (whole : Bool) (d : Datagram)
  | other (input : Input)

def Output.reply? : Output → Option Json
  | .reply _ _ msg => some msg
  | _ => none

/-- What is sent back. -/
def Service.reply? (v : Service) : Option Json := v.out.findSome? Output.reply?

/-- The call of the source that makes the request. -/
def Matchmaker.call (parse : Bytes → Option Json) (m : Matchmaker) (r : Request) (time : UInt64) (t : Turn) :
    Option (Matchmaker × Option Json) :=
  match r with
  | .create sidecarHash name isPublic => m.create parse sidecarHash name isPublic t
  | .join lobbyCode sidecarHash name spectate => m.join parse lobbyCode sidecarHash name spectate t
  | .list => m.list parse t
  | .ping => m.ping parse time t

namespace Exchange

/-- The packet, and what `json::parse` makes of it. -/
def receives (e : Exchange) : Arrival → Option Packet × Option Json
  | .nothing => (none, none)
  | .reply k data whole =>
    match e.services[k]?.bind Service.reply? with
    | none => (none, none)
    | some msg => (some ⟨e.client.serverIp, e.client.serverPort, data⟩, if whole then some msg else none)
  | .stray p read =>
    if p.ip = e.client.serverIp && p.port = e.client.serverPort then (none, none) else (some p, read)

def put (e : Exchange) (client : Matchmaker) (sent : Option Json) : Exchange :=
  { e with client, sent := e.sent ++ sent.toList.map fun msg => ⟨e.requests, msg⟩ }

def ask (e : Exchange) (r : Request) (time now later : UInt64) (arrival : Arrival) : Exchange :=
  let (packet, read) := e.receives arrival
  match e.client.call (fun _ => read) r time ⟨now, later, packet⟩ with
  | none => e
  | some (client, sent) => { e with requests := e.requests + 1, request := some r }.put client sent

def poll (e : Exchange) (now later : UInt64) (arrival : Arrival) : Exchange :=
  let (packet, read) := e.receives arrival
  let (client, sent) := e.client.poll (fun _ => read) ⟨now, later, packet⟩
  e.put client sent

def serve (e : Exchange) (k : Nat) (whole : Bool) (d : Datagram) : Exchange × List Output :=
  match e.sent[k]? with
  | none => (e, [])
  | some sent =>
    let read := if whole then some sent.msg else none
    let (server, out) := e.server.serveMatchmaker (fun _ => read) d
    ({ e with server, services := e.services ++ [⟨sent, read, d, e.server, server, out⟩] }, out)

end Exchange

/-- The exchange, one action at a time; `parse` is `json::parse`, for what others send. -/
def exchange (parse : Bytes → Option Json) : Machine Exchange Action Output where
  next e
    | .request r time now later arrival => (e.ask r time now later arrival, [])
    | .poll now later arrival => (e.poll now later arrival, [])
    | .cancel => ({ e with client := e.client.cancel }, [])
    | .serve k whole d => e.serve k whole d
    | .other input =>
      let (server, out) := (lobbyServer parse).next e.server input
      ({ e with server }, out)

/-- Before the first request. -/
def Exchange.start (client : Matchmaker) : Exchange := ⟨client, .start, 0, none, [], []⟩

/-! ## Replies that match -/

def Request.isCreate : Request → Bool
  | .create _ _ _ => true
  | _ => false

/-- The request is for a lobby. -/
def Request.forLobby : Request → Bool
  | .create _ _ _ => true
  | .join _ _ _ _ => true
  | _ => false

def Action.arrival : Action → Arrival
  | .request _ _ _ _ arrival => arrival
  | .poll _ _ arrival => arrival
  | _ => .nothing

/-- The service whose reply arrives, and the services since. -/
def Exchange.heard (e : Exchange) (a : Action) : Option (Service × List Service) :=
  match a.arrival with
  | .reply k _ _ => e.services[k]?.map fun v => (v, e.services.drop (k + 1))
  | _ => none

/-- The lobby a `lobby_released` line is about. -/
def Output.released? : Output → Option Nat
  | .logStat (.lobbyReleased i) _ => some i
  | _ => none

/-- The service has released the lobby of this ticket. -/
def Service.releases (v : Service) (ticket : Ticket) : Bool :=
  v.pre.lobbies.any fun l => l.active && l.ticket = ticket && v.out.any fun o => o.released? = some l.index

/-- What the client holds is from a reply to its latest request, and named a lobby that was
active when the reply was sent, and that no copy of that request has released since. -/
structure Answers (e : Exchange) (v : Service) (since : List Service) : Prop where
  own : v.sent.number = e.requests
  told : ∃ reply ∈ v.reply?, Ticket.ofJson reply = .ok e.client.ticket
  named : ∃ l ∈ v.post.lobbies, l.active = true ∧ l.ticket = e.client.ticket
  kept : ∀ w ∈ since, w.sent.number = v.sent.number → w.releases e.client.ticket = false

/-- This action makes the latest request `Done`. -/
def ReachesDone (parse : Bytes → Option Json) (e : Exchange) (a : Action) : Prop :=
  ((exchange parse).next e a).1.client.state = .done ∧
    (((exchange parse).next e a).1.requests ≠ e.requests ∨ e.client.state ≠ .done)

/-- A Create or Join that becomes `Done` by this action has been answered. -/
def RepliesMatch (parse : Bytes → Option Json) (e : Exchange) (a : Action) : Prop :=
  ReachesDone parse e a → ((exchange parse).next e a).1.request.any Request.forLobby = true →
    ∃ h ∈ e.heard a, Answers ((exchange parse).next e a).1 h.1 h.2

/-! ## When they do -/

/-- The client reads what arrives in this action. -/
def Exchange.reads (e : Exchange) : Action → Bool
  | .request r _ _ _ (.reply _ data whole) =>
    e.client.configured && r.toJson.Dumps && data ≠ [] && data.length ≤ 1499 && whole
  | .poll now _ (.reply _ data whole) => e.client.listens now && data ≠ [] && data.length ≤ 1499 && whole
  | _ => false

/-- The number of the latest request, and the request, once the action's own is made. -/
def Exchange.latest (e : Exchange) : Action → Nat × Option Request
  | .request r _ _ _ _ => (e.requests + 1, some r)
  | _ => (e.requests, e.request)

/-- The server had a token for the copy, has parsed it, and has drawn a code. -/
def Service.taken (v : Service) : Bool :=
  v.d.data ≠ [] && (v.pre.allowMatchmaker v.d.ip v.d.now).2 && v.read.isSome &&
    (newCode (v.pre.yielded v.d) v.d.codes).isSome

/-- Whenever a further copy was taken, somebody was in the lobby that the reply names. -/
def StillHeld (reply : Json) (v : Service) (since : List Service) : Prop :=
  ∀ w ∈ since, w.sent.number = v.sent.number → w.taken = true →
    ∀ l ∈ w.pre.lobbies, Ticket.ofJson reply = .ok l.ticket → l.ownEmpty w.d.ip = false

/-- A reply that says `ok`, and is read while a Create or Join waits, is a reply to that
request; and where it is a Create, the lobby was not empty when a further copy arrived. -/
def InTurn (e : Exchange) (a : Action) : Prop :=
  ∀ h ∈ e.heard a, ∀ reply ∈ h.1.reply?, e.reads a = true → saysOk reply = true →
    (e.latest a).2.any Request.forLobby = true →
      h.1.sent.number = (e.latest a).1 ∧ ((e.latest a).2.any Request.isCreate = true → StillHeld reply h.1 h.2)

/-! ## What the client reads -/

namespace Matchmaker

theorem request_pending {parse : Bytes → Option Json} {m m' : Matchmaker} {r : Request} {t : Turn} {sent : Option Json}
    (h : m.request parse r t = some (m', sent)) :
    (m'.state = .waiting → m'.pending = some r.toJson) ∧ ∀ msg, sent = some msg → msg = r.toJson := by
  unfold request at h
  split at h
  · -- without a server nothing is sent, and nothing waited for
    cases h
    exact ⟨fun hc => (by cases hc), fun _ hc => by cases hc⟩
  · split at h
    · rw [Option.some.injEq] at h
      unfold send at h
      constructor
      · intro _
        have hkept := congrArg (·.1.pending) h
        rw [poll_pending] at hkept
        exact hkept.symm
      · intro msg hmsg
        have hsent := congrArg (·.2) h
        have hpending := (poll_sends (hsent.trans hmsg)).2
        exact (Option.some.inj hpending).symm
    · cases h

/-- A request that is `Done` at once has found a reply that says `ok`. -/
theorem request_done {parse : Bytes → Option Json} {m m' : Matchmaker} {r : Request} {t : Turn} {sent : Option Json}
    (h : m.request parse r t = some (m', sent)) (hdone : m'.state = .done) :
    m.configured = true ∧ r.toJson.Dumps ∧ ∃ p reply, t.packet = some p ∧ (p.data ≠ [] ∧ p.data.length ≤ 1499) ∧
      (p.ip = m.serverIp ∧ p.port = m.serverPort) ∧ parse (p.data.takeWhile (· ≠ 0)) = some reply ∧
      reply.value (ascii "ok") Json.getBool false = .ok true := by
  unfold request at h
  split at h
  · cases h
    cases hdone
  · rename_i hconfigured
    split at h
    · rename_i hdumps
      rw [Option.some.injEq] at h
      unfold send at h
      have hwaiting : ¬ State.waiting = State.done := by decide
      obtain ⟨p, reply, hreads, hok, -⟩ := poll_done ((congrArg (·.1.state) h).trans hdone) hwaiting
      exact ⟨by simpa using hconfigured, hdumps, p, reply, hreads.packet, hreads.fits, hreads.sender, hreads.text, hok⟩
    · cases h

/-- And a request that finds one it can read is `Done` at once. -/
theorem request_reads {parse : Bytes → Option Json} {m : Matchmaker} {r : Request} {t : Turn} {p : Packet} {reply : Json}
    (hset : m.configured = true) (hdumps : r.toJson.Dumps) (hp : t.packet = some p)
    (hfits : p.data ≠ [] ∧ p.data.length ≤ 1499) (hsender : p.ip = m.serverIp ∧ p.port = m.serverPort)
    (htext : parse (p.data.takeWhile (· ≠ 0)) = some reply) (hreadable : Readable reply)
    (hok : reply.value (ascii "ok") Json.getBool false = .ok true) :
    ∃ m' sent, m.request parse r t = some (m', sent) ∧ m'.state = .done := by
  unfold request
  rw [hset, if_neg (by decide), if_pos hdumps]
  have hlistens : (m.waitFor r.toJson).listens t.now = true := by simp [listens, waitFor, MAX_ATTEMPTS]
  have hreads : (m.waitFor r.toJson).Reads parse t p reply := ⟨hlistens, hp, hfits, hsender, htext⟩
  refine ⟨(m.send parse r.toJson t).1, (m.send parse r.toJson t).2, rfl, ?_⟩
  exact (congrArg Matchmaker.state (poll_reads hreads)).trans (handleReply_readable hreadable hok _ _)

/-- Every call is the common one, but for the time of a Ping. -/
theorem call_eq (parse : Bytes → Option Json) (m : Matchmaker) (r : Request) (time : UInt64) (t : Turn) :
    ∃ m₀ : Matchmaker, m.call parse r time t = m₀.request parse r t ∧ m₀.configured = m.configured ∧
      m₀.serverIp = m.serverIp ∧ m₀.serverPort = m.serverPort := by
  cases r with
  | create => exact ⟨m, rfl, rfl, rfl, rfl⟩
  | join => exact ⟨m, rfl, rfl, rfl, rfl⟩
  | list => exact ⟨m, rfl, rfl, rfl, rfl⟩
  | ping =>
    unfold call ping
    dsimp only
    split
    · exact ⟨{ m with pingSentAt := time }, rfl, rfl, rfl, rfl⟩
    · exact ⟨m, rfl, rfl, rfl, rfl⟩

end Matchmaker

/-- Only the server sends from the server's address. -/
theorem receives_reply {e : Exchange} {arrival : Arrival} {p : Packet} {reply : Json}
    (hp : (e.receives arrival).1 = some p) (hsender : p.ip = e.client.serverIp ∧ p.port = e.client.serverPort)
    (hread : (e.receives arrival).2 = some reply) :
    ∃ k v, arrival = .reply k p.data true ∧ e.services[k]? = some v ∧ v.reply? = some reply := by
  cases arrival with
  | nothing => cases hp
  | stray q read =>
    unfold Exchange.receives at hp
    dsimp only at hp
    split at hp
    · cases hp
    · -- it has another address
      rename_i hother
      cases hp
      exact absurd hsender (by simpa using hother)
  | reply k data whole =>
    unfold Exchange.receives at hp hread
    dsimp only at hp hread
    split at hp
    · cases hp
    · rename_i msg hmsg
      cases hp
      rw [hmsg] at hread
      obtain ⟨v, hv, hreply⟩ := Option.bind_eq_some_iff.1 hmsg
      cases whole with
      | false =>
        -- a text that was cut is no document
        cases hread
      | true =>
        cases hread
        exact ⟨k, v, rfl, hv, hreply⟩

/-! ## What the server replies -/

/-- The service is what `ServeMatchmaker` does with a copy of the datagram. -/
structure Service.Genuine (v : Service) : Prop where
  indexed : Indexed v.pre
  cap : ∀ ip, v.pre.lobbies.countP (·.createdBy ip) ≤ 2
  read : v.read = some v.sent.msg ∨ v.read = none
  served : v.pre.serveMatchmaker (fun _ => v.read) v.d = (v.post, v.out)

theorem Service.Genuine.cases {v : Service} (hv : v.Genuine) :
    Served (fun _ => v.read) v.pre v.d v.post.lobbies v.out := by
  have h := LobbyServer.served (fun _ => v.read) v.pre v.d
  rw [hv.served] at h
  exact h

theorem Service.Genuine.msg_of_read {v : Service} (hv : v.Genuine) {req : Json} (h : v.read = some req) :
    req = v.sent.msg := by
  rcases hv.read with hread | hread <;> rw [hread] at h
  · exact (Option.some.inj h).symm
  · cases h

theorem asks_create (sidecarHash name : Bytes) (isPublic : Bool) :
    Asks (Request.create sidecarHash name isPublic).toJson "create" := by
  constructor
  · refine ⟨[], ?_, by decide⟩
    simp +decide [str, Request.toJson, jsonObj, Json.value, Json.member]
  · simp [str, Request.toJson, jsonObj, Json.value, Json.member, Json.getStr]

theorem asks_join (lobbyCode sidecarHash name : Bytes) (spectate : Bool) :
    Asks (Request.join lobbyCode sidecarHash name spectate).toJson "join" := by
  constructor
  · refine ⟨[], ?_, by decide⟩
    simp +decide [str, Request.toJson, jsonObj, Json.value, Json.member]
  · simp [str, Request.toJson, jsonObj, Json.value, Json.member, Json.getStr]

/-- A request for a lobby is one operation or the other. -/
theorem Request.asks_forLobby {r : Request} (hr : r.forLobby = true) :
    Asks r.toJson "create" ∨ Asks r.toJson "join" := by
  cases r with
  | create => exact .inl (asks_create _ _ _)
  | join => exact .inr (asks_join _ _ _ _)
  | list => cases hr
  | ping => cases hr

/-- A port survives the way through an `int`. -/
theorem port_read (port : UInt16) : UInt16.ofInt (Int32.ofInt port.toNat).toInt = port := by
  have hlt := port.toNat_lt
  rw [Int32.toInt_ofInt_of_le (by omega) (by omega)]
  apply UInt16.toNat_inj.1
  have hmod : (port.toNat : Int) % 65536 = port.toNat := by omega
  simp [UInt16.ofInt, hmod]

/-- The client reads of an admission what the server wrote. -/
theorem ticket_admission (l : Lobby) : Ticket.ofJson (admission l) = .ok l.ticket := by
  have hcode : str (admission l) "code" "" = .ok l.code := by
    simp +decide [str, admission, jsonObj, Json.value, Json.member, Json.getStr]
  have hport : (admission l).value (ascii "session_port") Json.getInt32 0 = .ok (Int32.ofInt l.sessionPort.toNat) := by
    simp +decide [admission, jsonObj, Json.value, Json.member, Json.getInt32, Json.getNumber]
  have hsecret : str (admission l) "secret" "" = .ok l.secret := by
    simp +decide [str, admission, jsonObj, Json.value, Json.member, Json.getStr]
  unfold Ticket.ofJson
  rw [hcode, hport, hsecret]
  simp only [bind, Except.bind, pure, Except.pure, port_read]
  rfl

theorem createReply_ok {req : Json} {l : Lobby} (h : saysOk (createReply req l) = true) :
    createReply req l = admission l := by
  unfold createReply at h ⊢
  split at h
  · rfl
  · cases h

theorem readable_admission (l : Lobby) : Matchmaker.Readable (admission l) := by
  constructor <;>
    simp +decide [admission, str, jsonObj, Json.value, Json.at', Json.member, Json.getStr, Json.getInt32, Json.getNumber]

theorem readable_stun (d : Datagram) : Matchmaker.Readable (LobbyServer.stunReply d) := by
  constructor <;> simp +decide [LobbyServer.stunReply, str, jsonObj, Json.value, Json.at', Json.member]

theorem readable_ping (s : LobbyServer) (browsing : Nat) : Matchmaker.Readable (s.pingReply browsing) := by
  constructor <;>
    simp +decide [LobbyServer.pingReply, str, jsonObj, Json.value, Json.at', Json.member, Json.getStr, Json.getInt32,
      Json.getNumber]

theorem listing_read (l : Lobby) (now : UInt64) : ∃ p, PublicLobby.ofJson (LobbyServer.listing l now) = .ok p := by
  unfold PublicLobby.ofJson
  simp +decide [LobbyServer.listing, str, jsonObj, Json.value, Json.member, Json.getStr, Json.getInt32, Json.getBool,
    Json.getNumber, bind, Except.bind, pure, Except.pure]

theorem readable_list (s : LobbyServer) (now : UInt64) (browsing : Nat) :
    Matchmaker.Readable (s.listReply now browsing) := by
  constructor
  case list =>
    intro es hes e he
    have hlist : (s.listReply now browsing).at' (ascii "list") = .ok (.arr
        (((s.lobbies.filter fun l => l.active && l.isPublic && l.memberCount ≠ 0).take 20).map fun l =>
          LobbyServer.listing l now)) := by
      simp +decide [LobbyServer.listReply, jsonObj, Json.at', Json.member]
    rw [hlist] at hes
    cases hes
    obtain ⟨l, -, rfl⟩ := List.mem_map.1 he
    exact listing_read l now
  all_goals
    simp +decide [LobbyServer.listReply, str, jsonObj, Json.value, Json.member, Json.getInt32, Json.getNumber]

theorem Service.reply_mem {v : Service} {reply : Json} (h : v.reply? = some reply) :
    ∃ ip port, .reply ip port reply ∈ v.out := by
  obtain ⟨o, ho, hmem⟩ := List.exists_of_findSome?_eq_some h
  cases o <;> cases hmem
  exact ⟨_, _, ho⟩

/-- Whatever the server says `ok` to, the client can read the reply. -/
theorem Service.Genuine.readable {v : Service} (hv : v.Genuine) {reply : Json} (hreply : v.reply? = some reply)
    (hok : saysOk reply = true) : Matchmaker.Readable reply := by
  obtain ⟨ip, port, ho⟩ := Service.reply_mem hreply
  have hs := hv.cases.replied ho
  generalize v.post.lobbies = lobbies at hs
  cases hs with
  | refused => cases hok
  | stun => exact readable_stun v.d
  | @ping s' _ browsing => exact readable_ping s' browsing
  | @list s' _ browsing => exact readable_list s' v.d.now browsing
  | @join _ _ l => exact readable_admission l
  | create =>
    rw [createReply_ok hok]
    exact readable_admission _

/-- A reply to a Create or Join that says `ok` names an active lobby; and a Create that gets
one was read. -/
theorem Service.Genuine.names {v : Service} (hv : v.Genuine) {r : Request} (hr : r.forLobby = true)
    (hmsg : v.sent.msg = r.toJson) {reply : Json} (hreply : v.reply? = some reply) (hok : saysOk reply = true) :
    (∃ l ∈ v.post.lobbies, l.active = true ∧ Ticket.ofJson reply = .ok l.ticket) ∧
      (r.isCreate = true → ∃ c, CreateRequest.ofJson r.toJson = .ok (some c)) := by
  obtain ⟨ip, port, ho⟩ := Service.reply_mem hreply
  have hs := hv.cases.replied ho
  -- the document that was parsed is the request
  have hreq : ∀ {req : Json}, v.read = some req → Asks req "create" ∨ Asks req "join" := by
    intro req hread
    rw [hv.msg_of_read hread, hmsg]
    exact Request.asks_forLobby hr
  have hother : ∀ {req : Json} {op : String}, v.read = some req → Asks req op → ascii op ≠ ascii "create" →
      ascii op ≠ ascii "join" → False := by
    intro req op hread hasks hcreate hjoin
    rcases hreq hread with hop | hop
    · exact hcreate (asks_unique hasks hop)
    · exact hjoin (asks_unique hasks hop)
  generalize v.post.lobbies = lobbies at hs ⊢
  cases hs with
  | refused => cases hok
  | stun htext htype =>
    rcases hreq htext with hop | hop
    all_goals
      obtain ⟨type, htype', hne⟩ := hop.type
      exact absurd (Except.ok.inj (htype'.symm.trans htype)) hne
  | ping htext hasks => exact (hother htext hasks (by decide) (by decide)).elim
  | list htext hasks => exact (hother htext hasks (by decide) (by decide)).elim
  | @join req code l htext hasks hread hfind =>
    have hfound := List.find?_some hfind
    simp only [Bool.and_eq_true, decide_eq_true_eq] at hfound
    refine ⟨⟨l, List.mem_of_find?_eq_some hfind, hfound.1, ticket_admission l⟩, fun hcreate => ?_⟩
    rw [hv.msg_of_read htext, hmsg] at hasks
    cases r with
    | create => exact absurd (asks_unique (asks_create _ _ _) hasks) (by decide)
    | _ => cases hcreate
  | @create req c i l code hasks hl =>
    rw [createReply_ok hok]
    have hlt := (List.getElem?_eq_some_iff.1 hl).1
    refine ⟨⟨_, List.mem_of_getElem? (List.getElem?_set_self hlt), rfl, ticket_admission _⟩, fun _ => ⟨c, ?_⟩⟩
    rw [← hmsg, ← hv.msg_of_read hasks.text]
    exact hasks.read

theorem released_iff {o : Output} {i : Nat} : o.released? = some i ↔ ∃ time, o = .logStat (.lobbyReleased i) time := by
  constructor
  · intro h
    cases o with
    | logStat stat time =>
      cases stat with
      | lobbyCreated j => cases h
      | lobbyReleased j =>
        cases h
        exact ⟨time, rfl⟩
    | _ => cases h
  · rintro ⟨time, rfl⟩
    rfl

/-- A datagram releases lobbies where it is a create request that is taken, and releases
empty ones of its own address. -/
theorem Service.Genuine.releases_own {v : Service} (hv : v.Genuine) {ticket : Ticket} (h : v.releases ticket = true) :
    v.taken = true ∧ (∃ req c, AsksCreate (fun _ => v.read) v.d req c) ∧
      ∃ l ∈ v.pre.lobbies, l.ticket = ticket ∧ l.ownEmpty v.d.ip = true := by
  obtain ⟨l, hl, hrel⟩ := List.any_eq_true.1 h
  simp only [Bool.and_eq_true, decide_eq_true_eq, List.any_eq_true] at hrel
  obtain ⟨⟨-, hticket⟩, o, ho, hlog⟩ := hrel
  obtain ⟨time, rfl⟩ := released_iff.1 hlog
  obtain ⟨i, hi⟩ := List.getElem?_of_mem hl
  have hout : (v.pre.serveMatchmaker (fun _ => v.read) v.d).2 = v.out := congrArg Prod.snd hv.served
  obtain ⟨hdata, hallow⟩ := answered_only (hout ▸ List.ne_nil_of_mem ho)
  have hs := hv.cases
  rw [hv.indexed i l hi] at ho
  generalize v.post.lobbies = lobbies at hs
  generalize v.out = out at hs ho
  cases hs with
  | full _ hwhy =>
    -- a full server has not released any
    rw [(full_keeps hv.cap hwhy).2] at ho
    simp at ho
  | create hasks _ _ _ hcode =>
    have hread : v.read = some _ := hasks.text
    have htaken : v.taken = true := by simp [Service.taken, hdata, hallow, hread, hcode]
    simp only [List.mem_append, List.mem_singleton, reduceCtorEq, or_false] at ho
    rcases ho with ho | ho
    · cases frees_of_yieldOut hv.indexed hasks hi ho with
      | yields _ hown => exact ⟨htaken, ⟨_, _, hasks⟩, l, hl, hticket, hown⟩
    · exact absurd ho no_release_activate
  | _ => simp at ho

/-- And it releases all of them. -/
theorem Service.Genuine.releases_of_own {v : Service} (hv : v.Genuine) (htaken : v.taken = true) {r : Request}
    (hmsg : v.sent.msg = r.toJson) (hr : r.isCreate = true) {c : CreateRequest}
    (hread : CreateRequest.ofJson r.toJson = .ok (some c)) {l : Lobby} (hl : l ∈ v.pre.lobbies)
    (hown : l.ownEmpty v.d.ip = true) : v.releases l.ticket = true := by
  simp only [Service.taken, Bool.and_eq_true, decide_eq_true_eq] at htaken
  obtain ⟨⟨⟨hdata, hallow⟩, hparsed⟩, hdrawn⟩ := htaken
  obtain ⟨req, hreq⟩ := Option.isSome_iff_exists.1 hparsed
  have hdoc : req = r.toJson := (hv.msg_of_read hreq).trans hmsg
  have hasks : AsksCreate (fun _ => v.read) v.d req c := by
    subst hdoc
    refine ⟨hreq, ?_, hread⟩
    cases r with
    | create => exact asks_create _ _ _
    | _ => cases hr
  have hne : newCode (v.pre.yielded v.d) v.d.codes ≠ none := Option.isSome_iff_ne_none.1 hdrawn
  have hout : (v.pre.serveMatchmaker (fun _ => v.read) v.d).2 = v.out := congrArg Prod.snd hv.served
  have hsub : ∀ o ∈ v.pre.yieldOut v.d, o ∈ v.out := by
    intro o ho
    rw [← hout]
    rcases serve_create hdata hallow hasks hne with ⟨-, heq⟩ | ⟨l, code, -, heq⟩ <;> rw [heq]
    · exact List.mem_append_left _ ho
    · exact List.mem_append_left _ (List.mem_append_left _ ho)
  have hactive : l.active = true := by
    simp only [Lobby.ownEmpty, Bool.and_eq_true] at hown
    exact hown.1.1
  have hlog : .logStat (.lobbyReleased l.index) v.d.time ∈ v.pre.yieldOut v.d := by
    refine List.mem_flatMap.2 ⟨l, hl, ?_⟩
    unfold Lobby.yield
    rw [if_pos hown]
    simp [Lobby.reset, Lobby.host, hactive]
  refine List.any_eq_true.2 ⟨l, hl, ?_⟩
  simp only [hactive, decide_true, Bool.and_true, Bool.true_and, List.any_eq_true, decide_eq_true_eq]
  exact ⟨_, hsub _ hlog, rfl⟩

/-! ## Every run -/

/-- The datagram is for one of the requests made; if for the latest, it says that. -/
structure Sent.Made (requests : Nat) (request : Option Request) (x : Sent) : Prop where
  before : x.number ≤ requests
  latest : x.number = requests → ∃ r, request = some r ∧ x.msg = r.toJson

structure ExchangeInv (e : Exchange) : Prop where
  indexed : Indexed e.server
  cap : ∀ ip, e.server.lobbies.countP (·.createdBy ip) ≤ 2
  waits : e.client.state = .waiting → ∃ r, e.request = some r ∧ e.client.pending = some r.toJson
  sent : ∀ x ∈ e.sent, x.Made e.requests e.request
  services : ∀ v ∈ e.services, v.sent.Made e.requests e.request ∧ v.Genuine

/-- What has been sent before is for an earlier request. -/
theorem Sent.Made.older {requests : Nat} {request : Option Request} {x : Sent} (h : x.Made requests request)
    (request' : Option Request) : x.Made (requests + 1) request' := by
  refine ⟨Nat.le_succ_of_le h.before, fun hlast => ?_⟩
  have hle := h.before
  omega

theorem exchangeInv_ask {e : Exchange} (hI : ExchangeInv e) (r : Request) (time now later : UInt64) (arrival : Arrival) :
    ExchangeInv (e.ask r time now later arrival) := by
  unfold Exchange.ask
  dsimp only
  split
  · exact hI
  · rename_i client sent hcall
    obtain ⟨m₀, heq, -⟩ := Matchmaker.call_eq (fun _ => (e.receives arrival).2) e.client r time
      ⟨now, later, (e.receives arrival).1⟩
    obtain ⟨hpending, hsent⟩ := Matchmaker.request_pending (heq.symm.trans hcall)
    refine ⟨hI.indexed, hI.cap, fun hwait => ⟨r, rfl, hpending hwait⟩, fun x hx => ?_, fun v hv => ?_⟩
    · -- the first copy goes out within the call
      rcases List.mem_append.1 hx with hx | hx
      · exact (hI.sent x hx).older (some r)
      · obtain ⟨msg, hmsg, rfl⟩ := List.mem_map.1 hx
        exact ⟨Nat.le_refl _, fun _ => ⟨r, rfl, hsent msg (Option.mem_toList.1 hmsg)⟩⟩
    · obtain ⟨hmade, hgenuine⟩ := hI.services v hv
      exact ⟨hmade.older (some r), hgenuine⟩

theorem exchangeInv_poll {e : Exchange} (hI : ExchangeInv e) (now later : UInt64) (arrival : Arrival) :
    ExchangeInv (e.poll now later arrival) := by
  have hpoll := Matchmaker.poll_pending (fun _ => (e.receives arrival).2) e.client ⟨now, later, (e.receives arrival).1⟩
  unfold Exchange.poll
  dsimp only
  refine ⟨hI.indexed, hI.cap, fun hwait => ?_, fun x hx => ?_, hI.services⟩
  · obtain ⟨r, hr, hp⟩ := hI.waits (Matchmaker.poll_waiting hwait)
    exact ⟨r, hr, hpoll.trans hp⟩
  · -- a further copy is of the request that waits
    rcases List.mem_append.1 hx with hx | hx
    · exact hI.sent x hx
    · obtain ⟨msg, hmsg, rfl⟩ := List.mem_map.1 hx
      obtain ⟨hwait, hpending⟩ := Matchmaker.poll_sends (Option.mem_toList.1 hmsg)
      obtain ⟨r, hr, hp⟩ := hI.waits hwait
      exact ⟨Nat.le_refl _, fun _ => ⟨r, hr, Option.some.inj (hpending.symm.trans hp)⟩⟩

theorem exchangeInv_serve {e : Exchange} (hI : ExchangeInv e) (k : Nat) (whole : Bool) (d : Datagram) :
    ExchangeInv (e.serve k whole d).1 := by
  unfold Exchange.serve
  split
  · exact hI
  · rename_i sent hsent
    dsimp only
    refine ⟨?_, ?_, hI.waits, hI.sent, fun v hv => ?_⟩
    · exact indexed_next (fun _ => if whole = true then some sent.msg else none) hI.indexed (.datagram d)
    · exact cap_next (fun _ => if whole = true then some sent.msg else none) hI.indexed hI.cap (.datagram d)
    · rcases List.mem_append.1 hv with hv | hv
      · exact hI.services v hv
      · rw [List.mem_singleton] at hv
        subst hv
        refine ⟨hI.sent sent (List.mem_of_getElem? hsent), hI.indexed, hI.cap, ?_, rfl⟩
        cases whole with
        | true => exact .inl rfl
        | false => exact .inr rfl

theorem exchangeInv_next (parse : Bytes → Option Json) {e : Exchange} (hI : ExchangeInv e) (a : Action) :
    ExchangeInv ((exchange parse).next e a).1 := by
  cases a with
  | request r time now later arrival => exact exchangeInv_ask hI r time now later arrival
  | poll now later arrival => exact exchangeInv_poll hI now later arrival
  | cancel => exact ⟨hI.indexed, hI.cap, fun hwait => (by cases hwait), hI.sent, hI.services⟩
  | serve k whole d => exact exchangeInv_serve hI k whole d
  | other input =>
    exact ⟨indexed_next parse hI.indexed input, cap_next parse hI.indexed hI.cap input, hI.waits, hI.sent, hI.services⟩

theorem exchangeInv_start {client : Matchmaker} (hidle : client.state = .idle) : ExchangeInv (.start client) where
  indexed := indexed_start
  cap := (tableInv_start fun _ => none).cap
  waits hwait := by
    have hstate : client.state = .waiting := hwait
    rw [hidle] at hstate
    cases hstate
  sent x hx := by cases hx
  services v hv := by cases hv

/-! ## One step -/

theorem saysOk_iff {reply : Json} : saysOk reply = true ↔ reply.value (ascii "ok") Json.getBool false = .ok true := by
  unfold saysOk
  cases reply.value (ascii "ok") Json.getBool false with
  | error e => simp
  | ok b => simp

theorem heard_reply {e : Exchange} {a : Action} {k : Nat} {data : Bytes} {whole : Bool} {v : Service}
    (ha : a.arrival = .reply k data whole) (hv : e.services[k]? = some v) :
    e.heard a = some (v, e.services.drop (k + 1)) := by
  unfold Exchange.heard
  rw [ha]
  dsimp only
  rw [hv]
  rfl

/-- No reply to an earlier request ends a new one in its first `Poll`. -/
theorem match_ask {e : Exchange} (hI : ExchangeInv e) {r : Request} {time now later : UInt64} {arrival : Arrival}
    (hC : InTurn e (.request r time now later arrival)) (hr : r.forLobby = true) {client : Matchmaker}
    {sent : Option Json} (hcall : e.client.call (fun _ => (e.receives arrival).2) r time
      ⟨now, later, (e.receives arrival).1⟩ = some (client, sent)) : client.state ≠ .done := by
  intro hdone
  obtain ⟨m₀, heq, hconfigured, hip, hport⟩ := Matchmaker.call_eq (fun _ => (e.receives arrival).2) e.client r time
    ⟨now, later, (e.receives arrival).1⟩
  obtain ⟨hset, hdumps, p, reply, hp, hfits, hsender, hread, hok⟩ :=
    Matchmaker.request_done (heq.symm.trans hcall) hdone
  rw [hip, hport] at hsender
  obtain ⟨k, v, rfl, hv, hreply⟩ := receives_reply hp hsender hread
  have hreads : e.reads (.request r time now later (.reply k p.data true)) = true := by
    rw [hconfigured] at hset
    simp [Exchange.reads, hset, hdumps, hfits.1, hfits.2]
  have hown := (hC _ (heard_reply rfl hv) reply hreply hreads (saysOk_iff.2 hok) hr).1
  have hbefore := (hI.services v (List.mem_of_getElem? hv)).1.before
  have hnumber : v.sent.number = e.requests + 1 := hown
  omega

theorem match_poll {e : Exchange} (hI : ExchangeInv e) {now later : UInt64} {arrival : Arrival}
    (hC : InTurn e (.poll now later arrival)) (hr : e.request.any Request.forLobby = true)
    (hdone : (e.poll now later arrival).client.state = .done) (hnot : e.client.state ≠ .done) :
    ∃ h ∈ e.heard (.poll now later arrival), Answers (e.poll now later arrival) h.1 h.2 := by
  obtain ⟨p, reply, hreads, hok, hticket⟩ := Matchmaker.poll_done hdone hnot
  obtain ⟨k, v, rfl, hv, hreply⟩ := receives_reply hreads.packet hreads.sender hreads.text
  obtain ⟨hmade, hgenuine⟩ := hI.services v (List.mem_of_getElem? hv)
  have hheard : e.heard (.poll now later (.reply k p.data true)) = some (v, e.services.drop (k + 1)) := heard_reply rfl hv
  have hlistens : e.client.listens now = true := hreads.listens
  have hturn : e.reads (.poll now later (.reply k p.data true)) = true := by
    simp [Exchange.reads, hlistens, hreads.fits.1, hreads.fits.2]
  have hyes := saysOk_iff.2 hok
  obtain ⟨hown, hheld⟩ := hC _ hheard reply hreply hturn hyes hr
  obtain ⟨r, hreq, hmsg⟩ := hmade.latest hown
  have hlobby : r.forLobby = true := by
    rw [hreq] at hr
    exact hr
  obtain ⟨⟨l, hl, hactive, hnamed⟩, -⟩ := hgenuine.names hlobby hmsg hreply hyes
  refine ⟨_, hheard, hown, ⟨reply, hreply, hticket⟩, ⟨l, hl, hactive, ?_⟩, fun w hw hsame => ?_⟩
  · exact Except.ok.inj (hnamed.symm.trans hticket)
  · -- a copy that released the lobby was a Create's, and found it empty
    apply Bool.eq_false_iff.2
    intro hrel
    obtain ⟨hmade', hgenuine'⟩ := hI.services w (List.mem_of_mem_drop hw)
    obtain ⟨htaken, ⟨req, c, hasks⟩, l', hl', hsameTicket, hempty⟩ := hgenuine'.releases_own hrel
    have hcreate : r.isCreate = true := by
      obtain ⟨r', hreq', hmsg'⟩ := hmade'.latest (hsame.trans hown)
      obtain rfl : r = r' := Option.some.inj (hreq.symm.trans hreq')
      have hdoc : req = r.toJson := (hgenuine'.msg_of_read hasks.text).trans hmsg'
      cases r with
      | create => rfl
      | join =>
        have hops := asks_unique (hdoc ▸ hasks.asks) (asks_join _ _ _ _)
        exact absurd hops (by decide)
      | list => cases hlobby
      | ping => cases hlobby
    have hlatest : e.request.any Request.isCreate = true := by
      rw [hreq]
      exact hcreate
    have hfalse := hheld hlatest w hw hsame htaken l' hl' (hticket.trans (congrArg Except.ok hsameTicket.symm))
    rw [hempty] at hfalse
    cases hfalse

theorem match_next (parse : Bytes → Option Json) {e : Exchange} (hI : ExchangeInv e) {a : Action} (hC : InTurn e a) :
    RepliesMatch parse e a := by
  rintro ⟨hdone, hnew⟩ hr
  cases a with
  | cancel => cases hdone
  | other input => exact (hnew.resolve_left (fun hne => hne rfl) hdone).elim
  | serve k whole d =>
    have hsame : (e.serve k whole d).1.requests = e.requests ∧ (e.serve k whole d).1.client = e.client := by
      unfold Exchange.serve
      split <;> exact ⟨rfl, rfl⟩
    refine (hnew.resolve_left (fun hne => hne hsame.1) ?_).elim
    exact (congrArg Matchmaker.state hsame.2).symm.trans hdone
  | poll now later arrival =>
    exact match_poll hI hC hr hdone (hnew.resolve_left fun hne => hne rfl)
  | request r time now later arrival =>
    have hask : ((exchange parse).next e (.request r time now later arrival)).1 = e.ask r time now later arrival := rfl
    rw [hask] at hdone hnew hr
    unfold Exchange.ask at hdone hnew hr
    dsimp only at hdone hnew hr
    split at hdone
    · rename_i hthrows
      rw [hthrows] at hnew
      exact (hnew.resolve_left (fun hne => hne rfl) hdone).elim
    · rename_i client sent hcall
      rw [hcall] at hr
      exact (match_ask hI hC hr hcall hdone).elim

/-! ## One step, the other way -/

theorem receives_of_reply {e : Exchange} {k : Nat} {v : Service} {reply : Json} (hv : e.services[k]? = some v)
    (hreply : v.reply? = some reply) (data : Bytes) :
    e.receives (.reply k data true) = (some ⟨e.client.serverIp, e.client.serverPort, data⟩, some reply) := by
  have hmsg : e.services[k]?.bind Service.reply? = some reply := by
    rw [hv]
    exact hreply
  unfold Exchange.receives
  dsimp only
  rw [hmsg]
  rfl

/-- A client that reads a reply that says `ok` is done. -/
theorem reachesDone_of_reads (parse : Bytes → Option Json) {e : Exchange} (hI : ExchangeInv e) {a : Action} {k : Nat}
    {data : Bytes} {whole : Bool} {v : Service} {reply : Json} (ha : a.arrival = .reply k data whole)
    (hv : e.services[k]? = some v) (hreply : v.reply? = some reply) (hreads : e.reads a = true)
    (hok : saysOk reply = true) :
    ReachesDone parse e a ∧ ((exchange parse).next e a).1.requests = (e.latest a).1 ∧
      ((exchange parse).next e a).1.request = (e.latest a).2 := by
  have hreadable := (hI.services v (List.mem_of_getElem? hv)).2.readable hreply hok
  have hvalue := saysOk_iff.1 hok
  cases a with
  | poll now later arrival =>
    obtain rfl : arrival = .reply k data whole := ha
    simp only [Exchange.reads, Bool.and_eq_true, decide_eq_true_eq] at hreads
    obtain ⟨⟨⟨hlistens, hdata⟩, hfits⟩, rfl⟩ := hreads
    have harrives := receives_of_reply hv hreply data
    have hwaiting : e.client.state = .waiting := by
      simp only [Matchmaker.listens, Bool.and_eq_true, decide_eq_true_eq] at hlistens
      exact hlistens.1
    have hdone : (e.poll now later (.reply k data true)).client.state = .done := by
      unfold Exchange.poll
      rw [harrives]
      have hread : e.client.Reads (fun _ => some reply)
          ⟨now, later, some ⟨e.client.serverIp, e.client.serverPort, data⟩⟩
          ⟨e.client.serverIp, e.client.serverPort, data⟩ reply := ⟨hlistens, rfl, ⟨hdata, hfits⟩, ⟨rfl, rfl⟩, rfl⟩
      exact (congrArg Matchmaker.state (Matchmaker.poll_reads hread)).trans
        (Matchmaker.handleReply_readable hreadable hvalue _ _)
    refine ⟨⟨hdone, .inr ?_⟩, rfl, rfl⟩
    rw [hwaiting]
    exact fun hc => by cases hc
  | request r time now later arrival =>
    obtain rfl : arrival = .reply k data whole := ha
    simp only [Exchange.reads, Bool.and_eq_true, decide_eq_true_eq] at hreads
    obtain ⟨⟨⟨⟨hconfigured, hdumps⟩, hdata⟩, hfits⟩, rfl⟩ := hreads
    have harrives := receives_of_reply hv hreply data
    obtain ⟨m₀, hcall, hset, hip, hport⟩ := Matchmaker.call_eq (fun _ => some reply) e.client r time
      ⟨now, later, some ⟨e.client.serverIp, e.client.serverPort, data⟩⟩
    have hends : ∃ m' sent, m₀.request (fun _ => some reply) r
        ⟨now, later, some ⟨e.client.serverIp, e.client.serverPort, data⟩⟩ = some (m', sent) ∧ m'.state = .done :=
      Matchmaker.request_reads (hset.trans hconfigured) hdumps rfl ⟨hdata, hfits⟩ ⟨hip.symm, hport.symm⟩ rfl hreadable
        hvalue
    obtain ⟨m', sent, hrequest, hdone⟩ := hends
    have hask : e.ask r time now later (.reply k data true) =
        { e with requests := e.requests + 1, request := some r }.put m' sent := by
      unfold Exchange.ask
      rw [harrives]
      dsimp only
      rw [hcall.trans hrequest]
    have hnext : ((exchange parse).next e (.request r time now later (.reply k data true))).1 = _ := hask
    unfold ReachesDone
    rw [hnext]
    exact ⟨⟨hdone, .inl (Nat.succ_ne_self _)⟩, rfl, rfl⟩
  | _ => cases ha

theorem inTurn_of_match {parse : Bytes → Option Json} {e : Exchange} (hI : ExchangeInv e) {a : Action}
    (hM : RepliesMatch parse e a) : InTurn e a := by
  rintro ⟨v, since⟩ hheard reply hreply hreads hyes hr
  obtain ⟨k, data, whole, harrival, hv, rfl⟩ : ∃ k data whole, a.arrival = .reply k data whole ∧
      e.services[k]? = some v ∧ since = e.services.drop (k + 1) := by
    unfold Exchange.heard at hheard
    cases harrival : a.arrival with
    | reply k data whole =>
      rw [harrival] at hheard
      obtain ⟨v', hv', heq⟩ := Option.map_eq_some_iff.1 hheard
      cases heq
      exact ⟨k, data, whole, rfl, hv', rfl⟩
    | _ =>
      rw [harrival] at hheard
      cases hheard
  obtain ⟨hdone, hrequests, hrequest⟩ := reachesDone_of_reads parse hI harrival hv hreply hreads hyes
  obtain ⟨h, hh, hans⟩ := hM hdone (hrequest ▸ hr)
  obtain rfl : h = (v, e.services.drop (k + 1)) := Option.some.inj (hh.symm.trans hheard)
  have hown : v.sent.number = (e.latest a).1 := hans.own.trans hrequests
  refine ⟨hown, fun hcreate w hw hsame htaken l hl hnamed => Bool.eq_false_iff.2 fun hempty => ?_⟩
  obtain ⟨reply', hreply', htold⟩ := hans.told
  obtain rfl : reply = reply' := Option.some.inj (hreply.symm.trans hreply')
  have hticket : l.ticket = ((exchange parse).next e a).1.client.ticket := Except.ok.inj (hnamed.symm.trans htold)
  obtain ⟨hmade, hgenuine⟩ := hI.services v (List.mem_of_getElem? hv)
  obtain ⟨hmade', hgenuine'⟩ := hI.services w (List.mem_of_mem_drop hw)
  have hlatest : e.latest a = (e.requests, e.request) := by
    cases a with
    | request r =>
      -- a new request has not been replied to
      have hbefore := hmade.before
      have hnumber : v.sent.number = e.requests + 1 := hown
      omega
    | _ => rfl
  rw [hlatest] at hown hcreate hr
  obtain ⟨r, hreq, hmsg⟩ := hmade.latest hown
  obtain ⟨r', hreq', hmsg'⟩ := hmade'.latest (hsame.trans hown)
  obtain rfl : r = r' := Option.some.inj (hreq.symm.trans hreq')
  have hlobby : r.forLobby = true ∧ r.isCreate = true := by
    simp only [hreq, Option.any_some] at hr hcreate
    exact ⟨hr, hcreate⟩
  obtain ⟨c, hread⟩ := (hgenuine.names hlobby.1 hmsg hreply hyes).2 hlobby.2
  have hrel := hgenuine'.releases_of_own htaken hmsg' hlobby.2 hread hl hempty
  have hkept := hans.kept w hw hsame
  rw [← hticket, hrel] at hkept
  cases hkept

/-- In a run, every Create or Join that becomes `Done` has been answered if and only if the
client has read replies in turn. -/
theorem replies_match (parse : Bytes → Option Json) (serverIp : UInt32) (serverPort : UInt16) (configured : Bool)
    (actions : List Action) :
    (exchange parse).Meets (fun _ => RepliesMatch parse) (.start (.new serverIp serverPort configured)) [] actions ↔
      (exchange parse).Meets (fun _ => InTurn) (.start (.new serverIp serverPort configured)) [] actions :=
  Machine.meets_iff_of_inv ExchangeInv (fun _ _ hI => ⟨inTurn_of_match hI, match_next parse hI⟩)
    (fun _ a hI _ => exchangeInv_next parse hI a) (exchangeInv_start rfl)

namespace Sample

def pingText : Bytes := ascii "\x7b\"op\":\"ping\"\x7d"

def pongText : Bytes :=
  ascii "\x7b\"browsing\":1,\"capacity\":20,\"lobbies\":0,\"ok\":true,\"players\":0,\"version\":\"1.2.1\"\x7d"

def hosting : Request := .create (ascii "build") (ascii "A") false

def hostingText : Bytes :=
  ascii "\x7b\"hash\":\"build\",\"name\":\"A\",\"op\":\"create\",\"public\":false,\"title\":\"lobby by A\"\x7d"

def hostedText : Bytes :=
  ascii "\x7b\"code\":\"AAAAAA\",\"ok\":true,\"secret\":\"" ++ secret.text ++ ascii "\",\"session_port\":23401\x7d"

def otherCode : CodeDraw := ⟨List.replicate 6 (Fin.last 30), by decide⟩

/-- A Ping is answered. The reply arrives a second time when a lobby has been asked for. -/
def late : List Action :=
  [.request .ping 1000 1000 1000 .nothing, .serve 0 true (request pingText 1010 secret),
    .poll 1020 1020 (.reply 0 pongText true), .cancel, .request hosting 2000 2000 2000 (.reply 0 pongText true)]

/-- The first reply is long on its way, so the request is sent again, and served. -/
def twice : List Action :=
  [.request hosting 1000 1000 1000 .nothing, .serve 0 true (request hostingText 1020 secret), .poll 1701 1701 .nothing,
    .serve 1 true ⟨hostingText, 0x0a000001, 50000, 1720, 0, [otherCode], otherSecret⟩,
    .poll 1730 1730 (.reply 0 hostedText true)]

end Sample

instance (parse : Bytes → Option Json) (e : Exchange) (a : Action) : Decidable (ReachesDone parse e a) := by
  unfold ReachesDone
  infer_instance

instance (e : Exchange) (v : Service) (since : List Service) : Decidable (Answers e v since) :=
  decidable_of_iff
    (v.sent.number = e.requests ∧ (∃ reply ∈ v.reply?, Ticket.ofJson reply = .ok e.client.ticket) ∧
      (∃ l ∈ v.post.lobbies, l.active = true ∧ l.ticket = e.client.ticket) ∧
      ∀ w ∈ since, w.sent.number = v.sent.number → w.releases e.client.ticket = false)
    ⟨fun ⟨own, told, named, kept⟩ => ⟨own, told, named, kept⟩, fun h => ⟨h.own, h.told, h.named, h.kept⟩⟩

instance (parse : Bytes → Option Json) (e : Exchange) (a : Action) : Decidable (RepliesMatch parse e a) := by
  unfold RepliesMatch
  infer_instance

/-- A late reply to a Ping ends a Create, which then has no code; and the first reply to a
Create that was sent twice names a lobby that the second copy has released. -/
theorem late_or_twice :
    ¬(exchange Sample.parseRequest).Meets (fun _ => RepliesMatch Sample.parseRequest)
        (.start (.new 0x0a0000fe 23400 true)) [] Sample.late ∧
      ¬(exchange Sample.parseRequest).Meets (fun _ => RepliesMatch Sample.parseRequest)
        (.start (.new 0x0a0000fe 23400 true)) [] Sample.twice := by
  decide +kernel

end Sf4e.Server
