import Sf4e.Session.Text
import Sf4e.Server.Matchmaker
/-!
# The matchmaker's client

`sf4e__Matchmaker.cxx`: one request at a time, sent again every 700 ms until something
comes back. The socket and the name of the server are as `Configure` left them.
-/
open Sf4e.Lib Sf4e.Session

namespace Sf4e.Server

def RETRY_MS : UInt64 := 700
def MAX_ATTEMPTS : Nat := 5

inductive State where
  | idle
  | waiting
  | done
  | failed
  deriving DecidableEq

/-- One open public lobby as the server lists it. -/
structure PublicLobby where
  code : Bytes
  title : Bytes
  players : Int32
  spectators : Int32
  age : Int32
  full : Bool
  spectatorsMax : Int32

/-- `_pending` holds the document whose text is sent; `none` is the empty text. -/
structure Matchmaker where
  state : State
  error : Bytes
  code : Bytes
  sessionPort : UInt16
  secret : Bytes
  publicLobbies : List PublicLobby
  lobbiesInUse : Int32
  capacity : Int32
  serverPingMs : Int32
  pingSentAt : UInt64
  playersOnline : Int32
  browsing : Int32
  serverVersion : Bytes
  serverIp : UInt32
  serverPort : UInt16
  configured : Bool
  pending : Option Json
  sentAt : UInt64
  attempts : Nat

/-- A datagram as it arrives. -/
structure Packet where
  ip : UInt32
  port : UInt16
  data : Bytes

/-- The two readings of the clock in `Poll`, and what `recvfrom` finds. -/
structure Turn where
  now : UInt64
  later : UInt64
  packet : Option Packet

/-! ## Requests -/

inductive Request where
  | create (sidecarHash name : Bytes) (isPublic : Bool)
  | join (lobbyCode sidecarHash name : Bytes) (spectate : Bool)
  | list
  | ping

def Request.toJson : Request → Json
  | create sidecarHash name isPublic =>
    jsonObj [("op", .str (ascii "create")), ("hash", .str sidecarHash), ("name", .str name), ("public", .bool isPublic),
      ("title", .str (ascii "lobby by " ++ name))]
  | join lobbyCode sidecarHash name spectate =>
    jsonObj [("op", .str (ascii "join")), ("code", .str lobbyCode), ("hash", .str sidecarHash), ("name", .str name),
      ("spectate", .bool spectate)]
  | list => jsonObj [("op", .str (ascii "list"))]
  | ping => jsonObj [("op", .str (ascii "ping"))]

/-! ## Reading a reply -/

def PublicLobby.ofJson (e : Json) : Except JsonError PublicLobby := do
  let code ← str e "code" ""
  let title ← str e "title" ""
  let players ← e.value (ascii "players") Json.getInt32 0
  let spectators ← e.value (ascii "spectators") Json.getInt32 0
  let age ← e.value (ascii "age") Json.getInt32 0
  let full ← e.value (ascii "full") Json.getBool false
  let spectatorsMax ← e.value (ascii "spectators_max") Json.getInt32 0
  return ⟨code, title, players, spectators, age, full, spectatorsMax⟩

namespace Matchmaker

/-- Statements one after the other, up to the one that throws. What is assigned before
stays assigned. -/
def andThen (m : Matchmaker) : List (Matchmaker → Except JsonError Matchmaker) → Matchmaker × Option JsonError
  | [] => (m, none)
  | f :: fs =>
    match f m with
    | .ok m' => m'.andThen fs
    | .error e => (m, some e)

/-- The lobbies of a list reply. -/
def readList (reply : Json) : List (Matchmaker → Except JsonError Matchmaker) :=
  match reply.at' (ascii "list") with
  | .ok (.arr list) =>
    (fun m => .ok { m with publicLobbies := [] }) :: list.map fun e m => do
      let p ← PublicLobby.ofJson e
      return if p.code.length = 6 then { m with publicLobbies := m.publicLobbies ++ [p] } else m
  | _ => []

/-- What is read from a reply with `ok` set, in order. -/
def readReply (reply : Json) (later : UInt64) : List (Matchmaker → Except JsonError Matchmaker) :=
  [ fun m => do return { m with code := ← str reply "code" "" },
    fun m => do
      return { m with sessionPort := UInt16.ofInt (← reply.value (ascii "session_port") Json.getInt32 0).toInt },
    fun m => do return { m with secret := ← str reply "secret" "" },
    fun m => do return { m with lobbiesInUse := ← reply.value (ascii "lobbies") Json.getInt32 m.lobbiesInUse },
    fun m => do return { m with capacity := ← reply.value (ascii "capacity") Json.getInt32 m.capacity },
    fun m =>
      .ok (if m.pingSentAt ≠ 0 then { m with serverPingMs := Int32.ofInt (later - m.pingSentAt).toNat, pingSentAt := 0 }
        else m),
    fun m => do return { m with playersOnline := ← reply.value (ascii "players") Json.getInt32 m.playersOnline },
    fun m => do return { m with browsing := ← reply.value (ascii "browsing") Json.getInt32 m.browsing },
    fun m => do return { m with serverVersion := ← reply.value (ascii "version") Json.getStr m.serverVersion } ] ++
  readList reply

/-- What the player is told about a refusal. -/
def errorText (reason : Bytes) : Bytes :=
  if reason = ascii "not_found" then ascii "no lobby with that code"
  else if reason = ascii "lobby_full" then ascii "that lobby already has two players"
  else if reason = ascii "spectators_full" then ascii "that lobby has no spectator seats left"
  else if reason = ascii "version_mismatch" then ascii "the other player runs a different sf4e build"
  else if reason = ascii "server_full" then ascii "the server has no free lobbies right now"
  else reason

/-- The `catch` of `Poll`. -/
def badReply (m : Matchmaker) : Matchmaker := { m with error := ascii "bad reply from server", state := .failed }

/-- The `try` block of `Poll`. -/
def handleReply (m : Matchmaker) (reply : Json) (later : UInt64) : Matchmaker :=
  match reply.value (ascii "ok") Json.getBool false with
  | .error _ => m.badReply
  | .ok true =>
    match m.andThen (readReply reply later) with
    | (m, none) => { m with state := .done }
    | (m, some _) => m.badReply
  | .ok false =>
    match str reply "error" "unknown" with
    | .error _ => m.badReply
    | .ok reason => { m with error := errorText reason, state := .failed }

/-! ## Calls -/

/-- The second half of `Poll`. A datagram that does not fit the buffer is an error of
`recvfrom`, and lost. -/
def receive (parse : Bytes → Option Json) (m : Matchmaker) (p : Packet) (later : UInt64) : Matchmaker :=
  if p.data = [] || p.data.length > 1499 then m
  -- whatever the server sends is taken for the answer
  else if p.ip ≠ m.serverIp || p.port ≠ m.serverPort then m
  else match parse (p.data.takeWhile (· ≠ 0)) with
    | none => m.badReply
    | some reply => m.handleReply reply later

/-- It is time to send the request, for the first time or again. -/
def due (m : Matchmaker) (now : UInt64) : Bool := m.sentAt = 0 || now - m.sentAt > RETRY_MS

/-- The first half of `Poll`, with what it sends. -/
def transmit (m : Matchmaker) (now : UInt64) : Matchmaker × Option Json :=
  if m.due now then ({ m with sentAt := now, attempts := m.attempts + 1 }, m.pending) else (m, none)

/-- `Poll`, with what it sends. -/
def poll (parse : Bytes → Option Json) (m : Matchmaker) (t : Turn) : Matchmaker × Option Json :=
  if m.state ≠ .waiting then (m, none)
  else if m.due t.now && m.attempts ≥ MAX_ATTEMPTS then
    ({ m with state := .failed, error := ascii "no answer from the lobby server (is it running?)" }, none)
  else
    let (m, sent) := m.transmit t.now
    match t.packet with
    | none => (m, sent)
    | some p => (m.receive parse p t.later, sent)

/-- What `Send` sets before its first `Poll`. -/
def waitFor (m : Matchmaker) (payload : Json) : Matchmaker :=
  { m with
    pending := some payload
    attempts := 0
    sentAt := 0
    state := .waiting
    error := []
    code := []
    sessionPort := 0 }

def send (parse : Bytes → Option Json) (m : Matchmaker) (payload : Json) (t : Turn) : Matchmaker × Option Json :=
  (m.waitFor payload).poll parse t

/-- What the four requests have in common; `none` where `dump` throws. -/
def request (parse : Bytes → Option Json) (m : Matchmaker) (r : Request) (t : Turn) :
    Option (Matchmaker × Option Json) :=
  if !m.configured then some ({ m with state := .failed, error := ascii "no server configured" }, none)
  else if r.toJson.Dumps then some (m.send parse r.toJson t)
  else none

def create (parse : Bytes → Option Json) (m : Matchmaker) (sidecarHash name : Bytes) (isPublic : Bool) (t : Turn) :
    Option (Matchmaker × Option Json) :=
  m.request parse (.create sidecarHash name isPublic) t

def join (parse : Bytes → Option Json) (m : Matchmaker) (lobbyCode sidecarHash name : Bytes) (spectate : Bool) (t : Turn) :
    Option (Matchmaker × Option Json) :=
  m.request parse (.join lobbyCode sidecarHash name spectate) t

def list (parse : Bytes → Option Json) (m : Matchmaker) (t : Turn) : Option (Matchmaker × Option Json) :=
  m.request parse .list t

/-- `time` is the reading of the clock that the reply is measured against. -/
def ping (parse : Bytes → Option Json) (m : Matchmaker) (time : UInt64) (t : Turn) : Option (Matchmaker × Option Json) :=
  if m.configured then { m with pingSentAt := time }.request parse .ping t else m.request parse .ping t

def cancel (m : Matchmaker) : Matchmaker := { m with state := .idle, pending := none }

/-- The client after `Configure`, or before it. -/
def new (serverIp : UInt32) (serverPort : UInt16) (configured : Bool) : Matchmaker where
  state := .idle
  error := []
  code := []
  sessionPort := 0
  secret := []
  publicLobbies := []
  lobbiesInUse := 0
  capacity := 0
  serverPingMs := -1
  pingSentAt := 0
  playersOnline := 0
  browsing := 0
  serverVersion := []
  serverIp
  serverPort
  configured
  pending := none
  sentAt := 0
  attempts := 0

end Matchmaker

/-! ## What a call does -/

/-- Where a lobby is, and how to get in. -/
structure Ticket where
  code : Bytes
  sessionPort : UInt16
  secret : Bytes
  deriving DecidableEq

def Matchmaker.ticket (m : Matchmaker) : Ticket := ⟨m.code, m.sessionPort, m.secret⟩

def Lobby.ticket (l : Lobby) : Ticket := ⟨l.code, l.sessionPort, l.secret⟩

/-- What the client reads of it. -/
def Ticket.ofJson (reply : Json) : Except JsonError Ticket := do
  let code ← str reply "code" ""
  let port ← reply.value (ascii "session_port") Json.getInt32 0
  let secret ← str reply "secret" ""
  return ⟨code, UInt16.ofInt port.toInt, secret⟩

namespace Matchmaker

theorem andThen_keeps {β : Type} (g : Matchmaker → β) {fs : List (Matchmaker → Except JsonError Matchmaker)}
    (h : ∀ f ∈ fs, ∀ m m', f m = .ok m' → g m' = g m) (m : Matchmaker) : g (m.andThen fs).1 = g m := by
  -- a statement that throws leaves what the ones before it did
  induction fs generalizing m with
  | nil => rfl
  | cons f fs ih =>
    unfold andThen
    cases hf : f m with
    | error e => rfl
    | ok m' =>
      have hrest := ih (fun f hf => h f (List.mem_cons_of_mem _ hf)) m'
      exact hrest.trans (h f List.mem_cons_self m m' hf)

/-- The list and the counters have nothing to do with it. -/
theorem readList_keeps {β : Type} (g : Matchmaker → β) (hg : ∀ m lobbies, g { m with publicLobbies := lobbies } = g m)
    (reply : Json) : ∀ f ∈ readList reply, ∀ m m', f m = .ok m' → g m' = g m := by
  intro f hf m m' h
  unfold readList at hf
  split at hf
  · rcases List.mem_cons.1 hf with rfl | hf
    · cases h
      exact hg m []
    · obtain ⟨e, -, rfl⟩ := List.mem_map.1 hf
      obtain ⟨p, -, h⟩ := bind_ok h
      cases h
      split
      · exact hg m _
      · rfl
  · cases hf

/-- The reads after the third: nothing there touches the ticket, or what `Poll` sends. -/
theorem readReply_keeps {β : Type} (g : Matchmaker → β) (hlist : ∀ m lobbies, g { m with publicLobbies := lobbies } = g m)
    (hcount : ∀ m a b c d v, g { m with lobbiesInUse := a, capacity := b, playersOnline := c, browsing := d, serverVersion := v } = g m)
    (hping : ∀ m ms sent, g { m with serverPingMs := ms, pingSentAt := sent } = g m) (reply : Json) (later : UInt64) :
    ∀ f ∈ (readReply reply later).drop 3, ∀ m m', f m = .ok m' → g m' = g m := by
  intro f hf m m' h
  simp only [readReply, List.cons_append, List.drop_succ_cons, List.drop_zero, List.mem_cons, List.nil_append] at hf
  rcases hf with rfl | rfl | rfl | rfl | rfl | rfl | hf
  · obtain ⟨n, -, h⟩ := bind_ok h
    cases h
    exact hcount m n m.capacity m.playersOnline m.browsing m.serverVersion
  · obtain ⟨n, -, h⟩ := bind_ok h
    cases h
    exact hcount m m.lobbiesInUse n m.playersOnline m.browsing m.serverVersion
  · cases h
    split
    · exact hping m _ _
    · rfl
  · obtain ⟨n, -, h⟩ := bind_ok h
    cases h
    exact hcount m m.lobbiesInUse m.capacity n m.browsing m.serverVersion
  · obtain ⟨n, -, h⟩ := bind_ok h
    cases h
    exact hcount m m.lobbiesInUse m.capacity m.playersOnline n m.serverVersion
  · obtain ⟨v, -, h⟩ := bind_ok h
    cases h
    exact hcount m m.lobbiesInUse m.capacity m.playersOnline m.browsing v
  · exact readList_keeps g hlist reply f hf m m' h

theorem readReply_pending (reply : Json) (later : UInt64) :
    ∀ f ∈ readReply reply later, ∀ m m', f m = .ok m' → m'.pending = m.pending := by
  intro f hf m m' h
  rw [← List.take_append_drop 3 (readReply reply later), List.mem_append] at hf
  rcases hf with hf | hf
  · simp only [readReply, List.cons_append, List.take_succ_cons, List.take_zero, List.mem_cons, List.not_mem_nil,
      or_false] at hf
    rcases hf with rfl | rfl | rfl
    all_goals
      obtain ⟨x, -, h⟩ := bind_ok h
      cases h
      rfl
  · exact readReply_keeps (·.pending) (fun _ _ => rfl) (fun _ _ _ _ _ _ => rfl) (fun _ _ _ => rfl) reply later f hf m m' h

/-- A reply that is read to its end leaves its ticket. -/
theorem read_ticket {m m' : Matchmaker} {reply : Json} {later : UInt64}
    (h : m.andThen (readReply reply later) = (m', none)) : Ticket.ofJson reply = .ok m'.ticket := by
  -- three statements read the ticket, and the rest keeps it
  have hsplit : readReply reply later = (readReply reply later).take 3 ++ (readReply reply later).drop 3 :=
    (List.take_append_drop 3 _).symm
  have hrest := readReply_keeps (·.ticket) (fun _ _ => rfl) (fun _ _ _ _ _ _ => rfl) (fun _ _ _ => rfl) reply later
  rw [hsplit] at h
  generalize (readReply reply later).drop 3 = rest at h hrest
  simp only [readReply, List.cons_append, List.take_succ_cons, List.take_zero, List.nil_append] at h
  unfold Ticket.ofJson
  cases hcode : str reply "code" "" with
  | error e => simp [andThen, hcode, bind, Except.bind] at h
  | ok code =>
    cases hport : reply.value (ascii "session_port") Json.getInt32 0 with
    | error e => simp [andThen, hcode, hport, bind, Except.bind, pure, Except.pure] at h
    | ok port =>
      cases hsecret : str reply "secret" "" with
      | error e => simp [andThen, hcode, hport, hsecret, bind, Except.bind, pure, Except.pure] at h
      | ok secret =>
        simp only [andThen, hcode, hport, hsecret, bind, Except.bind, pure, Except.pure] at h ⊢
        have hkept := andThen_keeps (·.ticket) hrest
          { m with code, sessionPort := UInt16.ofInt port.toInt, secret }
        rw [h] at hkept
        exact congrArg Except.ok hkept.symm

theorem handleReply_pending (m : Matchmaker) (reply : Json) (later : UInt64) :
    (m.handleReply reply later).pending = m.pending := by
  have hread := andThen_keeps (·.pending) (readReply_pending reply later) m
  unfold handleReply
  split
  · rfl
  · split
    · rename_i m' heq
      rw [heq] at hread
      exact hread
    · rename_i m' e heq
      rw [heq] at hread
      exact hread
  · split
    · rfl
    · rfl

/-- A reply makes it `Done` that says `ok`, with the reply's ticket. -/
theorem handleReply_done {m : Matchmaker} {reply : Json} {later : UInt64} (h : (m.handleReply reply later).state = .done) :
    reply.value (ascii "ok") Json.getBool false = .ok true ∧
      Ticket.ofJson reply = .ok (m.handleReply reply later).ticket := by
  unfold handleReply at h ⊢
  split at h
  · -- `ok` is not a boolean
    cases h
  · rename_i hok
    split at h
    · rename_i m' heq
      have hticket : Ticket.ofJson reply = .ok m'.ticket := read_ticket heq
      exact ⟨hok, hticket⟩
    · cases h
  · split at h
    · cases h
    · cases h

/-- A `Poll` now gets as far as `recvfrom`. -/
def listens (m : Matchmaker) (now : UInt64) : Bool :=
  m.state = .waiting && !(m.due now && m.attempts ≥ MAX_ATTEMPTS)

/-- A datagram that a `Poll` reads, and the document in it. -/
structure Reads (parse : Bytes → Option Json) (m : Matchmaker) (t : Turn) (p : Packet) (reply : Json) : Prop where
  listens : m.listens t.now = true
  packet : t.packet = some p
  fits : p.data ≠ [] ∧ p.data.length ≤ 1499
  sender : p.ip = m.serverIp ∧ p.port = m.serverPort
  text : parse (p.data.takeWhile (· ≠ 0)) = some reply

theorem receive_pending (parse : Bytes → Option Json) (m : Matchmaker) (p : Packet) (later : UInt64) :
    (m.receive parse p later).pending = m.pending := by
  unfold receive
  split
  · rfl
  · split
    · rfl
    · split
      · rfl
      · exact handleReply_pending m _ later

theorem transmit_keeps (m : Matchmaker) (now : UInt64) :
    (m.transmit now).1.pending = m.pending ∧ (m.transmit now).1.state = m.state ∧
      (m.transmit now).1.serverIp = m.serverIp ∧ (m.transmit now).1.serverPort = m.serverPort := by
  unfold transmit
  split <;> exact ⟨rfl, rfl, rfl, rfl⟩

theorem transmit_sends {m : Matchmaker} {now : UInt64} {msg : Json} (h : (m.transmit now).2 = some msg) :
    m.pending = some msg := by
  unfold transmit at h
  split at h
  · exact h
  · cases h

theorem poll_pending (parse : Bytes → Option Json) (m : Matchmaker) (t : Turn) :
    (m.poll parse t).1.pending = m.pending := by
  have hsent := (m.transmit_keeps t.now).1
  unfold poll
  split
  · rfl
  · split
    · rfl
    · dsimp only
      split
      · exact hsent
      · exact (receive_pending parse _ _ t.later).trans hsent

/-- What a `Poll` sends is the request it waits on. -/
theorem poll_sends {parse : Bytes → Option Json} {m : Matchmaker} {t : Turn} {msg : Json}
    (h : (m.poll parse t).2 = some msg) : m.state = .waiting ∧ m.pending = some msg := by
  unfold poll at h
  split at h
  · cases h
  · rename_i hwait
    split at h
    · cases h
    · dsimp only at h
      split at h
      · exact ⟨by simpa using hwait, transmit_sends h⟩
      · exact ⟨by simpa using hwait, transmit_sends h⟩

theorem poll_waiting {parse : Bytes → Option Json} {m : Matchmaker} {t : Turn}
    (h : (m.poll parse t).1.state = .waiting) : m.state = .waiting := by
  by_contra hno
  unfold poll at h
  rw [if_pos hno] at h
  exact hno h

theorem receive_done {parse : Bytes → Option Json} {m : Matchmaker} {p : Packet} {later : UInt64}
    (h : (m.receive parse p later).state = .done) (hm : m.state ≠ .done) :
    (p.data ≠ [] ∧ p.data.length ≤ 1499) ∧ (p.ip = m.serverIp ∧ p.port = m.serverPort) ∧
      ∃ reply, parse (p.data.takeWhile (· ≠ 0)) = some reply ∧
        reply.value (ascii "ok") Json.getBool false = .ok true ∧
        Ticket.ofJson reply = .ok (m.receive parse p later).ticket := by
  unfold receive at h ⊢
  split at h
  · exact absurd h hm
  · rename_i hfits
    split at h
    · exact absurd h hm
    · rename_i hsender
      split at h
      · cases h
      · rename_i reply htext
        rw [if_neg hfits, if_neg hsender, htext]
        simp only [Bool.or_eq_true, decide_eq_true_eq, not_or, Nat.not_lt] at hfits
        simp only [Bool.or_eq_true, decide_eq_true_eq, not_or, not_not] at hsender
        obtain ⟨hok, hticket⟩ := handleReply_done h
        exact ⟨hfits, hsender, reply, rfl, hok, hticket⟩

/-- A `Poll` that ends in `Done` has read a reply that says `ok`, and has its ticket. -/
theorem poll_done {parse : Bytes → Option Json} {m : Matchmaker} {t : Turn} (h : (m.poll parse t).1.state = .done)
    (hm : m.state ≠ .done) :
    ∃ p reply, m.Reads parse t p reply ∧ reply.value (ascii "ok") Json.getBool false = .ok true ∧
      Ticket.ofJson reply = .ok (m.poll parse t).1.ticket := by
  obtain ⟨-, hstate, hip, hport⟩ := m.transmit_keeps t.now
  have hsame : (m.transmit t.now).1.state ≠ .done := by
    rw [hstate]
    exact hm
  unfold poll at h ⊢
  split at h
  · exact absurd h hm
  · rename_i hwait
    split at h
    · cases h
    · rename_i hgive
      rw [if_neg hwait, if_neg hgive]
      dsimp only at h ⊢
      split at h
      · exact absurd h hsame
      · rename_i p hp
        obtain ⟨hfits, hsender, reply, htext, hok, hticket⟩ := receive_done h hsame
        rw [hip, hport] at hsender
        have hlistens : m.listens t.now = true := by
          simp only [listens, Bool.and_eq_true, Bool.not_eq_true', decide_eq_true_eq]
          exact ⟨by simpa using hwait, by simpa using hgive⟩
        exact ⟨p, reply, ⟨hlistens, hp, hfits, hsender, htext⟩, hok, hticket⟩

/-! ### Replies that are read to the end -/

theorem andThen_ok {fs : List (Matchmaker → Except JsonError Matchmaker)} (h : ∀ f ∈ fs, ∀ m, ∃ m', f m = .ok m')
    (m : Matchmaker) : ∃ m', m.andThen fs = (m', none) := by
  induction fs generalizing m with
  | nil => exact ⟨m, rfl⟩
  | cons f fs ih =>
    obtain ⟨m', hm'⟩ := h f List.mem_cons_self m
    unfold andThen
    rw [hm']
    exact ih (fun f hf => h f (List.mem_cons_of_mem _ hf)) m'

/-- Every field that is there has the type the client expects. -/
structure Readable (reply : Json) : Prop where
  code : ∃ v, str reply "code" "" = .ok v
  port : ∃ v, reply.value (ascii "session_port") Json.getInt32 0 = .ok v
  secret : ∃ v, str reply "secret" "" = .ok v
  lobbies : ∀ fallback, ∃ v, reply.value (ascii "lobbies") Json.getInt32 fallback = .ok v
  capacity : ∀ fallback, ∃ v, reply.value (ascii "capacity") Json.getInt32 fallback = .ok v
  players : ∀ fallback, ∃ v, reply.value (ascii "players") Json.getInt32 fallback = .ok v
  browsing : ∀ fallback, ∃ v, reply.value (ascii "browsing") Json.getInt32 fallback = .ok v
  version : ∀ fallback, ∃ v, reply.value (ascii "version") Json.getStr fallback = .ok v
  list : ∀ es, reply.at' (ascii "list") = .ok (.arr es) → ∀ e ∈ es, ∃ p, PublicLobby.ofJson e = .ok p

theorem readList_ok {reply : Json} (h : Readable reply) : ∀ f ∈ readList reply, ∀ m, ∃ m', f m = .ok m' := by
  intro f hf m
  unfold readList at hf
  split at hf
  · rename_i es hes
    rcases List.mem_cons.1 hf with rfl | hf
    · exact ⟨_, rfl⟩
    · obtain ⟨e, he, rfl⟩ := List.mem_map.1 hf
      obtain ⟨p, hp⟩ := h.list es hes e he
      dsimp only
      rw [hp]
      exact ⟨_, rfl⟩
  · cases hf

theorem readReply_ok {reply : Json} (h : Readable reply) (later : UInt64) :
    ∀ f ∈ readReply reply later, ∀ m, ∃ m', f m = .ok m' := by
  intro f hf m
  simp only [readReply, List.cons_append, List.mem_cons, List.nil_append] at hf
  rcases hf with rfl | rfl | rfl | rfl | rfl | rfl | rfl | rfl | rfl | hf
  · obtain ⟨v, hv⟩ := h.code
    exact ⟨{ m with code := v }, by dsimp only; rw [hv]; rfl⟩
  · obtain ⟨v, hv⟩ := h.port
    exact ⟨{ m with sessionPort := UInt16.ofInt v.toInt }, by dsimp only; rw [hv]; rfl⟩
  · obtain ⟨v, hv⟩ := h.secret
    exact ⟨{ m with secret := v }, by dsimp only; rw [hv]; rfl⟩
  · obtain ⟨v, hv⟩ := h.lobbies m.lobbiesInUse
    exact ⟨{ m with lobbiesInUse := v }, by dsimp only; rw [hv]; rfl⟩
  · obtain ⟨v, hv⟩ := h.capacity m.capacity
    exact ⟨{ m with capacity := v }, by dsimp only; rw [hv]; rfl⟩
  · exact ⟨_, rfl⟩
  · obtain ⟨v, hv⟩ := h.players m.playersOnline
    exact ⟨{ m with playersOnline := v }, by dsimp only; rw [hv]; rfl⟩
  · obtain ⟨v, hv⟩ := h.browsing m.browsing
    exact ⟨{ m with browsing := v }, by dsimp only; rw [hv]; rfl⟩
  · obtain ⟨v, hv⟩ := h.version m.serverVersion
    exact ⟨{ m with serverVersion := v }, by dsimp only; rw [hv]; rfl⟩
  · exact readList_ok h f hf m

/-- Such a reply, where it says `ok`, is the end of the request. -/
theorem handleReply_readable {reply : Json} (h : Readable reply)
    (hok : reply.value (ascii "ok") Json.getBool false = .ok true) (m : Matchmaker) (later : UInt64) :
    (m.handleReply reply later).state = .done := by
  obtain ⟨m', hm'⟩ := andThen_ok (readReply_ok h later) m
  unfold handleReply
  rw [hok]
  dsimp only
  rw [hm']

/-- A `Poll` that reads a datagram does with it what its `try` block says. -/
theorem poll_reads {parse : Bytes → Option Json} {m : Matchmaker} {t : Turn} {p : Packet} {reply : Json}
    (h : m.Reads parse t p reply) : (m.poll parse t).1 = (m.transmit t.now).1.handleReply reply t.later := by
  obtain ⟨-, -, hip, hport⟩ := m.transmit_keeps t.now
  have hlistens := h.listens
  simp only [listens, Bool.and_eq_true, Bool.not_eq_true', decide_eq_true_eq] at hlistens
  have hfits := h.fits
  have hsender := h.sender
  rw [← hip, ← hport] at hsender
  unfold poll
  -- it waits, and has not given up
  rw [if_neg (not_not.2 hlistens.1), if_neg (Bool.eq_false_iff.1 hlistens.2)]
  dsimp only
  rw [h.packet]
  dsimp only
  unfold receive
  rw [if_neg (by simp [hfits.1, hfits.2]), if_neg (by simp [hsender.1, hsender.2]), h.text]

end Matchmaker

end Sf4e.Server
