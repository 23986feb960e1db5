import Sf4e.Server.LobbyTable
/-!
# A refused request

A request that is refused leaves the lobbies, their session servers and the relays alone,
but for one: a create reads the `name` for its log line after the lobby is open, and a
`name` that is not a string throws there.
-/
open Sf4e.Lib Sf4e.Session

namespace Sf4e.Server

/-- If the datagram is answered with `ok` unset, the lobbies are the same, and nothing but
replies is put out: no session server sends or disconnects, no relay is cleared. -/
def Atomic (parse : Bytes → Option Json) (s : LobbyServer) (d : Datagram) : Prop :=
  ∀ ip port reply, .reply ip port reply ∈ (s.serveMatchmaker parse d).2 → saysOk reply = false →
    (s.serveMatchmaker parse d).1.lobbies = s.lobbies ∧ ∀ o ∈ (s.serveMatchmaker parse d).2, o.isReply = true

/-- A create request that gets as far as a free lobby, and whose `name` is not a string. -/
structure Halfway (parse : Bytes → Option Json) (s : LobbyServer) (d : Datagram) : Prop where
  received : d.data ≠ []
  allowed : (s.allowMatchmaker d.ip d.now).2 = true
  asks : ∃ req r, AsksCreate parse d req r ∧ ∀ name, str req "name" "?" ≠ .ok name
  cap : LobbyServer.heldBy s.lobbies d.ip < MAX_LOBBIES_PER_IP
  free : ∃ l ∈ s.yielded d, l.active = false
  drawn : newCode (s.yielded d) d.codes ≠ none

/-! ## A request that is refused early -/

/-- An address with as many lobbies as it may have has no empty one. -/
theorem no_ownEmpty {s : LobbyServer} (hcap : ∀ ip, s.lobbies.countP (·.createdBy ip) ≤ 2) {ip : UInt32}
    (hheld : LobbyServer.heldBy s.lobbies ip ≥ MAX_LOBBIES_PER_IP) : ∀ l ∈ s.lobbies, l.ownEmpty ip = false := by
  have hsplit : s.lobbies.countP (·.createdBy ip) =
      LobbyServer.heldBy s.lobbies ip + s.lobbies.countP (·.ownEmpty ip) := by
    rw [List.countP_eq_countP_filter_add s.lobbies _ fun l => l.memberCount ≠ 0, List.countP_filter, List.countP_filter]
    have hempty : s.lobbies.countP (fun l => l.createdBy ip && !decide (l.memberCount ≠ 0)) =
        s.lobbies.countP (·.ownEmpty ip) := by
      apply List.countP_congr
      intro l _
      simp [Lobby.createdBy, Lobby.ownEmpty]
    rw [hempty]
    rfl
  have hle := hcap ip
  have htwo : MAX_LOBBIES_PER_IP = 2 := rfl
  have hzero : s.lobbies.countP (·.ownEmpty ip) = 0 := by omega
  intro l hl
  exact Bool.eq_false_iff.2 (List.countP_eq_zero.1 hzero l hl)

/-- Where no lobby is given up, nothing has happened yet. -/
theorem yielded_of_none {s : LobbyServer} {d : Datagram} (h : ∀ l ∈ s.lobbies, l.ownEmpty d.ip = false) :
    s.yielded d = s.lobbies ∧ s.yieldOut d = [] := by
  have hkeep : ∀ l ∈ s.lobbies, l.yield d = (l, []) := by
    intro l hl
    unfold Lobby.yield
    rw [h l hl, if_neg Bool.false_ne_true]
  constructor
  · unfold LobbyServer.yielded
    conv_rhs => rw [← List.map_id s.lobbies]
    apply List.map_congr_left
    intro l hl
    rw [hkeep l hl]
    rfl
  · apply List.flatMap_eq_nil_iff.2
    intro l hl
    rw [hkeep l hl]

/-- A full server has given up no lobby to say so. -/
theorem full_keeps {s : LobbyServer} (hcap : ∀ ip, s.lobbies.countP (·.createdBy ip) ≤ 2) {d : Datagram}
    (hwhy : LobbyServer.heldBy s.lobbies d.ip ≥ MAX_LOBBIES_PER_IP ∨ ∀ l ∈ s.yielded d, l.active = true) :
    s.yielded d = s.lobbies ∧ s.yieldOut d = [] := by
  apply yielded_of_none
  rcases hwhy with hheld | hall
  · exact no_ownEmpty hcap hheld
  · intro l hl
    have hon := hall _ (List.mem_map_of_mem hl)
    rcases yield_cases l d with ⟨-, heq⟩ | ⟨hown, -⟩
    · -- a lobby that has been given up is free
      rw [heq] at hon
      cases hon
    · exact hown

/-- Who is answered has sent something and has a token left. -/
theorem answered_only {parse : Bytes → Option Json} {s : LobbyServer} {d : Datagram}
    (h : (s.serveMatchmaker parse d).2 ≠ []) : d.data ≠ [] ∧ (s.allowMatchmaker d.ip d.now).2 = true := by
  unfold LobbyServer.serveMatchmaker at h
  split at h
  · exact absurd rfl h
  · rename_i hdata
    dsimp only at h
    split at h
    · exact absurd rfl h
    · rename_i hallow
      exact ⟨hdata, by simpa using hallow⟩

theorem createReply_refused {req : Json} {l : Lobby} (h : saysOk (createReply req l) = false) (name : Bytes) :
    str req "name" "?" ≠ .ok name := by
  intro hname
  rw [createReply, hname] at h
  cases h

/-- A datagram that is not taken by halves is refused before anything is done. -/
theorem atomic_of_not_halfway {parse : Bytes → Option Json} {s : LobbyServer}
    (hcap : ∀ ip, s.lobbies.countP (·.createdBy ip) ≤ 2) {d : Datagram} (hnot : ¬Halfway parse s d) :
    Atomic parse s d := by
  intro ip port reply hmem hno
  -- who is answered at all has sent something, and has a token left
  have hserved : d.data ≠ [] ∧ (s.allowMatchmaker d.ip d.now).2 = true := answered_only (List.ne_nil_of_mem hmem)
  have hs := LobbyServer.served parse s d
  generalize (s.serveMatchmaker parse d).1.lobbies = lobbies at hs ⊢
  generalize (s.serveMatchmaker parse d).2 = out at hs hmem ⊢
  cases hs with
  | full _ hwhy =>
    obtain ⟨hlobbies, hout⟩ := full_keeps hcap hwhy
    rw [hlobbies, hout]
    exact ⟨rfl, by simp [Output.isReply]⟩
  | @create req r i l code hasks hheld hl hfree hcode =>
    refine absurd ?_ hnot
    have hreply : saysOk (createReply req (LobbyServer.activate l r code d).1) = false := by
      simp only [List.mem_append, List.mem_singleton, Output.reply.injEq] at hmem
      rcases hmem with (hmem | hmem) | ⟨-, -, rfl⟩
      · cases no_reply_yieldOut _ hmem
      · cases no_reply_activate _ hmem
      · exact hno
    exact
      { received := hserved.1
        allowed := hserved.2
        asks := ⟨req, r, hasks, createReply_refused hreply⟩
        cap := hheld
        free := ⟨l, List.mem_of_getElem? hl, hfree⟩
        drawn := by rw [hcode]; exact Option.some_ne_none _ }
  | _ => exact ⟨rfl, by simp [Output.isReply]⟩

/-! ## A create request that gets a lobby -/

theorem handleMatchmaker_create {s : LobbyServer} {parse : Bytes → Option Json} {d : Datagram} {req : Json}
    {r : CreateRequest} (hasks : AsksCreate parse d req r) : s.handleMatchmaker req d = s.onCreate req r d := by
  obtain ⟨type, htype, hstun⟩ := hasks.asks.type
  have hop := hasks.asks.op
  have hping : ascii "create" ≠ ascii "ping" := by decide
  unfold LobbyServer.handleMatchmaker
  simp only [htype, if_neg hstun, hop, if_neg hping, if_true, hasks.read]

/-- A create request that is let in, read, and finds a code: the address's empty lobbies go
first, and then there is no room, or a free lobby is opened. -/
theorem serve_create {parse : Bytes → Option Json} {s : LobbyServer} {d : Datagram} {req : Json} {r : CreateRequest}
    (hdata : d.data ≠ []) (hallow : (s.allowMatchmaker d.ip d.now).2 = true) (hasks : AsksCreate parse d req r)
    (hdrawn : newCode (s.yielded d) d.codes ≠ none) :
    ((LobbyServer.heldBy s.lobbies d.ip ≥ MAX_LOBBIES_PER_IP ∨ ∀ l ∈ s.yielded d, l.active = true) ∧
        (s.serveMatchmaker parse d).2 = s.yieldOut d ++ [.reply d.ip d.port (refusal "server_full")]) ∨
      ∃ l code, l.active = false ∧
        (s.serveMatchmaker parse d).2 = s.yieldOut d ++ (LobbyServer.activate l r code d).2 ++
          [.reply d.ip d.port (createReply req (LobbyServer.activate l r code d).1)] := by
  -- the token is taken first, and the lobbies stay as they are
  have hlobbies := allowMatchmaker_lobbies s d.ip d.now
  have hyielded : (s.allowMatchmaker d.ip d.now).1.yielded d = s.yielded d := by
    rw [LobbyServer.yielded, LobbyServer.yielded, hlobbies]
  have hyieldOut : (s.allowMatchmaker d.ip d.now).1.yieldOut d = s.yieldOut d := by
    rw [LobbyServer.yieldOut, LobbyServer.yieldOut, hlobbies]
  have htext : parse ((d.data.take 1499).takeWhile (· ≠ 0)) = some req := hasks.text
  have hcreated := LobbyServer.created (s.allowMatchmaker d.ip d.now).1 req r d
  rw [← handleMatchmaker_create hasks] at hcreated
  unfold LobbyServer.serveMatchmaker
  rw [if_neg hdata]
  dsimp only
  rw [hallow, htext]
  simp only [Bool.not_true, Bool.false_eq_true, if_false]
  generalize (s.allowMatchmaker d.ip d.now).1.handleMatchmaker req d = result at hcreated
  cases hcreated with
  | full hwhy =>
    rw [hlobbies, hyielded] at hwhy
    exact .inl ⟨hwhy, by rw [hyieldOut]⟩
  | @opened i l code hcap hl hfree hcode =>
    refine .inr ⟨l, code, hfree, ?_⟩
    rw [hyieldOut]
    unfold createReply
    cases str req "name" "?" <;> rfl
  | drawing hcode =>
    rw [hyielded] at hcode
    exact absurd hcode hdrawn

/-- The reply says no, and the lobby is open. -/
theorem not_atomic_of_halfway {parse : Bytes → Option Json} {s : LobbyServer} {d : Datagram} (h : Halfway parse s d) :
    ¬Atomic parse s d := by
  obtain ⟨req, r, hasks, hname⟩ := h.asks
  intro hatomic
  rcases serve_create h.received h.allowed hasks h.drawn with ⟨hfull, -⟩ | ⟨l, code, -, hout⟩
  · -- there is room: fewer than two lobbies of its own, and a free one
    rcases hfull with hheld | hall
    · exact absurd h.cap (Nat.not_lt_of_le hheld)
    · obtain ⟨l, hl, hoff⟩ := h.free
      rw [hall l hl] at hoff
      cases hoff
  · -- the lobby is open by the time the name is read
    have hrefused : createReply req (LobbyServer.activate l r code d).1 = refusal "bad_request" := by
      unfold createReply
      cases hread : str req "name" "?" with
      | error e => rfl
      | ok name => exact absurd hread (hname name)
    have hreply : .reply d.ip d.port (refusal "bad_request") ∈ (s.serveMatchmaker parse d).2 := by
      rw [hout, hrefused]
      exact List.mem_append_right _ (List.mem_singleton_self _)
    obtain ⟨-, hquiet⟩ := hatomic _ _ _ hreply (saysOk_refusal _)
    have hcleared : .clearRelays l.index ∈ (s.serveMatchmaker parse d).2 := by
      rw [hout]
      exact List.mem_append_left _ (List.mem_append_right _ List.mem_cons_self)
    cases hquiet _ hcleared

/-- In every state the server reaches, a refused datagram has changed nothing, but for a
create request that reaches a free lobby with a `name` that is not a string. -/
theorem atomic_iff (parse : Bytes → Option Json) (inputs : List Input) (d : Datagram) :
    Atomic parse ((lobbyServer parse).run .start inputs) d ↔ ¬Halfway parse ((lobbyServer parse).run .start inputs) d := by
  constructor
  · exact fun hatomic hhalf => not_atomic_of_halfway hhalf hatomic
  · exact fun hnot => atomic_of_not_halfway (tableInv_run parse inputs).cap hnot

namespace Sample

def unnamedText : Bytes := ascii "\x7b\"op\":\"create\",\"hash\":\"build\",\"title\":\"x\",\"name\":1\x7d"

/-- `json::parse` on this text. -/
def parseUnnamed (data : Bytes) : Option Json :=
  if data = unnamedText then
    some (jsonObj [("op", .str (ascii "create")), ("hash", .str (ascii "build")), ("title", .str (ascii "x")),
      ("name", .int 1)])
  else none

end Sample

/-- A create request with a title and a `name` that is a number is refused, and opens a lobby. -/
theorem refused_and_open :
    ¬ ∀ (parse : Bytes → Option Json) (inputs : List Input) (d : Datagram),
      Atomic parse ((lobbyServer parse).run .start inputs) d := by
  intro h
  let served := LobbyServer.start.serveMatchmaker Sample.parseUnnamed (Sample.request Sample.unnamedText 1000 Sample.secret)
  have hopen : served.1.lobbies.any (·.active) = true := by decide +kernel
  have hfree : LobbyServer.start.lobbies.any (·.active) = false := by decide +kernel
  have hrefused : served.2.any (fun o => o.isReply && !o.isOkReply) = true := by decide +kernel
  obtain ⟨o, ho, hno⟩ := List.any_eq_true.1 hrefused
  cases o with
  | reply ip port reply =>
    have hno' : saysOk reply = false := by simpa [Output.isReply, Output.isOkReply] using hno
    obtain ⟨hsame, -⟩ := h Sample.parseUnnamed [] _ ip port reply ho hno'
    have hopen' : LobbyServer.start.lobbies.any (·.active) = true := hsame ▸ hopen
    rw [hfree] at hopen'
    cases hopen'
  | _ => cases hno

end Sf4e.Server
