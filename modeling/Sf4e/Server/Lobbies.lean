import Sf4e.Server.Exceptions
import Sf4e.Session.Members
/-!
# What an input does to the lobbies

`Served` lists what a datagram does to the table and what is replied;
`LobbyStep` what any input does to one lobby. The theorems about the lobby
server are case analyses over the two.
-/
open Sf4e.Lib Sf4e.Session

namespace Sf4e.Server

/-! ## A datagram -/

/-- The part of a datagram that is parsed. -/
def Datagram.text (d : Datagram) : Bytes := (d.data.take 1499).takeWhile (· ≠ 0)

/-- The request is one of the matchmaker's operations. -/
structure Asks (req : Json) (op : String) : Prop where
  type : ∃ type, str req "type" "" = .ok type ∧ type ≠ ascii "stun"
  op : str req "op" "" = .ok (ascii op)

/-- A datagram that asks for a lobby. -/
structure AsksCreate (parse : Bytes → Option Json) (d : Datagram) (req : Json) (r : CreateRequest) : Prop where
  text : parse d.text = some req
  asks : Asks req "create"
  read : CreateRequest.ofJson req = .ok (some r)

/-- A request of this address releases the lobby: its creator's, and nobody is in it. -/
def Lobby.ownEmpty (l : Lobby) (ip : UInt32) : Bool := l.active && l.creatorIp = ip && l.memberCount = 0

/-- The lobby after a create request has released its address's empty lobbies. -/
def Lobby.yield (l : Lobby) (d : Datagram) : Lobby × List Output :=
  if l.ownEmpty d.ip then l.reset d.now d.time else (l, [])

theorem yield_cases (l : Lobby) (d : Datagram) :
    (l.ownEmpty d.ip = true ∧ l.yield d = l.reset d.now d.time) ∨ (l.ownEmpty d.ip = false ∧ l.yield d = (l, [])) := by
  unfold Lobby.yield
  cases h : l.ownEmpty d.ip with
  | true => exact .inl ⟨rfl, rfl⟩
  | false => exact .inr ⟨rfl, rfl⟩

namespace LobbyServer

theorem releaseOwn_eq (lobbies : List Lobby) (d : Datagram) :
    releaseOwn lobbies d.ip d.now d.time = lobbies.map (·.yield d) := rfl

/-- The table after that. -/
def yielded (s : LobbyServer) (d : Datagram) : List Lobby := s.lobbies.map fun l => (l.yield d).1

/-- What that sends. -/
def yieldOut (s : LobbyServer) (d : Datagram) : List Output := s.lobbies.flatMap fun l => (l.yield d).2

end LobbyServer

/-- What a create request is told that got lobby `l`: the log line reads the name
after everything is done. -/
def createReply (req : Json) (l : Lobby) : Json :=
  match str req "name" "?" with
  | .ok _ => admission l
  | .error _ => refusal "bad_request"

/-- The table and the outputs after a datagram. -/
inductive Served (parse : Bytes → Option Json) (s : LobbyServer) (d : Datagram) : List Lobby → List Output → Prop where
  | silent : Served parse s d s.lobbies []
  | refused {error : String} : Served parse s d s.lobbies [.reply d.ip d.port (refusal error)]
  | stun {req : Json} (htext : parse d.text = some req) (htype : str req "type" "" = .ok (ascii "stun")) :
      Served parse s d s.lobbies [.reply d.ip d.port (LobbyServer.stunReply d)]
  | ping {s' : LobbyServer} {req : Json} {browsing : Nat} (hs : s'.lobbies = s.lobbies)
      (htext : parse d.text = some req) (hasks : Asks req "ping") :
      Served parse s d s.lobbies [.reply d.ip d.port (s'.pingReply browsing)]
  | list {s' : LobbyServer} {req : Json} {browsing : Nat} (hs : s'.lobbies = s.lobbies)
      (htext : parse d.text = some req) (hasks : Asks req "list") :
      Served parse s d s.lobbies [.reply d.ip d.port (s'.listReply d.now browsing)]
  | join {req : Json} {code : Bytes} {l : Lobby} (htext : parse d.text = some req) (hasks : Asks req "join")
      (hread : str req "code" "" = .ok code) (hfind : findByCode s.lobbies (upper code) = some l)
      (hhash : str req "hash" "" = .ok l.hash) : Served parse s d s.lobbies [.reply d.ip d.port (admission l)]
  | full {req : Json} {r : CreateRequest} (hasks : AsksCreate parse d req r)
      (hwhy : LobbyServer.heldBy s.lobbies d.ip ≥ MAX_LOBBIES_PER_IP ∨ ∀ l ∈ s.yielded d, l.active = true) :
      Served parse s d (s.yielded d) (s.yieldOut d ++ [.reply d.ip d.port (refusal "server_full")])
  | create {req : Json} {r : CreateRequest} {i : Nat} {l : Lobby} {code : Bytes} (hasks : AsksCreate parse d req r)
      (hcap : LobbyServer.heldBy s.lobbies d.ip < MAX_LOBBIES_PER_IP) (hl : (s.yielded d)[i]? = some l)
      (hfree : l.active = false) (hcode : newCode (s.yielded d) d.codes = some code) :
      Served parse s d ((s.yielded d).set i (LobbyServer.activate l r code d).1)
        (s.yieldOut d ++ (LobbyServer.activate l r code d).2 ++
          [.reply d.ip d.port (createReply req (LobbyServer.activate l r code d).1)])

/-- The buckets and the browsers have no say in it. -/
theorem Served.congr {parse : Bytes → Option Json} {s s' : LobbyServer} {d : Datagram} {lobbies : List Lobby}
    {out : List Output} (hs : s'.lobbies = s.lobbies) (h : Served parse s' d lobbies out) :
    Served parse s d lobbies out := by
  have hy : s'.yielded d = s.yielded d := by rw [LobbyServer.yielded, LobbyServer.yielded, hs]
  have ho : s'.yieldOut d = s.yieldOut d := by rw [LobbyServer.yieldOut, LobbyServer.yieldOut, hs]
  cases h with
  | silent => rw [hs]; exact .silent
  | refused => rw [hs]; exact .refused
  | stun htext htype => rw [hs]; exact .stun htext htype
  | ping h htext hasks => rw [hs]; exact .ping (h.trans hs) htext hasks
  | list h htext hasks => rw [hs]; exact .list (h.trans hs) htext hasks
  | join htext hasks hread hfind hhash =>
    rw [hs] at hfind ⊢
    exact .join htext hasks hread hfind hhash
  | full hasks hwhy =>
    rw [hs, hy] at hwhy
    rw [hy, ho]
    exact .full hasks hwhy
  | create hasks hcap hl hfree hcode =>
    rw [hs] at hcap
    rw [hy] at hl hcode ⊢
    rw [ho]
    exact .create hasks hcap hl hfree hcode

namespace LobbyServer

theorem served_join {parse : Bytes → Option Json} {s : LobbyServer} {d : Datagram} {req reply : Json}
    (htext : parse d.text = some req) (hasks : Asks req "join") (h : s.onJoin req = .ok reply) :
    Served parse s d s.lobbies [.reply d.ip d.port reply] := by
  unfold onJoin at h
  obtain ⟨code, hread, h⟩ := bind_ok h
  dsimp only at h
  obtain ⟨spectate, -, h⟩ := bind_ok h
  split at h
  · -- no such code
    cases h
    exact .refused
  · rename_i l hfind
    split at h
    · -- both seats are taken
      cases h
      exact .refused
    · split at h
      · -- no room to watch
        cases h
        exact .refused
      · obtain ⟨hash, hhash, h⟩ := bind_ok h
        split at h
        · -- another build
          cases h
          exact .refused
        · rename_i hsame
          obtain ⟨who, -, h⟩ := bind_ok h
          cases h
          have heq : hash = l.hash := by
            by_contra hne
            simp [hne] at hsame
          exact .join htext hasks hread hfind (heq ▸ hhash)

/-- The reply to a request, an exception included. -/
def replyOf : Except JsonError Json → Json
  | .ok reply => reply
  | .error _ => refusal "bad_request"

/-- What a create request comes to, once it is read. -/
inductive Created (s : LobbyServer) (req : Json) (r : CreateRequest) (d : Datagram) :
    Option (LobbyServer × List Output × Except JsonError Json) → Prop where
  | full (hwhy : heldBy s.lobbies d.ip ≥ MAX_LOBBIES_PER_IP ∨ ∀ l ∈ s.yielded d, l.active = true) :
      Created s req r d (some ({ s with lobbies := s.yielded d }, s.yieldOut d, .ok (refusal "server_full")))
  | opened {i : Nat} {l : Lobby} {code : Bytes} (hcap : heldBy s.lobbies d.ip < MAX_LOBBIES_PER_IP)
      (hl : (s.yielded d)[i]? = some l) (hfree : l.active = false) (hcode : newCode (s.yielded d) d.codes = some code) :
      Created s req r d (some ({ s with lobbies := (s.yielded d).set i (activate l r code d).1 },
        s.yieldOut d ++ (activate l r code d).2, do
          let _ ← str req "name" "?"
          return admission (activate l r code d).1))
  | drawing (hcode : newCode (s.yielded d) d.codes = none) : Created s req r d none

theorem created (s : LobbyServer) (req : Json) (r : CreateRequest) (d : Datagram) :
    Created s req r d (s.onCreate req r d) := by
  have hmap : (releaseOwn s.lobbies d.ip d.now d.time).map (·.1) = s.yielded d := by
    rw [releaseOwn_eq, List.map_map]
    rfl
  have hout : (releaseOwn s.lobbies d.ip d.now d.time).flatMap (·.2) = s.yieldOut d := by
    rw [releaseOwn_eq, List.flatMap_map]
    rfl
  unfold onCreate
  simp only [hmap, hout]
  split
  · rename_i hcap
    exact .full (.inl hcap)
  · rename_i hcap
    split
    · rename_i hnone
      refine .full (.inr fun l hl => ?_)
      simpa using List.findIdx?_eq_none_iff.1 hnone l hl
    · rename_i i hfound
      obtain ⟨hlt, hfree, -⟩ := List.findIdx?_eq_some_iff_getElem.1 hfound
      have hl := List.getElem?_eq_getElem hlt
      rw [hl]
      cases hcode : newCode (s.yielded d) d.codes with
      | none => exact .drawing hcode
      | some code => exact .opened (Nat.lt_of_not_le hcap) hl (by simpa using hfree) hcode

theorem served_create {parse : Bytes → Option Json} {s : LobbyServer} {d : Datagram} {req : Json} {r : CreateRequest}
    (hasks : AsksCreate parse d req r) {s' : LobbyServer} {out : List Output} {reply : Except JsonError Json}
    (h : s.onCreate req r d = some (s', out, reply)) :
    Served parse s d s'.lobbies (out ++ [.reply d.ip d.port (replyOf reply)]) := by
  have hcreated := created s req r d
  rw [h] at hcreated
  cases hcreated with
  | full hwhy => exact .full hasks hwhy
  | @opened i l code hcap hl hfree hcode =>
    have hreply : replyOf (do
        let _ ← str req "name" "?"
        return admission (activate l r code d).1) = createReply req (activate l r code d).1 := by
      unfold createReply
      cases str req "name" "?" <;> rfl
    rw [hreply]
    exact .create hasks hcap hl hfree hcode

theorem served_matchmaker {parse : Bytes → Option Json} {s : LobbyServer} {d : Datagram} {req : Json}
    (htext : parse d.text = some req) {s' : LobbyServer} {out : List Output} {reply : Except JsonError Json}
    (h : s.handleMatchmaker req d = some (s', out, reply)) :
    Served parse s d s'.lobbies (out ++ [.reply d.ip d.port (replyOf reply)]) := by
  unfold handleMatchmaker at h
  split at h
  · -- `type` is not a string
    cases h
    exact .refused
  · rename_i type htype
    split at h
    · rename_i hstun
      cases h
      exact .stun htext (hstun ▸ htype)
    · rename_i hstun
      split at h
      · cases h
        exact .refused
      · rename_i op hop
        have hasks : ∀ {name : String}, op = ascii name → Asks req name := by
          rintro name rfl
          exact ⟨⟨type, htype, hstun⟩, hop⟩
        split at h
        · rename_i heq
          cases h
          have hs : (s.countBrowsing d.ip d.now).1.lobbies = s.lobbies := rfl
          exact .ping hs htext (hasks heq)
        · split at h
          · rename_i heq
            split at h
            · cases h
              exact .refused
            · cases h
              exact .refused
            · rename_i r hr
              exact served_create ⟨htext, hasks heq, hr⟩ h
          · split at h
            · rename_i heq
              cases h
              have hs : (s.countBrowsing d.ip d.now).1.lobbies = s.lobbies := rfl
              exact .list hs htext (hasks heq)
            · split at h
              · rename_i heq
                cases h
                cases hjoin : s.onJoin req with
                | error => exact .refused
                | ok reply => exact served_join htext (hasks heq) hjoin
              · cases h
                exact .refused

/-- Every datagram is served in one of these ways. -/
theorem served (parse : Bytes → Option Json) (s : LobbyServer) (d : Datagram) :
    Served parse s d (s.serveMatchmaker parse d).1.lobbies (s.serveMatchmaker parse d).2 := by
  have hallow := allowMatchmaker_lobbies s d.ip d.now
  unfold serveMatchmaker
  split
  · exact .silent
  · dsimp only
    split
    · dsimp only
      rw [hallow]
      exact .silent
    · split
      · dsimp only
        rw [hallow]
        exact .refused
      · rename_i req htext
        split
        · exact .silent
        · rename_i s' out reply hm
          exact (served_matchmaker htext hm).congr hallow
        · rename_i s' out e hm
          exact (served_matchmaker htext hm).congr hallow

end LobbyServer

/-! ## The reply -/

def Output.isReply : Output → Bool
  | .reply _ _ _ => true
  | _ => false

/-- What is done to a lobby is not a reply. -/
theorem no_reply_yieldOut {s : LobbyServer} {d : Datagram} : ∀ o ∈ s.yieldOut d, o.isReply = false := by
  intro o ho
  obtain ⟨l, -, ho⟩ := List.mem_flatMap.1 ho
  rcases yield_cases l d with ⟨hown, heq⟩ | ⟨-, heq⟩ <;> rw [heq] at ho
  · simp only [Lobby.ownEmpty, Bool.and_eq_true, decide_eq_true_eq] at hown
    simp only [Lobby.reset, Lobby.host, hown.1.1, if_true, List.mem_append, List.mem_cons, List.mem_map,
      List.not_mem_nil, or_false] at ho
    rcases ho with rfl | rfl | ⟨o', -, rfl⟩ <;> rfl
  · cases ho

theorem no_reply_activate {l : Lobby} {r : CreateRequest} {code : Bytes} {d : Datagram} :
    ∀ o ∈ (LobbyServer.activate l r code d).2, o.isReply = false := by
  intro o ho
  simp only [LobbyServer.activate, Lobby.host, List.cons_append, List.mem_cons, List.mem_append, List.mem_map,
    List.not_mem_nil, or_false] at ho
  rcases ho with rfl | ⟨o', -, rfl⟩ | rfl <;> rfl

/-- What is replied, and the table then. -/
inductive Replied (parse : Bytes → Option Json) (s : LobbyServer) (d : Datagram) : List Lobby → Json → Prop where
  | refused {lobbies : List Lobby} {error : String} : Replied parse s d lobbies (refusal error)
  | stun {req : Json} (htext : parse d.text = some req) (htype : str req "type" "" = .ok (ascii "stun")) :
      Replied parse s d s.lobbies (LobbyServer.stunReply d)
  | ping {s' : LobbyServer} {req : Json} {browsing : Nat} (htext : parse d.text = some req) (hasks : Asks req "ping") :
      Replied parse s d s.lobbies (s'.pingReply browsing)
  | list {s' : LobbyServer} {req : Json} {browsing : Nat} (htext : parse d.text = some req) (hasks : Asks req "list") :
      Replied parse s d s.lobbies (s'.listReply d.now browsing)
  | join {req : Json} {code : Bytes} {l : Lobby} (htext : parse d.text = some req) (hasks : Asks req "join")
      (hread : str req "code" "" = .ok code) (hfind : findByCode s.lobbies (upper code) = some l) :
      Replied parse s d s.lobbies (admission l)
  | create {req : Json} {r : CreateRequest} {i : Nat} {l : Lobby} {code : Bytes} (hasks : AsksCreate parse d req r)
      (hl : (s.yielded d)[i]? = some l) :
      Replied parse s d ((s.yielded d).set i (LobbyServer.activate l r code d).1)
        (createReply req (LobbyServer.activate l r code d).1)

/-- A datagram gets one reply at most. -/
theorem Served.replied {parse : Bytes → Option Json} {s : LobbyServer} {d : Datagram} {lobbies : List Lobby}
    {out : List Output} (h : Served parse s d lobbies out) {ip : UInt32} {port : UInt16} {reply : Json}
    (hmem : .reply ip port reply ∈ out) : Replied parse s d lobbies reply := by
  have hone : ∀ {msg : Json}, .reply ip port reply ∈ [Output.reply d.ip d.port msg] → reply = msg := by
    intro msg hmem
    rw [List.mem_singleton, Output.reply.injEq] at hmem
    exact hmem.2.2
  cases h with
  | silent => cases hmem
  | refused => exact hone hmem ▸ .refused
  | stun htext htype => exact hone hmem ▸ .stun htext htype
  | ping _ htext hasks => exact hone hmem ▸ .ping htext hasks
  | list _ htext hasks => exact hone hmem ▸ .list htext hasks
  | join htext hasks hread hfind _ => exact hone hmem ▸ .join htext hasks hread hfind
  | full =>
    rcases List.mem_append.1 hmem with hmem | hmem
    · cases no_reply_yieldOut _ hmem
    · exact hone hmem ▸ .refused
  | create hasks _ hl =>
    rcases List.mem_append.1 hmem with hmem | hmem
    · rcases List.mem_append.1 hmem with hmem | hmem
      · cases no_reply_yieldOut _ hmem
      · cases no_reply_activate _ hmem
    · exact hone hmem ▸ .create hasks hl

/-! ## One lobby -/

/-- What the input has the session server of a lobby do. -/
def Input.act? (parse : Bytes → Option Json) : Input → Option (Nat × Act)
  | .message i m => some (i, .message (m.read parse))
  | .endStep i tick => some (i, .endStep tick)
  | .connecting i conn ip ok => some (i, .event (.connecting conn ip ok))
  | .closed i conn was => some (i, .event (.closed conn was))
  | .datagram _ => none
  | .housekeeping _ _ _ => none

/-- The action is not one the lobby server takes by itself. -/
def FromOutside : Act → Prop
  | .event (.create _ _ _) => False
  | .event .release => False
  | _ => True

theorem fromOutside_of_act {parse : Bytes → Option Json} {input : Input} {i : Nat} {a : Act}
    (h : input.act? parse = some (i, a)) : FromOutside a := by
  cases input <;> simp only [Input.act?, Option.some.injEq, Prod.mk.injEq, reduceCtorEq] at h
  all_goals
    obtain ⟨-, rfl⟩ := h
    trivial

/-- The register of a lobby that has been cleared. -/
theorem register_reset (l : Lobby) (now : UInt64) (time : Int) :
    (l.reset now time).1.server.server.register =
      { l.server.server.register with members := [], cidMap := [], sidecarHash := [], joinSecret := [] } :=
  l.server.server.register_release

theorem register_activate (l : Lobby) (r : CreateRequest) (code : Bytes) (d : Datagram) :
    (LobbyServer.activate l r code d).1.server.server.register =
      { l.server.server.register with members := [], cidMap := [], sidecarHash := r.hash, joinSecret := d.secret.text } :=
  l.server.server.register_create r.hash d.secret.text r.isPublic

theorem clients_of_register {s : SessionServer} (h : s.register.members = []) : s.clients = [] := List.map_eq_nil_iff.1 h

theorem clients_reset (l : Lobby) (now : UInt64) (time : Int) : (l.reset now time).1.server.server.clients = [] :=
  clients_of_register (congrArg Register.members (register_reset l now time))

theorem clients_activate (l : Lobby) (r : CreateRequest) (code : Bytes) (d : Datagram) :
    (LobbyServer.activate l r code d).1.server.server.clients = [] :=
  clients_of_register (congrArg Register.members (register_activate l r code d))

/-- The housekeeping releases the lobby at `now`. -/
def Lobby.expired (l : Lobby) (now : UInt64) : Prop :=
  (l.memberCount = 0 ∧ now - l.lastNonEmpty > EMPTY_LOBBY_TIMEOUT_MS) ∨ now - l.createdAt > MAX_LOBBY_AGE_MS

/-- What an input does to the lobby at an index, unless it opens it. -/
inductive LobbyStep (parse : Bytes → Option Json) (i : Nat) (l : Lobby) : Input → Lobby → Prop where
  | same {input : Input}
      (hno : ∀ now time, input = .housekeeping i now time → l.active = true → l.memberCount = 0) :
      LobbyStep parse i l input l
  | acts {input : Input} {a : Act} (h : input.act? parse = some (i, a)) : LobbyStep parse i l input (l.act a).1
  | seen {now : UInt64} {time : Int} (hactive : l.active = true) (hin : l.memberCount > 0) :
      LobbyStep parse i l (.housekeeping i now time) { l with lastNonEmpty := now }
  | expires {now : UInt64} {time : Int} (hactive : l.active = true) (hexp : l.expired now) :
      LobbyStep parse i l (.housekeeping i now time) (l.reset now time).1
  | yields {d : Datagram} {req : Json} {r : CreateRequest} (hasks : AsksCreate parse d req r)
      (hown : l.ownEmpty d.ip = true) : LobbyStep parse i l (.datagram d) (l.reset d.now d.time).1

/-- The input opens the lobby, which was free or is its address's own. -/
inductive Opens (parse : Bytes → Option Json) (l : Lobby) : Input → Lobby → Prop where
  | create {d : Datagram} {req : Json} {r : CreateRequest} {code : Bytes} (hasks : AsksCreate parse d req r)
      (hfree : (l.yield d).1.active = false) (hcode : code ∈ d.codes.map CodeDraw.text) :
      Opens parse l (.datagram d) (LobbyServer.activate (l.yield d).1 r code d).1

/-- The lobby a `lobby_created` line is about. -/
def Output.opened? : Output → Option Nat
  | .logStat (.lobbyCreated i) _ => some i
  | _ => none

/-- The lobby a step opens. -/
def openedAt (out : List Output) : Option Nat := out.findSome? Output.opened?

/-- Every lobby knows its place. -/
def Indexed (s : LobbyServer) : Prop := ∀ (i : Nat) (l : Lobby), s.lobbies[i]? = some l → l.index = i

theorem not_opened {out : List Output} (h : openedAt out = none) (i : Nat) : openedAt out ≠ some i := by
  rw [h]
  exact fun hc => by cases hc

theorem openedAt_append (out out' : List Output) : openedAt (out ++ out') = (openedAt out).or (openedAt out') :=
  List.findSome?_append

theorem openedAt_session (index : Nat) (out : List Out) : openedAt (out.map (.session index)) = none := by
  refine List.findSome?_eq_none_iff.2 fun o ho => ?_
  obtain ⟨o', -, rfl⟩ := List.mem_map.1 ho
  rfl

theorem openedAt_reset (l : Lobby) (now : UInt64) (time : Int) : openedAt (l.reset now time).2 = none := by
  have hsession := openedAt_session l.index
  simp only [Lobby.reset, openedAt_append, Lobby.host]
  cases l.active with
  | true => exact hsession _
  | false => exact hsession _

theorem openedAt_yieldOut (s : LobbyServer) (d : Datagram) : openedAt (s.yieldOut d) = none := by
  refine List.findSome?_eq_none_iff.2 fun o ho => ?_
  obtain ⟨l, -, ho⟩ := List.mem_flatMap.1 ho
  unfold Lobby.yield at ho
  split at ho
  · exact List.findSome?_eq_none_iff.1 (openedAt_reset l d.now d.time) o ho
  · cases ho

theorem openedAt_activate (l : Lobby) (r : CreateRequest) (code : Bytes) (d : Datagram) :
    openedAt (LobbyServer.activate l r code d).2 = some l.index := by
  have hsession := openedAt_session l.index
  simp only [LobbyServer.activate, Lobby.host, List.cons_append]
  rw [← List.singleton_append, openedAt_append, openedAt_append, hsession]
  rfl

/-- The housekeeping does one thing at most. -/
theorem housekeeping_cases (l : Lobby) (now : UInt64) (time : Int) :
    ((l.active = true → l.memberCount = 0) ∧ l.housekeeping now time = (l, [])) ∨
      (l.active = true ∧ l.memberCount > 0 ∧ l.housekeeping now time = ({ l with lastNonEmpty := now }, [])) ∨
      (l.active = true ∧ l.expired now ∧ l.housekeeping now time = l.reset now time) := by
  have hinactive : (l.reset now time).1.active = false := rfl
  unfold Lobby.housekeeping
  by_cases hactive : l.active = true
  · by_cases hin : l.memberCount > 0
    · by_cases hold : now - l.createdAt > MAX_LOBBY_AGE_MS
      · -- too old, whoever is in it
        refine .inr (.inr ⟨hactive, .inr hold, ?_⟩)
        have hboth : (l.active && now - l.createdAt > MAX_LOBBY_AGE_MS) = true := by simp [hactive, hold]
        rw [if_neg (by simp [hactive]), if_pos hin]
        dsimp only
        rw [if_pos hboth]
        rfl
      · refine .inr (.inl ⟨hactive, hin, ?_⟩)
        simp [hactive, hin, hold]
    · have hempty : l.memberCount = 0 := by omega
      by_cases htimeout : now - l.lastNonEmpty > EMPTY_LOBBY_TIMEOUT_MS
      · refine .inr (.inr ⟨hactive, .inl ⟨hempty, htimeout⟩, ?_⟩)
        simp [hactive, hempty, htimeout, hinactive]
      · by_cases hold : now - l.createdAt > MAX_LOBBY_AGE_MS
        · refine .inr (.inr ⟨hactive, .inr hold, ?_⟩)
          simp [hactive, hempty, htimeout, hold]
        · refine .inl ⟨fun _ => hempty, ?_⟩
          simp [hactive, hempty, htimeout, hold]
  · refine .inl ⟨fun hon => absurd hon hactive, ?_⟩
    simp [hactive]

theorem yield_index (l : Lobby) (d : Datagram) : (l.yield d).1.index = l.index := by
  rcases yield_cases l d with ⟨-, heq⟩ | ⟨-, heq⟩ <;> rw [heq]
  rfl

theorem getElem?_yielded {s : LobbyServer} (d : Datagram) (i : Nat) :
    (s.yielded d)[i]? = (s.lobbies[i]?).map fun l => (l.yield d).1 := List.getElem?_map

theorem lobbyStep_yield {parse : Bytes → Option Json} {d : Datagram} {req : Json} {r : CreateRequest}
    (hasks : AsksCreate parse d req r) (i : Nat) (l : Lobby) :
    LobbyStep parse i l (.datagram d) (l.yield d).1 := by
  rcases yield_cases l d with ⟨hown, heq⟩ | ⟨-, heq⟩
  · rw [heq]
    exact .yields hasks hown
  · rw [heq]
    exact .same fun _ _ hc => by cases hc

/-- What a step does to the lobby at `i`. -/
def StepsTo (parse : Bytes → Option Json) (i : Nat) (l : Lobby) (input : Input) (lobbies : List Lobby)
    (out : List Output) : Prop :=
  ∃ l', lobbies[i]? = some l' ∧
    ((openedAt out ≠ some i ∧ LobbyStep parse i l input l') ∨ (openedAt out = some i ∧ Opens parse l input l'))

theorem stepsTo_served {parse : Bytes → Option Json} {s : LobbyServer} (hs : Indexed s) {d : Datagram}
    {lobbies : List Lobby} {out : List Output} (h : Served parse s d lobbies out) {i : Nat} {l : Lobby}
    (hl : s.lobbies[i]? = some l) : StepsTo parse i l (.datagram d) lobbies out := by
  have hyield : (s.yielded d)[i]? = some (l.yield d).1 := by rw [getElem?_yielded, hl]; rfl
  cases h with
  | full hasks =>
    refine ⟨_, hyield, .inl ⟨not_opened ?_ i, lobbyStep_yield hasks i l⟩⟩
    rw [openedAt_append, openedAt_yieldOut]
    rfl
  | @create req r j l' code hasks hcap hl' hfree hcode =>
    have hindex : l'.index = j := by
      rw [getElem?_yielded] at hl'
      obtain ⟨e, he, rfl⟩ := Option.map_eq_some_iff.1 hl'
      exact (yield_index e d).trans (hs j e he)
    have hopened : openedAt (s.yieldOut d ++ (LobbyServer.activate l' r code d).2 ++
        [.reply d.ip d.port (createReply req (LobbyServer.activate l' r code d).1)]) = some j := by
      rw [openedAt_append, openedAt_append, openedAt_yieldOut, openedAt_activate, hindex]
      rfl
    by_cases hij : j = i
    · subst hij
      obtain rfl : (l.yield d).1 = l' := by
        rw [hyield, Option.some.injEq] at hl'
        exact hl'
      have hlt := (List.getElem?_eq_some_iff.1 hyield).1
      exact ⟨_, List.getElem?_set_self hlt, .inr ⟨hopened, .create hasks hfree (List.mem_of_find?_eq_some hcode)⟩⟩
    · refine ⟨_, (List.getElem?_set_ne hij).trans hyield, .inl ⟨?_, lobbyStep_yield hasks i l⟩⟩
      rw [hopened]
      exact fun heq => hij (Option.some.inj heq)
  | _ => exact ⟨l, hl, .inl ⟨not_opened rfl i, .same fun _ _ hc => by cases hc⟩⟩

theorem stepsTo_onLobby {parse : Bytes → Option Json} {s : LobbyServer} {input : Input} {index : Nat}
    {f : Lobby → Lobby × List Output} (hf : ∀ l, openedAt (f l).2 = none ∧ LobbyStep parse index l input (f l).1)
    (hat : ∀ i now time, input = .housekeeping i now time → index = i) {i : Nat} {l : Lobby}
    (hl : s.lobbies[i]? = some l) :
    StepsTo parse i l input (s.onLobby index f).1.lobbies (s.onLobby index f).2 := by
  unfold LobbyServer.onLobby
  by_cases hi : index = i
  · subst hi
    rw [hl]
    have hlt := (List.getElem?_eq_some_iff.1 hl).1
    exact ⟨_, List.getElem?_set_self hlt, .inl ⟨not_opened (hf l).1 _, (hf l).2⟩⟩
  · have hsame : LobbyStep parse i l input l := .same fun now time heq => absurd (hat i now time heq) hi
    cases s.lobbies[index]? with
    | none => exact ⟨l, hl, .inl ⟨not_opened rfl i, hsame⟩⟩
    | some e => exact ⟨l, (List.getElem?_set_ne hi).trans hl, .inl ⟨not_opened (hf e).1 i, hsame⟩⟩

/-- Every input does one of these things to each lobby. -/
theorem stepsTo_of (parse : Bytes → Option Json) {s : LobbyServer} (hs : Indexed s) (input : Input) {i : Nat}
    {l : Lobby} (hl : s.lobbies[i]? = some l) :
    StepsTo parse i l input ((lobbyServer parse).next s input).1.lobbies ((lobbyServer parse).next s input).2 := by
  cases input with
  | message index m => exact stepsTo_onLobby (fun _ => ⟨openedAt_session _ _, .acts rfl⟩) (fun _ _ _ hc => by cases hc) hl
  | endStep index tick => exact stepsTo_onLobby (fun _ => ⟨openedAt_session _ _, .acts rfl⟩) (fun _ _ _ hc => by cases hc) hl
  | connecting index conn ip ok =>
    exact stepsTo_onLobby (fun _ => ⟨openedAt_session _ _, .acts rfl⟩) (fun _ _ _ hc => by cases hc) hl
  | closed index conn was => exact stepsTo_onLobby (fun _ => ⟨openedAt_session _ _, .acts rfl⟩) (fun _ _ _ hc => by cases hc) hl
  | datagram d => exact stepsTo_served hs (LobbyServer.served parse s d) hl
  | housekeeping index now time =>
    refine stepsTo_onLobby (fun l => ?_) (fun _ _ _ hc => by cases hc; rfl) hl
    rcases housekeeping_cases l now time with ⟨hno, heq⟩ | ⟨hactive, hin, heq⟩ | ⟨hactive, hexp, heq⟩ <;> rw [heq]
    · exact ⟨rfl, .same fun _ _ _ => hno⟩
    · exact ⟨rfl, .seen hactive hin⟩
    · exact ⟨openedAt_reset l now time, .expires hactive hexp⟩

theorem openedAt_onLobby {s : LobbyServer} {index : Nat} {f : Lobby → Lobby × List Output}
    (hf : ∀ l, openedAt (f l).2 = none) : openedAt (s.onLobby index f).2 = none := by
  unfold LobbyServer.onLobby
  cases s.lobbies[index]? with
  | none => rfl
  | some l => exact hf l

/-- Only a datagram opens a lobby. -/
theorem opened_by_datagram {parse : Bytes → Option Json} {s : LobbyServer} {input : Input}
    (h : openedAt ((lobbyServer parse).next s input).2 ≠ none) : ∃ d, input = .datagram d := by
  cases input with
  | datagram d => exact ⟨d, rfl⟩
  | message index m => exact absurd (openedAt_onLobby fun _ => openedAt_session _ _) h
  | endStep index tick => exact absurd (openedAt_onLobby fun _ => openedAt_session _ _) h
  | connecting index conn ip ok => exact absurd (openedAt_onLobby fun _ => openedAt_session _ _) h
  | closed index conn was => exact absurd (openedAt_onLobby fun _ => openedAt_session _ _) h
  | housekeeping index now time =>
    refine absurd (openedAt_onLobby fun l => ?_) h
    rcases housekeeping_cases l now time with ⟨-, heq⟩ | ⟨-, -, heq⟩ | ⟨-, -, heq⟩ <;> rw [heq]
    · rfl
    · rfl
    · exact openedAt_reset l now time

theorem length_next (parse : Bytes → Option Json) (s : LobbyServer) (input : Input) :
    ((lobbyServer parse).next s input).1.lobbies.length = s.lobbies.length := by
  have hone : ∀ index f, (s.onLobby index f).1.lobbies.length = s.lobbies.length := by
    intro index f
    unfold LobbyServer.onLobby
    cases s.lobbies[index]? with
    | none => rfl
    | some l => exact List.length_set
  cases input with
  | datagram d =>
    have h := LobbyServer.served parse s d
    have hy : (s.yielded d).length = s.lobbies.length := List.length_map _
    have hnext : ((lobbyServer parse).next s (.datagram d)).1.lobbies = (s.serveMatchmaker parse d).1.lobbies := rfl
    rw [hnext]
    generalize (s.serveMatchmaker parse d).1.lobbies = lobbies at h
    generalize (s.serveMatchmaker parse d).2 = out at h
    cases h with
    | full => exact hy
    | create => rw [List.length_set, hy]
    | _ => rfl
  | message index m => exact hone index _
  | endStep index tick => exact hone index _
  | connecting index conn ip ok => exact hone index _
  | closed index conn was => exact hone index _
  | housekeeping index now time => exact hone index _

/-- A lobby after a step was there before it. -/
theorem stepped_from (parse : Bytes → Option Json) {s : LobbyServer} (hs : Indexed s) (input : Input) {i : Nat}
    {l' : Lobby} (hl' : ((lobbyServer parse).next s input).1.lobbies[i]? = some l') :
    ∃ l, s.lobbies[i]? = some l ∧
      ((openedAt ((lobbyServer parse).next s input).2 ≠ some i ∧ LobbyStep parse i l input l') ∨
        (openedAt ((lobbyServer parse).next s input).2 = some i ∧ Opens parse l input l')) := by
  have hlt := (List.getElem?_eq_some_iff.1 hl').1
  rw [length_next] at hlt
  have hl := List.getElem?_eq_getElem hlt
  obtain ⟨l'', hl'', hcases⟩ := stepsTo_of parse hs input hl
  rw [hl', Option.some.injEq] at hl''
  subst hl''
  exact ⟨_, hl, hcases⟩

theorem LobbyStep.index_eq {parse : Bytes → Option Json} {i : Nat} {l l' : Lobby} {input : Input}
    (h : LobbyStep parse i l input l') : l'.index = l.index := by
  cases h <;> rfl

theorem Opens.index_eq {parse : Bytes → Option Json} {l l' : Lobby} {input : Input} (h : Opens parse l input l') :
    l'.index = l.index := by
  cases h with
  | create => exact yield_index l _

theorem indexed_next (parse : Bytes → Option Json) {s : LobbyServer} (hs : Indexed s) (input : Input) :
    Indexed ((lobbyServer parse).next s input).1 := by
  intro i l' hl'
  obtain ⟨l, hl, ⟨-, hstep⟩ | ⟨-, hopen⟩⟩ := stepped_from parse hs input hl'
  · rw [hstep.index_eq, hs i l hl]
  · rw [hopen.index_eq, hs i l hl]

theorem start_lobby {i : Nat} {l : Lobby} (h : LobbyServer.start.lobbies[i]? = some l) : l = Lobby.new i := by
  obtain ⟨hlt, heq⟩ := List.getElem?_eq_some_iff.1 h
  rw [← heq]
  simp [LobbyServer.start]

theorem indexed_start : Indexed .start := by
  intro i l hl
  rw [start_lobby hl]
  rfl

end Sf4e.Server
