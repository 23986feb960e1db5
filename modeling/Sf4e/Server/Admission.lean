import Sf4e.Server.Lobbies
import Sf4e.Session.Members
/-!
# Who gets into a lobby

A lobby slot is used again and again, each time under a new code and secret.
Whoever is in it has shown the secret and the hash of the current time, and
nobody gets in with the secret of an earlier one. A code is only looked up: it
leads to the lobby that has it now, and may be drawn again.
-/
open Sf4e.Lib Sf4e.Session

namespace Sf4e.Server

/-! ## What the session server lets in -/

/-- Nobody comes in, or one does by a join that is not refused. -/
theorem members_next (p : Stepping) {a : Act} (ha : FromOutside a) :
    (sessionServer.next p a).1.server.register.members ⊆ p.server.register.members ∧
        (sessionServer.next p a).1.server.clients.length ≤ p.server.clients.length ∨
      ∃ m cid request, a = .message m ∧ m.msg = .joinReq (some request) ∧ p.server.joinRefusal request = none ∧
        (sessionServer.next p a).1.server.register.members ⊆
          (p.server.newMember m.conn request m.peerAddr cid).standing :: p.server.register.members := by
  have hm := membership_of p a
  have hlen : ∀ s : SessionServer, s.clients.length = s.register.members.length := fun s => (List.length_map _).symm
  rw [hlen, hlen]
  generalize (sessionServer.next p a).1.server.register = r at hm
  cases hm with
  | same => exact .inl ⟨fun _ h => h, Nat.le_refl _⟩
  | hello => exact .inl ⟨fun _ h => h, Nat.le_refl _⟩
  | @join m cid request hcid hmsg hok =>
    exact .inr ⟨m, cid, request, rfl, hmsg, hok, ((p.server.seatMember_perm _).map _).subset⟩
  | moved hperm => exact .inl ⟨hperm.subset, Nat.le_of_eq hperm.length_eq⟩
  | leave => exact .inl ⟨List.eraseP_subset, List.length_eraseP_le⟩
  | lost => exact .inl ⟨fun _ h => h, Nat.le_refl _⟩
  | create => cases ha
  | release => cases ha

/-- What a join is judged by stays. -/
theorem gate_next (p : Stepping) {a : Act} (ha : FromOutside a) :
    (sessionServer.next p a).1.server.requireJoinSecret = p.server.requireJoinSecret ∧
      (sessionServer.next p a).1.server.joinSecret = p.server.joinSecret ∧
        (sessionServer.next p a).1.server.sidecarHash = p.server.sidecarHash := by
  have hm := membership_of p a
  have hgate : ∀ s : SessionServer, s.requireJoinSecret = s.register.requireJoinSecret ∧
      s.joinSecret = s.register.joinSecret ∧ s.sidecarHash = s.register.sidecarHash := fun _ => ⟨rfl, rfl, rfl⟩
  obtain ⟨h1, h2, h3⟩ := hgate (sessionServer.next p a).1.server
  rw [h1, h2, h3]
  generalize (sessionServer.next p a).1.server.register = r at hm
  cases hm with
  | @join m cid request hcid hmsg hok =>
    obtain ⟨g1, g2, g3⟩ := hgate (p.server.seatMember (p.server.newMember m.conn request m.peerAddr cid))
    rw [← g1, ← g2, ← g3]
    unfold SessionServer.seatMember
    split <;> exact ⟨rfl, rfl, rfl⟩
  | create => cases ha
  | release => cases ha
  | _ => exact ⟨rfl, rfl, rfl⟩

/-- A request that is not refused shows the secret, and the hash if there is one. -/
theorem shown_of_joinRefusal {s : SessionServer} {request : SessionJoinRequest} (hreq : s.requireJoinSecret = true)
    (hok : s.joinRefusal request = none) :
    s.joinSecret ≠ [] ∧ request.secret = s.joinSecret ∧ (s.sidecarHash ≠ [] → request.sidecarHash = s.sidecarHash) := by
  unfold SessionServer.joinRefusal at hok
  split at hok
  · cases hok
  · rename_i hsecret
    split at hok
    · cases hok
    · rename_i hhash
      simp only [hreq, Bool.true_and, Bool.or_eq_true, decide_eq_true_eq, not_or] at hsecret
      simp only [Bool.and_eq_true, decide_eq_true_eq, not_and, ne_eq, not_not] at hhash
      exact ⟨hsecret.1, by simpa using hsecret.2, hhash⟩

/-! ## Activations -/

abbrev History := List (Taken LobbyServer Input Output)

/-- A lobby is opened: under this code, with this secret, for this hash. -/
structure Activation where
  index : Nat
  code : Bytes
  secret : Bytes
  hash : Bytes
  deriving DecidableEq

/-- The hash a create request gives. -/
def requestedHash (parse : Bytes → Option Json) (d : Datagram) : Option Bytes :=
  match parse d.text with
  | none => none
  | some req =>
    match CreateRequest.ofJson req with
    | .ok (some r) => some r.hash
    | _ => none

/-- The activation a step makes: the code it gives the lobby, the secret drawn for it and
the hash of the request. -/
def activation (parse : Bytes → Option Json) (t : Taken LobbyServer Input Output) : Option Activation :=
  match t.act with
  | .datagram d =>
    match openedAt t.out, requestedHash parse d with
    | some i, some hash => (t.post.lobbies[i]?).map fun l => ⟨i, l.code, d.secret.text, hash⟩
    | _, _ => none
  | _ => none

/-- Newest first. -/
def activations (parse : Bytes → Option Json) (h : History) : List Activation := h.filterMap (activation parse)

/-- The latest activation of a lobby. -/
def current (parse : Bytes → Option Json) (h : History) (i : Nat) : Option Activation :=
  (activations parse h).find? fun a => a.index = i

/-- A message to the lobby asked to join under the member's name, with this secret and hash. -/
def Asked (parse : Bytes → Option Json) (h : History) (a : Activation) (m : SessionMember) : Prop :=
  ∃ t ∈ h, ∃ raw request, t.act = .message a.index raw ∧ raw.conn = m.conn ∧
    (raw.read parse).msg = .joinReq (some request) ∧ SessionServer.storedName request.username = m.data.name ∧
    request.secret = a.secret ∧ request.sidecarHash = a.hash

/-- Everybody in an active lobby has asked with what its current activation set, and
nobody is in another. -/
structure Admitted (parse : Bytes → Option Json) (h : History) (s : LobbyServer) : Prop where
  members : ∀ (i : Nat) (l : Lobby), s.lobbies[i]? = some l → l.active = true →
    ∃ a, current parse h i = some a ∧ ∀ m ∈ l.server.server.clients, Asked parse h a m
  empty : ∀ (i : Nat) (l : Lobby), s.lobbies[i]? = some l → l.active = false → l.server.server.clients = []

/-- The reply has `ok` set. -/
def saysOk (reply : Json) : Bool :=
  match reply.value (ascii "ok") Json.getBool false with
  | .ok b => b
  | .error _ => false

/-- A reply that says so. -/
def Output.isOkReply : Output → Bool
  | .reply _ _ msg => saysOk msg
  | _ => false

/-- Whoever is let in shows the secret of the lobby's current activation, which no other
activation had, and its hash; and the code of a join request that is answered is the
current code of an active lobby, whose secret the answer tells. -/
structure AdmitsCurrent (parse : Bytes → Option Json) (h : History) (s : LobbyServer) (input : Input) : Prop where
  secret : ∀ (i : Nat) (l l' : Lobby), s.lobbies[i]? = some l → ((lobbyServer parse).next s input).1.lobbies[i]? = some l' →
    l.memberCount < l'.memberCount →
      ∃ raw request a, input = .message i raw ∧ (raw.read parse).msg = .joinReq (some request) ∧ l.active = true ∧
        current parse h i = some a ∧ request.secret = a.secret ∧ request.sidecarHash = a.hash ∧
        ∀ b ∈ activations parse h, b.secret = request.secret → b = a
  code : ∀ d req ip port reply, input = .datagram d → parse d.text = some req → Asks req "join" →
    .reply ip port reply ∈ ((lobbyServer parse).next s input).2 → saysOk reply = true →
      ∃ i l a code, s.lobbies[i]? = some l ∧ l.active = true ∧ current parse h i = some a ∧
        str req "code" "" = .ok code ∧ upper code = a.code ∧ reply = admission l ∧ l.secret = a.secret

/-- The secret drawn for an activation has not been drawn for one before. -/
def FreshSecret (parse : Bytes → Option Json) (h : History) (s : LobbyServer) (input : Input) : Prop :=
  ∀ a ∈ activation parse ((lobbyServer parse).taken s input), ∀ b ∈ activations parse h, b.secret ≠ a.secret

instance (parse : Bytes → Option Json) (h : History) (s : LobbyServer) (input : Input) :
    Decidable (FreshSecret parse h s input) := by
  unfold FreshSecret
  infer_instance

/-! ## One lobby -/

/-- A lobby's own record, its session server and its latest activation agree. -/
structure Lobby.Gated (parse : Bytes → Option Json) (h : History) (i : Nat) (l : Lobby) : Prop where
  requires : l.server.server.requireJoinSecret = true
  secret : l.server.server.joinSecret = l.secret
  hash : l.server.server.sidecarHash = l.hash
  inactive : l.active = false → l.secret = [] ∧ l.server.server.clients = []
  active : l.active = true → l.hash ≠ [] ∧ current parse h i = some ⟨i, l.code, l.secret, l.hash⟩
  asked : ∀ m ∈ l.server.server.clients, Asked parse h ⟨i, l.code, l.secret, l.hash⟩ m

theorem Asked.older {parse : Bytes → Option Json} {h : History} {a : Activation} {m : SessionMember}
    (hm : Asked parse h a m) (t : Taken LobbyServer Input Output) : Asked parse (t :: h) a m := by
  obtain ⟨u, hu, hrest⟩ := hm
  exact ⟨u, List.mem_cons_of_mem _ hu, hrest⟩

/-- A join is asked for by the connection's name and number alone. -/
theorem Asked.of_standing {parse : Bytes → Option Json} {h : History} {a : Activation} {m m' : SessionMember}
    (hm : Asked parse h a m) (heq : m'.standing = m.standing) : Asked parse h a m' := by
  have hconn : m'.conn = m.conn := by
    calc m'.conn = m'.standing.conn := rfl
      _ = m.conn := by rw [heq]; rfl
  have hname : m'.data.name = m.data.name := by
    calc m'.data.name = m'.standing.data.name := rfl
      _ = m.data.name := by rw [heq]; rfl
  unfold Asked
  rw [hconn, hname]
  exact hm

theorem current_cons {parse : Bytes → Option Json} {h : History} {t : Taken LobbyServer Input Output} {i : Nat}
    (hne : ∀ a, activation parse t = some a → a.index ≠ i) : current parse (t :: h) i = current parse h i := by
  unfold current activations
  rw [List.filterMap_cons]
  cases ha : activation parse t with
  | none => rfl
  | some a => rw [List.find?_cons_of_neg (by simpa using hne a ha)]

theorem activation_index {parse : Bytes → Option Json} {t : Taken LobbyServer Input Output} {a : Activation}
    (h : activation parse t = some a) : openedAt t.out = some a.index := by
  unfold activation at h
  split at h
  · split at h
    · rename_i i hash hopen _
      obtain ⟨l, -, rfl⟩ := Option.map_eq_some_iff.1 h
      exact hopen
    · cases h
  · cases h

theorem Lobby.Gated.older {parse : Bytes → Option Json} {h : History} {i : Nat} {l : Lobby} (hl : l.Gated parse h i)
    {t : Taken LobbyServer Input Output} (hcur : current parse (t :: h) i = current parse h i) :
    l.Gated parse (t :: h) i where
  requires := hl.requires
  secret := hl.secret
  hash := hl.hash
  inactive := hl.inactive
  active hon := ⟨(hl.active hon).1, hcur.trans (hl.active hon).2⟩
  asked m hm := (hl.asked m hm).older t

theorem gated_cleared {parse : Bytes → Option Json} {h : History} {i : Nat} {l : Lobby}
    (hreq : l.server.server.requireJoinSecret = true) (now : UInt64) (time : Int) :
    (l.reset now time).1.Gated parse h i := by
  have hreg := register_reset l now time
  have hempty := clients_reset l now time
  exact {
    requires := (congrArg Register.requireJoinSecret hreg).trans hreq
    secret := congrArg Register.joinSecret hreg
    hash := congrArg Register.sidecarHash hreg
    inactive := fun _ => ⟨rfl, hempty⟩
    active := fun hc => by cases hc
    asked := by simp [hempty] }

theorem gated_acts {parse : Bytes → Option Json} {h : History} {i : Nat} {l : Lobby} (hl : l.Gated parse h i)
    {input : Input} {a : Act} (hact : input.act? parse = some (i, a)) {t : Taken LobbyServer Input Output}
    (ht : t.act = input) (hcur : current parse (t :: h) i = current parse h i) :
    (l.act a).1.Gated parse (t :: h) i := by
  have ha := fromOutside_of_act hact
  obtain ⟨hreq, hsecret, hhash⟩ := gate_next l.server ha
  have hclients : ∀ m ∈ (sessionServer.next l.server a).1.server.clients,
      Asked parse (t :: h) ⟨i, l.code, l.secret, l.hash⟩ m ∧ l.active = true := by
    intro m hm
    have hstand : m.standing ∈ (sessionServer.next l.server a).1.server.register.members := List.mem_map_of_mem hm
    have hold : ∀ m' ∈ l.server.server.clients, m'.standing = m.standing →
        Asked parse (t :: h) ⟨i, l.code, l.secret, l.hash⟩ m ∧ l.active = true := by
      intro m' hm' heq
      refine ⟨((hl.asked m' hm').of_standing heq.symm).older t, ?_⟩
      by_contra hoff
      rw [(hl.inactive (Bool.eq_false_iff.2 hoff)).2] at hm'
      cases hm'
    rcases members_next l.server ha with ⟨hsub, -⟩ | ⟨msg, cid, request, rfl, hmsg, hok, hsub⟩
    · obtain ⟨m', hm', heq⟩ := List.mem_map.1 (hsub hstand)
      exact hold m' hm' heq
    · obtain ⟨hne, hshown, hsame⟩ := shown_of_joinRefusal hl.requires hok
      have hactive : l.active = true := by
        by_contra hoff
        exact hne (hl.secret.trans (hl.inactive (Bool.eq_false_iff.2 hoff)).1)
      rcases List.mem_cons.1 (hsub hstand) with heq | hmem
      · -- the one who has just asked
        refine ⟨Asked.of_standing ?_ heq, hactive⟩
        cases input <;> simp only [Input.act?, Option.some.injEq, Prod.mk.injEq, reduceCtorEq, and_false] at hact
        obtain ⟨rfl, hread⟩ := hact
        rename_i raw
        obtain rfl : raw.read parse = msg := Act.message.inj hread
        refine ⟨t, List.mem_cons_self, raw, request, ht, rfl, hmsg, rfl, hshown.trans hl.secret, ?_⟩
        rw [hsame (hl.hash ▸ (hl.active hactive).1), hl.hash]
      · obtain ⟨m', hm', heq⟩ := List.mem_map.1 hmem
        exact hold m' hm' heq
  exact {
    requires := hreq.trans hl.requires
    secret := hsecret.trans hl.secret
    hash := hhash.trans hl.hash
    inactive := by
      intro hoff
      refine ⟨(hl.inactive hoff).1, List.eq_nil_iff_forall_not_mem.2 fun m hm => ?_⟩
      have hon := (hclients m hm).2
      rw [show l.active = false from hoff] at hon
      cases hon
    active := fun hon => ⟨(hl.active hon).1, hcur.trans (hl.active hon).2⟩
    asked := fun m hm => (hclients m hm).1 }

theorem hash_of_read {req : Json} {r : CreateRequest} (h : CreateRequest.ofJson req = .ok (some r)) : r.hash ≠ [] := by
  unfold CreateRequest.ofJson at h
  obtain ⟨hash, -, h⟩ := bind_ok h
  split at h
  · cases h
  · rename_i hne
    obtain ⟨isPublic, -, h⟩ := bind_ok h
    obtain ⟨title, -, h⟩ := bind_ok h
    dsimp only at h
    split at h
    · cases h
      exact hne
    · obtain ⟨who, -, h⟩ := bind_ok h
      cases h
      exact hne

theorem requestedHash_of_asks {parse : Bytes → Option Json} {d : Datagram} {req : Json} {r : CreateRequest}
    (h : AsksCreate parse d req r) : requestedHash parse d = some r.hash := by
  simp only [requestedHash, h.text, h.read]

theorem gated_opened {parse : Bytes → Option Json} {h : History} {i : Nat} {l : Lobby}
    (hreq : l.server.server.requireJoinSecret = true) {d : Datagram} {r : CreateRequest} {code : Bytes}
    (hne : r.hash ≠ []) (hcur : current parse h i = some ⟨i, code, d.secret.text, r.hash⟩) :
    (LobbyServer.activate l r code d).1.Gated parse h i := by
  have hreg := register_activate l r code d
  have hempty := clients_activate l r code d
  exact {
    requires := (congrArg Register.requireJoinSecret hreg).trans hreq
    secret := congrArg Register.joinSecret hreg
    hash := congrArg Register.sidecarHash hreg
    inactive := fun hc => by cases hc
    active := fun _ => ⟨hne, hcur⟩
    asked := by simp [hempty] }

/-! ## Every lobby -/

/-- The table, lobby by lobby. -/
structure AllGated (parse : Bytes → Option Json) (h : History) (s : LobbyServer) : Prop where
  indexed : Indexed s
  gated : ∀ (i : Nat) (l : Lobby), s.lobbies[i]? = some l → l.Gated parse h i

theorem current_opened {parse : Bytes → Option Json} {h : History} {t : Taken LobbyServer Input Output} {i : Nat}
    {l : Lobby} {d : Datagram} {req : Json} {r : CreateRequest} (hact : t.act = .datagram d)
    (hopen : openedAt t.out = some i) (hasks : AsksCreate parse d req r) (hl : t.post.lobbies[i]? = some l) :
    current parse (t :: h) i = some ⟨i, l.code, d.secret.text, r.hash⟩ := by
  have ha : activation parse t = some ⟨i, l.code, d.secret.text, r.hash⟩ := by
    simp only [activation, hact, hopen, requestedHash_of_asks hasks, hl, Option.map_some]
  unfold current activations
  rw [List.filterMap_cons_some ha, List.find?_cons_of_pos (by simp)]

theorem allGated_next {parse : Bytes → Option Json} {h : History} {s : LobbyServer} (hI : AllGated parse h s)
    (input : Input) :
    AllGated parse ((lobbyServer parse).taken s input :: h) ((lobbyServer parse).next s input).1 := by
  refine ⟨indexed_next parse hI.indexed input, fun i l' hl' => ?_⟩
  obtain ⟨l, hl, ⟨hopen, hstep⟩ | ⟨hopen, hcreate⟩⟩ := stepped_from parse hI.indexed input hl'
  · have hg := hI.gated i l hl
    have hcur : current parse ((lobbyServer parse).taken s input :: h) i = current parse h i := by
      refine current_cons fun a ha hi => hopen ?_
      rw [← hi]
      exact activation_index ha
    have holder := hg.older hcur
    cases hstep with
    | same => exact holder
    | acts hact => exact gated_acts hg hact rfl hcur
    | seen => exact ⟨holder.requires, holder.secret, holder.hash, holder.inactive, holder.active, holder.asked⟩
    | expires => exact gated_cleared hg.requires _ _
    | yields => exact gated_cleared hg.requires _ _
  · cases hcreate with
    | @create d req r code hasks hfree hcode =>
      have hreq : (l.yield d).1.server.server.requireJoinSecret = true := by
        rcases yield_cases l d with ⟨-, heq⟩ | ⟨-, heq⟩ <;> rw [heq]
        · exact (congrArg Register.requireJoinSecret (register_reset l d.now d.time)).trans (hI.gated i l hl).requires
        · exact (hI.gated i l hl).requires
      have hcur := current_opened (h := h) (t := (lobbyServer parse).taken s (.datagram d)) rfl hopen hasks hl'
      exact gated_opened hreq (hash_of_read hasks.read) hcur

theorem gated_start {parse : Bytes → Option Json} : AllGated parse [] .start := by
  refine ⟨indexed_start, fun i l hl => ?_⟩
  rw [start_lobby hl]
  exact {
    requires := rfl
    secret := rfl
    hash := rfl
    inactive := fun _ => ⟨rfl, rfl⟩
    active := fun hc => by cases hc
    asked := fun m hm => by cases hm }

/-! ## One step -/

theorem secret_admits {parse : Bytes → Option Json} {h : History} {s : LobbyServer} (hI : AllGated parse h s)
    (hnodup : ((activations parse h).map (·.secret)).Nodup) {input : Input} {i : Nat} {l l' : Lobby}
    (hl : s.lobbies[i]? = some l) (hl' : ((lobbyServer parse).next s input).1.lobbies[i]? = some l')
    (hmore : l.memberCount < l'.memberCount) :
    ∃ raw request a, input = .message i raw ∧ (raw.read parse).msg = .joinReq (some request) ∧ l.active = true ∧
      current parse h i = some a ∧ request.secret = a.secret ∧ request.sidecarHash = a.hash ∧
      ∀ b ∈ activations parse h, b.secret = request.secret → b = a := by
  have hg := hI.gated i l hl
  obtain ⟨l₀, hl₀, hcases⟩ := stepped_from parse hI.indexed input hl'
  obtain rfl : l = l₀ := Option.some.inj (hl.symm.trans hl₀)
  rcases hcases with ⟨-, hstep⟩ | ⟨-, hopen⟩
  · cases hstep with
    | same => exact absurd hmore (Nat.lt_irrefl _)
    | seen => exact absurd hmore (Nat.lt_irrefl _)
    | expires =>
      rw [Lobby.memberCount, Lobby.memberCount, clients_reset] at hmore
      cases hmore
    | yields =>
      rw [Lobby.memberCount, Lobby.memberCount, clients_reset] at hmore
      cases hmore
    | @acts _ a hact =>
      rcases members_next l.server (fromOutside_of_act hact) with ⟨-, hle⟩ | ⟨msg, cid, request, rfl, hmsg, hok, -⟩
      · exact absurd hmore (Nat.not_lt.2 hle)
      · obtain ⟨hne, hshown, hsame⟩ := shown_of_joinRefusal hg.requires hok
        have hactive : l.active = true := by
          by_contra hoff
          exact hne (hg.secret.trans (hg.inactive (Bool.eq_false_iff.2 hoff)).1)
        obtain ⟨hhash, hcur⟩ := hg.active hactive
        cases input <;> simp only [Input.act?, Option.some.injEq, Prod.mk.injEq, reduceCtorEq, and_false] at hact
        obtain ⟨rfl, hread⟩ := hact
        rename_i raw
        obtain rfl : raw.read parse = msg := Act.message.inj hread
        refine ⟨raw, request, _, rfl, hmsg, hactive, hcur, hshown.trans hg.secret, ?_, ?_⟩
        · rw [hsame (hg.hash ▸ hhash), hg.hash]
        · intro b hb hsecret
          refine List.inj_on_of_nodup_map hnodup hb (List.mem_of_find?_eq_some hcur) ?_
          exact hsecret.trans (hshown.trans hg.secret)
  · cases hopen with
    | create =>
      rw [Lobby.memberCount, Lobby.memberCount, clients_activate] at hmore
      cases hmore

theorem asks_unique {req : Json} {op op' : String} (h : Asks req op) (h' : Asks req op') : ascii op = ascii op' := by
  have := h.op.symm.trans h'.op
  exact Except.ok.inj this

theorem saysOk_refusal (error : String) : saysOk (refusal error) = false := rfl

theorem code_admits {parse : Bytes → Option Json} {h : History} {s : LobbyServer} (hI : AllGated parse h s)
    {d : Datagram} {req : Json} (htext : parse d.text = some req) (hasks : Asks req "join") {ip : UInt32}
    {port : UInt16} {reply : Json} (hmem : .reply ip port reply ∈ (s.serveMatchmaker parse d).2)
    (hok : saysOk reply = true) :
    ∃ i l a code, s.lobbies[i]? = some l ∧ l.active = true ∧ current parse h i = some a ∧
      str req "code" "" = .ok code ∧ upper code = a.code ∧ reply = admission l ∧ l.secret = a.secret := by
  have hs := (LobbyServer.served parse s d).replied hmem
  generalize (s.serveMatchmaker parse d).1.lobbies = lobbies at hs
  -- no other operation is a join
  have hother : ∀ {req' : Json} {op : String}, parse d.text = some req' → Asks req' op → ascii op ≠ ascii "join" → False := by
    intro req' op htext' hasks' hne
    obtain rfl : req = req' := Option.some.inj (htext.symm.trans htext')
    exact hne (asks_unique hasks' hasks)
  cases hs with
  | refused => cases hok
  | stun htext' htype =>
    obtain rfl := Option.some.inj (htext.symm.trans htext')
    obtain ⟨type, htype', hne⟩ := hasks.type
    exact absurd (Except.ok.inj (htype'.symm.trans htype)) hne
  | ping htext' hasks' => exact (hother htext' hasks' (by decide)).elim
  | list htext' hasks' => exact (hother htext' hasks' (by decide)).elim
  | create hasks' => exact (hother hasks'.text hasks'.asks (by decide)).elim
  | @join req' code l htext' hasks' hread hfind =>
    obtain rfl := Option.some.inj (htext.symm.trans htext')
    have hfound := List.find?_some hfind
    simp only [Bool.and_eq_true, decide_eq_true_eq] at hfound
    obtain ⟨i, hi⟩ := List.getElem?_of_mem (List.mem_of_find?_eq_some hfind)
    have hcur := ((hI.gated i l hi).active hfound.1).2
    exact ⟨i, l, _, code, hi, hfound.1, hcur, hread, hfound.2.symm, rfl, rfl⟩

theorem admitsCurrent {parse : Bytes → Option Json} {h : History} {s : LobbyServer} (hI : AllGated parse h s)
    (hnodup : ((activations parse h).map (·.secret)).Nodup) (input : Input) : AdmitsCurrent parse h s input where
  secret i l l' hl hl' hmore := secret_admits hI hnodup hl hl' hmore
  code d req ip port reply hinput htext hasks hmem hok := by
    subst hinput
    exact code_admits hI htext hasks hmem hok

theorem fresh_nodup {parse : Bytes → Option Json} {h : History} {s : LobbyServer} {input : Input}
    (hnodup : ((activations parse h).map (·.secret)).Nodup) (hfresh : FreshSecret parse h s input) :
    ((activations parse ((lobbyServer parse).taken s input :: h)).map (·.secret)).Nodup := by
  unfold activations
  rw [List.filterMap_cons]
  cases ha : activation parse ((lobbyServer parse).taken s input) with
  | none => exact hnodup
  | some a =>
    refine List.nodup_cons.2 ⟨fun hmem => ?_, hnodup⟩
    obtain ⟨b, hb, heq⟩ := List.mem_map.1 hmem
    exact hfresh a ha b hb heq

theorem AllGated.admitted {parse : Bytes → Option Json} {h : History} {s : LobbyServer} (hI : AllGated parse h s) :
    Admitted parse h s where
  members i l hl hon := ⟨_, ((hI.gated i l hl).active hon).2, (hI.gated i l hl).asked⟩
  empty i l hl hoff := ((hI.gated i l hl).inactive hoff).2

/-- While no secret is drawn twice: everybody in an active lobby has shown the secret and
the hash of its current activation, nobody is in another, nobody gets in with the secret
of an earlier one, and a code leads to the lobby that has it now. -/
theorem admitted_now (parse : Bytes → Option Json) (inputs : List Input)
    (hfresh : (lobbyServer parse).Meets (FreshSecret parse) .start [] inputs) :
    Admitted parse ((lobbyServer parse).hist .start [] inputs) ((lobbyServer parse).run .start inputs) ∧
      (lobbyServer parse).Meets (AdmitsCurrent parse) .start [] inputs := by
  have hstep : ∀ h s input, AllGated parse h s ∧ ((activations parse h).map (·.secret)).Nodup →
      FreshSecret parse h s input → AllGated parse ((lobbyServer parse).taken s input :: h) ((lobbyServer parse).next s input).1 ∧
        ((activations parse ((lobbyServer parse).taken s input :: h)).map (·.secret)).Nodup :=
    fun _ _ input hI hf => ⟨allGated_next hI.1 input, fresh_nodup hI.2 hf⟩
  have hstart : AllGated parse [] .start ∧ ((activations parse []).map (·.secret)).Nodup := ⟨gated_start, List.nodup_nil⟩
  have hrun := Machine.inv_of_steps (fun h s => AllGated parse h s ∧ ((activations parse h).map (·.secret)).Nodup)
    hstep hstart hfresh
  refine ⟨hrun.1.admitted, ?_⟩
  exact Machine.meets_of_inv (fun h s => AllGated parse h s ∧ ((activations parse h).map (·.secret)).Nodup) hstep
    (fun _ _ input hI _ => admitsCurrent hI.1 hI.2 input) hstart hfresh

/-- A lobby is opened and a player joins it. -/
theorem admitted_now_entering :
    Admitted (Sample.parse (ascii "A"))
        ((lobbyServer (Sample.parse (ascii "A"))).hist .start [] (Sample.entering (ascii "A")))
        ((lobbyServer (Sample.parse (ascii "A"))).run .start (Sample.entering (ascii "A"))) ∧
      (lobbyServer (Sample.parse (ascii "A"))).Meets (AdmitsCurrent (Sample.parse (ascii "A"))) .start []
        (Sample.entering (ascii "A")) :=
  admitted_now (Sample.parse (ascii "A")) (Sample.entering (ascii "A")) (by decide +kernel)

namespace Sample

def lookupText : Bytes := ascii "\x7b\"op\":\"join\",\"code\":\"AAAAAA\",\"hash\":\"build\"\x7d"

def lookupJson : Json :=
  jsonObj [("op", .str (ascii "join")), ("code", .str (ascii "AAAAAA")), ("hash", .str (ascii "build"))]

/-- `json::parse` on a create and a join request. -/
def parseRequest (data : Bytes) : Option Json :=
  if data = createText then
    some (jsonObj [("op", .str (ascii "create")), ("hash", .str (ascii "build"))])
  else if data = lookupText then some lookupJson
  else none

theorem asks_lookup : Asks lookupJson "join" := ⟨⟨[], rfl, by decide⟩, rfl⟩

def otherSecret : SecretDraw := ⟨List.replicate 32 (Fin.last 15), by decide⟩

def request (data : Bytes) (now : UInt64) (secret : SecretDraw) : Datagram :=
  ⟨data, 0x0a000001, 50000, now, 0, [code], secret⟩

/-- The empty lobby is given up for a new one, and the same code is drawn again. -/
def reopened : List Input :=
  [.datagram (request createText 1000 secret), .datagram (request createText 2000 otherSecret)]

end Sample

/-- A code of an earlier activation admits, once it has been drawn again. -/
theorem earlier_code_admits :
    ¬ ∀ (parse : Bytes → Option Json) (inputs : List Input),
      (lobbyServer parse).Meets (FreshSecret parse) .start [] inputs →
        ∀ d req code, parse d.text = some req → Asks req "join" → str req "code" "" = .ok code →
          (((lobbyServer parse).run .start inputs).serveMatchmaker parse d).2.any Output.isOkReply = true →
            ∀ b ∈ activations parse ((lobbyServer parse).hist .start [] inputs),
              b.code = upper code →
                current parse ((lobbyServer parse).hist .start [] inputs) b.index = some b := by
  intro h
  have hfresh : (lobbyServer Sample.parseRequest).Meets (FreshSecret Sample.parseRequest) .start [] Sample.reopened := by
    decide +kernel
  have hearlier : (⟨0, ascii "AAAAAA", Sample.secret.text, ascii "build"⟩ : Activation) ∈
      activations Sample.parseRequest ((lobbyServer Sample.parseRequest).hist .start [] Sample.reopened) := by
    decide +kernel
  have hlookup : Sample.parseRequest (Sample.request Sample.lookupText 3000 Sample.secret).text = some Sample.lookupJson :=
    (if_neg (by decide +kernel)).trans (if_pos (by decide +kernel))
  have hanswered : (((lobbyServer Sample.parseRequest).run .start Sample.reopened).serveMatchmaker Sample.parseRequest
      (Sample.request Sample.lookupText 3000 Sample.secret)).2.any Output.isOkReply = true := by
    decide +kernel
  have hcurrent := h Sample.parseRequest Sample.reopened hfresh _ _ (ascii "AAAAAA") hlookup Sample.asks_lookup rfl
    hanswered _ hearlier (by decide +kernel)
  have hno : current Sample.parseRequest ((lobbyServer Sample.parseRequest).hist .start [] Sample.reopened) 0 ≠
      some ⟨0, ascii "AAAAAA", Sample.secret.text, ascii "build"⟩ := by
    decide +kernel
  exact hno hcurrent

end Sf4e.Server
