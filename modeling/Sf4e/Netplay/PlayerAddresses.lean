import Sf4e.Netplay.DataUpdate
import Sf4e.Netplay.PunchReads
import Sf4e.Netplay.Room
/-!
# The addresses of a match

When a match starts, a player's client copies the address of everybody it will talk to
into a field of 32 bytes. The addresses come from the lobby data, from the connection to
the session server and from the punch. `addresses_fit_iff` says which of them have to be short.
-/
open Sf4e.Lib Sf4e.Session Sf4e.Server

namespace Sf4e.Netplay

/-! ## The start of a match -/

/-- `strcpy_s` into a buffer of `size` bytes: what it holds up to its end, `none` where the
invalid parameter handler is called. -/
def strcpyS (size : ℕ) (src : Bytes) : Option Bytes :=
  let text := src.takeWhile (· ≠ 0)
  if text.length < size then some text else none

/-- `GGPO_PLAYERTYPE_LOCAL` and so on. -/
inductive GGPOPlayerType where
  | localPlayer
  | remote
  | spectator
  deriving DecidableEq

/-- A `GGPOPlayer`; one that is local has no address. -/
structure GGPOPlayer where
  type : GGPOPlayerType
  ipAddress : Bytes
  port : UInt16

/-- An empty address means the session server. -/
def addressOf (szAddr : Bytes) (m : MemberData) : Bytes := if m.ip = [] then szAddr else m.ip

def playerAt (type : GGPOPlayerType) (szAddr : Bytes) (m : MemberData) : Option GGPOPlayer := do
  return { type, ipAddress := ← strcpyS 32 (addressOf szAddr m), port := m.port }

/-- The loop over the spectators. -/
def feed (szAddr : Bytes) : List MemberData → List GGPOPlayer → Option (List GGPOPlayer)
  | [], players => some players
  | m :: rest, players =>
    if players.length < MAX_SF4E_PROTOCOL_USERS then
      if !m.watching then feed szAddr rest players
      else do
        let player ← playerAt .spectator szAddr m
        feed szAddr rest (players ++ [player])
    else some players

/-- What follows `TryDirectPath`: where it succeeds, every remote player is at the endpoint it has found. -/
def redirect (direct : Option (Bytes × UInt16)) (players : List GGPOPlayer) : Option (List GGPOPlayer) :=
  match direct with
  | none => some players
  | some (ip, port) =>
    players.mapM fun player => do
      if player.type = .remote then return { player with ipAddress := ← strcpyS 32 ip, port }
      else return player

/-- The last member with this identity, and where it stands. -/
def findMe (members : List MemberData) (cid : ConnectionID) : Option (MemberData × ℕ) :=
  (members.zipIdx.filter fun e => e.1.connId = cid).getLast?

def playerMembers (members : List MemberData) : List (MemberData × ℕ) :=
  (members.zipIdx.filter fun e => !e.1.spectator).take 2

def spectatorMembers (members : List MemberData) : List MemberData := members.filter (·.spectator)

/-- The client plays, and does not watch. -/
def SessionClient.isPlayer (c : SessionClient) : Bool :=
  !c.spectator && (findMe c.lobbyData.members c.cid).any fun e => !e.1.spectator

/-- The entry is the client's own. -/
def SessionClient.isMe (c : SessionClient) (e : MemberData × ℕ) : Bool :=
  (findMe c.lobbyData.members c.cid).any fun me => me.2 = e.2

/-- `_OnVsBattleTasksRegistered`: the players that `StartGGPO` is given. `direct` is the endpoint
of a `TryDirectPath` that succeeds. A client that watches copies no address. -/
def SessionClient.onVsBattleTasksRegistered (c : SessionClient) (szAddr : Bytes) (direct : Option (Bytes × UInt16)) :
    Option (List GGPOPlayer) := do
  let players := playerMembers c.lobbyData.members
  if !c.isPlayer then return []
  else
    let localIdx := players.findIdx? c.isMe
    let players ← players.mapM fun e =>
      if c.isMe e then some ⟨.localPlayer, [], 0⟩ else playerAt .remote szAddr e.1
    let players ←
      if localIdx = some 0 then feed szAddr (spectatorMembers c.lobbyData.members) players else some players
    redirect direct players

/-! ## What is copied -/

/-- The text, up to its end, has room for its end in 32 bytes. -/
def Short (text : Bytes) : Prop := (text.takeWhile (· ≠ 0)).length < 32

instance (text : Bytes) : Decidable (Short text) := inferInstanceAs (Decidable (_ < 32))

/-- The members whose addresses are needed: the other seated player, and in the first seat as many of
those who watch the match as there is room for. -/
def SessionClient.needed (c : SessionClient) : List MemberData :=
  let players := playerMembers c.lobbyData.members
  if !c.isPlayer then []
  else
    ((players.filter fun e => !c.isMe e).map (·.1)) ++
      if players.findIdx? c.isMe = some 0 then
        ((spectatorMembers c.lobbyData.members).filter (·.watching)).take (MAX_SF4E_PROTOCOL_USERS - players.length)
      else []

theorem strcpyS_isSome {text : Bytes} : (strcpyS 32 text).isSome ↔ Short text := by
  unfold strcpyS
  dsimp only
  split
  · rename_i h
    exact iff_of_true rfl h
  · rename_i h
    exact iff_of_false Bool.false_ne_true h

theorem playerAt_isSome (type : GGPOPlayerType) (szAddr : Bytes) (m : MemberData) :
    (playerAt type szAddr m).isSome ↔ Short (addressOf szAddr m) := by
  rw [← strcpyS_isSome]
  unfold playerAt
  cases strcpyS 32 (addressOf szAddr m) <;> rfl

section Options

variable {α β : Type} {f : α → Option β}

theorem bind_isSome {o : Option α} {P : Prop} (h : ∀ a ∈ o, (f a).isSome ↔ P) : (o >>= f).isSome ↔ o.isSome ∧ P := by
  cases o with
  | none => exact iff_of_false Bool.false_ne_true fun both => Bool.false_ne_true both.1
  | some a => exact (h a rfl).trans (and_iff_right rfl).symm

theorem bind_isSome_of {o : Option α} (h : ∀ a ∈ o, (f a).isSome) : (o >>= f).isSome ↔ o.isSome :=
  (bind_isSome (P := True) fun a ha => iff_of_true (h a ha) trivial).trans (and_iff_left trivial)

theorem mapM_isSome {l : List α} : (l.mapM f).isSome ↔ ∀ a ∈ l, (f a).isSome := by
  induction l with
  | nil => simp
  | cons a l ih =>
    rw [List.mapM_cons, List.forall_mem_cons, ← ih]
    exact bind_isSome fun b _ => bind_isSome_of fun _ _ => rfl

theorem length_of_mapM {l : List α} {bs : List β} (h : l.mapM f = some bs) : bs.length = l.length := by
  induction l generalizing bs with
  | nil =>
    obtain rfl := Option.some.inj h
    rfl
  | cons a l ih =>
    rw [List.mapM_cons] at h
    obtain ⟨b, -, h⟩ := Option.bind_eq_some_iff.1 h
    obtain ⟨rest, hrest, h⟩ := Option.bind_eq_some_iff.1 h
    obtain rfl := Option.some.inj h
    rw [List.length_cons, List.length_cons, ih hrest]

end Options

theorem feed_isSome (szAddr : Bytes) (ms : List MemberData) (players : List GGPOPlayer) :
    (feed szAddr ms players).isSome ↔
      ∀ m ∈ (ms.filter (·.watching)).take (MAX_SF4E_PROTOCOL_USERS - players.length), Short (addressOf szAddr m) := by
  induction ms generalizing players with
  | nil => simp [feed]
  | cons m rest ih =>
    rw [feed]
    by_cases room : players.length < MAX_SF4E_PROTOCOL_USERS
    · rw [if_pos room]
      cases watching : m.watching with
      | false => rw [List.filter_cons_of_neg (by simp [watching]), Bool.not_false, if_pos rfl, ih]
      | true =>
        have left : MAX_SF4E_PROTOCOL_USERS - players.length =
            MAX_SF4E_PROTOCOL_USERS - (players.length + 1) + 1 := by omega
        rw [List.filter_cons_of_pos watching, left, List.take_succ_cons, List.forall_mem_cons, ← playerAt_isSome .spectator]
        refine bind_isSome fun player _ => ?_
        rw [ih, List.length_append]
        rfl
    · have none : MAX_SF4E_PROTOCOL_USERS - players.length = 0 := by omega
      rw [if_neg room, none, List.take_zero]
      exact iff_of_true rfl (List.forall_mem_nil _)

theorem redirect_isSome {direct : Option (Bytes × UInt16)} (h : ∀ endpoint ∈ direct, Short endpoint.1)
    (players : List GGPOPlayer) : (redirect direct players).isSome := by
  cases direct with
  | none => rfl
  | some endpoint =>
    refine mapM_isSome.2 fun player _ => ?_
    obtain ⟨text, copied⟩ := Option.isSome_iff_exists.1 (strcpyS_isSome.2 (h endpoint rfl))
    rw [copied]
    split <;> rfl

/-- The copies fit exactly when the addresses that are needed are short, if the endpoint of a direct match is. -/
theorem starts_iff (c : SessionClient) (szAddr : Bytes) {direct : Option (Bytes × UInt16)}
    (hdirect : ∀ endpoint ∈ direct, Short endpoint.1) :
    (c.onVsBattleTasksRegistered szAddr direct).isSome ↔ ∀ m ∈ c.needed, Short (addressOf szAddr m) := by
  unfold SessionClient.onVsBattleTasksRegistered SessionClient.needed
  dsimp only
  by_cases player : c.isPlayer = true
  · rw [player, Bool.not_true, if_neg Bool.false_ne_true, if_neg Bool.false_ne_true, List.forall_mem_append,
      List.forall_mem_map]
    have others : ((playerMembers c.lobbyData.members).mapM fun e =>
          if c.isMe e then some ⟨.localPlayer, [], 0⟩ else playerAt .remote szAddr e.1).isSome ↔
        ∀ e ∈ (playerMembers c.lobbyData.members).filter fun e => !c.isMe e, Short (addressOf szAddr e.1) := by
      simp only [mapM_isSome, List.mem_filter, and_imp]
      refine forall₂_congr fun e _ => ?_
      by_cases mine : c.isMe e = true
      · simp [mine]
      · simp [mine, playerAt_isSome]
    rw [← others]
    refine bind_isSome fun players hplayers => ?_
    -- the spectators are fed from the first seat only, behind the seated players
    by_cases first : (playerMembers c.lobbyData.members).findIdx? c.isMe = some 0
    · rw [if_pos first, if_pos first, ← length_of_mapM hplayers, ← feed_isSome]
      exact bind_isSome_of fun players _ => redirect_isSome hdirect players
    · rw [if_neg first, if_neg first]
      exact iff_of_true (redirect_isSome hdirect players) (List.forall_mem_nil _)
  · rw [Bool.not_eq_true] at player
    rw [player, Bool.not_false, if_pos rfl, if_pos rfl]
    exact iff_of_true rfl (List.forall_mem_nil _)

/-! ## The endpoint of a direct match -/

theorem short_ipText (host : UInt32) : Short (ipText host) := by
  have quarter {n : ℕ} (h : n < 256) : (toDecimal n).length ≤ 3 := length_toDecimal (by decide) (by omega)
  have bound := host.toNat_lt
  have q1 := quarter (n := host.toNat / 2 ^ 24) (by omega)
  have q2 := quarter (n := host.toNat / 2 ^ 16 % 256) (by omega)
  have q3 := quarter (n := host.toNat / 2 ^ 8 % 256) (by omega)
  have q4 := quarter (n := host.toNat % 256) (by omega)
  have dot : (ascii ".").length = 1 := by decide
  have whole : (ipText host).length ≤ 15 := by
    unfold ipText
    simp only [List.length_append]
    omega
  have kept := List.takeWhile_prefix (l := ipText host) fun c => c ≠ 0
  exact Nat.lt_of_le_of_lt kept.length_le (by omega)

namespace DirectPlay

variable {inetPton : Bytes → Option UInt32}

/-- A proven path leads to an address as `inet_ntop` prints it. -/
def LeadsToHost (c : DirectPlay) : Prop := c.punchProven = true → ∃ host, c.provenIp = ipText host

theorem leads_enable {c : DirectPlay} (h : c.LeadsToHost) (e : EnableCall) : (c.enableDirect e).1.LeadsToHost := by
  simp only [enableDirect]
  repeat' split
  all_goals exact h

theorem leads_pump {c : DirectPlay} (h : c.LeadsToHost) (p : PumpCall) : (c.pumpDirect inetPton p).1.LeadsToHost := by
  unfold pumpDirect
  repeat' split
  all_goals exact h

theorem leads_directPeer {c : DirectPlay} (h : c.LeadsToHost) (peer : Option DirectPeer) (call : PunchCall)
    (provenAt : UInt32) : (c.onDirectPeer inetPton peer call provenAt).1.LeadsToHost := by
  cases peer with
  | none => exact h
  | some peer =>
    simp only [onDirectPeer]
    split
    · exact h
    · split
      · rename_i ok
        obtain ⟨sender, -, chosen⟩ := punch_answered ok
        exact fun _ => ⟨sender.ip, chosen⟩
      · exact fun proven => absurd proven Bool.false_ne_true

theorem leads_proveNow {c : DirectPlay} (h : c.LeadsToHost) (call : PunchCall) :
    (c.proveNow inetPton call).1.LeadsToHost := by
  unfold proveNow
  split
  · dsimp only
    split
    · rename_i ok
      obtain ⟨sender, -, chosen⟩ := punch_answered ok
      exact fun _ => ⟨sender.ip, chosen⟩
    · exact fun proven => absurd proven Bool.false_ne_true
  · exact h

theorem leads_startMatch {c : DirectPlay} (h : c.LeadsToHost) (call : PunchCall) :
    (c.startMatch inetPton call).1.LeadsToHost ∧
      ∀ endpoint ∈ (c.startMatch inetPton call).2.1, ∃ host, endpoint.1 = ipText host := by
  have proved : (proveNow inetPton { c with matchIsDirect := false } call).1.LeadsToHost :=
    leads_proveNow (c := { c with matchIsDirect := false }) h call
  simp only [startMatch, tryDirectPath]
  split
  · rename_i direct
    rw [Bool.and_eq_true] at direct
    obtain ⟨host, printed⟩ := proved direct.1
    refine ⟨fun proven => absurd proven Bool.false_ne_true, fun endpoint given => ?_⟩
    obtain rfl := Option.some.inj given
    exact ⟨host, printed⟩
  · exact ⟨proved, fun endpoint given => absurd given (Option.not_mem_none endpoint)⟩

end DirectPlay

theorem leads_next {inetPton : Bytes → Option UInt32} {s : DirectRun} (h : s.client.LeadsToHost) (a : DirectAct) :
    ((directPlay inetPton).next s a).1.client.LeadsToHost := by
  cases a with
  | enable e => exact DirectPlay.leads_enable h e
  | directPeer peer call provenAt => exact DirectPlay.leads_directPeer h peer call provenAt
  | pump p => exact DirectPlay.leads_pump h p
  | startMatch call => exact (DirectPlay.leads_startMatch h call).1
  | disable => exact h

/-- In every run, the endpoint of a match that goes direct is short. -/
theorem direct_short (inetPton : Bytes → Option UInt32) (ggpoPort : UInt16) (as : List DirectAct) (call : PunchCall) :
    ∀ endpoint ∈ ((((directPlay inetPton).run ⟨.new ggpoPort, .on⟩ as).client.startMatch inetPton call).2.1),
      Short endpoint.1 := by
  have proven : ((directPlay inetPton).run ⟨.new ggpoPort, .on⟩ as).client.LeadsToHost :=
    Machine.inv_of_all_steps (fun s : DirectRun => s.client.LeadsToHost) (fun _ a h => leads_next h a) as nofun
  intro endpoint given
  obtain ⟨host, printed⟩ := (DirectPlay.leads_startMatch proven call).2 endpoint given
  exact printed ▸ short_ipText host

/-! ## What a server records -/

/-- The member has joined in the run, and its address is that of the peer which sent the join, or empty for
one on the server's own PC. -/
def JoinedFrom (as : List Act) (m : MemberData) : Prop :=
  ∃ msg request, Act.message msg ∈ as ∧ msg.msg = .joinReq (some request) ∧
    m.name = SessionServer.storedName request.username ∧
    m.ip = if msg.peerAddr.localHost then [] else msg.peerAddr.text

/-- A server without a relay, whose members have all joined in the run. -/
structure Records (as : List Act) (r : Register) : Prop where
  relay : r.relayPort = 0
  members : ∀ m ∈ r.members, JoinedFrom as m.data

theorem Records.newMember {as : List Act} {s : SessionServer} (hrelay : s.relayPort = 0) {m : IncomingMsg}
    {request : SessionJoinRequest} (hmem : .message m ∈ as) (hmsg : m.msg = .joinReq (some request)) (cid : ConnectionID) :
    JoinedFrom as (s.newMember m.conn request m.peerAddr cid).data := by
  refine ⟨m, request, hmem, hmsg, rfl, ?_⟩
  show (if s.relayPort ≠ 0 || m.peerAddr.localHost then [] else m.peerAddr.text) = _
  simp [hrelay]

theorem records_next {as : List Act} {p : Stepping} (h : Records as p.server.register) {a : Act} (ha : a ∈ as) :
    Records as (sessionServer.next p a).1.server.register where
  relay := (relayPort_next p a).trans h.relay
  members := by
    refine SessionServer.forall_members (membership_of p a) h.members fun m cid request said hmsg => ?_
    subst said
    exact Records.newMember h.relay ha hmsg cid

theorem records_run {cfg : HostConfig} (hrelay : cfg.relayPort = 0) (as : List Act) :
    Records as (sessionServer.run (start cfg) as).server.register :=
  Machine.inv_of_steps (C := fun _ _ a => a ∈ as) (fun _ (p : Stepping) => Records as p.server.register)
    (fun _ _ _ h ha => records_next h ha) ⟨hrelay, fun _ hm => nomatch hm⟩
    (Machine.meets_of_forall (h := []) fun _ ha => ha)

/-- Every update that is sent tells of members as they have joined. -/
theorem sent_joinedFrom {cfg : HostConfig} (hrelay : cfg.relayPort = 0) (as : List Act) (a : Act) :
    ∀ o ∈ (sessionServer.next (sessionServer.run (start cfg) as) a).2, ∀ u ∈ o.update?,
      ∀ m ∈ u.1.members, JoinedFrom as m := by
  intro o ho u hu m hm
  obtain ⟨s, hregister, -, -, rfl⟩ := sent_update ho hu
  obtain ⟨member, hmember, rfl⟩ := List.mem_map.1 hm
  have stands : member.standing ∈ (sessionServer.run (start cfg) as).server.register.members := by
    rw [← hregister]
    exact List.mem_map_of_mem hmember
  exact (records_run hrelay as).members member.standing stands

/-! ## A match after an update -/

/-- After any update, the copies of a match start fit exactly when the addresses that are needed are short.
In the updates of a server without a relay they are those of the peers which have joined. -/
theorem addresses_fit_iff (inetPton : Bytes → Option UInt32) (ggpoPort : UInt16) (as : List DirectAct) (call : PunchCall)
    (c : SessionClient) (server : PeerAddr) (l : LobbyData) (d : MatchData) (cfg : HostConfig) (hrelay : cfg.relayPort = 0)
    (acts : List Act) (a : Act) :
    (((c.onDataUpdate l d).onVsBattleTasksRegistered server.text
        (((directPlay inetPton).run ⟨.new ggpoPort, .on⟩ as).client.startMatch inetPton call).2.1).isSome ↔
      ∀ m ∈ (c.onDataUpdate l d).needed, Short (addressOf server.text m)) ∧
    ∀ o ∈ (sessionServer.next (sessionServer.run (start cfg) acts) a).2, ∀ u ∈ o.update?,
      ∀ m ∈ u.1.members, JoinedFrom acts m :=
  ⟨starts_iff _ _ (direct_short inetPton ggpoPort as call), sent_joinedFrom hrelay acts a⟩

namespace Sample
open Sf4e.Session.Sample

/-- A lobby that a player hosts. -/
def hosted : HostConfig := { lobbyHost 0 with relayPort := 0, spectatorRelayBase := 0 }

def longPeer : PeerAddr := ⟨none, false, ascii "2001:db8:1111:2222:3333:4444:5555:6666", ascii_lt (by decide)⟩

/-- The second player has an IPv6 address without a run of zeros. -/
def longPeerJoins : List Call :=
  openLobby :: enter 1 "A" false ++
    [.event (.connecting 2 2 true), step [⟨2, .hello, 1, longPeer, tick⟩, ⟨2, joinAs "B" false, 2, longPeer, tick⟩]]

def playerA : SessionClient := { newcomer 1 "A" with cid := ⟨ascii "sf4e-lobby-0", ascii "1"⟩ }

def ipv4Lobby : LobbyData :=
  ⟨⟨[], []⟩, true, 3, ⟨0, 99⟩, false, [⟨playerA.cid, ascii "A", ascii "10.0.0.1", 23457, false, false, false, 0⟩,
    ⟨⟨ascii "sf4e-lobby-0", ascii "2"⟩, ascii "B", ascii "203.0.113.200", 23457, false, false, false, 0⟩]⟩

/-- The update at the end of the last Step. -/
def lastUpdate (calls : List Call) : List (LobbyData × MatchData) :=
  (sessionServer.next (sessionServer.run (start hosted) (acts calls).dropLast) (.endStep tick)).2.filterMap (·.update?)

end Sample

theorem addresses_fit_iff_ipv4 :
    ((Sample.playerA.onDataUpdate Sample.ipv4Lobby .clear).onVsBattleTasksRegistered Sample.peerAddr.text
      (((directPlay Sample.inetPton).run ⟨.new 23457, .on⟩ []).client.startMatch Sample.inetPton ⟨0, []⟩).2.1).isSome ∧
    ∀ o ∈ (sessionServer.next (sessionServer.run (start Sample.hosted) (acts Sample.twoPlayers)) (.endStep Sample.tick)).2,
      ∀ u ∈ o.update?, ∀ m ∈ u.1.members, JoinedFrom (acts Sample.twoPlayers) m := by
  have fit := addresses_fit_iff Sample.inetPton 23457 [] ⟨0, []⟩ Sample.playerA Sample.peerAddr Sample.ipv4Lobby .clear
    Sample.hosted rfl (acts Sample.twoPlayers) (.endStep Sample.tick)
  exact ⟨fit.1.2 (by decide +kernel), fit.2⟩

/-- A player hosts, another joins over IPv6, and the host's own match does not start. -/
theorem addresses_longPeer :
    (Sample.lastUpdate Sample.longPeerJoins).any (fun u =>
      (updateOfJson (ServerMsg.dataUpdate u.1 u.2).toJson).toOption.any fun accepted =>
        ((Sample.playerA.onDataUpdate accepted.1 accepted.2).onVsBattleTasksRegistered (ascii "10.0.0.9") none).isNone) =
      true := by
  decide +kernel

end Sf4e.Netplay
