import Sf4e.Battle.Update
import Sf4e.Session.Connections
import Sf4e.Session.Seats
/-!
# The start of a match on every PC

When the battle registers its tasks, each client sets its own match up from the last update of the
server: a player gives the list of players to GGPO, a spectator watches P1. The PCs never compare
what they have made of it.
-/
open Sf4e.Lib Sf4e.Session Sf4e.Netplay

namespace Sf4e.Battle

/-- What `_OnVsBattleTasksRegistered` starts. -/
inductive MatchSetup where
  | startGGPO (players : List GGPOPlayer) (port : UInt16) (frameDelay : ℤ) (rngSeed : UInt32)
  | startSpectating (localport : UInt16) (hostIP : Bytes) (hostPort : UInt16) (rngSeed : UInt32)
  | nothing

/-- The delay a match is played with. -/
def matchDelay (d : MatchData) : ℤ :=
  (if d.inputDelay.s0 ≤ INPUT_DELAY_AUTO then INPUT_DELAY_DEFAULT else d.inputDelay.s0).toInt

/-- Where a spectator sends: through a pipe its own entry says so. -/
def hostPortOf (me : Option MemberData) (host : MemberData) : UInt16 :=
  match me with
  | some me => if me.hostPort ≠ 0 then me.hostPort else host.port
  | none => host.port

/-- `_OnVsBattleTasksRegistered`, with what it passes on. -/
def matchSetup (c : SessionClient) (szAddr : Bytes) (direct : Option (Bytes × UInt16)) : Option MatchSetup :=
  if c.isPlayer then do
    let players ← c.onVsBattleTasksRegistered szAddr direct
    return .startGGPO players c.ggpoPort (matchDelay c.matchData) c.matchData.rngSeed
  else
    match playerMembers c.lobbyData.members with
    | [] => some .nothing
    | (host, _) :: _ =>
      let me := (findMe c.lobbyData.members c.cid).map (·.1)
      some (.startSpectating c.ggpoPort (addressOf szAddr host) (hostPortOf me host) c.matchData.rngSeed)

/-- The types and numbers of the players; `StartGGPO` reads no number beyond the second. -/
def inPlayers (players : List GGPOPlayer) : List (GGPOPlayerType × ℤ) :=
  players.zipIdx.map fun e => (e.1.type, e.2 + 1)

/-! ## Members and where they stand -/

section Members

variable {members : List MemberData} {m : MemberData} {k : ℕ}

theorem eq_of_connId (hids : (members.map (·.connId)).Nodup) {e : MemberData × ℕ} (he : e ∈ members.zipIdx)
    (hm : members[k]? = some m) (hid : e.1.connId = m.connId) : e = (m, k) := by
  have he : members[e.2]? = some e.1 := List.mem_zipIdx_iff_getElem?.1 he
  have hk : e.2 = k := by
    have hlt : e.2 < (members.map (·.connId)).length := by
      rw [List.length_map]
      exact (List.getElem?_eq_some_iff.1 he).1
    refine (List.getElem?_inj hlt hids).1 ?_
    rw [List.getElem?_map, List.getElem?_map, he, hm, Option.map_some, Option.map_some, hid]
  subst hk
  rw [he] at hm
  exact Prod.ext (Option.some.inj hm) rfl

theorem findMe_of_mem (hids : (members.map (·.connId)).Nodup) (hm : members[k]? = some m) :
    findMe members m.connId = some (m, k) := by
  have hmem : (m, k) ∈ members.zipIdx.filter fun e => e.1.connId = m.connId :=
    List.mem_filter.2 ⟨List.mem_zipIdx_iff_getElem?.2 hm, by simp⟩
  unfold findMe
  rw [List.getLast?_eq_some_getLast (List.ne_nil_of_mem hmem)]
  have hlast := List.getLast_mem (List.ne_nil_of_mem hmem)
  obtain ⟨hzip, hid⟩ := List.mem_filter.1 hlast
  rw [eq_of_connId hids hzip hm (by simpa using hid)]

end Members

/-! ## What is copied -/

/-- A text up to its end. -/
def cText (text : Bytes) : Bytes := text.takeWhile (· ≠ 0)

def localPlayer : GGPOPlayer := ⟨.localPlayer, [], 0⟩

/-- Where a player finds the other one. -/
def remoteEndpoint (szAddr : Bytes) (direct : Option (Bytes × UInt16)) (m : MemberData) : Bytes × UInt16 :=
  match direct with
  | some (ip, port) => (cText ip, port)
  | none => (cText (addressOf szAddr m), m.port)

def remotePlayer (szAddr : Bytes) (direct : Option (Bytes × UInt16)) (m : MemberData) : GGPOPlayer :=
  ⟨.remote, (remoteEndpoint szAddr direct m).1, (remoteEndpoint szAddr direct m).2⟩

def fedPlayer (szAddr : Bytes) (m : MemberData) : GGPOPlayer := ⟨.spectator, cText (addressOf szAddr m), m.port⟩

theorem strcpyS_eq {size : ℕ} {src copy : Bytes} (h : strcpyS size src = some copy) : copy = cText src := by
  unfold strcpyS at h
  dsimp only at h
  split at h
  · exact (Option.some.inj h).symm
  · cases h

theorem playerAt_eq {type : GGPOPlayerType} {szAddr : Bytes} {m : MemberData} {player : GGPOPlayer}
    (h : playerAt type szAddr m = some player) : player = ⟨type, cText (addressOf szAddr m), m.port⟩ := by
  obtain ⟨copy, hcopy, h⟩ := Option.bind_eq_some_iff.1 h
  obtain rfl := strcpyS_eq hcopy
  exact (Option.some.inj h).symm

theorem feed_eq {szAddr : Bytes} {ms : List MemberData} {players out : List GGPOPlayer}
    (h : feed szAddr ms players = some out)
    (hroom : players.length + (ms.filter (·.watching)).length ≤ MAX_SF4E_PROTOCOL_USERS) :
    out = players ++ (ms.filter (·.watching)).map (fedPlayer szAddr) := by
  induction ms generalizing players with
  | nil =>
    rw [List.filter_nil, List.map_nil, List.append_nil]
    exact (Option.some.inj h).symm
  | cons m rest ih =>
    rw [feed] at h
    cases hwatching : m.watching with
    | false =>
      rw [List.filter_cons_of_neg (by simp [hwatching])] at hroom ⊢
      split at h
      · rw [hwatching, Bool.not_false, if_pos rfl] at h
        exact ih h hroom
      · rename_i hfull
        obtain rfl := Option.some.inj h
        have hnone : (rest.filter (·.watching)).length = 0 := by omega
        rw [List.length_eq_zero_iff.1 hnone, List.map_nil, List.append_nil]
    | true =>
      rw [List.filter_cons_of_pos (p := fun m : MemberData => m.watching) hwatching] at hroom ⊢
      rw [List.length_cons] at hroom
      rw [if_pos (by omega), hwatching, Bool.not_true, if_neg Bool.false_ne_true] at h
      obtain ⟨player, hplayer, h⟩ := Option.bind_eq_some_iff.1 h
      obtain rfl := playerAt_eq hplayer
      rw [ih h (by rw [List.length_append, List.length_singleton]; omega), List.append_assoc]
      rfl

theorem eq_map_of_mapM {α β : Type} {f : α → Option β} {g : α → β} {l : List α} {out : List β}
    (hfg : ∀ a b, f a = some b → b = g a) (h : l.mapM f = some out) : out = l.map g := by
  induction l generalizing out with
  | nil => exact (Option.some.inj h).symm
  | cons a l ih =>
    rw [List.mapM_cons] at h
    obtain ⟨b, hb, h⟩ := Option.bind_eq_some_iff.1 h
    obtain ⟨bs, hbs, h⟩ := Option.bind_eq_some_iff.1 h
    obtain rfl := Option.some.inj h
    rw [hfg a b hb, ih hbs, List.map_cons]

/-- The players that are not local, where they are found when the match is direct. -/
def redirected (direct : Option (Bytes × UInt16)) (player : GGPOPlayer) : GGPOPlayer :=
  match direct with
  | some (ip, port) => if player.type = .remote then { player with ipAddress := cText ip, port } else player
  | none => player

section

variable (szAddr : Bytes) (direct : Option (Bytes × UInt16)) (m : MemberData)

@[simp] theorem redirected_local : redirected direct localPlayer = localPlayer := by
  cases direct <;> rfl

@[simp] theorem redirected_fed : redirected direct (fedPlayer szAddr m) = fedPlayer szAddr m := by
  cases direct <;> rfl

@[simp] theorem redirected_remote :
    redirected direct ⟨.remote, cText (addressOf szAddr m), m.port⟩ = remotePlayer szAddr direct m := by
  cases direct <;> rfl

end

theorem redirect_eq {direct : Option (Bytes × UInt16)} {players out : List GGPOPlayer}
    (h : redirect direct players = some out) : out = players.map (redirected direct) := by
  cases direct with
  | none =>
    rw [show redirected none = id from rfl, List.map_id]
    exact (Option.some.inj h).symm
  | some endpoint =>
    refine eq_map_of_mapM (fun player player' hplayer => ?_) h
    unfold redirected
    dsimp only at hplayer ⊢
    split at hplayer
    · rename_i hremote
      obtain ⟨copy, hcopy, hplayer⟩ := Option.bind_eq_some_iff.1 hplayer
      obtain rfl := strcpyS_eq hcopy
      rw [if_pos hremote]
      exact (Option.some.inj hplayer).symm
    · rename_i hremote
      rw [if_neg hremote]
      exact (Option.some.inj hplayer).symm

/-! ## The players of each seat -/

section Seats

variable {c : SessionClient} {p q : MemberData} {szAddr : Bytes} {direct : Option (Bytes × UInt16)}
  {players : List GGPOPlayer}

/-- The two players' entries. -/
theorem playerMembers_eq {members : List MemberData} (hids : (members.map (·.connId)).Nodup)
    (hseats : members.filter (fun m => !m.spectator) = [p, q]) :
    ∃ i j, playerMembers members = [(p, i), (q, j)] ∧ members[i]? = some p ∧ members[j]? = some q ∧ i ≠ j := by
  have hfst : (members.zipIdx.filter fun e => !e.1.spectator).map Prod.fst = [p, q] := by
    show (members.zipIdx.filter ((fun m => !m.spectator) ∘ Prod.fst)).map Prod.fst = [p, q]
    rw [← List.filter_map, List.zipIdx_map_fst, hseats]
  have hzip : ∀ e ∈ members.zipIdx.filter fun e => !e.1.spectator, members[e.2]? = some e.1 :=
    fun e he => List.mem_zipIdx_iff_getElem?.1 (List.mem_filter.1 he).1
  match hlist : members.zipIdx.filter fun e => !e.1.spectator with
  | [(a, i), (b, j)] =>
    rw [hlist] at hfst hzip
    obtain ⟨rfl, rfl⟩ : a = p ∧ b = q := by simpa using hfst
    refine ⟨i, j, ?_, hzip (a, i) (by simp), hzip (b, j) (by simp), fun hij => ?_⟩
    · rw [playerMembers, hlist]
      rfl
    · have hsame : (members.filter fun m => !m.spectator).map (·.connId) = [a.connId, b.connId] := by rw [hseats]; rfl
      have hnodup : ([a.connId, b.connId] : List ConnectionID).Nodup := by
        rw [← hsame]
        exact hids.sublist (List.filter_sublist.map _)
      have hab : a = b := by
        have := hzip (a, i) (by simp)
        rw [hij, hzip (b, j) (by simp)] at this
        exact (Option.some.inj this).symm
      simp [hab] at hnodup
  | [] | [_] | _ :: _ :: _ :: _ => simp [hlist] at hfst

/-- The client has joined as this member. -/
structure Entered (c : SessionClient) (m : MemberData) : Prop where
  cid : c.cid = m.connId
  spectator : c.spectator = m.spectator

theorem isMe_iff {members : List MemberData} (hids : (members.map (·.connId)).Nodup) {m : MemberData} {k : ℕ}
    (hm : members[k]? = some m) (hmembers : c.lobbyData.members = members) (hcid : c.cid = m.connId)
    (e : MemberData × ℕ) : c.isMe e = decide (k = e.2) := by
  rw [SessionClient.isMe, hmembers, hcid, findMe_of_mem hids hm, Option.any_some]

theorem isPlayer_eq {members : List MemberData} (hids : (members.map (·.connId)).Nodup) {m : MemberData} {k : ℕ}
    (hm : members[k]? = some m) (hmembers : c.lobbyData.members = members) (hc : Entered c m) :
    c.isPlayer = !m.spectator := by
  rw [SessionClient.isPlayer, hmembers, hc.cid, hc.spectator, findMe_of_mem hids hm, Option.any_some, Bool.and_self]

/-- What becomes of a seat before the match goes direct. -/
def seatPlayer (c : SessionClient) (szAddr : Bytes) (e : MemberData × ℕ) : GGPOPlayer :=
  if c.isMe e then localPlayer else ⟨.remote, cText (addressOf szAddr e.1), e.1.port⟩

theorem seatPlayer_eq (szAddr : Bytes) (e : MemberData × ℕ) (player : GGPOPlayer)
    (h : (if c.isMe e then some ⟨.localPlayer, [], 0⟩ else playerAt .remote szAddr e.1) = some player) :
    player = seatPlayer c szAddr e := by
  unfold seatPlayer
  split at h
  · rename_i hme
    rw [if_pos hme]
    exact (Option.some.inj h).symm
  · rename_i hme
    rw [if_neg hme]
    exact playerAt_eq h

/-- The two players come in the order of the seats, with the own one local, and behind the first
one those who watch. -/
theorem players_eq {members : List MemberData} (hids : (members.map (·.connId)).Nodup)
    (hseats : members.filter (fun m => !m.spectator) = [p, q]) (hmost : members.length ≤ MAX_SF4E_PROTOCOL_USERS)
    (hmembers : c.lobbyData.members = members) (h : c.onVsBattleTasksRegistered szAddr direct = some players) :
    (Entered c p → players = [localPlayer, remotePlayer szAddr direct q] ++
      ((spectatorMembers members).filter (·.watching)).map (fedPlayer szAddr)) ∧
    (Entered c q → players = [remotePlayer szAddr direct p, localPlayer]) := by
  obtain ⟨i, j, hplayers, hi, hj, hij⟩ := playerMembers_eq hids hseats
  have hplays : ∀ m ∈ [p, q], m.spectator = false := by
    intro m hm
    rw [← hseats] at hm
    simpa using (List.mem_filter.1 hm).2
  have hwatchers : 2 + ((spectatorMembers members).filter (·.watching)).length ≤ MAX_SF4E_PROTOCOL_USERS := by
    have hsplit := List.length_eq_length_filter_add (l := members) fun m => !m.spectator
    have hle : ((spectatorMembers members).filter (·.watching)).length ≤ (spectatorMembers members).length :=
      List.length_filter_le ..
    rw [hseats, spectatorMembers] at *
    simp only [Bool.not_not, List.length_cons, List.length_nil] at hsplit
    omega
  unfold SessionClient.onVsBattleTasksRegistered at h
  rw [hmembers, hplayers] at h
  constructor
  · intro hc
    have hme (e : MemberData × ℕ) := isMe_iff hids hi hmembers hc.cid e
    rw [isPlayer_eq hids hi hmembers hc, hplays p (by simp), Bool.not_false, Bool.not_true,
      if_neg Bool.false_ne_true] at h
    obtain ⟨seated, hseated, h⟩ := Option.bind_eq_some_iff.1 h
    have hfirst : [(p, i), (q, j)].findIdx? c.isMe = some 0 := by simp [List.findIdx?_cons, hme]
    obtain rfl := eq_map_of_mapM (seatPlayer_eq szAddr) hseated
    dsimp only at h
    rw [if_pos hfirst] at h
    obtain ⟨fed, hfed, h⟩ := Option.bind_eq_some_iff.1 h
    obtain rfl := feed_eq hfed hwatchers
    obtain rfl := redirect_eq h
    simp [seatPlayer, hme, hij]
  · intro hc
    have hme (e : MemberData × ℕ) := isMe_iff hids hj hmembers hc.cid e
    rw [isPlayer_eq hids hj hmembers hc, hplays q (by simp), Bool.not_false, Bool.not_true,
      if_neg Bool.false_ne_true] at h
    obtain ⟨seated, hseated, h⟩ := Option.bind_eq_some_iff.1 h
    have hsecond : [(p, i), (q, j)].findIdx? c.isMe = some 1 := by simp [List.findIdx?_cons, hme, hij.symm]
    obtain rfl := eq_map_of_mapM (seatPlayer_eq szAddr) hseated
    dsimp only at h
    rw [hsecond, if_neg (by decide)] at h
    obtain ⟨fed, hfed, h⟩ := Option.bind_eq_some_iff.1 h
    obtain rfl := Option.some.inj hfed
    obtain rfl := redirect_eq h
    simp [seatPlayer, hme, hij.symm]

/-- A spectator watches the first player. -/
theorem spectator_eq {members : List MemberData} (hids : (members.map (·.connId)).Nodup)
    (hseats : members.filter (fun m => !m.spectator) = [p, q]) (hmembers : c.lobbyData.members = members)
    {w : MemberData} (hw : w ∈ members) (hspectator : w.spectator = true) (hc : Entered c w) :
    matchSetup c szAddr direct =
      some (.startSpectating c.ggpoPort (addressOf szAddr p) (hostPortOf (some w) p) c.matchData.rngSeed) := by
  obtain ⟨i, j, hplayers, -⟩ := playerMembers_eq hids hseats
  obtain ⟨k, hk⟩ := List.getElem?_of_mem hw
  rw [matchSetup, isPlayer_eq hids hk hmembers hc, hspectator, Bool.not_true, if_neg Bool.false_ne_true, hmembers,
    hplayers, hc.cid, findMe_of_mem hids hk]
  rfl

theorem player_eq {members : List MemberData} (hids : (members.map (·.connId)).Nodup) {m : MemberData}
    (hm : m ∈ members) (hmembers : c.lobbyData.members = members) (hplays : m.spectator = false) (hc : Entered c m)
    {setup : MatchSetup} (h : matchSetup c szAddr direct = some setup) :
    ∃ players, c.onVsBattleTasksRegistered szAddr direct = some players ∧
      setup = .startGGPO players c.ggpoPort (matchDelay c.matchData) c.matchData.rngSeed := by
  obtain ⟨k, hk⟩ := List.getElem?_of_mem hm
  rw [matchSetup, isPlayer_eq hids hk hmembers hc, hplays, Bool.not_false, if_pos rfl] at h
  obtain ⟨players, hplayers, h⟩ := Option.bind_eq_some_iff.1 h
  exact ⟨players, hplayers, (Option.some.inj h).symm⟩

end Seats

/-! ## After an update -/

theorem onDataUpdate_keeps (c : SessionClient) (l : LobbyData) (d : MatchData) :
    (c.onDataUpdate l d).lobbyData = l ∧ (c.onDataUpdate l d).cid = c.cid ∧
      (c.onDataUpdate l d).spectator = c.spectator ∧ (c.onDataUpdate l d).ggpoPort = c.ggpoPort ∧
      (c.onDataUpdate l d).matchData.inputDelay = d.inputDelay ∧ (c.onDataUpdate l d).matchData.rngSeed = d.rngSeed := by
  simp only [SessionClient.onDataUpdate]
  repeat' split
  all_goals exact ⟨rfl, rfl, rfl, rfl, rfl, rfl⟩

/-! ## What a server sends -/

/-- An entry without what changes while its member stays. -/
def standingData (m : MemberData) : MemberData := { m with battleLoaded := false, watching := false }

/-- The update tells of the members that are registered. -/
theorem update_standing {p : Stepping} {a : Act} {o : Out} {u : LobbyData × MatchData}
    (ho : o ∈ (sessionServer.next p a).2) (hu : o.update? = some u) :
    u.1.members.map standingData = p.server.register.members.map (·.data) := by
  obtain ⟨s, hregister, -, -, rfl⟩ := sent_update ho hu
  rw [← hregister, SessionServer.register, List.map_map, List.map_map]
  rfl

/-- What a host has set up. With a relay, everybody is found at the session server, and the players
at the relay's port. -/
structure Hosted (cfg : HostConfig) (r : Register) : Prop where
  relayPort : r.relayPort = cfg.relayPort
  spectatorRelayBase : r.spectatorRelayBase = cfg.spectatorRelayBase
  spectatorSlots : r.spectatorSlots = cfg.spectatorSlots
  members : ∀ m ∈ r.members, cfg.relayPort ≠ 0 →
    m.data.ip = [] ∧ (m.data.spectator = false → m.data.port = cfg.relayPort)

theorem pipes_next (p : Stepping) (a : Act) :
    (sessionServer.next p a).1.server.spectatorRelayBase = p.server.spectatorRelayBase ∧
      (sessionServer.next p a).1.server.spectatorSlots = p.server.spectatorSlots := by
  show (sessionServer.next p a).1.server.register.spectatorRelayBase = p.server.register.spectatorRelayBase ∧
    (sessionServer.next p a).1.server.register.spectatorSlots = p.server.register.spectatorSlots
  have hstep := membership_of p a
  generalize (sessionServer.next p a).1.server.register = r at hstep
  cases hstep with
  | join => exact seatMember_pipes _ _
  | _ => exact ⟨rfl, rfl⟩

theorem hosted_next {cfg : HostConfig} {p : Stepping} (h : Hosted cfg p.server.register) (a : Act) :
    Hosted cfg (sessionServer.next p a).1.server.register where
  relayPort := (relayPort_next p a).trans h.relayPort
  spectatorRelayBase := (pipes_next p a).1.trans h.spectatorRelayBase
  spectatorSlots := (pipes_next p a).2.trans h.spectatorSlots
  members := by
    refine SessionServer.forall_members (membership_of p a) h.members fun m cid request _ _ hport => ?_
    have hrelay : p.server.relayPort = cfg.relayPort := h.relayPort
    constructor
    · show (if p.server.relayPort ≠ 0 || m.peerAddr.localHost then [] else m.peerAddr.text) = []
      simp [hrelay, hport]
    · intro hplays
      have hplays : request.spectator = false := hplays
      simp [SessionMember.standing, SessionServer.newMember, hplays, hrelay, hport]

theorem hosted_run (cfg : HostConfig) (as : List Act) :
    Hosted cfg (sessionServer.run (start cfg) as).server.register :=
  Machine.inv_of_all_steps (fun p : Stepping => Hosted cfg p.server.register)
    (fun _ a h => hosted_next h a) as ⟨rfl, rfl, rfl, fun _ hm => nomatch hm⟩

/-- Members that have joined once each have identities of their own. -/
theorem connIds_nodup {cfg : HostConfig} {as : List Act}
    (hjoins : sessionServer.Meets (fun _ => JoinsOnce) (start cfg) [] as) :
    ((sessionServer.run (start cfg) as).server.clients.map (·.data.connId)).Nodup := by
  have heach : OneEach (sessionServer.run (start cfg) as).server :=
    Machine.inv_of_steps (fun _ (p : Stepping) => OneEach p.server)
      (fun _ _ a h hC => ((leavesOne_iff h a).1 hC).each) (oneEach_start cfg) hjoins
  have hwell : (sessionServer.run (start cfg) as).server.WellSeated :=
    (Machine.inv_of_all_steps (fun p : Stepping => p.server.WellSeated ∧ Seated p.server)
      (fun _ a h => seated_next h a) as (seated_start cfg)).1
  have hconns := heach.conns
  rw [List.Nodup, List.pairwise_map] at hconns ⊢
  refine hconns.imp_of_mem fun hm hm' hne heq => hne ?_
  rw [hwell.ids _ hm, hwell.ids _ hm'] at heq
  exact SessionServer.cidOf_inj heq

/-- The ports of the pipes are those of different pipes, none of them 0. -/
theorem pipes_apart {base : UInt16} {slots : ℕ} {members : List SessionMember} (h : Placed base slots members)
    (hbase : base ≠ 0) (hports : base.toNat + 2 * slots ≤ 2 ^ 16) :
    (∀ m ∈ members, m.data.spectator = true → ∃ k < slots, m.data.port = base + UInt16.ofNat (2 * k) ∧
      m.data.hostPort = base + UInt16.ofNat (2 * k) + 1 ∧ m.data.hostPort ≠ 0) ∧
    ((members.filter (·.data.spectator)).map (·.data.port)).Nodup := by
  constructor
  · intro m hm hspectator
    obtain ⟨k, hk, hpipe⟩ := h.onPipe hbase m hm hspectator
    refine ⟨k, hk, hpipe.port, hpipe.hostPort, fun hzero => ?_⟩
    have hsum : (base + UInt16.ofNat (2 * k) + 1).toNat = 0 := by rw [← hpipe.hostPort, hzero]; rfl
    simp only [UInt16.toNat_add, UInt16.toNat_ofNat', UInt16.toNat_one] at hsum
    omega
  · rw [List.Nodup, List.pairwise_map]
    have hslots := (List.pairwise_filterMap.1 h.pipes).sublist (List.filter_sublist (p := fun m => m.data.spectator))
    refine hslots.imp_of_mem fun {m m'} hm hm' hne heq => ?_
    obtain ⟨hm, hspectator⟩ := List.mem_filter.1 hm
    obtain ⟨hm', hspectator'⟩ := List.mem_filter.1 hm'
    obtain ⟨k, hk, hpipe⟩ := h.onPipe hbase m hm hspectator
    obtain ⟨k', hk', hpipe'⟩ := h.onPipe hbase m' hm' hspectator'
    refine hne k hpipe.slot k' hpipe'.slot ?_
    rw [hpipe.port, hpipe'.port] at heq
    have hsum := congrArg UInt16.toNat heq
    simp only [UInt16.toNat_add, UInt16.toNat_ofNat'] at hsum
    omega

section Updates

variable {cfg : HostConfig} {as : List Act} {a : Act} {o : Out} {u : LobbyData × MatchData}

theorem update_connIds (hjoins : sessionServer.Meets (fun _ => JoinsOnce) (start cfg) [] as)
    (ho : o ∈ (sessionServer.next (sessionServer.run (start cfg) as) a).2) (hu : o.update? = some u) :
    (u.1.members.map (·.connId)).Nodup := by
  have hstanding := congrArg (List.map (·.connId)) (update_standing ho hu)
  rw [SessionServer.register] at hstanding
  simp only [List.map_map] at hstanding
  have hids : u.1.members.map (·.connId) = (sessionServer.run (start cfg) as).server.clients.map (·.data.connId) :=
    hstanding
  rw [hids]
  exact connIds_nodup hjoins

theorem update_placed (cfg : HostConfig) (as : List Act) :
    Placed cfg.spectatorRelayBase cfg.spectatorSlots (sessionServer.run (start cfg) as).server.register.members := by
  have hseated := (Machine.inv_of_all_steps (fun p : Stepping => p.server.WellSeated ∧ Seated p.server)
    (fun _ a h => seated_next h a) as (seated_start cfg)).2
  have hhosted := hosted_run cfg as
  rw [← hhosted.spectatorRelayBase, ← hhosted.spectatorSlots]
  exact (placed_register rfl).1 hseated.placed

theorem update_most (ho : o ∈ (sessionServer.next (sessionServer.run (start cfg) as) a).2) (hu : o.update? = some u) :
    u.1.members.length ≤ MAX_SF4E_PROTOCOL_USERS := by
  have hstanding := congrArg List.length (update_standing ho hu)
  rw [List.length_map, List.length_map] at hstanding
  rw [hstanding]
  exact (update_placed cfg as).most

/-- Who is in an update is registered with the same entry. -/
theorem update_registered (ho : o ∈ (sessionServer.next (sessionServer.run (start cfg) as) a).2)
    (hu : o.update? = some u) {m : MemberData} (hm : m ∈ u.1.members) :
    ∃ r ∈ (sessionServer.run (start cfg) as).server.register.members, r.data = standingData m := by
  have hmem : standingData m ∈ (sessionServer.run (start cfg) as).server.register.members.map (·.data) := by
    rw [← update_standing ho hu]
    exact List.mem_map_of_mem hm
  obtain ⟨r, hr, heq⟩ := List.mem_map.1 hmem
  exact ⟨r, hr, heq⟩

theorem update_spectatorPorts (ho : o ∈ (sessionServer.next (sessionServer.run (start cfg) as) a).2)
    (hu : o.update? = some u) : (spectatorMembers u.1.members).map (·.port) =
      ((sessionServer.run (start cfg) as).server.register.members.filter (·.data.spectator)).map (·.data.port) := by
  have hstanding := congrArg (fun l => (l.filter (·.spectator)).map (·.port)) (update_standing ho hu)
  simp only [List.filter_map, List.map_map] at hstanding
  exact hstanding

end Updates

/-! ## One match -/

/-- Whatever update the server sends to clients that have joined once each, all of them make the
same match of it: either player gives GGPO the two players in the order of the seats, itself local and
the other remote; the delay and the seed are the same; the first player feeds exactly those who
watch, and each of these watches the first player. With a relay both players send to its port unless
the match goes direct, and with spectator pipes whose ports fit each spectator and the first player
send to the two ports of one pipe, which no other spectator uses. -/
theorem setups_mirror (cfg : HostConfig) (as : List Act)
    (hjoins : sessionServer.Meets (fun _ => JoinsOnce) (start cfg) [] as) (a : Act) {o : Out}
    (ho : o ∈ (sessionServer.next (sessionServer.run (start cfg) as) a).2) {u : LobbyData × MatchData}
    (hu : o.update? = some u) {p q : MemberData} (hseats : u.1.members.filter (fun m => !m.spectator) = [p, q])
    (client : MemberData → SessionClient) (hclient : ∀ m ∈ u.1.members, Entered (client m) m)
    (szAddr : MemberData → Bytes) (direct : MemberData → Option (Bytes × UInt16)) :
    let setup m := matchSetup ((client m).onDataUpdate u.1 u.2) (szAddr m) (direct m)
    let watchers := (spectatorMembers u.1.members).filter (·.watching)
    (∀ s, setup p = some s → ∃ players,
      s = .startGGPO players (client p).ggpoPort (matchDelay u.2) u.2.rngSeed ∧
      players = [localPlayer, remotePlayer (szAddr p) (direct p) q] ++ watchers.map (fedPlayer (szAddr p)) ∧
      BattleLoop.listReady (inPlayers players) = some ⟨.localPlayer, .remote⟩) ∧
    (∀ s, setup q = some s → ∃ players,
      s = .startGGPO players (client q).ggpoPort (matchDelay u.2) u.2.rngSeed ∧
      players = [remotePlayer (szAddr q) (direct q) p, localPlayer] ∧
      BattleLoop.listReady (inPlayers players) = some ⟨.remote, .localPlayer⟩) ∧
    (∀ w ∈ spectatorMembers u.1.members, setup w =
      some (.startSpectating (client w).ggpoPort (addressOf (szAddr w) p) (hostPortOf (some w) p) u.2.rngSeed)) ∧
    (cfg.relayPort ≠ 0 → ∀ m ∈ [p, q], ∀ addr, remoteEndpoint addr none m = (cText addr, cfg.relayPort)) ∧
    (cfg.spectatorRelayBase ≠ 0 → cfg.spectatorRelayBase.toNat + 2 * cfg.spectatorSlots ≤ 2 ^ 16 →
      (∀ w ∈ spectatorMembers u.1.members, ∃ k < cfg.spectatorSlots,
        w.port = cfg.spectatorRelayBase + UInt16.ofNat (2 * k) ∧
        hostPortOf (some w) p = cfg.spectatorRelayBase + UInt16.ofNat (2 * k) + 1) ∧
      ((spectatorMembers u.1.members).map (·.port)).Nodup) := by
  intro setup watchers
  have hids := update_connIds hjoins ho hu
  have hmost := update_most ho hu
  have hplayer : ∀ m ∈ [p, q], m ∈ u.1.members ∧ m.spectator = false := by
    intro m hm
    rw [← hseats] at hm
    simpa using List.mem_filter.1 hm
  have hmembers (m : MemberData) : ((client m).onDataUpdate u.1 u.2).lobbyData.members = u.1.members :=
    congrArg LobbyData.members (onDataUpdate_keeps (client m) u.1 u.2).1
  have hentered {m : MemberData} (hm : m ∈ u.1.members) : Entered ((client m).onDataUpdate u.1 u.2) m :=
    ⟨(onDataUpdate_keeps ..).2.1.trans (hclient m hm).cid, (onDataUpdate_keeps ..).2.2.1.trans (hclient m hm).spectator⟩
  have hset {m : MemberData} (hm : m ∈ [p, q]) (s) (hs : setup m = some s) : ∃ players,
      ((client m).onDataUpdate u.1 u.2).onVsBattleTasksRegistered (szAddr m) (direct m) = some players ∧
        s = .startGGPO players (client m).ggpoPort (matchDelay u.2) u.2.rngSeed := by
    obtain ⟨players, hplayers, hs⟩ := player_eq hids (hplayer m hm).1 (hmembers m) (hplayer m hm).2
      (hentered (hplayer m hm).1) hs
    obtain ⟨-, -, -, hport, hdelay, hseed⟩ := onDataUpdate_keeps (client m) u.1 u.2
    rw [matchDelay, hdelay, hport, hseed] at hs
    exact ⟨players, hplayers, hs⟩
  refine ⟨fun s hs => ?_, fun s hs => ?_, fun w hw => ?_, fun hrelay m hm addr => ?_, fun hbase hports => ?_⟩
  · obtain ⟨players, hplayers, rfl⟩ := hset (by simp) s hs
    have hlist := (players_eq hids hseats hmost (hmembers p) hplayers).1 (hentered (hplayer p (by simp)).1)
    exact ⟨players, rfl, hlist, by rw [hlist]; rfl⟩
  · obtain ⟨players, hplayers, rfl⟩ := hset (by simp) s hs
    have hlist := (players_eq hids hseats hmost (hmembers q) hplayers).2 (hentered (hplayer q (by simp)).1)
    exact ⟨players, rfl, hlist, by rw [hlist]; rfl⟩
  · obtain ⟨hmem, hspectator⟩ := List.mem_filter.1 hw
    obtain ⟨-, -, -, hport, -, hseed⟩ := onDataUpdate_keeps (client w) u.1 u.2
    show matchSetup _ _ _ = _
    rw [spectator_eq hids hseats (hmembers w) hmem hspectator (hentered hmem), hport, hseed]
  · obtain ⟨r, hr, hdata⟩ := update_registered ho hu (hplayer m hm).1
    obtain ⟨hip, hport⟩ := (hosted_run cfg as).members r hr hrelay
    rw [hdata] at hip hport
    have hip : m.ip = [] := hip
    have hport : m.port = cfg.relayPort := hport (hplayer m hm).2
    rw [remoteEndpoint, addressOf, if_pos hip, hport]
  · obtain ⟨hpipes, hnodup⟩ := pipes_apart (update_placed cfg as) hbase hports
    refine ⟨fun w hw => ?_, ?_⟩
    · obtain ⟨hmem, hspectator⟩ := List.mem_filter.1 hw
      obtain ⟨r, hr, hdata⟩ := update_registered ho hu hmem
      have hwatches : r.data.spectator = true := by rw [hdata]; exact hspectator
      obtain ⟨k, hk, hport, hhost, hne⟩ := hpipes r hr hwatches
      rw [hdata] at hport hhost hne
      refine ⟨k, hk, hport, ?_⟩
      rw [hostPortOf, if_pos (show w.hostPort ≠ 0 from hne)]
      exact hhost
    · rw [update_spectatorPorts ho hu]
      exact hnodup

namespace Sample
open Sf4e.Session.Sample Sf4e.Netplay.Sample

/-- Two players and a spectator, and both players are ready. -/
def watchedMatch : List Act := acts (twoPlayers ++ enter 3 "S" true ++ [step [say 2 ready, say 1 ready]])

/-- What the Step of the call sends. -/
def calledOut : List Out :=
  (sessionServer.next (sessionServer.run (start (lobbyHost 0)) watchedMatch.dropLast) (.endStep tick)).2

/-- The update with which it calls the match. -/
def calledUpdate : LobbyData × MatchData :=
  (calledOut.filterMap Out.update?).getLastD (⟨⟨[], []⟩, false, 0, ⟨0, 0⟩, false, []⟩, .clear)

def nobody : MemberData := ⟨.null, [], [], 0, false, false, false, 0⟩

def seat (i : ℕ) : MemberData := calledUpdate.1.members.getD i nobody

/-- The client of a member. -/
def clientOf (m : MemberData) : SessionClient := { newcomer 1 "A" with cid := m.connId, spectator := m.spectator }

end Sample

instance (p : Stepping) (conn : Conn) (num : ℕ) (addr : PeerAddr) (tick : Tick) :
    (msg : ClientMsg) → Decidable (JoinsOnce p (.message ⟨conn, msg, num, addr, tick⟩))
  | .joinReq (some _) => inferInstanceAs (Decidable (_ → _ → ∀ e ∈ p.server.clients, e.conn ≠ conn))
  | .joinReq none | .notJson | .untyped | .hello | .forward .. | .setChara _ | .desyncReport _ | .directOffer _ |
    .setEnv _ | .setStage _ | .battleLoaded | .lobbyReady _ | .reportResults _ | .battleSnapshot _ | .unrecognized =>
    .isTrue trivial

instance (p : Stepping) : (a : Act) → Decidable (JoinsOnce p a)
  | .message ⟨_, _, _, _, _⟩ => inferInstance
  | .event (.closed conn false) => inferInstanceAs (Decidable (∀ e ∈ p.server.clients, e.conn ≠ conn))
  | .endStep _ | .event (.closed _ true) | .event (.connecting ..) | .event (.create ..) | .event .release |
    .event .resetBattleSync => .isTrue trivial

theorem setups_mirror_watched :
    let setup m := matchSetup ((Sample.clientOf m).onDataUpdate Sample.calledUpdate.1 Sample.calledUpdate.2)
      (ascii "10.0.0.9") none
    (setup (Sample.seat 0)).isSome ∧ ∀ s, setup (Sample.seat 0) = some s → ∃ players,
      s = .startGGPO players 23457 (matchDelay Sample.calledUpdate.2) Sample.calledUpdate.2.rngSeed ∧
      players = [localPlayer, remotePlayer (ascii "10.0.0.9") none (Sample.seat 1),
        fedPlayer (ascii "10.0.0.9") (Sample.seat 2)] ∧
      BattleLoop.listReady (inPlayers players) = some ⟨.localPlayer, .remote⟩ := by
  obtain ⟨o, ho, hu⟩ : ∃ o ∈ Sample.calledOut, o.update? = some Sample.calledUpdate := by
    have hlast : Sample.calledUpdate ∈ Sample.calledOut.filterMap Out.update? := by decide +kernel
    exact List.mem_filterMap.1 hlast
  have hmirror := setups_mirror (lobbyHost 0) Sample.watchedMatch.dropLast (by decide +kernel)
    (.endStep Session.Sample.tick) ho hu (p := Sample.seat 0) (q := Sample.seat 1) (by decide +kernel)
    Sample.clientOf (fun m _ => ⟨rfl, rfl⟩) (fun _ => ascii "10.0.0.9") (fun _ => none)
  refine ⟨by decide +kernel, fun s hs => ?_⟩
  have hwatchers : (spectatorMembers Sample.calledUpdate.1.members).filter (·.watching) = [Sample.seat 2] := by
    decide +kernel
  obtain ⟨players, hs, hplayers, hlist⟩ := hmirror.1 s hs
  rw [hwatchers] at hplayers
  exact ⟨players, hs, hplayers, hlist⟩

end Sf4e.Battle
