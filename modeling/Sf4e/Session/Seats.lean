import Sf4e.Session.Members
import Mathlib.Data.List.Perm.Subperm
import Mathlib.Data.List.Nodup
/-!
# Seats, names and spectator pipes

Players sit in front of the spectators and there are at most two of each; nobody
shares a name; every spectator of a host with spectator pipes holds a pipe of
its own and keeps it. A request that is rejected changes nothing.
-/
open Sf4e.Lib

namespace Sf4e.Session

/-- A name as everybody else may be shown it. -/
structure Shown (name : Bytes) : Prop where
  nonempty : name ≠ []
  short : name.length ≤ 32
  printed : ∀ ch ∈ name, 0x20 ≤ ch ∧ ch ≠ 0x7f

/-- The ports of pipe `k`: the watcher's, and the one its host sends to. -/
structure OnPipe (base : UInt16) (k : Nat) (m : SessionMember) : Prop where
  slot : m.spectatorSlot = some k
  port : m.data.port = base + UInt16.ofNat (2 * k)
  hostPort : m.data.hostPort = base + UInt16.ofNat (2 * k) + 1

/-- What holds of the members in whatever order they sit, for spectator pipes
`[0, slots)` from `base` on. -/
structure Placed (base : UInt16) (slots : Nat) (members : List SessionMember) : Prop where
  names : (members.map (·.data.name)).Nodup
  shown : ∀ m ∈ members, Shown m.data.name
  most : members.length ≤ MAX_SF4E_PROTOCOL_USERS
  watchers : members.countP (·.data.spectator) ≤ MAX_SF4E_SPECTATORS
  pipes : (members.filterMap (·.spectatorSlot)).Nodup
  holders : ∀ m ∈ members, m.spectatorSlot.isSome → m.data.spectator
  onPipe : base ≠ 0 → ∀ m ∈ members, m.data.spectator → ∃ k < slots, OnPipe base k m

/-- The seating of a server. -/
structure Seated (s : SessionServer) : Prop where
  front : Fronted (·.isPlayer) s.clients
  players : s.playerCount ≤ 2
  placed : Placed s.spectatorRelayBase s.spectatorSlots s.clients

/-- Whoever was here before the step and still is (no two members share a name) keeps
slot and ports; and a rejected join leaves everything as it was. -/
structure SeatsKept (p : Stepping) (a : Act) : Prop where
  kept : ∀ m ∈ p.server.clients, ∀ m' ∈ (sessionServer.next p a).1.server.clients, m'.data.name = m.data.name →
    m'.spectatorSlot = m.spectatorSlot ∧ m'.data.port = m.data.port ∧ m'.data.hostPort = m.data.hostPort
  rejected : ∀ conn reason, .respond conn (.joinReject reason) ∈ (sessionServer.next p a).2 →
    (sessionServer.next p a).1 = p

/-! ## The stored name -/

theorem storedName_shown (raw : Bytes) : Shown (SessionServer.storedName raw) := by
  have hprinted : ∀ ch ∈ (raw.filter fun ch => 0x20 ≤ ch && ch ≠ 0x7f).take 32, 0x20 ≤ ch ∧ ch ≠ 0x7f := by
    intro ch hch
    simpa using (List.mem_filter.1 (List.mem_of_mem_take hch)).2
  unfold SessionServer.storedName
  dsimp only
  split
  · -- the name of somebody who gave none
    exact ⟨by decide, by decide, by decide +kernel⟩
  · rename_i hne
    exact ⟨hne, List.length_take_le _ _, hprinted⟩

/-! ## The free pipe -/

theorem held_iff (l : List SessionMember) (k : Nat) :
    (!l.any fun m => m.spectatorSlot = some k) = false ↔ k ∈ l.filterMap (·.spectatorSlot) := by
  simp

/-- The pipes below the free one are all held. -/
theorem range_freeSlot_subset (l : List SessionMember) :
    List.range (SessionServer.freeSlot l) ⊆ l.filterMap (·.spectatorSlot) := by
  intro k hk
  rw [← held_iff]
  unfold SessionServer.freeSlot at hk
  cases hf : (List.range l.length).find? fun slot => !l.any fun m => m.spectatorSlot = some slot with
  | none =>
    rw [hf, Option.getD_none, List.mem_range] at hk
    simpa using List.find?_range_eq_none.1 hf k hk
  | some i =>
    rw [hf, Option.getD_some, List.mem_range] at hk
    have hbelow := (List.find?_range_eq_some.1 hf).2.2 k hk
    simpa using hbelow

theorem freeSlot_le (l : List SessionMember) :
    SessionServer.freeSlot l ≤ (l.filterMap (·.spectatorSlot)).length := by
  have h := (List.subperm_of_subset List.nodup_range (range_freeSlot_subset l)).length_le
  rwa [List.length_range] at h

/-- The loop of the source ends on a pipe nobody holds. -/
theorem freeSlot_not_held (l : List SessionMember) :
    SessionServer.freeSlot l ∉ l.filterMap (·.spectatorSlot) := by
  intro hheld
  cases hf : (List.range l.length).find? fun slot => !l.any fun m => m.spectatorSlot = some slot with
  | some i =>
    have hi : SessionServer.freeSlot l = i := by
      unfold SessionServer.freeSlot
      rw [hf, Option.getD_some]
    have hfree := (List.find?_range_eq_some.1 hf).1
    rw [hi, ← held_iff, hfree] at hheld
    cases hheld
  | none =>
    -- one more pipe held than there are members
    have hn : SessionServer.freeSlot l = l.length := by
      unfold SessionServer.freeSlot
      rw [hf, Option.getD_none]
    have hsub : List.range (l.length + 1) ⊆ l.filterMap (·.spectatorSlot) := by
      rw [List.range_succ]
      apply List.append_subset.2
      exact ⟨hn ▸ range_freeSlot_subset l, by simpa [hn] using hheld⟩
    have hlen := (List.subperm_of_subset List.nodup_range hsub).length_le
    have hmost : (l.filterMap (·.spectatorSlot)).length ≤ l.length := List.length_filterMap_le _ _
    rw [List.length_range] at hlen
    omega

theorem spectatorCount_eq (s : SessionServer) : s.spectatorCount = s.clients.countP (·.data.spectator) := by
  have h := List.length_eq_countP_add_countP (l := s.clients) (fun m => !m.data.spectator)
  have hnot : s.clients.countP (fun m => decide (¬(!m.data.spectator) = true)) =
      s.clients.countP (·.data.spectator) := List.countP_congr (by simp)
  rw [hnot] at h
  simp only [SessionServer.spectatorCount, SessionServer.playerCount]
  omega

/-! ## Changes of the member list -/

namespace Placed
variable {base : UInt16} {slots : Nat} {l l' : List SessionMember}

theorem nil : Placed base slots [] :=
  ⟨List.nodup_nil, by simp, by simp, by simp, List.nodup_nil, by simp, by simp⟩

theorem perm (h : Placed base slots l) (hp : l'.Perm l) : Placed base slots l' where
  names := (hp.map _).nodup_iff.2 h.names
  shown m hm := h.shown m (hp.subset hm)
  most := hp.length_eq ▸ h.most
  watchers := hp.countP_eq _ ▸ h.watchers
  pipes := (hp.filterMap _).nodup_iff.2 h.pipes
  holders m hm := h.holders m (hp.subset hm)
  onPipe hb m hm := h.onPipe hb m (hp.subset hm)

theorem sublist (h : Placed base slots l) (hs : l'.Sublist l) : Placed base slots l' where
  names := h.names.sublist (hs.map _)
  shown m hm := h.shown m (hs.subset hm)
  most := Nat.le_trans hs.length_le h.most
  watchers := Nat.le_trans hs.countP_le h.watchers
  pipes := h.pipes.sublist (hs.filterMap _)
  holders m hm := h.holders m (hs.subset hm)
  onPipe hb m hm := h.onPipe hb m (hs.subset hm)

theorem standing : Placed base slots (l.map (·.standing)) ↔ Placed base slots l := by
  have hnames : (l.map (·.standing)).map (·.data.name) = l.map (·.data.name) := by
    rw [List.map_map]
    rfl
  have hcount : (l.map (·.standing)).countP (·.data.spectator) = l.countP (·.data.spectator) := by
    rw [List.countP_map]
    rfl
  have hslots : (l.map (·.standing)).filterMap (·.spectatorSlot) = l.filterMap (·.spectatorSlot) := by
    rw [List.filterMap_map]
    rfl
  constructor
  · intro h
    refine ⟨hnames ▸ h.names, ?_, ?_, hcount ▸ h.watchers, hslots ▸ h.pipes, ?_, ?_⟩
    · exact fun m hm => h.shown m.standing (List.mem_map_of_mem hm)
    · simpa using h.most
    · exact fun m hm => h.holders m.standing (List.mem_map_of_mem hm)
    · intro hb m hm hspec
      obtain ⟨k, hk, hpipe⟩ := h.onPipe hb m.standing (List.mem_map_of_mem hm) hspec
      exact ⟨k, hk, hpipe.slot, hpipe.port, hpipe.hostPort⟩
  · intro h
    refine ⟨hnames ▸ h.names, ?_, ?_, hcount ▸ h.watchers, hslots ▸ h.pipes, ?_, ?_⟩
    · exact List.forall_mem_map.2 fun m hm => h.shown m hm
    · simpa using h.most
    · exact List.forall_mem_map.2 fun m hm => h.holders m hm
    · intro hb m hm hspec
      obtain ⟨e, he, rfl⟩ := List.mem_map.1 hm
      obtain ⟨k, hk, hpipe⟩ := h.onPipe hb e he hspec
      exact ⟨k, hk, hpipe.slot, hpipe.port, hpipe.hostPort⟩

/-- Pipes are held by spectators alone. -/
theorem held_le (h : Placed base slots l) : (l.filterMap (·.spectatorSlot)).length ≤ l.countP (·.data.spectator) := by
  rw [List.length_filterMap_eq_countP]
  exact List.countP_mono_left h.holders

end Placed

/-! ## A granted join -/

/-- What a request meets that is not refused. -/
structure Granted (s : SessionServer) (request : SessionJoinRequest) : Prop where
  room : s.clients.length < MAX_SF4E_PROTOCOL_USERS
  watchers : request.spectator = true → s.spectatorCount < MAX_SF4E_SPECTATORS
  pipe : request.spectator = true → s.spectatorRelayBase ≠ 0 → s.spectatorCount < s.spectatorSlots
  name : ∀ m ∈ s.clients, m.data.name ≠ SessionServer.storedName request.username

theorem granted_of_joinRefusal {s : SessionServer} {request : SessionJoinRequest}
    (hok : s.joinRefusal request = none) : Granted s request := by
  unfold SessionServer.joinRefusal at hok
  -- one goal for each reason to refuse, and the last where none applies
  repeat' split at hok
  any_goals cases hok
  rename_i hroom _ hwatch hpipe hname
  simp only [ge_iff_le, Bool.and_eq_true, decide_eq_true_eq, not_and, Nat.not_le, ne_eq, and_imp, Bool.not_eq_true,
    List.any_eq_false] at hroom hwatch hpipe hname
  exact ⟨hroom, hwatch, fun hspec hbase => hpipe hspec hbase, hname⟩

/-- The pipe of a new spectator is a pipe of the host. -/
theorem freeSlot_lt {s : SessionServer} (h : Placed s.spectatorRelayBase s.spectatorSlots s.clients)
    {request : SessionJoinRequest} (hg : Granted s request) (hspec : request.spectator = true)
    (hbase : s.spectatorRelayBase ≠ 0) : SessionServer.freeSlot s.clients < s.spectatorSlots := by
  have hpipe := hg.pipe hspec hbase
  rw [spectatorCount_eq] at hpipe
  calc SessionServer.freeSlot s.clients ≤ (s.clients.filterMap (·.spectatorSlot)).length := freeSlot_le _
    _ ≤ s.clients.countP (·.data.spectator) := h.held_le
    _ < s.spectatorSlots := hpipe

theorem Placed.join {s : SessionServer} (h : Placed s.spectatorRelayBase s.spectatorSlots s.clients)
    {request : SessionJoinRequest} (hg : Granted s request) (conn : Conn) (peerAddr : PeerAddr) (cid : ConnectionID) :
    Placed s.spectatorRelayBase s.spectatorSlots (s.newMember conn request peerAddr cid :: s.clients) where
  names := by
    refine List.nodup_cons.2 ⟨?_, h.names⟩
    intro hmem
    obtain ⟨m, hm, heq⟩ := List.mem_map.1 hmem
    exact hg.name m hm heq
  shown := List.forall_mem_cons.2 ⟨storedName_shown _, h.shown⟩
  most := hg.room
  watchers := by
    rw [List.countP_cons, (SessionServer.newMember_seat s conn request peerAddr cid).2]
    by_cases hspec : request.spectator = true
    · have hw := hg.watchers hspec
      rw [spectatorCount_eq] at hw
      split <;> omega
    · rw [if_neg hspec]
      exact h.watchers
  pipes := by
    simp only [SessionServer.newMember, List.filterMap_cons]
    by_cases hslot : (request.spectator && s.spectatorRelayBase ≠ 0) = true
    · rw [if_pos hslot]
      exact List.nodup_cons.2 ⟨freeSlot_not_held _, h.pipes⟩
    · rw [if_neg hslot]
      exact h.pipes
  holders := by
    refine List.forall_mem_cons.2 ⟨?_, h.holders⟩
    intro hslot
    simp only [SessionServer.newMember] at hslot ⊢
    split at hslot
    · rename_i hspec
      exact (Bool.and_eq_true_iff.1 hspec).1
    · cases hslot
  onPipe := by
    intro hbase
    refine List.forall_mem_cons.2 ⟨?_, h.onPipe hbase⟩
    intro hspec
    have hspec' : request.spectator = true := hspec
    have hslot : (request.spectator && s.spectatorRelayBase ≠ 0) = true := by simp [hspec', hbase]
    refine ⟨SessionServer.freeSlot s.clients, freeSlot_lt h hg hspec' hbase, ?_, ?_, ?_⟩
    all_goals simp only [SessionServer.newMember, hslot, if_true]

/-! ## One step -/

theorem placed_register {s : SessionServer} {r : Register} (h : s.register = r) :
    Placed s.spectatorRelayBase s.spectatorSlots s.clients ↔ Placed r.spectatorRelayBase r.spectatorSlots r.members := by
  subst h
  exact Placed.standing.symm

theorem seatMember_pipes (s : SessionServer) (m : SessionMember) :
    (s.seatMember m).spectatorRelayBase = s.spectatorRelayBase ∧ (s.seatMember m).spectatorSlots = s.spectatorSlots := by
  unfold SessionServer.seatMember
  split <;> exact ⟨rfl, rfl⟩

theorem placed_next {p : Stepping} (h : Placed p.server.spectatorRelayBase p.server.spectatorSlots p.server.clients)
    (a : Act) :
    Placed (sessionServer.next p a).1.server.spectatorRelayBase (sessionServer.next p a).1.server.spectatorSlots
      (sessionServer.next p a).1.server.clients := by
  have hm := membership_of p a
  have h0 := (placed_register rfl).1 h
  generalize hr : (sessionServer.next p a).1.server.register = r at hm
  rw [placed_register hr]
  cases hm with
  | same => exact h0
  | hello => exact h0
  | @join m cid request hcid hmsg hok =>
    rw [← placed_register rfl, (seatMember_pipes _ _).1, (seatMember_pipes _ _).2]
    exact (h.join (granted_of_joinRefusal hok) _ _ _).perm (p.server.seatMember_perm _)
  | moved hperm => exact h0.perm hperm
  | leave => exact h0.sublist List.eraseP_sublist
  | lost => exact h0
  | create => exact .nil
  | release => exact .nil

/-- A member who was here before is the one of the same name. -/
theorem kept_of_mem {l : List SessionMember} (hnames : (l.map (·.data.name)).Nodup) {m m' : SessionMember}
    (hm : m ∈ l) (hm' : m'.standing ∈ l.map (·.standing)) (hname : m'.data.name = m.data.name) :
    m'.standing = m.standing := by
  obtain ⟨e, he, heq⟩ := List.mem_map.1 hm'
  have hsame : e.data.name = m.data.name := by
    calc e.data.name = e.standing.data.name := rfl
      _ = m'.data.name := by rw [heq]; rfl
      _ = m.data.name := hname
  rw [← heq, List.inj_on_of_nodup_map hnames he hm hsame]

theorem standing_kept {p : Stepping} (h : Placed p.server.spectatorRelayBase p.server.spectatorSlots p.server.clients)
    (a : Act) {m m' : SessionMember} (hm : m ∈ p.server.clients)
    (hm' : m' ∈ (sessionServer.next p a).1.server.clients) (hname : m'.data.name = m.data.name) :
    m'.standing = m.standing := by
  have hmem := membership_of p a
  have hafter : m'.standing ∈ (sessionServer.next p a).1.server.register.members := List.mem_map_of_mem hm'
  have hkept : m'.standing ∈ p.server.register.members → m'.standing = m.standing :=
    fun hbefore => kept_of_mem h.names hm hbefore hname
  generalize (sessionServer.next p a).1.server.register = r at hmem hafter
  cases hmem with
  | same => exact hkept hafter
  | hello => exact hkept hafter
  | @join msg cid request hcid hmsg hok =>
    obtain ⟨e, he, heq⟩ := List.mem_map.1 hafter
    rcases List.mem_cons.1 ((p.server.seatMember_perm _).subset he) with rfl | he
    · -- the new member has a name of its own
      have hnew : m.data.name = SessionServer.storedName request.username := by
        rw [← hname]
        exact (congrArg (fun e : SessionMember => e.data.name) heq).symm
      exact absurd hnew ((granted_of_joinRefusal hok).name m hm)
    · exact hkept (heq ▸ List.mem_map_of_mem he)
  | moved hperm => exact hkept (hperm.subset hafter)
  | leave => exact hkept (List.eraseP_subset hafter)
  | lost => exact hkept hafter
  | create => cases hafter
  | release => cases hafter

/-! ## A rejected join -/

/-- A `JoinReject` to somebody. -/
def Out.isReject : Out → Bool
  | .respond _ (.joinReject _) => true
  | _ => false

theorem exchange_no_reject (s : SessionServer) (tick : Tick) :
    ∀ o ∈ (s.maybeExchangeDirectEndpoints tick).2, o.isReject = false := by
  unfold SessionServer.maybeExchangeDirectEndpoints
  repeat' split
  all_goals simp [Out.isReject]

/-- Only a join request is answered with a rejection, and then nothing has changed. -/
theorem rejected_message (p : Stepping) (m : IncomingMsg) :
    (∀ o ∈ (handleMessage p m).2, o.isReject = false) ∨ (handleMessage p m).1 = p := by
  unfold handleMessage
  cases p.server.cidMap.find m.conn with
  | none =>
    left
    cases m.msg <;> simp [Stepping.serve, SessionServer.onHello, Out.isReject]
  | some cid =>
    simp only [handleKnown]
    cases m.msg with
    | joinReq request =>
      cases request with
      | none => exact .inr rfl
      | some request =>
        simp only [Stepping.serve, SessionServer.onJoinRequest, SessionServer.registerToWait]
        cases p.server.joinRefusal request with
        | some reason => exact .inr rfl
        | none => exact .inl (by simp)
    | forward msg fwd =>
      left
      simp only [Stepping.serve, SessionServer.onForward]
      repeat' split
      all_goals simp [Out.isReject]
    | desyncReport report =>
      left
      simp only [Stepping.serve, SessionServer.onDesyncReport]
      repeat' split
      · simp
      · simp
      · simp only [List.mem_cons, List.mem_map]
        rintro o (rfl | ⟨other, _, rfl⟩) <;> rfl
    | directOffer offer =>
      left
      simp only [Stepping.serve, SessionServer.onDirectOffer]
      split
      · exact exchange_no_reject _ _
      · simp
    | reportResults loserSide =>
      left
      simp only [Stepping.serve, SessionServer.onReportResults, SessionServer.handleResults,
        SessionServer.closeMatchClock]
      repeat' split
      all_goals simp_all [Out.isReject]
    | battleSnapshot data =>
      left
      simp only [Stepping.serve, SessionServer.onBattleSnapshot]
      split
      · simp
      · simp only [List.mem_map]
        rintro o ⟨other, _, rfl⟩
        rfl
    | _ => exact .inl (by simp [Stepping.serve])

theorem no_reject_finish (p : Stepping) (tick : Tick) : ∀ o ∈ (finishStep p tick).2, o.isReject = false := by
  rw [finishStep_out]
  simp only [List.mem_append]
  rintro o (((ho | ho) | ho) | ho)
  · exact exchange_no_reject _ _ o ho
  · rw [sendUpdate_out _ o ho]
    rfl
  · split at ho
    · simp only [SessionServer.sendAllReady, List.mem_append, List.mem_cons, List.not_mem_nil, or_false] at ho
      rcases ho with ((rfl | rfl) | ho) | rfl
      · rfl
      · rfl
      · split at ho
        · rw [List.mem_singleton.1 ho]
          rfl
        · cases ho
      · rfl
    · cases ho
  · split at ho
    · rw [List.mem_singleton.1 ho]
      rfl
    · cases ho

theorem no_reject_host (s : SessionServer) (e : Event) : ∀ o ∈ (s.host e).2, o.isReject = false := by
  have hclosed : ∀ o ∈ s.accepted.map fun e => Out.closeConnection e.1, o.isReject = false := by
    intro o ho
    obtain ⟨e, -, rfl⟩ := List.mem_map.1 ho
    rfl
  cases e with
  | connecting conn ip acceptOk =>
    simp only [SessionServer.host, SessionServer.connecting]
    split <;> simp [Out.isReject]
  | closed conn wasConnected => simp [SessionServer.host, SessionServer.connectionClosed, Out.isReject]
  | create hash secret isPublic => exact hclosed
  | release => exact hclosed
  | resetBattleSync => simp [SessionServer.host]

theorem seatsKept {p : Stepping} (h : Placed p.server.spectatorRelayBase p.server.spectatorSlots p.server.clients)
    (a : Act) : SeatsKept p a where
  kept m hm m' hm' hname := by
    have hst := standing_kept h a hm hm' hname
    exact ⟨congrArg (·.spectatorSlot) hst, congrArg (·.data.port) hst, congrArg (·.data.hostPort) hst⟩
  rejected conn reason ho := by
    cases a with
    | message m =>
      rw [next_message] at ho ⊢
      rcases rejected_message p m with hno | hsame
      · cases hno _ ho
      · exact hsame
    | endStep tick => cases no_reject_finish p tick _ ho
    | event e => cases no_reject_host p.server e _ ho

/-! ## Every run -/

theorem seated_next {p : Stepping} (h : p.server.WellSeated ∧ Seated p.server) (a : Act) :
    (sessionServer.next p a).1.server.WellSeated ∧ Seated (sessionServer.next p a).1.server := by
  have hwell := wellSeated_next h.1 a
  refine ⟨hwell, hwell.front, ?_, placed_next h.2.placed a⟩
  rw [SessionServer.playerCount_eq]
  exact hwell.two

theorem seated_start (cfg : HostConfig) : (start cfg).server.WellSeated ∧ Seated (start cfg).server :=
  ⟨wellSeated_start cfg, .nil, Nat.zero_le _, .nil⟩

/-- Every state of every run is well seated, every member keeps its pipe while it stays,
and a rejected join changes nothing. -/
theorem seating (cfg : HostConfig) (as : List Act) :
    Seated (sessionServer.run (start cfg) as).server ∧
      sessionServer.Meets (fun _ => SeatsKept) (start cfg) [] as := by
  have hrun := Machine.inv_of_all_steps (fun p : Stepping => p.server.WellSeated ∧ Seated p.server)
    (fun _ a h => seated_next h a) as (seated_start cfg)
  refine ⟨hrun.2, ?_⟩
  exact Machine.meets_of_inv (C := fun _ _ _ => True) (fun _ p => p.server.WellSeated ∧ Seated p.server)
    (fun _ _ a h _ => seated_next h a) (fun _ _ a h _ => seatsKept h.2.placed a) (seated_start cfg) Machine.meets_true

end Sf4e.Session
