import Sf4e.Session.Members
/-!
# One connection, one member

A member list without two entries of one connection, all of them known. Closing a
connection takes one entry out, so it leaves nobody behind as long as there is
only one. A join is judged by its name and the seats alone: a second request on
the same connection, under another name, is granted.
-/
open Sf4e.Lib

namespace Sf4e.Session

/-- No two members have the same connection, and every member's is known. -/
structure OneEach (s : SessionServer) : Prop where
  conns : (s.clients.map (·.conn)).Nodup
  known : ∀ m ∈ s.clients, (s.cidMap.find m.conn).isSome

/-- The state after the step is well formed, and a connection that was closed has no
member left. -/
structure LeavesOne (p : Stepping) (a : Act) : Prop where
  each : OneEach (sessionServer.next p a).1.server
  gone : ∀ conn, a = .event (.closed conn true) → ∀ m ∈ (sessionServer.next p a).1.server.clients, m.conn ≠ conn

/-- No member's connection is granted another join, and a member's connection was
connected when it is closed. -/
def JoinsOnce (p : Stepping) : Act → Prop
  | .message m =>
    match m.msg with
    | .joinReq (some request) =>
      (p.server.cidMap.find m.conn).isSome = true → p.server.joinRefusal request = none →
        ∀ e ∈ p.server.clients, e.conn ≠ m.conn
    | _ => True
  | .event (.closed conn false) => ∀ e ∈ p.server.clients, e.conn ≠ conn
  | _ => True

/-! ## Reading it off the register -/

theorem conns_standing (l : List SessionMember) : (l.map (·.standing)).map (·.conn) = l.map (·.conn) := by
  rw [List.map_map]
  rfl

theorem oneEach_register {s : SessionServer} {r : Register} (h : s.register = r) :
    OneEach s ↔ (r.members.map (·.conn)).Nodup ∧ ∀ conn ∈ r.members.map (·.conn), (r.cidMap.find conn).isSome := by
  subst h
  simp only [SessionServer.register, conns_standing, List.forall_mem_map]
  exact ⟨fun h => ⟨h.conns, h.known⟩, fun h => ⟨h.1, h.2⟩⟩

theorem forall_conn_register {s : SessionServer} {r : Register} (h : s.register = r) (conn : Conn) :
    (∀ m ∈ s.clients, m.conn ≠ conn) ↔ conn ∉ r.members.map (·.conn) := by
  subst h
  simp only [SessionServer.register, conns_standing, List.mem_map, not_exists, not_and]

/-! ## One step -/

theorem oneEach_join {p : Stepping} (h : OneEach p.server) {m : IncomingMsg} {cid : ConnectionID}
    {request : SessionJoinRequest} (hcid : p.server.cidMap.find m.conn = some cid)
    (hmsg : m.msg = .joinReq (some request)) (hok : p.server.joinRefusal request = none) :
    OneEach (sessionServer.next p (.message m)).1.server ↔ ∀ e ∈ p.server.clients, e.conn ≠ m.conn := by
  have hperm := ((p.server.seatMember_perm (p.server.newMember m.conn request m.peerAddr cid)).map (·.conn))
  have hmap : (p.server.seatMember (p.server.newMember m.conn request m.peerAddr cid)).cidMap = p.server.cidMap := by
    unfold SessionServer.seatMember
    split <;> rfl
  rw [next_message, oneEach_register (SessionServer.register_join hcid hmsg hok)]
  simp only [SessionServer.register, conns_standing, hperm.nodup_iff, hperm.mem_iff, hmap, List.map_cons,
    List.nodup_cons, List.forall_mem_cons]
  constructor
  · rintro ⟨⟨hnew, -⟩, -⟩ e he heq
    exact hnew (List.mem_map.2 ⟨e, he, heq⟩)
  · intro hnew
    refine ⟨⟨?_, h.conns⟩, ?_, ?_⟩
    · intro hmem
      obtain ⟨e, he, heq⟩ := List.mem_map.1 hmem
      exact hnew e he heq
    · show (p.server.cidMap.find m.conn).isSome
      rw [hcid]
      rfl
    · intro conn hmem
      obtain ⟨e, he, rfl⟩ := List.mem_map.1 hmem
      exact h.known e he

/-- `eraseP` on a list without repetitions takes every entry of the connection. -/
theorem not_mem_eraseP {l : List SessionMember} (h : (l.map (·.conn)).Nodup) (conn : Conn) :
    conn ∉ (l.eraseP fun m => m.conn = conn).map (·.conn) := by
  rw [show (fun m : SessionMember => decide (m.conn = conn)) = (fun c => decide (c = conn)) ∘ (·.conn) from rfl,
    ← List.eraseP_map]
  intro hmem
  have : (l.map (·.conn)).eraseP (fun c => decide (c = conn)) = (l.map (·.conn)).erase conn := by
    rw [List.erase_eq_eraseP]
    congr 1
    funext c
    exact decide_eq_decide.2 eq_comm
  rw [this] at hmem
  exact h.not_mem_erase hmem

/-- Whatever is not a granted join keeps it, a closed connection apart. -/
theorem oneEach_membership {p : Stepping} (h : OneEach p.server) {a : Act}
    (hjoin : ∀ m cid request, a = .message m → p.server.cidMap.find m.conn = some cid →
      m.msg = .joinReq (some request) → p.server.joinRefusal request ≠ none)
    (hclosed : ∀ conn was, a ≠ .event (.closed conn was)) : OneEach (sessionServer.next p a).1.server := by
  have hm := membership_of p a
  have h0 := (oneEach_register rfl).1 h
  generalize hr : (sessionServer.next p a).1.server.register = r at hm
  rw [oneEach_register hr]
  cases hm with
  | same => exact h0
  | @hello m hnew =>
    refine ⟨h0.1, fun conn hconn => ?_⟩
    by_cases hc : conn = m.conn
    · subst hc
      rw [Assoc.find_insert_self]
      rfl
    · rw [Assoc.find_insert_ne _ _ hc]
      exact h0.2 conn hconn
  | join hcid hmsg hok => exact absurd hok (hjoin _ _ _ rfl hcid hmsg)
  | @moved m members hperm =>
    have hconns := hperm.map (·.conn)
    exact ⟨hconns.nodup_iff.2 h0.1, fun conn hconn => h0.2 conn (hconns.mem_iff.1 hconn)⟩
  | leave => exact absurd rfl (hclosed _ _)
  | lost => exact absurd rfl (hclosed _ _)
  | create => exact ⟨List.nodup_nil, by simp⟩
  | release => exact ⟨List.nodup_nil, by simp⟩

theorem joinsOnce_message {p : Stepping} (h : OneEach p.server) (m : IncomingMsg) :
    JoinsOnce p (.message m) ↔ OneEach (sessionServer.next p (.message m)).1.server := by
  by_cases hgrant : ∃ cid request, p.server.cidMap.find m.conn = some cid ∧ m.msg = .joinReq (some request) ∧
      p.server.joinRefusal request = none
  · obtain ⟨cid, request, hcid, hmsg, hok⟩ := hgrant
    rw [oneEach_join h hcid hmsg hok]
    simp only [JoinsOnce, hmsg, hcid, hok, Option.isSome_some, forall_const]
  · refine iff_of_true ?_ (oneEach_membership h ?_ (fun _ _ hc => by cases hc))
    · unfold JoinsOnce
      dsimp only
      split
      · rename_i request hmsg
        intro hknown hok
        obtain ⟨cid, hcid⟩ := Option.isSome_iff_exists.1 hknown
        exact absurd ⟨cid, request, hcid, hmsg, hok⟩ hgrant
      · trivial
    · rintro m' cid request heq hcid hmsg hok
      obtain rfl := Act.message.inj heq
      exact hgrant ⟨cid, request, hcid, hmsg, hok⟩

/-- The entry goes, and with it everybody of the connection. -/
theorem leavesOne_closed {p : Stepping} (h : OneEach p.server) (conn : Conn) :
    LeavesOne p (.event (.closed conn true)) := by
  have hr := p.server.register_closed conn true
  have h0 := (oneEach_register rfl).1 h
  have hsub : ((p.server.register.members.eraseP fun m => m.conn = conn).map (·.conn)).Sublist
      (p.server.register.members.map (·.conn)) := List.eraseP_sublist.map _
  have hgone := not_mem_eraseP h0.1 conn
  constructor
  · rw [next_event]
    refine (oneEach_register hr).2 ⟨h0.1.sublist hsub, fun c hc => ?_⟩
    have hne : c ≠ conn := fun heq => hgone (heq ▸ hc)
    rw [Assoc.find_erase_ne _ hne]
    exact h0.2 c (hsub.subset hc)
  · intro conn' heq
    obtain ⟨rfl, -⟩ : conn = conn' ∧ True := by simpa using heq
    rw [next_event]
    exact (forall_conn_register hr conn).2 hgone

/-- A member whose connection ends without having been connected stays, unknown. -/
theorem oneEach_lost {p : Stepping} (h : OneEach p.server) (conn : Conn) :
    (∀ e ∈ p.server.clients, e.conn ≠ conn) ↔
      OneEach (sessionServer.next p (.event (.closed conn false))).1.server := by
  have hr := p.server.register_closed conn false
  have h0 := (oneEach_register rfl).1 h
  rw [next_event]
  refine Iff.trans ?_ (oneEach_register hr).symm
  rw [forall_conn_register rfl]
  constructor
  · intro hnot
    refine ⟨h0.1, fun c hc => ?_⟩
    have hne : c ≠ conn := fun heq => hnot (heq ▸ hc)
    rw [Assoc.find_erase_ne _ hne]
    exact h0.2 c hc
  · rintro ⟨-, hknown⟩ hmem
    have := hknown conn hmem
    rw [Assoc.find_erase_self] at this
    cases this

/-- A step leaves one member for each connection exactly when it meets `JoinsOnce`. -/
theorem leavesOne_iff {p : Stepping} (h : OneEach p.server) (a : Act) : JoinsOnce p a ↔ LeavesOne p a := by
  have hother : (∀ conn was, a ≠ .event (.closed conn was)) → (LeavesOne p a ↔ OneEach (sessionServer.next p a).1.server) :=
    fun hne => ⟨fun hl => hl.each, fun he => ⟨he, fun conn heq => absurd heq (hne conn true)⟩⟩
  have hkept : (∀ m, a ≠ .message m) → (∀ conn was, a ≠ .event (.closed conn was)) → LeavesOne p a :=
    fun hm hne => (hother hne).2 (oneEach_membership h (fun m _ _ heq => absurd heq (hm m)) hne)
  cases a with
  | message m => exact (joinsOnce_message h m).trans (hother (fun _ _ hc => by cases hc)).symm
  | endStep tick => exact iff_of_true trivial (hkept (fun _ hc => by cases hc) (fun _ _ hc => by cases hc))
  | event e =>
    cases e with
    | closed conn was =>
      cases was with
      | true => exact iff_of_true trivial (leavesOne_closed h conn)
      | false =>
        refine (oneEach_lost h conn).trans ⟨fun he => ⟨he, fun c heq => ?_⟩, fun hl => hl.each⟩
        simp at heq
    | _ => exact iff_of_true trivial (hkept (fun _ hc => by cases hc) (fun _ _ hc => by cases hc))

/-! ## Every run -/

theorem oneEach_start (cfg : HostConfig) : OneEach (start cfg).server := ⟨List.nodup_nil, by simp [start, SessionServer.new]⟩

/-- In a run every state has one member for each connection, and no closed connection
leaves one behind, exactly when no member's connection is granted another join (and
none is closed that was never connected). -/
theorem one_member_each (cfg : HostConfig) (as : List Act) :
    sessionServer.Meets (fun _ => JoinsOnce) (start cfg) [] as ↔
      sessionServer.Meets (fun _ => LeavesOne) (start cfg) [] as :=
  Machine.meets_iff_of_inv (fun p => OneEach p.server) (fun _ a h => leavesOne_iff h a) (fun _ _ _ hl => hl.each)
    (oneEach_start cfg)

namespace Sample

/-- One connection joins as two players, and closes. -/
def joinsTwice : List Call :=
  openLobby :: (enter 1 "A" false ++ [step [say 1 (joinAs "B" false)], .event (.closed 1 true)])

end Sample

/-- The second of the two players stays, and nobody knows its connection. -/
theorem closed_leaves_ghost :
    (sessionServer.run (start (lobbyHost 0)) (acts Sample.joinsTwice)).server.clients.map (·.conn) = [1] ∧
      (sessionServer.run (start (lobbyHost 0)) (acts Sample.joinsTwice)).server.cidMap = [] := by
  decide +kernel

end Sf4e.Session
