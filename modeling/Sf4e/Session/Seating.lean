import Sf4e.Session.Step
import Sf4e.Lib.Fronted
/-!
# Who sits where

The players are the entries in front of the spectators, at most two. Every
operation on `clients` is read here as an operation on the seated players.
-/
open Sf4e.Lib

namespace Sf4e.Session

/-- A seated player. -/
structure Seat where
  conn : Conn
  connId : ConnectionID
  loaded : Bool
  deriving DecidableEq

def SessionMember.isPlayer (m : SessionMember) : Bool := !m.data.spectator

def SessionMember.seat (m : SessionMember) : Seat := ⟨m.conn, m.data.connId, m.data.battleLoaded⟩

namespace SessionServer

def players (s : SessionServer) : List SessionMember := s.clients.filter (·.isPlayer)

/-- The two player seats, in order. -/
def roster (s : SessionServer) : List Seat := s.players.map (·.seat)

theorem playerCount_countP (s : SessionServer) : s.playerCount = s.clients.countP (·.isPlayer) := rfl

theorem playerCount_eq (s : SessionServer) : s.playerCount = s.roster.length := by
  rw [roster, players, List.length_map, ← List.countP_eq_length_filter]
  rfl

/-- Players sit in front, at most two, and every identity is the one `hello` assigned. -/
structure WellSeated (s : SessionServer) : Prop where
  front : Fronted (·.isPlayer) s.clients
  two : s.roster.length ≤ 2
  ids : ∀ m ∈ s.clients, m.data.connId = s.cidOf m.conn
  cids : ∀ conn cid, s.cidMap.find conn = some cid → cid = s.cidOf conn

theorem cidOf_inj {s : SessionServer} {c c' : Conn} (h : s.cidOf c = s.cidOf c') : c = c' := by
  simp only [cidOf, ConnectionID.mk.injEq, true_and] at h
  exact UInt32.toNat_inj.1 (toDecimal_inj h)

/-! ## A change of the members that moves nobody -/

/-- What `WellSeated` reads of an entry. -/
def card (m : SessionMember) : Conn × ConnectionID × Bool := (m.conn, m.data.connId, m.isPlayer)

theorem playerCount_of_cards {s s' : SessionServer} (hc : s'.clients.map card = s.clients.map card) :
    s'.playerCount = s.playerCount := by
  have key : ∀ l : List SessionMember, l.countP (·.isPlayer) = (l.map card).countP (·.2.2) := by
    intro l
    rw [List.countP_map]
    rfl
  calc s'.playerCount = (s'.clients.map card).countP (·.2.2) := key s'.clients
    _ = (s.clients.map card).countP (·.2.2) := by rw [hc]
    _ = s.playerCount := (key s.clients).symm

theorem WellSeated.of_cards {s s' : SessionServer} (h : WellSeated s)
    (hc : s'.clients.map card = s.clients.map card) (hm : s'.cidMap = s.cidMap)
    (hi : s'.identity = s.identity) : WellSeated s' where
  front := by
    have key : ∀ l : List SessionMember, Fronted (·.isPlayer) l ↔ Fronted (·.2.2) (l.map card) := by
      intro l
      rw [Fronted, Fronted, List.pairwise_map]
      rfl
    rw [key, hc, ← key]
    exact h.front
  two := by
    rw [← playerCount_eq, playerCount_of_cards hc, playerCount_eq]
    exact h.two
  ids := by
    intro m hm'
    have hmem : card m ∈ s.clients.map card := hc ▸ List.mem_map_of_mem hm'
    obtain ⟨m₀, h₀, he⟩ := List.mem_map.1 hmem
    simp only [card, Prod.mk.injEq] at he
    rw [← he.2.1, ← he.1, h.ids m₀ h₀, cidOf, cidOf, hi]
  cids := by simpa only [hm, cidOf, hi] using h.cids

/-- Nobody moves and nobody's loaded flag changes. -/
theorem roster_of_seats {s s' : SessionServer}
    (hc : s'.clients.map (fun m => (m.seat, m.isPlayer)) = s.clients.map fun m => (m.seat, m.isPlayer)) :
    s'.roster = s.roster := by
  have key : ∀ l : List SessionMember,
      (l.filter (·.isPlayer)).map (·.seat) = ((l.map fun m => (m.seat, m.isPlayer)).filter (·.2)).map (·.1) := by
    intro l
    rw [List.filter_map, List.map_map]
    rfl
  rw [roster, players, key, hc, ← key]
  rfl

theorem roster_map {f : SessionMember → SessionMember} (hf : ∀ m, (f m).isPlayer = m.isPlayer)
    {s s' : SessionServer} (hc : s'.clients = s.clients.map f) :
    s'.roster = s.players.map fun m => (f m).seat := by
  rw [roster, players, hc, List.filter_map, List.map_map]
  exact congrArg (List.map fun m => (f m).seat) (List.filter_congr fun m _ => hf m)

theorem map_modify_of_keeps {β : Type} {f : SessionMember → SessionMember} {g : SessionMember → β}
    (hf : ∀ m, g (f m) = g m) (l : List SessionMember) (i : Nat) : (l.modify i f).map g = l.map g := by
  induction l generalizing i with
  | nil => simp
  | cons m l ih =>
    cases i with
    | zero => simp [hf]
    | succ i => simp [ih]

/-! ## Sitting down -/

theorem roster_seatMember_player {s : SessionServer} (h : WellSeated s) {m : SessionMember}
    (hp : m.data.spectator = false) : (s.seatMember m).roster = s.roster ++ [m.seat] := by
  have hplay : m.isPlayer = true := by simp [SessionMember.isPlayer, hp]
  simp only [seatMember, hp, Bool.false_eq_true, if_false, onMembershipChanged, roster, players]
  rw [playerCount_countP, h.front.filter_insert hplay]
  simp

theorem roster_seatMember_spectator {s : SessionServer} {m : SessionMember} (hp : m.data.spectator = true) :
    (s.seatMember m).roster = s.roster := by
  simp [seatMember, hp, roster, players, SessionMember.isPlayer]

theorem WellSeated.seatMember {s : SessionServer} (h : WellSeated s) {m : SessionMember}
    (hid : m.data.connId = s.cidOf m.conn) (hroom : m.data.spectator = false → s.roster.length < 2) :
    WellSeated (s.seatMember m) := by
  cases hp : m.data.spectator with
  | true =>
    have hplay : m.isPlayer = false := by simp [SessionMember.isPlayer, hp]
    refine ⟨?_, ?_, ?_, ?_⟩
    · simpa [SessionServer.seatMember, hp] using h.front.append_back hplay
    · rw [roster_seatMember_spectator hp]; exact h.two
    · intro m' hm'
      simp only [SessionServer.seatMember, hp, if_true, List.mem_append, List.mem_singleton] at hm' ⊢
      rcases hm' with hm' | rfl
      · exact h.ids m' hm'
      · exact hid
    · simpa only [SessionServer.seatMember, hp, if_true, cidOf] using h.cids
  | false =>
    have hplay : m.isPlayer = true := by simp [SessionMember.isPlayer, hp]
    refine ⟨?_, ?_, ?_, ?_⟩
    · simpa [SessionServer.seatMember, hp, onMembershipChanged, playerCount_countP] using h.front.insert_front hplay
    · rw [roster_seatMember_player h hp, List.length_append]
      have := hroom hp
      simp only [List.length_cons, List.length_nil]
      omega
    · intro m' hm'
      simp only [SessionServer.seatMember, hp, Bool.false_eq_true, if_false, onMembershipChanged] at hm' ⊢
      rcases List.eq_or_mem_of_mem_insertIdx hm' with rfl | hm'
      · exact hid
      · exact h.ids m' hm'
    · simpa only [SessionServer.seatMember, hp, Bool.false_eq_true, if_false, onMembershipChanged, cidOf]
        using h.cids

/-! ## Leaving and rotating -/

theorem roster_eraseP {s s' : SessionServer} (h : WellSeated s) {conn : Conn}
    (hc : s'.clients = s.clients.eraseP fun m => m.conn = conn) :
    s'.roster = s.roster.eraseP fun seat => seat.conn = conn := by
  rw [roster, players, hc, h.front.filter_eraseP, roster, players, List.eraseP_map]
  rfl

theorem WellSeated.eraseP {s s' : SessionServer} (h : WellSeated s) {conn : Conn}
    (hc : s'.clients = s.clients.eraseP fun m => m.conn = conn)
    (hm : s'.cidMap = s.cidMap.erase conn) (hi : s'.identity = s.identity) : WellSeated s' where
  front := hc ▸ h.front.sublist List.eraseP_sublist
  two := by
    rw [roster_eraseP h hc]
    exact Nat.le_trans List.length_eraseP_le h.two
  ids := by
    intro m hm'
    rw [hc] at hm'
    rw [h.ids m (List.mem_of_mem_eraseP hm'), cidOf, cidOf, hi]
  cids := by
    intro c cid hf
    rw [hm] at hf
    by_cases hcc : c = conn
    · subst hcc; simp at hf
    · rw [Assoc.find_erase_ne _ hcc] at hf
      rw [h.cids c cid hf, cidOf, cidOf, hi]

/-- The entries, when two players are seated. -/
structure Pair (s : SessionServer) (a b : SessionMember) (back : List SessionMember) : Prop where
  clients : s.clients = a :: b :: back
  first : a.isPlayer = true
  second : b.isPlayer = true
  rest : ∀ m ∈ back, m.isPlayer = false

theorem Pair.players {s : SessionServer} {a b : SessionMember} {back : List SessionMember}
    (h : Pair s a b back) : s.players = [a, b] := by
  have hback : back.filter (·.isPlayer) = [] := List.filter_eq_nil_iff.2 fun m hm => by simp [h.rest m hm]
  simp only [SessionServer.players, h.clients, List.filter_cons, h.first, h.second, if_true, hback]

theorem WellSeated.pair {s : SessionServer} (h : WellSeated s) (h2 : s.roster.length = 2) :
    ∃ a b back, Pair s a b back := by
  have hsplit := h.front.filter_append
  have hmem : ∀ m ∈ s.clients.filter (·.isPlayer), m.isPlayer = true := fun m hm => (List.mem_filter.1 hm).2
  have hlen : (s.clients.filter (·.isPlayer)).length = 2 := by
    simpa only [roster, SessionServer.players, List.length_map] using h2
  obtain ⟨a, b, hp⟩ := List.length_eq_two.1 hlen
  rw [hp] at hsplit hmem
  refine ⟨a, b, s.clients.filter fun m => !m.isPlayer, hsplit, hmem a (by simp), hmem b (by simp), ?_⟩
  intro m hm
  simpa using (List.mem_filter.1 hm).2

/-- The server after the loser of seat 0 has moved behind the winner. -/
def swapSeats (s : SessionServer) (a b : SessionMember) (back : List SessionMember) : SessionServer :=
  { s with
    clients := b :: a :: back
    matchData := { s.matchData with chara := s.matchData.chara.swap }
    charaOwner := s.charaOwner.swap }

/-- Only a loser in seat 0 of two moves anyone. -/
theorem rotateLoser_cases {s : SessionServer} (h : WellSeated s) (loser : Int) :
    (¬(s.roster.length = 2 ∧ loser = 0) ∧ s.rotateLoser loser = s) ∨
      (loser = 0 ∧ ∃ a b back, Pair s a b back ∧ s.rotateLoser loser = s.swapSeats a b back) := by
  have htwo := h.two
  by_cases h2 : s.roster.length = 2
  · obtain ⟨a, b, back, hpair⟩ := h.pair h2
    have hn : s.playerCount = 2 := by rw [playerCount_eq, h2]
    by_cases h0 : loser = 0
    · refine .inr ⟨h0, a, b, back, hpair, ?_⟩
      subst h0
      simp [rotateLoser, hn, hpair.clients, swapSeats]
    · refine .inl ⟨fun hc => h0 hc.2, ?_⟩
      by_cases h1 : loser = 1
      · subst h1
        have hc := hpair.clients
        simp only [rotateLoser, hn, hc]
        cases s
        simp_all
      · have hout : ¬(0 ≤ loser ∧ loser < 2) := by omega
        simp only [rotateLoser, hn]
        simp only [Bool.and_eq_true, decide_eq_true_eq]
        rw [if_neg (fun hc => hout ⟨hc.1.1, by exact_mod_cast hc.1.2⟩)]
  · refine .inl ⟨fun hc => h2 hc.1, ?_⟩
    have hn : ¬ s.playerCount > 1 := by rw [playerCount_eq]; omega
    simp [rotateLoser, hn]

theorem Pair.roster {s : SessionServer} {a b : SessionMember} {back : List SessionMember}
    (h : Pair s a b back) : s.roster = [a.seat, b.seat] := by
  rw [SessionServer.roster, h.players]
  rfl

theorem Pair.swapped {s : SessionServer} {a b : SessionMember} {back : List SessionMember}
    (h : Pair s a b back) : Pair (s.swapSeats a b back) b a back :=
  ⟨rfl, h.second, h.first, h.rest⟩

theorem WellSeated.swapSeats {s : SessionServer} (h : WellSeated s) {a b : SessionMember}
    {back : List SessionMember} (hpair : Pair s a b back) : WellSeated (s.swapSeats a b back) where
  front := by
    have hfront : ∀ m ∈ [b, a], m.isPlayer = true := by simp [hpair.first, hpair.second]
    exact Fronted.of_append hfront hpair.rest
  two := by simp [hpair.swapped.roster]
  ids := by
    intro m hm
    refine h.ids m ?_
    rw [hpair.clients]
    simp only [SessionServer.swapSeats, List.mem_cons] at hm ⊢
    rcases hm with rfl | rfl | hm
    · exact .inr (.inl rfl)
    · exact .inl rfl
    · exact .inr (.inr hm)
  cids := h.cids

end SessionServer

end Sf4e.Session
