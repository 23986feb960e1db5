import Sf4e.Server.Relay
import Sf4e.Session.Members
/-!
# A seat change and the relay

The relay is told the addresses of the player seats after every session Step and
drops the slot of a seat whose address has changed. It knows no connections:
`learned` records, for the proof alone, which player's game took a slot, and
whether that player has left since.

`slots_follow_seats`: a slot outlives its player only where the next one in the
seat has the same address. There it does, `slot_outlives_player`.
-/
open Sf4e.Lib Sf4e.Session

namespace Sf4e.Session

/-- `PlayerIPv4s`. -/
def SessionServer.playerIPv4s (s : SessionServer) : List UInt32 :=
  (List.range 2).map fun i => if i < s.playerCount then (s.clients[i]?.map (·.peerIPv4)).getD 0 else 0

/-- The seat addresses and the connections hang on the register alone. -/
theorem members_of_register {s s' : SessionServer} (h : s'.register = s.register) :
    s'.playerIPv4s = s.playerIPv4s ∧ s'.clients.map (·.conn) = s.clients.map (·.conn) := by
  have hstanding : s'.clients.map (·.standing) = s.clients.map (·.standing) := congrArg (·.members) h
  have hmap : ∀ {β : Type} (g : SessionMember → β), (∀ m, g m.standing = g m) → s'.clients.map g = s.clients.map g := by
    intro β g hg
    have hcomp : g ∘ (·.standing) = g := funext hg
    rw [← hcomp, ← List.map_map, hstanding, List.map_map]
  have haddr := hmap (·.peerIPv4) fun _ => rfl
  have hcount : s'.playerCount = s.playerCount := by
    have hroles := congrArg (List.countP fun b => !b) (hmap (·.data.spectator) fun _ => rfl)
    rw [List.countP_map, List.countP_map] at hroles
    exact hroles
  refine ⟨?_, hmap (·.conn) fun _ => rfl⟩
  simp only [SessionServer.playerIPv4s, hcount, ← List.getElem?_map, haddr]

end Sf4e.Session

namespace Sf4e.Server

/-- Who took a slot, if a player's game did; whether it has left the lobby since, and
whether the seats have been refreshed since it left. -/
structure Learned where
  conn : Option Conn
  hasLeft : Bool
  refreshed : Bool
  deriving DecidableEq

/-- A lobby's session and its relay. -/
structure RelayedLobby where
  session : Stepping
  relay : Relay
  learned : Sides Learned

inductive RelayedAct where
  | session (a : Act)
  | clear
  /-- A datagram of the game of `conn`. -/
  | datagram (now : UInt64) (conn : Conn) (d : Received)
  | expire (now : UInt64)

namespace Learned

/-- Whether the player has left, by the members of `s`. -/
def gone (l : Learned) (s : SessionServer) : Bool :=
  l.hasLeft || l.conn.any fun conn => !s.clients.any fun m => m.conn = conn

def leave (l : Learned) (s : SessionServer) : Learned := { l with hasLeft := l.gone s }

def refresh (l : Learned) : Learned := { l with refreshed := l.refreshed || l.hasLeft }

theorem gone_of_conns {s s' : SessionServer} (h : s'.clients.map (·.conn) = s.clients.map (·.conn)) (l : Learned) :
    l.gone s' = l.gone s := by
  have hany : ∀ conn, (s'.clients.any fun m => m.conn = conn) = s.clients.any fun m => m.conn = conn := by
    intro conn
    have hboth := congrArg (List.any · fun c => decide (c = conn)) h
    rw [List.any_map, List.any_map] at hboth
    exact hboth
  simp only [gone, hany]

end Learned

namespace RelayedLobby

/-- The session takes an action. -/
def serve (l : RelayedLobby) (a : Act) : RelayedLobby :=
  let session := (sessionServer.next l.session a).1
  { l with session, learned := ⟨l.learned.s0.leave session.server, l.learned.s1.leave session.server⟩ }

/-- The relay learns the seats, after a Step. -/
def refresh (l : RelayedLobby) : RelayedLobby :=
  { l with
    relay := l.relay.setPlayers l.session.server.playerIPv4s
    learned := ⟨l.learned.s0.refresh, l.learned.s1.refresh⟩ }

/-- Slot `i` before and after a datagram of `conn`. -/
def learn (l : RelayedLobby) (r : Relay) (conn : Conn) (i : Side) : Learned :=
  if !(l.relay.eps.get i).used && (r.eps.get i).used then
    ⟨if l.session.server.fromPlayer conn then some conn else none, false, false⟩
  else l.learned.get i

def receive (l : RelayedLobby) (now : UInt64) (conn : Conn) (d : Received) : RelayedLobby × List Relayed :=
  let (r, out) := l.relay.receive now d
  ({ l with relay := r, learned := ⟨l.learn r conn 0, l.learn r conn 1⟩ }, out)

/-- The slot is in use, its player has left, and the seats have been refreshed since. -/
def stale (l : RelayedLobby) (i : Side) : Bool := (l.relay.eps.get i).used && (l.learned.get i).refreshed

def new (cfg : HostConfig) : RelayedLobby :=
  ⟨start cfg, .new, ⟨⟨none, false, false⟩, ⟨none, false, false⟩⟩⟩

end RelayedLobby

/-- A lobby with its relay; the seats are refreshed after every Step. -/
def relayedLobby : Machine RelayedLobby RelayedAct Relayed where
  next l
    | .session (.endStep tick) => ((l.serve (.endStep tick)).refresh, [])
    | .session a => (l.serve a, [])
    | .clear => ({ l with relay := l.relay.clear }, [])
    | .datagram now conn d => l.receive now conn d
    | .expire now => ({ l with relay := l.relay.expire now }, [])

/-- A sender of a player's address that finds no slot. -/
def Relay.turnsAway (r : Relay) (d : Received) : Bool :=
  d.data ≠ STUN_PROBE && r.slotOf d.sender = none && r.isAllowed d.sender && r.freeSlot d.sender.ip = none

/-- Datagrams go on to slots whose player had not left by the last refresh, and nobody is
turned away for another kind of slot. -/
structure SlotsFollowSeats (l : RelayedLobby) (a : RelayedAct) : Prop where
  targets : ∀ dest data, .forward dest data ∈ (relayedLobby.next l a).2 →
    ∃ i, ((relayedLobby.next l a).1.relay.eps.get i).used = true ∧
      ((relayedLobby.next l a).1.relay.eps.get i).addr = dest ∧ (relayedLobby.next l a).1.stale i = false
  admitted : ∀ now conn d, a = .datagram now conn d → l.relay.turnsAway d = true →
    ∀ i, l.relay.players.get i = d.sender.ip → (l.relay.eps.get i).used = true ∧ l.stale i = false

/-- At the end of a Step, the seat of a slot whose player has left has another address than
the one the slot was taken for. -/
def AddressesChange (l : RelayedLobby) (a : RelayedAct) : Prop :=
  match a with
  | .session (.endStep _) =>
    ∀ i, (l.relay.eps.get i).used = true → (l.learned.get i).gone l.session.server = true →
      l.session.server.playerIPv4s.getD i.val 0 ≠ l.relay.players.get i
  | _ => True

instance (l : RelayedLobby) (a : RelayedAct) : Decidable (AddressesChange l a) := by
  unfold AddressesChange
  split <;> infer_instance

/-! ## No slot is stale -/

/-- The relay is sound and no slot outlives its player. -/
structure RelayedLobby.Fresh (l : RelayedLobby) : Prop where
  sound : l.relay.Sound
  fresh : ∀ i, l.stale i = false

/-- A slot stays in use over `SetPlayers` only where the address stays. -/
theorem Relay.setPlayers_used {r : Relay} {seats : List UInt32} {i : Side}
    (h : ((r.setPlayers seats).eps.get i).used = true) :
    (r.eps.get i).used = true ∧ seats.getD i.val 0 = r.players.get i := by
  have hset : ∀ (r : Relay) (ip : UInt32), ((r.setPlayer i ip).eps.get i).used = true → ip = r.players.get i := by
    intro r ip hused
    unfold Relay.setPlayer at hused
    split at hused
    · simp at hused
    · rename_i hsame
      simpa using Eq.symm (not_not.1 hsame)
  unfold Relay.setPlayers at h
  obtain ⟨hfirst, -, -⟩ := Relay.setPlayer_kept _ 1 i _ h
  obtain ⟨hused, -, -⟩ := Relay.setPlayer_kept r 0 i _ hfirst
  refine ⟨hused, ?_⟩
  induction i using Side.cases with
  | zero => exact hset r _ hfirst
  | one =>
    obtain ⟨-, -, hplayers⟩ := Relay.setPlayer_kept r 0 1 _ hfirst
    exact (hset _ _ h).trans hplayers

/-- Where nothing is free, every slot of the address is in use. -/
theorem Relay.used_of_full {r : Relay} {ip : UInt32} (h : r.freeSlot ip = none) {i : Side} (hip : r.players.get i = ip) :
    (r.eps.get i).used = true := by
  unfold Relay.freeSlot at h
  split at h
  · cases h
  · rename_i h0
    split at h
    · cases h
    · rename_i h1
      induction i using Side.cases with
      | zero => simpa [show r.players.s0 = ip from hip] using h0
      | one => simpa [show r.players.s1 = ip from hip] using h1

theorem fresh_serve {l : RelayedLobby} (h : l.Fresh) (a : Act) : (l.serve a).Fresh where
  sound := h.sound
  fresh i := by
    induction i using Side.cases with
    | zero => exact h.fresh 0
    | one => exact h.fresh 1

/-- The end of a Step neither moves a member nor makes one leave. -/
theorem serve_endStep (l : RelayedLobby) (tick : Tick) :
    (l.serve (.endStep tick)).session.server.playerIPv4s = l.session.server.playerIPv4s ∧
      ∀ i, ((l.serve (.endStep tick)).learned.get i).hasLeft = (l.learned.get i).gone l.session.server := by
  obtain ⟨haddr, hconns⟩ := members_of_register (SessionServer.register_finish l.session tick)
  refine ⟨haddr, fun i => ?_⟩
  induction i using Side.cases with
  | zero => exact Learned.gone_of_conns hconns l.learned.s0
  | one => exact Learned.gone_of_conns hconns l.learned.s1

theorem fresh_refresh {l : RelayedLobby} (h : l.Fresh)
    (hseats : ∀ i, (l.relay.eps.get i).used = true → (l.learned.get i).hasLeft = true →
      l.session.server.playerIPv4s.getD i.val 0 ≠ l.relay.players.get i) : l.refresh.Fresh where
  sound := (h.sound.setPlayer 0 _).setPlayer 1 _
  fresh i := by
    cases hused : (l.refresh.relay.eps.get i).used with
    | false => simp [RelayedLobby.stale, hused]
    | true =>
      obtain ⟨hbefore, hsame⟩ := Relay.setPlayers_used hused
      have hfresh := h.fresh i
      have hstays : (l.learned.get i).hasLeft = false := by
        cases hleft : (l.learned.get i).hasLeft with
        | false => rfl
        | true => exact absurd hsame (hseats i hbefore hleft)
      have hrefresh : (l.refresh.learned.get i).refreshed = ((l.learned.get i).refreshed || (l.learned.get i).hasLeft) := by
        induction i using Side.cases with
        | zero => rfl
        | one => rfl
      rw [RelayedLobby.stale, hbefore, Bool.true_and] at hfresh
      rw [RelayedLobby.stale, hrefresh, hfresh, hstays, Bool.or_self, Bool.and_false]

theorem fresh_receive {l : RelayedLobby} (h : l.Fresh) (now : UInt64) (conn : Conn) (d : Received) :
    (l.receive now conn d).1.Fresh where
  sound := h.sound.receive now d
  fresh i := by
    have hlearn : (l.receive now conn d).1.learned.get i = l.learn (l.relay.receive now d).1 conn i := by
      induction i using Side.cases with
      | zero => rfl
      | one => rfl
    have hfresh := h.fresh i
    simp only [RelayedLobby.stale] at hfresh ⊢
    rw [hlearn, RelayedLobby.learn]
    split
    · exact Bool.and_false _
    · -- a slot that was in use before is its player's still
      rename_i hold
      cases hused : (l.relay.eps.get i).used with
      | true =>
        rw [hused, Bool.true_and] at hfresh
        rw [hfresh, Bool.and_false]
      | false =>
        have hpost : ((l.relay.receive now d).1.eps.get i).used = false := by simpa [hused] using hold
        exact (congrArg (· && _) hpost).trans (Bool.false_and _)

theorem fresh_of_kept {l : RelayedLobby} (h : l.Fresh) {r : Relay} (hs : r.Sound)
    (hkept : ∀ i, (r.eps.get i).used = true → (l.relay.eps.get i).used = true) : RelayedLobby.Fresh { l with relay := r } where
  sound := hs
  fresh i := by
    cases hused : (r.eps.get i).used with
    | false => simp [RelayedLobby.stale, hused]
    | true =>
      have hfresh := h.fresh i
      rw [RelayedLobby.stale, hkept i hused, Bool.true_and] at hfresh
      simp [RelayedLobby.stale, hfresh]

theorem fresh_next {l : RelayedLobby} (h : l.Fresh) {a : RelayedAct} (ha : AddressesChange l a) :
    (relayedLobby.next l a).1.Fresh := by
  cases a with
  | session a =>
    cases a with
    | endStep tick =>
      obtain ⟨haddr, hleft⟩ := serve_endStep l tick
      refine fresh_refresh (fresh_serve h _) fun i hused hgone => ?_
      rw [haddr]
      rw [hleft i] at hgone
      exact ha i hused hgone
    | message m => exact fresh_serve h _
    | event e => exact fresh_serve h _
  | clear =>
    refine fresh_of_kept h h.sound.clear fun i hused => ?_
    induction i using Side.cases with
    | zero => cases hused
    | one => cases hused
  | datagram now conn d => exact fresh_receive h now conn d
  | expire now =>
    refine fresh_of_kept h (h.sound.expire now) fun i hused => ?_
    have hkeep : (l.relay.expire now).eps.get i = l.relay.eps.get i := by
      induction i using Side.cases with
      | zero => exact Relay.expire_kept _ _ hused
      | one => exact Relay.expire_kept _ _ hused
    rwa [hkeep] at hused

/-! ## Every run -/

theorem follows_of_fresh {l : RelayedLobby} (h : l.Fresh) {a : RelayedAct} (ha : AddressesChange l a) :
    SlotsFollowSeats l a where
  targets := by
    intro dest data hout
    have hnext := fresh_next h ha
    cases a with
    | datagram now conn d =>
      obtain ⟨-, -, hacross⟩ := Relay.forward_receive h.sound hout
      obtain ⟨i, -, -, hused, haddr, -⟩ := hacross.slots
      exact ⟨i.other, hused, haddr, hnext.fresh i.other⟩
    | session a => cases a <;> cases hout
    | clear => cases hout
    | expire now => cases hout
  admitted := by
    intro now conn d _ hturned i hip
    refine ⟨?_, h.fresh i⟩
    simp only [Relay.turnsAway, Bool.and_eq_true, decide_eq_true_eq] at hturned
    exact Relay.used_of_full hturned.2 hip

theorem fresh_new (cfg : HostConfig) : (RelayedLobby.new cfg).Fresh where
  sound := Relay.sound_new
  fresh i := by
    induction i using Side.cases with
    | zero => rfl
    | one => rfl

/-- In a run in which no player that leaves is followed, in its seat, by somebody at the same
address, slots follow the seats. -/
theorem slots_follow_seats (cfg : HostConfig) (as : List RelayedAct)
    (h : relayedLobby.Meets (fun _ => AddressesChange) (.new cfg) [] as) :
    relayedLobby.Meets (fun _ => SlotsFollowSeats) (.new cfg) [] as :=
  Machine.meets_of_inv (fun _ l => l.Fresh) (fun _ _ _ hl ha => fresh_next hl ha)
    (fun _ _ _ hl ha => follows_of_fresh hl ha) (fresh_new cfg) h

namespace Sample

open Sf4e.Session.Sample

/-- The two players' games, behind one router. -/
def gameA : SockAddr := ⟨0x0a000001, 1000⟩
def gameB : SockAddr := ⟨0x0a000001, 2000⟩

def play (conn : Conn) (game : SockAddr) : RelayedAct := .datagram 0 conn ⟨game, [7]⟩

def sessionActs (calls : List Call) : List RelayedAct := (acts calls).map .session

/-- Both games talk to the relay, and then the first player leaves. -/
def leaves : List RelayedAct :=
  sessionActs twoPlayers ++ [play 1 gameA, play 2 gameB] ++
    sessionActs [.event (.closed 1 true), step []]

/-- The same with the second player leaving. -/
def otherLeaves : List RelayedAct :=
  sessionActs twoPlayers ++ [play 1 gameA, play 2 gameB] ++
    sessionActs [.event (.closed 2 true), step []]

end Sample

/-- The second of two players behind one router leaves. -/
theorem slots_follow_seats_second_leaves :
    relayedLobby.Meets (fun _ => SlotsFollowSeats) (.new (lobbyHost 0)) [] Sample.otherLeaves :=
  slots_follow_seats (lobbyHost 0) Sample.otherLeaves (by decide +kernel)

/-- When the first one leaves, its slot stays, and the other is turned away. -/
theorem slot_outlives_player :
    ¬ ∀ (cfg : HostConfig) (as : List RelayedAct), relayedLobby.Meets (fun _ => SlotsFollowSeats) (.new cfg) [] as := by
  intro h
  obtain ⟨-, hlast, -⟩ := Machine.meets_append.1 (h (lobbyHost 0) (Sample.leaves ++ [Sample.play 2 Sample.gameB]))
  obtain ⟨-, hfresh⟩ := hlast.admitted _ _ _ rfl (by decide +kernel) 0 (by decide +kernel)
  exact absurd hfresh (by decide +kernel)

end Sf4e.Server
