import Sf4e.Netplay.DirectPlay
import Sf4e.Session.Pairing
/-!
# Opting out of direct play

The two players' clients and the server between them. Turning direct play off
clears the client; the server is not told, and keeps the endpoints of the last
offer for as long as the player is in the lobby. `optedOut` remembers, of a
player who has turned it off, how many of its earlier messages are still to be
handled.

`opt_out_iff`: no step hands out an opted-out player's endpoints exactly when no
exchange is due that would. `notDue_of_ordered` says in which order of offers,
opt-outs and leaves none is.
-/
open Sf4e.Lib Sf4e.Session Sf4e.Server

namespace Sf4e.Netplay

/-- The server, the two players' connections, their clients, and what each has sent that the
server has not handled yet. -/
structure OptRoom where
  server : Stepping
  conn : Sides Conn
  client : Sides DirectRun
  up : Sides (List ClientMsg)
  optedOut : Sides (Option Nat)

inductive OptAct where
  /-- A client acts, on whatever reaches it; an offer it makes goes out. -/
  | client (i : Side) (a : DirectAct)
  /-- A client sends anything but an offer. -/
  | send (i : Side) (msg : ClientMsg)
  /-- The server handles the oldest message of a player. -/
  | serve (i : Side) (messageNumber : Nat) (peerAddr : PeerAddr) (tick : Tick)
  /-- The end of a Step, a call of the host, or somebody else's message. -/
  | server (a : Act)

def isOffer : ClientMsg → Bool
  | .directOffer _ => true
  | _ => false

/-- The offers among what a client puts out, as the messages it sends. -/
def offersOf (out : List DirectOut) : List ClientMsg :=
  out.filterMap fun
    | .offer offer => some (.directOffer (some offer))
    | _ => none

namespace OptRoom

/-- A lobby server that has not started, and two clients that have only been made. -/
def new (cfg : HostConfig) (conn : Sides Conn) (ggpoPort : Sides UInt16) : OptRoom where
  server := start cfg
  conn := conn
  client := .of fun i => ⟨.new (ggpoPort.get i), .on⟩
  up := .of fun _ => []
  optedOut := .of fun _ => none

/-- What the server is given to do. -/
def served (s : OptRoom) : OptAct → Option Act
  | .serve i messageNumber peerAddr tick =>
    (s.up.get i).head?.map fun msg => .message ⟨s.conn.get i, msg, messageNumber, peerAddr, tick⟩
  | .server (.message m) => if m.conn = s.conn.get 0 ∨ m.conn = s.conn.get 1 then none else some (.message m)
  | .server a => some a
  | .client .. | .send .. => none

/-- Where a player's opt-out stands after the client acts and sends `offers`. -/
def optedOutBy (a : DirectAct) (offers sent : List ClientMsg) (before : Option Nat) : Option Nat :=
  match a with
  | .disable => before.or (some sent.length)
  | _ => if offers = [] then before else none

/-- What happens on the players' side. -/
def moved (inetPton : Bytes → Option UInt32) (s : OptRoom) : OptAct → OptRoom
  | .client i a =>
    let (client, out) := (directPlay inetPton).next (s.client.get i) a
    let offers := offersOf out
    { s with
      client := s.client.set i client
      up := s.up.set i (s.up.get i ++ offers)
      optedOut := s.optedOut.set i (optedOutBy a offers (s.up.get i) (s.optedOut.get i)) }
  | .send i msg => if isOffer msg then s else { s with up := s.up.set i (s.up.get i ++ [msg]) }
  | .serve i _ _ _ =>
    { s with
      up := s.up.set i (s.up.get i).tail
      optedOut := s.optedOut.set i ((s.optedOut.get i).map (· - 1)) }
  | .server _ => s

end OptRoom

/-- The two clients and the server, one action at a time. The outputs are the server's. -/
def optRoom (inetPton : Bytes → Option UInt32) : Machine OptRoom OptAct Out where
  next s a :=
    let moved := s.moved inetPton a
    match s.served a with
    | some act => ({ moved with server := (sessionServer.next s.server act).1 }, (sessionServer.next s.server act).2)
    | none => (moved, [])

/-! ## Handing out an endpoint -/

/-- A DirectPeer with the endpoints stored for a seated connection is sent to anybody. -/
def Discloses (server : Stepping) (out : List Out) (conn : Conn) : Prop :=
  ∃ side e token, server.server.entry side = some e ∧ e.conn = conn ∧ ∃ sent ∈ peersOf out, sent.2 = e.toldAs token

/-- A player has turned direct play off and all it sent before has been handled. -/
def OptRoom.Out (s : OptRoom) (i : Side) : Prop := s.optedOut.get i = some 0

section

variable (inetPton : Bytes → Option UInt32)

/-- Nobody is told the endpoints of a player who has opted out. -/
def NotHandedOut (s : OptRoom) (a : OptAct) : Prop :=
  ∀ i, s.Out i → ¬Discloses ((optRoom inetPton).next s a).1.server ((optRoom inetPton).next s a).2 (s.conn.get i)

/-- Neither of two players whose offers are about to be exchanged has opted out. -/
def NotDue (s : OptRoom) (a : OptAct) : Prop :=
  ∀ i, s.Out i → ∀ act g x y back, s.served a = some act → s.server.server.offering act = some g → g.Due x y back →
    x.conn ≠ s.conn.get i ∧ y.conn ≠ s.conn.get i

/-! ## One step -/

/-- The server discloses the endpoints of exactly the two players of an exchange that is due. -/
theorem discloses_iff {p : Stepping} (h : p.server.WellSeated) (act : Act) (conn : Conn) :
    Discloses (sessionServer.next p act).1 (sessionServer.next p act).2 conn ↔
      ∃ g x y back, p.server.offering act = some g ∧ g.Due x y back ∧ (x.conn = conn ∨ y.conn = conn) := by
  have hstep := pairs_of h act
  unfold Discloses
  generalize (sessionServer.next p act).1 = q at hstep ⊢
  generalize peersOf (sessionServer.next p act).2 = peers at hstep ⊢
  generalize hpost : q.server.pairing = post at hstep
  -- without an exchange nobody is told anything
  have hquiet : (∀ g, p.server.offering act = some g → ¬∃ x y back, g.Due x y back) →
      ((∃ side e token, q.server.entry side = some e ∧ e.conn = conn ∧
          ∃ sent ∈ ([] : List (Conn × DirectPeer)), sent.2 = e.toldAs token) ↔
        ∃ g x y back, p.server.offering act = some g ∧ g.Due x y back ∧ (x.conn = conn ∨ y.conn = conn)) := by
    intro hno
    constructor
    · rintro ⟨_, _, _, -, -, _, hsent, -⟩
      cases hsent
    · rintro ⟨g, x, y, back, hcall, hdue, -⟩
      exact absurd ⟨x, y, back, hdue⟩ (hno g hcall)
  have hnocall : p.server.offering act = none → ∀ g, p.server.offering act = some g → ¬∃ x y back, g.Due x y back := by
    intro hno g hcall
    rw [hno] at hcall
    cases hcall
  cases hstep with
  | same hno => exact hquiet hno
  | spectator hno hspec => exact hquiet (hnocall hno)
  | swap hno hmembers hx hy => exact hquiet (hnocall hno)
  | reset hno _ => exact hquiet hno
  | @exchange g x y back tick hcall hdue =>
    obtain ⟨a, b, ha, hb, rfl, rfl⟩ := entry_of_members ((congrArg (·.members) hpost).trans hdue.members)
    constructor
    · rintro ⟨side, e, token, he, hconn, -⟩
      refine ⟨g, _, _, back, hcall, hdue, ?_⟩
      induction side using Side.cases with
      | zero =>
        rw [ha] at he
        exact .inl (Option.some.inj he ▸ hconn)
      | one =>
        rw [hb] at he
        exact .inr (Option.some.inj he ▸ hconn)
    · rintro ⟨g', x', y', back', hcall', hdue', hconn⟩
      obtain rfl : g = g' := Option.some.inj (hcall.symm.trans hcall')
      obtain ⟨rfl, rfl, rfl⟩ : a.offered = x' ∧ b.offered = y' ∧ back = back' := by
        simpa using hdue.members.symm.trans hdue'.members
      -- each of the two is told to the other
      rcases hconn with hconn | hconn
      · exact ⟨0, a, _, ha, hconn, _, List.mem_cons_of_mem _ (List.mem_cons_self), rfl⟩
      · exact ⟨1, b, _, hb, hconn, _, List.mem_cons_self, rfl⟩

theorem notHandedOut_iff {s : OptRoom} (h : s.server.server.WellSeated) (a : OptAct) :
    NotHandedOut inetPton s a ↔ NotDue s a := by
  refine forall_congr' fun i => imp_congr_right fun _ => ?_
  cases hserved : s.served a with
  | none =>
    have hquiet : ((optRoom inetPton).next s a).2 = [] := by simp only [optRoom, hserved]
    rw [hquiet]
    refine iff_of_true ?_ (fun act g x y back hact => by cases hact)
    rintro ⟨_, _, _, -, -, _, hsent, -⟩
    cases hsent
  | some act =>
    have hnext : ((optRoom inetPton).next s a).1.server = (sessionServer.next s.server act).1 ∧
        ((optRoom inetPton).next s a).2 = (sessionServer.next s.server act).2 := by
      simp only [optRoom, hserved, and_self]
    rw [hnext.1, hnext.2, discloses_iff h]
    constructor
    · rintro hno act' g x y back hact hcall hdue
      obtain rfl := Option.some.inj hact
      exact ⟨fun hx => hno ⟨g, x, y, back, hcall, hdue, .inl hx⟩, fun hy => hno ⟨g, x, y, back, hcall, hdue, .inr hy⟩⟩
    · rintro hkept ⟨g, x, y, back, hcall, hdue, hconn⟩
      obtain ⟨hx, hy⟩ := hkept act g x y back rfl hcall hdue
      exact hconn.elim hx hy

/-- The server does what it is given to do, or stays as it is. -/
theorem optRoom_server (s : OptRoom) (a : OptAct) :
    (s.served a = none ∧ ((optRoom inetPton).next s a).1.server = s.server) ∨
      ∃ act, s.served a = some act ∧ ((optRoom inetPton).next s a).1.server = (sessionServer.next s.server act).1 := by
  have hmoved : (s.moved inetPton a).server = s.server := by
    cases a with
    | client i a => rfl
    | send i msg =>
      simp only [OptRoom.moved]
      split <;> rfl
    | serve i messageNumber peerAddr tick => rfl
    | server a => rfl
  simp only [optRoom]
  cases s.served a with
  | none => exact .inl ⟨rfl, hmoved⟩
  | some act => exact .inr ⟨act, rfl, rfl⟩

theorem optRoom_wellSeated {s : OptRoom} (h : s.server.server.WellSeated) (a : OptAct) :
    ((optRoom inetPton).next s a).1.server.server.WellSeated := by
  rcases optRoom_server inetPton s a with ⟨-, hserver⟩ | ⟨act, -, hserver⟩
  · rw [hserver]
    exact h
  · rw [hserver]
    exact wellSeated_next h act

/-! ## Every run -/

/-- In exactly the runs in which no exchange is ever due with a player who has opted out, nobody
is told such a player's endpoints. -/
theorem opt_out_iff (cfg : HostConfig) (conn : Sides Conn) (ggpoPort : Sides UInt16) (as : List OptAct) :
    (optRoom inetPton).Meets (fun _ => NotHandedOut inetPton) (.new cfg conn ggpoPort) [] as ↔
      (optRoom inetPton).Meets (fun _ => NotDue) (.new cfg conn ggpoPort) [] as :=
  Machine.meets_iff_of_inv (fun s : OptRoom => s.server.server.WellSeated) (fun _ a h => notHandedOut_iff inetPton h a)
    (fun _ a h _ => optRoom_wellSeated inetPton h a) (wellSeated_start cfg)

/-! ## The orders in which none is due -/

/-- No two players wait for the exchange of their endpoints. -/
def NoneDue (p : Stepping) : Prop := ¬∃ x y back, p.server.pairing.Due x y back

theorem noneDue_next {p : Stepping} (h : p.server.WellSeated) (hnone : NoneDue p) {act : Act}
    (hkeeps : p.server.KeepsWatchers act) : NoneDue (sessionServer.next p act).1 := by
  have hstep := pairs_of h act
  unfold NoneDue
  generalize (sessionServer.next p act).1.server.pairing = post at hstep ⊢
  generalize peersOf (sessionServer.next p act).2 = peers at hstep
  cases hstep with
  | same hno => exact hnone
  | @spectator o hno hspec =>
    rintro ⟨x, y, back, hdue⟩
    have hmembers : p.server.pairing.members ++ [o] = x :: y :: back := hdue.members
    match hbefore : p.server.pairing.members with
    | [] =>
      rw [hbefore] at hmembers
      cases hmembers
    | [only] =>
      rw [hbefore] at hmembers
      obtain ⟨-, rfl, -⟩ : only = x ∧ o = y ∧ _ := by simpa using hmembers
      exact Bool.false_ne_true (hspec.symm.trans hdue.second)
    | u :: v :: rest =>
      rw [hbefore] at hmembers
      obtain ⟨rfl, rfl, -⟩ : u = x ∧ v = y ∧ _ := by simpa using hmembers
      exact hnone ⟨u, v, rest, hbefore, hdue.first, hdue.second, hdue.open_, hdue.firstPort, hdue.secondPort⟩
  | @swap x y back hno hmembers hx hy =>
    rintro ⟨x', y', back', hdue⟩
    obtain ⟨rfl, rfl, -⟩ : y = x' ∧ x = y' ∧ _ := by simpa using hdue.members
    exact hnone ⟨x, y, back, hmembers, hx, hy, hdue.open_, hdue.secondPort, hdue.firstPort⟩
  | reset hno hfew => exact hfew hkeeps
  | exchange hcall hdue => exact fun ⟨_, _, _, hagain⟩ => Bool.false_ne_true hagain.open_.symm

/-- No spectator leaves, and while a player has opted out the server handles no offer of the two. -/
def Ordered (s : OptRoom) (a : OptAct) : Prop :=
  ∀ act, s.served a = some act → s.server.server.KeepsWatchers act ∧
    ∀ m, act = .message m → (∃ i, s.Out i) → s.server.server.offering act = none

/-- In this order of offers, opt-outs and leaves no exchange is ever due with a player who has opted out. -/
theorem notDue_of_ordered (cfg : HostConfig) (conn : Sides Conn) (ggpoPort : Sides UInt16) {as : List OptAct}
    (h : (optRoom inetPton).Meets (fun _ => Ordered) (.new cfg conn ggpoPort) [] as) :
    (optRoom inetPton).Meets (fun _ => NotDue) (.new cfg conn ggpoPort) [] as := by
  refine Machine.meets_of_inv (fun _ s => s.server.server.WellSeated ∧ NoneDue s.server) ?_ ?_ ⟨wellSeated_start cfg, ?_⟩ h
  · intro _ s a ⟨hseated, hnone⟩ hordered
    refine ⟨optRoom_wellSeated inetPton hseated a, ?_⟩
    rcases optRoom_server inetPton s a with ⟨-, hserver⟩ | ⟨act, hserved, hserver⟩
    · rw [hserver]
      exact hnone
    · rw [hserver]
      exact noneDue_next hseated hnone (hordered act hserved).1
  · intro _ s a ⟨hseated, hnone⟩ hordered i hout act g x y back hserved hcall hdue
    obtain ⟨-, hquiet⟩ := hordered act hserved
    cases act with
    | message m =>
      rw [hquiet m rfl ⟨i, hout⟩] at hcall
      cases hcall
    | endStep tick =>
      obtain rfl := Option.some.inj hcall
      exact absurd ⟨x, y, back, hdue⟩ hnone
    | event e => cases hcall
  · rintro ⟨x, y, back, hdue⟩
    cases hdue.members

end

namespace Sample

open Sf4e.Session.Sample (peerAddr tick joinAs)

/-- Both players are in the lobby. -/
def bothSeated : List OptAct :=
  [.server (.event (.create (ascii "build") (ascii "secret") false)),
    .server (.event (.connecting 1 1 true)), .server (.event (.connecting 2 2 true)),
    .send 0 .hello, .send 1 .hello, .serve 0 1 peerAddr tick, .serve 1 1 peerAddr tick,
    .send 0 (joinAs "A" false), .send 1 (joinAs "B" false), .serve 0 2 peerAddr tick, .serve 1 2 peerAddr tick,
    .server (.endStep tick)]

/-- Both offer and the first player opts out; the second plays the match and offers again. -/
def offersAgain : List OptAct :=
  [.client 0 (.enable enabling), .serve 0 3 peerAddr tick, .client 1 (.enable enabling), .serve 1 3 peerAddr tick,
    .client 0 .disable, .client 1 (.startMatch ⟨0, []⟩), .client 1 (.enable enabling)]

def afterOptOut : OptRoom :=
  (optRoom inetPton).run (.new (lobbyHost 0) ⟨1, 2⟩ ⟨23457, 23458⟩) (bothSeated ++ offersAgain)

/-- The server handles the second player's new offer. -/
def secondServed : OptAct := .serve 1 4 peerAddr tick

def told : OptRoom × List Out := (optRoom inetPton).next afterOptOut secondServed

end Sample

/-- The other player's new offer has the server send out the endpoints of one who has opted out. -/
theorem told_after_opt_out :
    ¬ ∀ (inetPton : Bytes → Option UInt32) (cfg : HostConfig) (conn : Sides Conn) (ggpoPort : Sides UInt16)
      (as : List OptAct),
      (optRoom inetPton).Meets (fun _ => NotHandedOut inetPton) (.new cfg conn ggpoPort) [] as := by
  intro h
  obtain ⟨-, hlast, -⟩ := Machine.meets_append.1 (h Sample.inetPton (lobbyHost 0) ⟨1, 2⟩ ⟨23457, 23458⟩
    ((Sample.bothSeated ++ Sample.offersAgain) ++ [Sample.secondServed]))
  have hout : Sample.afterOptOut.Out 0 := by
    show Sample.afterOptOut.optedOut.get 0 = some 0
    decide +kernel
  refine hlast 0 hout ⟨0, Sample.told.1.server.server.clients.get ⟨0, by decide +kernel⟩, [], ?_, ?_, ?_⟩
  · decide +kernel
  · decide +kernel
  · decide +kernel

end Sf4e.Netplay
