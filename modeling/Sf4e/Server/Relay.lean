import Sf4e.Server.Matchmaker
/-!
# The players' relay

`Relay` of the lobby server: one UDP port, two slots, and the addresses of the
two player seats. A slot is taken by the first datagram from its seat's address,
and what one slot's endpoint sends goes to the other's.

`relay` is the relay one datagram at a time. In every run a slot in use holds an
endpoint of its seat's address and the two never hold the same one, so a
datagram only ever goes on to the other player.
-/
open Sf4e.Lib Sf4e.Session

namespace Sf4e.Server

def RELAY_ENDPOINT_TIMEOUT_MS : UInt64 := 20 * 1000
def STUN_PROBE : Bytes := ascii "SF4ESTUN1"

/-- `sockaddr_in`, in host byte order. -/
structure SockAddr where
  ip : UInt32
  port : UInt16
  deriving DecidableEq

/-- What `recvfrom` reads into the buffer, and from where. -/
structure Received where
  sender : SockAddr
  data : Bytes

structure Endpoint where
  used : Bool
  addr : SockAddr
  lastSeen : UInt64
  deriving DecidableEq

/-- What is left of an endpoint that has been silent too long. -/
def Endpoint.expire (e : Endpoint) (now : UInt64) : Endpoint :=
  if e.used && now - e.lastSeen > RELAY_ENDPOINT_TIMEOUT_MS then { e with used := false } else e

/-- The counters and the log lines are left out. -/
structure Relay where
  eps : Sides Endpoint
  players : Sides UInt32
  deriving DecidableEq

/-- A datagram the relay sends. -/
inductive Relayed where
  | answer (dest : SockAddr) (reply : Json)
  | forward (dest : SockAddr) (data : Bytes)

namespace Relay

def isAllowed (r : Relay) (sender : SockAddr) : Bool :=
  sender.ip ≠ 0 && (r.players.s0 = sender.ip || r.players.s1 = sender.ip)

/-- One seat of `SetPlayers`. -/
def setPlayer (r : Relay) (i : Side) (ip : UInt32) : Relay :=
  if r.players.get i ≠ ip then
    { eps := r.eps.set i { r.eps.get i with used := false }, players := r.players.set i ip }
  else r

def setPlayers (r : Relay) (seats : List UInt32) : Relay :=
  (r.setPlayer 0 (seats.getD 0 0)).setPlayer 1 (seats.getD 1 0)

def clear (r : Relay) : Relay :=
  { r with eps := ⟨{ r.eps.s0 with used := false }, { r.eps.s1 with used := false }⟩ }

/-- The slot that holds this endpoint. -/
def slotOf (r : Relay) (sender : SockAddr) : Option Side :=
  if r.eps.s0.used && r.eps.s0.addr = sender then some 0
  else if r.eps.s1.used && r.eps.s1.addr = sender then some 1
  else none

/-- The seat whose address this is; two players behind one address take the seats in order. -/
def freeSlot (r : Relay) (ip : UInt32) : Option Side :=
  if !r.eps.s0.used && r.players.s0 = ip then some 0
  else if !r.eps.s1.used && r.players.s1 = ip then some 1
  else none

def learn (r : Relay) (i : Side) (sender : SockAddr) : Relay :=
  { r with eps := r.eps.set i { r.eps.get i with used := true, addr := sender } }

/-- The datagram of slot `i` goes on to the other slot. -/
def pass (r : Relay) (i : Side) (now : UInt64) (data : Bytes) : Relay × List Relayed :=
  let r := { r with eps := r.eps.set i { r.eps.get i with lastSeen := now } }
  (r, if (r.eps.get i.other).used then [.forward (r.eps.get i.other).addr data] else [])

/-- The answer to an address query. -/
def addressReply (sender : SockAddr) : Json :=
  jsonObj [("ok", .bool true), ("ip", .str (ipText sender.ip)), ("port", .int sender.port.toNat)]

/-- One datagram in `Pump`. -/
def receive (r : Relay) (now : UInt64) (d : Received) : Relay × List Relayed :=
  if d.data = STUN_PROBE then
    (r, if r.isAllowed d.sender then [.answer d.sender (addressReply d.sender)] else [])
  else match r.slotOf d.sender with
    | some i => r.pass i now d.data
    | none =>
      if r.isAllowed d.sender then
        match r.freeSlot d.sender.ip with
        | some i => (r.learn i d.sender).pass i now d.data
        | none => (r, [])
      else (r, [])

def expire (r : Relay) (now : UInt64) : Relay :=
  { r with eps := ⟨r.eps.s0.expire now, r.eps.s1.expire now⟩ }

/-- The loop of `Pump`. An empty datagram ends it, and what is behind it waits
for the next call. -/
def drain (r : Relay) (now : UInt64) : List Received → Relay × List Relayed
  | [] => (r, [])
  | d :: rest =>
    if d.data = [] then (r, [])
    else
      let (r, sent) := r.receive now d
      let (r, more) := r.drain now rest
      (r, sent ++ more)

def pump (r : Relay) (now : UInt64) (reads : List Received) : Relay × List Relayed :=
  let (r, sent) := r.drain now reads
  (r.expire now, sent)

/-- A relay nobody has used. -/
def new : Relay := ⟨⟨⟨false, ⟨0, 0⟩, 0⟩, ⟨false, ⟨0, 0⟩, 0⟩⟩, ⟨0, 0⟩⟩

end Relay

inductive RelayAct where
  | setPlayers (seats : List UInt32)
  | clear
  | datagram (now : UInt64) (d : Received)
  | expire (now : UInt64)

/-- The relay, one datagram or call at a time. -/
def relay : Machine Relay RelayAct Relayed where
  next r
    | .setPlayers seats => (r.setPlayers seats, [])
    | .clear => (r.clear, [])
    | .datagram now d => r.receive now d
    | .expire now => (r.expire now, [])

theorem drain_eq_run (r : Relay) (now : UInt64) (reads : List Received) :
    r.drain now reads =
      (relay.run r ((reads.takeWhile (·.data ≠ [])).map (.datagram now)),
        relay.outs r ((reads.takeWhile (·.data ≠ [])).map (.datagram now))) := by
  induction reads generalizing r with
  | nil => rfl
  | cons d rest ih =>
    by_cases hd : d.data = []
    · simp [Relay.drain, hd, Machine.outs]
    · simp only [Relay.drain, hd, if_false, List.takeWhile_cons, ne_eq, not_false_eq_true, decide_true, if_true,
        List.map_cons, Machine.run_cons, Machine.outs, ih]
      rfl

/-- A call of `Pump` is a run of the machine. -/
theorem pump_eq_run (r : Relay) (now : UInt64) (reads : List Received) :
    r.pump now reads =
      (relay.run r ((reads.takeWhile (·.data ≠ [])).map (.datagram now) ++ [.expire now]),
        relay.outs r ((reads.takeWhile (·.data ≠ [])).map (.datagram now) ++ [.expire now])) := by
  simp only [Relay.pump, drain_eq_run, Machine.run_append, Machine.outs_append, Machine.outs]
  simp [relay]

/-! ## The slots -/

namespace Relay

/-- Slot `i` holds an endpoint of its seat's address. -/
def Seated (r : Relay) (i : Side) : Prop :=
  (r.eps.get i).used = true → (r.eps.get i).addr.ip = r.players.get i ∧ r.players.get i ≠ 0

/-- Every slot in use holds an endpoint of its seat's address, and no two the same one. -/
structure Sound (r : Relay) : Prop where
  seated : ∀ i, r.Seated i
  apart : r.eps.s0.used = true → r.eps.s1.used = true → r.eps.s0.addr ≠ r.eps.s1.addr

theorem sound_new : Sound new where
  seated i := by
    induction i using Side.cases with
    | zero => exact fun h => by cases h
    | one => exact fun h => by cases h
  apart h := by cases h

theorem Sound.apart_get {r : Relay} (h : r.Sound) (i : Side) (hi : (r.eps.get i).used = true)
    (ho : (r.eps.get i.other).used = true) : (r.eps.get i).addr ≠ (r.eps.get i.other).addr := by
  induction i using Side.cases with
  | zero => exact h.apart hi ho
  | one => exact fun heq => h.apart ho hi heq.symm

/-- Slots that are still in use are as they were, and so are their seats. -/
theorem Sound.of_kept {r r' : Relay} (h : r.Sound)
    (hkept : ∀ i, (r'.eps.get i).used = true →
      (r.eps.get i).used = true ∧ (r'.eps.get i).addr = (r.eps.get i).addr ∧ r'.players.get i = r.players.get i) :
    r'.Sound where
  seated i := by
    intro hused
    obtain ⟨hold, haddr, hplayer⟩ := hkept i hused
    rw [haddr, hplayer]
    exact h.seated i hold
  apart := by
    intro h0 h1
    obtain ⟨hold0, haddr0, -⟩ := hkept 0 h0
    obtain ⟨hold1, haddr1, -⟩ := hkept 1 h1
    simp only [Sides.get_zero, Sides.get_one] at haddr0 haddr1 hold0 hold1
    rw [haddr0, haddr1]
    exact h.apart hold0 hold1

theorem setPlayer_kept (r : Relay) (j i : Side) (ip : UInt32) (hused : ((r.setPlayer j ip).eps.get i).used = true) :
    (r.eps.get i).used = true ∧ ((r.setPlayer j ip).eps.get i).addr = (r.eps.get i).addr ∧
      (r.setPlayer j ip).players.get i = r.players.get i := by
  unfold setPlayer at hused ⊢
  split at hused
  · rename_i hne
    rw [if_pos hne]
    rcases Side.eq_or_other j i with rfl | rfl
    · simp at hused
    · simpa using hused
  · rename_i heq
    rw [if_neg heq]
    exact ⟨hused, rfl, rfl⟩

theorem Sound.setPlayer {r : Relay} (h : r.Sound) (j : Side) (ip : UInt32) : (r.setPlayer j ip).Sound :=
  h.of_kept fun i hused => r.setPlayer_kept j i ip hused

theorem Sound.clear {r : Relay} (h : r.Sound) : r.clear.Sound := by
  refine h.of_kept fun i hused => ?_
  induction i using Side.cases with
  | zero => cases hused
  | one => cases hused

theorem expire_kept (e : Endpoint) (now : UInt64) (h : (e.expire now).used = true) : e.expire now = e := by
  unfold Endpoint.expire at h ⊢
  split at h
  · cases h
  · rename_i hlate
    rw [if_neg hlate]

theorem Sound.expire {r : Relay} (h : r.Sound) (now : UInt64) : (r.expire now).Sound := by
  refine h.of_kept fun i hused => ?_
  have hkeep : (r.expire now).eps.get i = r.eps.get i := by
    induction i using Side.cases with
    | zero => exact expire_kept _ _ hused
    | one => exact expire_kept _ _ hused
  rw [hkeep] at hused ⊢
  exact ⟨hused, rfl, rfl⟩

/-! ## Taking a slot -/

theorem slotOf_some {r : Relay} {sender : SockAddr} {i : Side} (h : r.slotOf sender = some i) :
    (r.eps.get i).used = true ∧ (r.eps.get i).addr = sender := by
  have hfirst := Side.of_first (P := fun i => ((r.eps.get i).used && (r.eps.get i).addr = sender) = true) h
  simpa using hfirst

theorem slotOf_none {r : Relay} {sender : SockAddr} (h : r.slotOf sender = none) (i : Side)
    (hused : (r.eps.get i).used = true) : (r.eps.get i).addr ≠ sender := by
  intro haddr
  unfold slotOf at h
  split at h
  · cases h
  · rename_i h0
    split at h
    · cases h
    · rename_i h1
      induction i using Side.cases with
      | zero => exact h0 (by simp_all)
      | one => exact h1 (by simp_all)

theorem freeSlot_some {r : Relay} {ip : UInt32} {i : Side} (h : r.freeSlot ip = some i) :
    (r.eps.get i).used = false ∧ r.players.get i = ip := by
  have hfirst := Side.of_first (P := fun i => (!(r.eps.get i).used && r.players.get i = ip) = true) h
  simpa using hfirst

theorem isAllowed_ne {r : Relay} {sender : SockAddr} (h : r.isAllowed sender = true) : sender.ip ≠ 0 := by
  unfold isAllowed at h
  simp only [Bool.and_eq_true, decide_eq_true_eq] at h
  exact h.1

@[simp] theorem learn_self (r : Relay) (i : Side) (sender : SockAddr) :
    (r.learn i sender).eps.get i = { r.eps.get i with used := true, addr := sender } := by
  simp [learn]

@[simp] theorem learn_other (r : Relay) (i : Side) (sender : SockAddr) :
    (r.learn i sender).eps.get i.other = r.eps.get i.other := by
  simp [learn]

@[simp] theorem learn_players (r : Relay) (i : Side) (sender : SockAddr) : (r.learn i sender).players = r.players := rfl

theorem Sound.learn {r : Relay} (h : r.Sound) {sender : SockAddr} {i : Side} (hnew : r.slotOf sender = none)
    (hallow : r.isAllowed sender = true) (hfree : r.freeSlot sender.ip = some i) : (r.learn i sender).Sound := by
  obtain ⟨-, hplayer⟩ := freeSlot_some hfree
  have hother : ∀ j, (r.eps.get j).used = true → (r.eps.get j).addr ≠ sender := slotOf_none hnew
  refine ⟨fun j => ?_, ?_⟩
  · rcases Side.eq_or_other i j with rfl | rfl
    · intro _
      simp only [learn_self, learn_players]
      exact ⟨hplayer.symm, hplayer ▸ isAllowed_ne hallow⟩
    · unfold Seated
      rw [learn_other, learn_players]
      exact h.seated i.other
  · -- the new endpoint is in neither slot
    intro h0 h1
    induction i using Side.cases with
    | zero => exact fun heq => hother 1 h1 heq.symm
    | one => exact fun heq => hother 0 h0 heq

/-- The clock of a slot is not part of `Sound`. -/
theorem pass_kept (r : Relay) (i : Side) (now : UInt64) (data : Bytes) (j : Side) :
    ((r.pass i now data).1.eps.get j).used = (r.eps.get j).used ∧
      ((r.pass i now data).1.eps.get j).addr = (r.eps.get j).addr := by
  rcases Side.eq_or_other i j with rfl | rfl
  · simp [pass]
  · simp [pass]

theorem Sound.pass {r : Relay} (h : r.Sound) (i : Side) (now : UInt64) (data : Bytes) : (r.pass i now data).1.Sound := by
  refine h.of_kept fun j hused => ?_
  obtain ⟨hu, ha⟩ := r.pass_kept i now data j
  rw [hu] at hused
  exact ⟨hused, ha, rfl⟩

/-! ## One datagram -/

/-- What a datagram does: a query is answered, a datagram from a slot's endpoint is
passed on, one from a seat's address takes the seat's slot first. -/
inductive Handled (r : Relay) (now : UInt64) (d : Received) : Relay × List Relayed → Prop where
  | query (hquery : d.data = STUN_PROBE) (hallow : r.isAllowed d.sender = true) :
      Handled r now d (r, [.answer d.sender (addressReply d.sender)])
  | refused : Handled r now d (r, [])
  | known {i : Side} (hmatch : d.data ≠ STUN_PROBE) (hslot : r.slotOf d.sender = some i) :
      Handled r now d (r.pass i now d.data)
  | learned {i : Side} (hmatch : d.data ≠ STUN_PROBE) (hnew : r.slotOf d.sender = none)
      (hallow : r.isAllowed d.sender = true) (hfree : r.freeSlot d.sender.ip = some i) :
      Handled r now d ((r.learn i d.sender).pass i now d.data)

theorem handled (r : Relay) (now : UInt64) (d : Received) : Handled r now d (r.receive now d) := by
  unfold receive
  split
  · rename_i hquery
    split
    · rename_i hallow
      exact .query hquery hallow
    · exact .refused
  · rename_i hmatch
    cases hslot : r.slotOf d.sender with
    | some i => exact .known hmatch hslot
    | none =>
      dsimp only
      split
      · rename_i hallow
        cases hfree : r.freeSlot d.sender.ip with
        | some i => exact .learned hmatch hslot hallow hfree
        | none => exact .refused
      · exact .refused

theorem Sound.receive {r : Relay} (h : r.Sound) (now : UInt64) (d : Received) : (r.receive now d).1.Sound := by
  have hd := r.handled now d
  generalize r.receive now d = result at hd
  cases hd with
  | query => exact h
  | refused => exact h
  | @known i => exact h.pass i now d.data
  | @learned i _ hnew hallow hfree => exact (h.learn hnew hallow hfree).pass i now d.data

/-- Where a datagram may go: from the endpoint of one slot to the endpoint of the
other, which is another one and at the address of a player. -/
structure GoesAcross (r : Relay) (d : Received) (dest : SockAddr) : Prop where
  slots : ∃ i, (r.eps.get i).used = true ∧ (r.eps.get i).addr = d.sender ∧
    (r.eps.get i.other).used = true ∧ (r.eps.get i.other).addr = dest ∧ dest.ip = r.players.get i.other
  notBack : dest ≠ d.sender
  player : dest.ip ≠ 0

theorem forward_pass {r : Relay} (h : r.Sound) {i : Side} {now : UInt64} {d : Received}
    (hused : (r.eps.get i).used = true) (haddr : (r.eps.get i).addr = d.sender) {dest : SockAddr} {data : Bytes}
    (hout : .forward dest data ∈ (r.pass i now d.data).2) :
    data = d.data ∧ GoesAcross (r.pass i now d.data).1 d dest := by
  have hother := r.pass_kept i now d.data i.other
  have hself := r.pass_kept i now d.data i
  have hplayers : (r.pass i now d.data).1.players = r.players := rfl
  simp only [pass] at hout
  split at hout
  · rename_i hon
    obtain ⟨rfl, rfl⟩ : dest = _ ∧ data = _ := by simpa using hout
    have hon' : (r.eps.get i.other).used = true := by simpa using hon
    obtain ⟨hip, hne⟩ := h.seated i.other hon'
    refine ⟨rfl, ⟨i, ?_, ?_, ?_, ?_, ?_⟩, ?_, ?_⟩
    · rw [hself.1, hused]
    · rw [hself.2, haddr]
    · rw [hother.1, hon']
    · simp [hother.2]
    · simp [hplayers, hip]
    · rw [← haddr]
      simpa using (h.apart_get i hused hon').symm
    · simpa [hip] using hne
  · cases hout

theorem forward_receive {r : Relay} (h : r.Sound) {now : UInt64} {d : Received} {dest : SockAddr} {data : Bytes}
    (hout : .forward dest data ∈ (r.receive now d).2) :
    d.data ≠ STUN_PROBE ∧ data = d.data ∧ GoesAcross (r.receive now d).1 d dest := by
  have hd := r.handled now d
  generalize r.receive now d = result at hd hout ⊢
  cases hd with
  | query => simp at hout
  | refused => cases hout
  | known hmatch hslot =>
    obtain ⟨hused, haddr⟩ := slotOf_some hslot
    exact ⟨hmatch, forward_pass h hused haddr hout⟩
  | learned hmatch hnew hallow hfree =>
    exact ⟨hmatch, forward_pass (h.learn hnew hallow hfree) (by simp) (by simp) hout⟩

end Relay

/-! ## Every run -/

/-- What has to be true of a step of the relay. -/
structure RelaySafe (r : Relay) (a : RelayAct) : Prop where
  before : r.Sound
  after : (relay.next r a).1.Sound
  /-- Only a datagram is forwarded, from one slot's endpoint to the other's. -/
  forwards : ∀ dest data, .forward dest data ∈ (relay.next r a).2 →
    ∃ now d, a = .datagram now d ∧ data = d.data ∧ Relay.GoesAcross (relay.next r a).1 d dest
  /-- An address query changes nothing and is not forwarded. -/
  query : ∀ now d, a = .datagram now d → d.data = STUN_PROBE →
    (relay.next r a).1 = r ∧ ∀ dest data, .forward dest data ∉ (relay.next r a).2

theorem sound_next {r : Relay} (h : r.Sound) (a : RelayAct) : (relay.next r a).1.Sound := by
  cases a with
  | setPlayers seats => exact (h.setPlayer 0 _).setPlayer 1 _
  | clear => exact h.clear
  | datagram now d => exact h.receive now d
  | expire now => exact h.expire now

theorem relaySafe_of_sound {r : Relay} (h : r.Sound) (a : RelayAct) : RelaySafe r a where
  before := h
  after := sound_next h a
  forwards := by
    intro dest data hout
    cases a with
    | datagram now d =>
      obtain ⟨-, hdata, hacross⟩ := Relay.forward_receive h hout
      exact ⟨now, d, rfl, hdata, hacross⟩
    | _ => cases hout
  query := by
    rintro now d rfl hquery
    refine ⟨?_, fun dest data hout => (Relay.forward_receive h hout).1 hquery⟩
    show (r.receive now d).1 = r
    rw [Relay.receive, if_pos hquery]

/-- Every step of every run is safe, whatever the datagrams, the seats and the clock. -/
theorem relay_safe (as : List RelayAct) : relay.Meets (fun _ => RelaySafe) .new [] as :=
  Machine.meets_of_inv (fun _ r => r.Sound) (fun _ _ a h _ => sound_next h a) (fun _ _ a h _ => relaySafe_of_sound h a)
    Relay.sound_new (Machine.meets_true (h := []))

end Sf4e.Server
