import Sf4e.Server.Relay
/-!
# A spectator's pipe

`Pipe` of the lobby server: P1 talks to one port, the spectator to the other,
and each side's datagrams go to the last endpoint accepted on the other side.
Unlike the relay a side learns again on any new address of a member.

`pipe` is the pipe one datagram at a time, and `lastAccepted` reads the endpoint
a side has accepted last off the history.
-/
open Sf4e.Lib Sf4e.Session

namespace Sf4e.Server

/-- The two sides of a pipe, each with a socket of its own. -/
inductive PipeSide where
  | host
  | spec
  deriving DecidableEq

def PipeSide.other : PipeSide → PipeSide
  | .host => .spec
  | .spec => .host

theorem PipeSide.eq_or_other (a b : PipeSide) : b = a ∨ b = a.other := by
  cases a <;> cases b <;> simp [PipeSide.other]

theorem PipeSide.other_ne (a : PipeSide) : a.other ≠ a := by
  cases a <;> simp [PipeSide.other]

/-- The ports, the counters and the log lines are left out. -/
structure Pipe where
  host : Endpoint
  spec : Endpoint
  allowed : List UInt32
  deriving DecidableEq

/-- A datagram the pipe sends out of the socket of one side. -/
structure Piped where
  out : PipeSide
  dest : SockAddr
  data : Bytes

namespace Pipe

def get (p : Pipe) : PipeSide → Endpoint
  | .host => p.host
  | .spec => p.spec

def set (p : Pipe) : PipeSide → Endpoint → Pipe
  | .host, e => { p with host := e }
  | .spec, e => { p with spec := e }

def clear (p : Pipe) : Pipe := { p with host := { p.host with used := false }, spec := { p.spec with used := false } }

def setAllowed (p : Pipe) (members : List UInt32) : Pipe :=
  if members ≠ p.allowed then clear { p with allowed := members } else p

def isAllowed (p : Pipe) (sender : SockAddr) : Bool := p.allowed.any fun ip => ip = sender.ip

/-- The side takes this datagram: it is from its endpoint, or from a member. -/
def accepts (p : Pipe) (side : PipeSide) (sender : SockAddr) : Bool :=
  (p.get side).used && (p.get side).addr = sender || p.isAllowed sender

/-- `&receiver == &host ? hostSock : specSock`. -/
def outSock (receiver : PipeSide) : PipeSide := if receiver = .host then .host else .spec

/-- One datagram in `PumpSide`, with the sender's side `side`. -/
def receive (p : Pipe) (side : PipeSide) (now : UInt64) (d : Received) : Pipe × List Piped :=
  if !((p.get side).used && (p.get side).addr = d.sender) && !p.isAllowed d.sender then (p, [])
  else
    let learned : Endpoint :=
      if (p.get side).used && (p.get side).addr = d.sender then p.get side
      else { p.get side with used := true, addr := d.sender }
    let p := p.set side { learned with lastSeen := now }
    (p, if (p.get side.other).used then [⟨outSock side.other, (p.get side.other).addr, d.data⟩] else [])

def expire (p : Pipe) (now : UInt64) : Pipe := { p with host := p.host.expire now, spec := p.spec.expire now }

/-- `PumpSide`. An empty datagram ends the loop. -/
def pumpSide (p : Pipe) (side : PipeSide) (now : UInt64) : List Received → Pipe × List Piped
  | [] => (p, [])
  | d :: rest =>
    if d.data = [] then (p, [])
    else
      let (p, sent) := p.receive side now d
      let (p, more) := p.pumpSide side now rest
      (p, sent ++ more)

def pump (p : Pipe) (now : UInt64) (hostReads specReads : List Received) : Pipe × List Piped :=
  let (p, sent) := p.pumpSide .host now hostReads
  let (p, more) := p.pumpSide .spec now specReads
  (p.expire now, sent ++ more)

def new : Pipe := ⟨⟨false, ⟨0, 0⟩, 0⟩, ⟨false, ⟨0, 0⟩, 0⟩, []⟩

end Pipe

inductive PipeAct where
  | setAllowed (members : List UInt32)
  | clear
  | datagram (side : PipeSide) (now : UInt64) (d : Received)
  | expire (now : UInt64)

/-- The pipe, one datagram or call at a time. -/
def pipe : Machine Pipe PipeAct Piped where
  next p
    | .setAllowed members => (p.setAllowed members, [])
    | .clear => (p.clear, [])
    | .datagram side now d => p.receive side now d
    | .expire now => (p.expire now, [])

theorem pumpSide_eq_run (p : Pipe) (side : PipeSide) (now : UInt64) (reads : List Received) :
    p.pumpSide side now reads =
      (pipe.run p ((reads.takeWhile (·.data ≠ [])).map (.datagram side now)),
        pipe.outs p ((reads.takeWhile (·.data ≠ [])).map (.datagram side now))) := by
  induction reads generalizing p with
  | nil => rfl
  | cons d rest ih =>
    by_cases hd : d.data = []
    · simp [Pipe.pumpSide, hd, Machine.outs]
    · simp only [Pipe.pumpSide, hd, if_false, List.takeWhile_cons, ne_eq, not_false_eq_true, decide_true, if_true,
        List.map_cons, Machine.run_cons, Machine.outs, ih]
      rfl

/-- A call of `Pump` is a run of the machine. -/
theorem pipe_pump_eq_run (p : Pipe) (now : UInt64) (hostReads specReads : List Received) :
    p.pump now hostReads specReads =
      (pipe.run p ((hostReads.takeWhile (·.data ≠ [])).map (.datagram .host now) ++
          ((specReads.takeWhile (·.data ≠ [])).map (.datagram .spec now) ++ [.expire now])),
        pipe.outs p ((hostReads.takeWhile (·.data ≠ [])).map (.datagram .host now) ++
          ((specReads.takeWhile (·.data ≠ [])).map (.datagram .spec now) ++ [.expire now]))) := by
  simp only [Pipe.pump, pumpSide_eq_run, Machine.run_append, Machine.outs_append, Machine.outs]
  simp [pipe]

/-- The steps of the pipe so far, newest first. -/
abbrev PipePast := List (Taken Pipe PipeAct Piped)

/-- The source of the last datagram a side has taken. -/
def lastAccepted (h : PipePast) (side : PipeSide) : Option SockAddr :=
  match h with
  | [] => none
  | t :: h => match t.act with
    | .datagram s _ d => if s = side ∧ t.pre.accepts side d.sender = true then some d.sender else lastAccepted h side
    | _ => lastAccepted h side

namespace Pipe

@[simp] theorem get_set_self (p : Pipe) (side : PipeSide) (e : Endpoint) : (p.set side e).get side = e := by
  cases side <;> rfl

@[simp] theorem get_set_other (p : Pipe) (side : PipeSide) (e : Endpoint) :
    (p.set side e).get side.other = p.get side.other := by
  cases side <;> rfl

@[simp] theorem set_allowed (p : Pipe) (side : PipeSide) (e : Endpoint) : (p.set side e).allowed = p.allowed := by
  cases side <;> rfl

@[simp] theorem outSock_eq (receiver : PipeSide) : outSock receiver = receiver := by
  cases receiver <;> rfl

/-- Every side in use holds an endpoint of a member, the last one it has accepted. -/
structure Sound (h : PipePast) (p : Pipe) : Prop where
  member : ∀ side, (p.get side).used = true → (p.get side).addr.ip ∈ p.allowed
  last : ∀ side, (p.get side).used = true → lastAccepted h side = some (p.get side).addr

theorem isAllowed_iff {p : Pipe} {sender : SockAddr} : p.isAllowed sender = true ↔ sender.ip ∈ p.allowed := by
  simp [isAllowed]

/-- What a side accepts comes from a member: an endpoint already learned does too. -/
theorem Sound.accepts_iff {h : PipePast} {p : Pipe} (hs : Sound h p) (side : PipeSide) (sender : SockAddr) :
    p.accepts side sender = true ↔ sender.ip ∈ p.allowed := by
  simp only [accepts, Bool.or_eq_true, Bool.and_eq_true, decide_eq_true_eq, isAllowed_iff]
  constructor
  · rintro (⟨hused, rfl⟩ | hmem)
    · exact hs.member side hused
    · exact hmem
  · exact .inr

/-- A datagram that is not accepted changes nothing; one that is accepted is the
side's endpoint, and goes to the other side's. -/
inductive Handled (p : Pipe) (side : PipeSide) (now : UInt64) (d : Received) : Pipe × List Piped → Prop where
  | refused (hno : p.accepts side d.sender = false) : Handled p side now d (p, [])
  | taken (hyes : p.accepts side d.sender = true) :
      Handled p side now d (p.set side ⟨true, d.sender, now⟩,
        if (p.get side.other).used then [⟨side.other, (p.get side.other).addr, d.data⟩] else [])

theorem handled (p : Pipe) (side : PipeSide) (now : UInt64) (d : Received) :
    Handled p side now d (p.receive side now d) := by
  unfold receive
  split
  · rename_i hno
    apply Handled.refused
    rw [Bool.and_eq_true, Bool.not_eq_true', Bool.not_eq_true'] at hno
    rw [accepts, hno.1, hno.2]
    rfl
  · rename_i hyes
    have haccepts : p.accepts side d.sender = true := by
      rw [accepts]
      simp only [Bool.and_eq_true, Bool.not_eq_true', not_and, Bool.not_eq_false] at hyes
      cases hk : ((p.get side).used && decide ((p.get side).addr = d.sender)) with
      | true => rfl
      | false => simpa using hyes hk
    have hlearned : (if (p.get side).used && (p.get side).addr = d.sender then p.get side
        else { p.get side with used := true, addr := d.sender } : Endpoint) =
          { p.get side with used := true, addr := d.sender } := by
      split
      · rename_i hknown
        obtain ⟨hused, haddr⟩ : (p.get side).used = true ∧ (p.get side).addr = d.sender := by simpa using hknown
        rw [← hused, ← haddr]
      · rfl
    simp only [hlearned, outSock_eq, get_set_other]
    exact .taken haccepts

/-- The history grows by a step that leaves the endpoints alone, or takes them out of use. -/
theorem Sound.of_kept {h : PipePast} {p p' : Pipe} {t : Taken Pipe PipeAct Piped} (hs : Sound h p)
    (hquiet : ∀ side, lastAccepted (t :: h) side = lastAccepted h side)
    (hkept : ∀ side, (p'.get side).used = true →
      (p.get side).used = true ∧ (p'.get side).addr = (p.get side).addr ∧ p'.allowed = p.allowed) :
    Sound (t :: h) p' where
  member side hused := by
    obtain ⟨hold, haddr, hallowed⟩ := hkept side hused
    rw [haddr, hallowed]
    exact hs.member side hold
  last side hused := by
    obtain ⟨hold, haddr, -⟩ := hkept side hused
    rw [hquiet, haddr]
    exact hs.last side hold

theorem clear_unused (p : Pipe) (side : PipeSide) : (p.clear.get side).used = false := by
  cases side <;> rfl

theorem expire_get (p : Pipe) (now : UInt64) (side : PipeSide) : (p.expire now).get side = (p.get side).expire now := by
  cases side <;> rfl

theorem Sound.receive {h : PipePast} {p : Pipe} (hs : Sound h p) (side : PipeSide) (now : UInt64) (d : Received) :
    Sound (pipe.taken p (.datagram side now d) :: h) (p.receive side now d).1 := by
  have hlast : ∀ s, lastAccepted (pipe.taken p (.datagram side now d) :: h) s =
      if side = s ∧ p.accepts s d.sender = true then some d.sender else lastAccepted h s := fun _ => rfl
  have hd := p.handled side now d
  generalize p.receive side now d = result at hd
  cases hd with
  | refused hno =>
    refine hs.of_kept (fun s => ?_) fun s hused => ⟨hused, rfl, rfl⟩
    rw [hlast, if_neg]
    rintro ⟨rfl, hyes⟩
    rw [hno] at hyes
    cases hyes
  | taken hyes =>
    have hmember := (hs.accepts_iff side d.sender).1 hyes
    constructor
    · intro s hused
      rcases PipeSide.eq_or_other side s with rfl | rfl
      · simpa using hmember
      · rw [get_set_other] at hused ⊢
        rw [set_allowed]
        exact hs.member _ hused
    · intro s hused
      rw [hlast]
      rcases PipeSide.eq_or_other side s with rfl | rfl
      · rw [if_pos ⟨rfl, hyes⟩, get_set_self]
      · rw [get_set_other] at hused ⊢
        rw [if_neg fun hside => side.other_ne hside.1.symm]
        exact hs.last _ hused

end Pipe

/-! ## Every run -/

/-- What has to be true of a step of the pipe, after the steps `h`. -/
structure PipeSafe (h : PipePast) (p : Pipe) (a : PipeAct) : Prop where
  /-- A side in use holds an endpoint of a member. -/
  member : ∀ side, (p.get side).used = true → (p.get side).addr.ip ∈ p.allowed
  /-- What is forwarded came in on one side, from an endpoint accepted there, and goes
  out of the other side's socket to the last endpoint accepted there. -/
  forwards : ∀ o ∈ (pipe.next p a).2, ∃ side now d, a = .datagram side now d ∧ o.data = d.data ∧
    lastAccepted (pipe.taken p a :: h) side = some d.sender ∧ o.out = side.other ∧
    lastAccepted (pipe.taken p a :: h) side.other = some o.dest
  /-- A datagram from anybody else changes nothing and goes nowhere. -/
  strangers : ∀ side now d, a = .datagram side now d → d.sender.ip ∉ p.allowed → pipe.next p a = (p, [])

theorem pipe_sound_next {h : PipePast} {p : Pipe} (hs : Pipe.Sound h p) (a : PipeAct) :
    Pipe.Sound (pipe.taken p a :: h) (pipe.next p a).1 := by
  cases a with
  | setAllowed members =>
    refine hs.of_kept (fun _ => rfl) fun side hused => ?_
    show (p.get side).used = true ∧ ((p.setAllowed members).get side).addr = _ ∧ (p.setAllowed members).allowed = _
    have hused' : ((p.setAllowed members).get side).used = true := hused
    unfold Pipe.setAllowed at hused' ⊢
    split at hused'
    · rw [Pipe.clear_unused] at hused'
      cases hused'
    · rename_i hsame
      rw [if_neg hsame]
      exact ⟨hused', rfl, rfl⟩
  | clear =>
    refine hs.of_kept (fun _ => rfl) fun side hused => ?_
    have hnone := p.clear_unused side
    rw [show (pipe.next p .clear).1 = p.clear from rfl, hnone] at hused
    cases hused
  | datagram side now d => exact hs.receive side now d
  | expire now =>
    refine hs.of_kept (fun _ => rfl) fun side hused => ?_
    have hget := p.expire_get now side
    rw [show (pipe.next p (.expire now)).1 = p.expire now from rfl, hget] at hused ⊢
    have hsame := Relay.expire_kept _ now hused
    rw [hsame] at hused ⊢
    exact ⟨hused, rfl, rfl⟩

theorem pipeSafe_of_sound {h : PipePast} {p : Pipe} (hs : Pipe.Sound h p) (a : PipeAct) : PipeSafe h p a where
  member := hs.member
  forwards := by
    intro o ho
    cases a with
    | datagram side now d =>
      have hnext := pipe_sound_next hs (.datagram side now d)
      have hd := p.handled side now d
      replace ho : o ∈ (p.receive side now d).2 := ho
      generalize hr : p.receive side now d = result at hd ho
      cases hd with
      | refused => cases ho
      | taken hyes =>
        dsimp only at ho
        split at ho
        · rename_i hon
          obtain rfl := List.mem_singleton.1 ho
          have hpost : (pipe.next p (.datagram side now d)).1 = p.set side ⟨true, d.sender, now⟩ :=
            congrArg Prod.fst hr
          rw [hpost] at hnext
          have hother := hnext.last side.other (by simpa using hon)
          have hself := hnext.last side (by simp)
          rw [Pipe.get_set_self] at hself
          rw [Pipe.get_set_other] at hother
          exact ⟨side, now, d, rfl, rfl, hself, rfl, hother⟩
        · cases ho
    | _ => cases ho
  strangers := by
    rintro side now d rfl hno
    have hd := p.handled side now d
    show p.receive side now d = (p, [])
    generalize p.receive side now d = result at hd
    cases hd with
    | refused => rfl
    | taken hyes => exact absurd ((hs.accepts_iff side d.sender).1 hyes) hno

theorem pipe_sound_new : Pipe.Sound [] .new where
  member side hused := by cases side <;> cases hused
  last side hused := by cases side <;> cases hused

/-- Every step of every run is safe, whatever the datagrams, the member lists and the clock. -/
theorem pipe_safe (as : List PipeAct) : pipe.Meets PipeSafe .new [] as :=
  Machine.meets_of_inv Pipe.Sound (fun _ _ a hs _ => pipe_sound_next hs a) (fun _ _ a hs _ => pipeSafe_of_sound hs a)
    pipe_sound_new Machine.meets_true

end Sf4e.Server
