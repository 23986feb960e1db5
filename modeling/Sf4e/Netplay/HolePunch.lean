import Sf4e.Server.Relay
/-!
# Hole punching

`sf4e__HolePunch`: the socket a PC holds on the game port, how it learns the
address others see it at, and the loop that proves a path to the other PC. What
the clock and the socket give is an input, one `Round` for each turn of the loop.
-/
open Sf4e.Lib Sf4e.Session Sf4e.Server

namespace Sf4e.Netplay

def PUNCH_MAGIC : Bytes := ascii "SF4EPUNCH1"

/-- `(int)(a - b)` of two readings of the clock. -/
def ticksSince (a b : UInt32) : Int32 := (a - b).toInt32

/-- A datagram the socket sends. -/
structure Packet where
  dest : SockAddr
  data : Bytes
  deriving DecidableEq

/-! ## The socket -/

structure HolePunch where
  isOpen : Bool
  boundPort : UInt16
  publicIp : Bytes
  publicPort : UInt16
  localIp : Bytes
  localPort : UInt16
  deriving DecidableEq

/-- What answers the address queries of `Discover`: nobody, or an address and
perhaps a port. There is no relay to ask when `relay` is `none`. -/
structure Discovery where
  matchmaker : Option (Bytes × Option UInt16)
  relay : Option (Option (Bytes × Option UInt16))
  localAddr : Option Bytes

namespace HolePunch

/-- The socket of a client that has not used it. -/
def new : HolePunch := ⟨false, 0, [], 0, [], 0⟩

def close (h : HolePunch) : HolePunch := { h with isOpen := false }

/-- `Open`, with the answer of `bind`. -/
def open_ (h : HolePunch) (localPort : UInt16) (bindOk : Bool) : HolePunch × Bool :=
  if bindOk then ({ h with isOpen := true, boundPort := localPort }, true) else (h.close, false)

/-- `QueryMapping`, by the answer that came. -/
def queryMapping (h : HolePunch) (answer : Option (Bytes × Option UInt16)) : HolePunch × Bool :=
  match answer with
  | none => (h, false)
  | some (ip, none) => ({ h with publicIp := ip }, false)
  | some (ip, some port) => ({ h with publicIp := ip, publicPort := port }, port ≠ 0)

def discover (h : HolePunch) (d : Discovery) : HolePunch × Bool :=
  let first := h.queryMapping d.matchmaker
  let found := if first.2 then first else match d.relay with
    | some answer => first.1.queryMapping answer
    | none => first
  if found.2 then
    (match d.localAddr with
      | some ip => { found.1 with localIp := ip, localPort := found.1.boundPort }
      | none => found.1, true)
  else (found.1, false)

end HolePunch

/-! ## The loop -/

/-- What `recvfrom` gives: nothing to read, an error, or a datagram. -/
inductive Read where
  | nothing
  | failed
  | datagram (sender : SockAddr) (data : Bytes)
  deriving DecidableEq

/-- One turn of the loop: what is read, and each reading of the clock, in the order of the code. -/
structure Round where
  loopAt : UInt32
  settleAt : UInt32
  sendAt : UInt32
  nextAt : UInt32
  probeAt : UInt32
  read : Read
  answeredAt : UInt32
  ackAt : UInt32
  provenAt : UInt32

/-- The two addresses of the other PC. -/
inductive CandidateWhat where
  | localAddr
  | publicAddr
  deriving DecidableEq

structure Candidate where
  addr : SockAddr
  what : CandidateWhat
  deriving DecidableEq

/-- What stays the same over the loop. -/
structure PunchJob where
  candidates : List Candidate
  token : Bytes
  matchStart : Bool
  deadline : UInt32

inductive PunchStatus where
  | running
  | over
  | failed
  deriving DecidableEq

/-- What the loop changes. -/
structure Punching where
  nextSend : UInt32
  lastProbeAt : UInt32
  rttMs : Int32
  gotAck : Bool
  ackedPeer : Bool
  which : Option CandidateWhat
  settle : UInt32
  chosenIp : Bytes
  chosenPort : UInt16
  status : PunchStatus
  deriving DecidableEq

def Punching.start : Punching where
  nextSend := 0
  lastProbeAt := 0
  rttMs := -1
  gotAck := false
  ackedPeer := false
  which := none
  settle := 0
  chosenIp := []
  chosenPort := 0
  status := .running

namespace PunchJob

variable (job : PunchJob)

def plainProbe : Bytes := PUNCH_MAGIC ++ job.token
def matchProbe : Bytes := PUNCH_MAGIC ++ ascii "M" ++ job.token
def ack : Bytes := PUNCH_MAGIC ++ ascii "A" ++ job.token
def probe : Bytes := if job.matchStart then job.matchProbe else job.plainProbe

/-- The probes go out every 50 ms, to every candidate. -/
def sendProbes (p : Punching) (r : Round) : Punching × List Packet :=
  if ticksSince r.sendAt p.nextSend ≥ 0 then
    ({ p with nextSend := r.nextAt + 50, lastProbeAt := r.probeAt },
      job.candidates.map fun c => ⟨c.addr, job.probe⟩)
  else (p, [])

/-- A probe of theirs. At match start only a marked one counts. -/
def hearProbe (p : Punching) (r : Round) (isMarked : Bool) : Punching :=
  if isMarked || !job.matchStart then
    { p with
      settle := if !p.ackedPeer && p.settle ≠ 0 then r.answeredAt + 150 else p.settle
      ackedPeer := true }
  else p

/-- The candidate whose host this is, or the one of an earlier ack. -/
def whichCandidate (p : Punching) (sender : SockAddr) : Option CandidateWhat :=
  job.candidates.foldl (fun which c => if sender.ip = c.addr.ip then some c.what else which) p.which

def hearAck (p : Punching) (r : Round) (sender : SockAddr) (what : CandidateWhat) : Punching :=
  { p with
    which := some what
    chosenIp := ipText sender.ip
    chosenPort := sender.port
    rttMs := if !p.gotAck then ticksSince r.ackAt p.lastProbeAt else p.rttMs
    gotAck := true }

def settleDown (p : Punching) (r : Round) : Punching :=
  if p.settle = 0 && p.gotAck && (p.ackedPeer || !job.matchStart) then
    { p with settle := r.provenAt + if p.ackedPeer then 150 else 1200 }
  else p

/-- A datagram that was read. -/
def hear (p : Punching) (r : Round) (sender : SockAddr) (data : Bytes) : Punching × List Packet :=
  if data = job.plainProbe || data = job.matchProbe then
    (job.settleDown (job.hearProbe p r (data = job.matchProbe)) r, [⟨sender, job.ack⟩])
  else if data = job.ack then
    match job.whichCandidate p sender with
    | none => (p, [])
    | some what => (job.settleDown (hearAck p r sender what) r, [])
  else (p, [])

/-- The loop goes on to read. -/
def listens (p : Punching) (r : Round) : Bool :=
  p.status = .running && ticksSince r.loopAt job.deadline < 0 && !(p.settle ≠ 0 && ticksSince r.settleAt p.settle ≥ 0)

/-- One turn of the loop. -/
def round (p : Punching) (r : Round) : Punching × List Packet :=
  if p.status ≠ .running then (p, [])
  else if job.listens p r then
    let (p, probes) := job.sendProbes p r
    match r.read with
    | .nothing => (p, probes)
    | .failed => ({ p with status := .failed }, probes)
    | .datagram sender data =>
      let (p, acks) := job.hear p r sender data
      (p, probes ++ acks)
  else ({ p with status := .over }, [])

/-- The turns of the loop, one after the other. -/
def rounds (p : Punching) : List Round → Punching × List Packet
  | [] => (p, [])
  | r :: rest =>
    let (p, sent) := job.round p r
    let (p, more) := rounds p rest
    (p, sent ++ more)

/-- What `Punch` returns, once the loop is over. -/
def proven (p : Punching) : Bool := p.status ≠ .failed && p.gotAck && (p.ackedPeer || !job.matchStart)

end PunchJob

/-! ## The calls -/

section

variable (inetPton : Bytes → Option UInt32)

def candidateOf (what : CandidateWhat) (ip : Bytes) (port : UInt16) : Option Candidate :=
  if ip = [] || port = 0 then none else (inetPton ip).map fun host => ⟨⟨host, port⟩, what⟩

/-- The two addresses to try, the local one first. -/
def candidatesOf (peer : DirectPeer) : List Candidate :=
  (candidateOf inetPton .localAddr peer.localIp peer.localPort).toList ++
    (candidateOf inetPton .publicAddr peer.ip peer.port).toList

/-- A call of `Punch` from outside: when it starts, and its turns. The clock passes
the deadline after the last one. -/
structure PunchCall where
  startAt : UInt32
  turns : List Round

/-- What a call of `Punch` gives. -/
structure Punched where
  ok : Bool
  chosenIp : Bytes
  chosenPort : UInt16
  rttMs : Int32
  sent : List Packet

def punchJob (peer : DirectPeer) (timeoutMs startAt : UInt32) (matchStart : Bool) : PunchJob :=
  ⟨candidatesOf inetPton peer, peer.token, matchStart, startAt + timeoutMs⟩

/-- `Punch`. -/
def HolePunch.punch (h : HolePunch) (peer : DirectPeer) (timeoutMs : UInt32) (matchStart : Bool) (call : PunchCall) :
    Punched :=
  let job := punchJob inetPton peer timeoutMs call.startAt matchStart
  if !h.isOpen || job.candidates = [] then ⟨false, [], 0, -1, []⟩
  else
    let (p, sent) := job.rounds .start call.turns
    ⟨job.proven p, p.chosenIp, p.chosenPort, p.rttMs, sent⟩

/-- `Keepalive`: a plain probe, and an answer to each of the first eight datagrams that is one. -/
def HolePunch.keepalive (h : HolePunch) (peerIp : Bytes) (peerPort : UInt16) (token : Bytes)
    (reads : List (SockAddr × Bytes)) : List Packet :=
  if !h.isOpen || peerPort = 0 || peerIp = [] then []
  else match inetPton peerIp with
    | none => []
    | some host =>
      let probe := PUNCH_MAGIC ++ token
      ⟨⟨host, peerPort⟩, probe⟩ ::
        ((reads.take 8).filter fun read => read.2 = probe).map fun read => ⟨read.1, PUNCH_MAGIC ++ ascii "A" ++ token⟩

end

/-! ## What the loop has read -/

namespace PunchJob

variable (job : PunchJob)

theorem rounds_append (p : Punching) (rs more : List Round) :
    (job.rounds p (rs ++ more)).1 = (job.rounds (job.rounds p rs).1 more).1 := by
  induction rs generalizing p with
  | nil => rfl
  | cons r rs ih => exact ih (job.round p r).1

theorem running_of_listens {p : Punching} {r : Round} (h : job.listens p r = true) : ¬p.status ≠ .running := by
  intro hstopped
  simp [listens, hstopped] at h

/-! A turn that the loop takes, by what it reads. -/

theorem round_nothing {p : Punching} {r : Round} (h : job.listens p r = true) (hread : r.read = .nothing) :
    job.round p r = job.sendProbes p r := by
  unfold round
  rw [if_neg (job.running_of_listens h), if_pos h, hread]

theorem round_failed {p : Punching} {r : Round} (h : job.listens p r = true) (hread : r.read = .failed) :
    job.round p r = ({ (job.sendProbes p r).1 with status := .failed }, (job.sendProbes p r).2) := by
  unfold round
  rw [if_neg (job.running_of_listens h), if_pos h, hread]

theorem round_datagram {p : Punching} {r : Round} {sender : SockAddr} {data : Bytes} (h : job.listens p r = true)
    (hread : r.read = .datagram sender data) :
    job.round p r = ((job.hear (job.sendProbes p r).1 r sender data).1,
      (job.sendProbes p r).2 ++ (job.hear (job.sendProbes p r).1 r sender data).2) := by
  unfold round
  rw [if_neg (job.running_of_listens h), if_pos h, hread]

/-- A loop that has ended stays as it is. -/
theorem rounds_ended {p : Punching} (h : p.status ≠ .running) (rs : List Round) : job.rounds p rs = (p, []) := by
  induction rs with
  | nil => rfl
  | cons r rs ih => simp only [rounds, round, if_pos h, ih, List.append_nil]

/-- The loop ends by its deadline, whatever it has read. -/
theorem ended_by_deadline {p : Punching} {rs : List Round}
    (h : ∃ r ∈ rs, ¬ticksSince r.loopAt job.deadline < 0) : (job.rounds p rs).1.status ≠ .running := by
  induction rs generalizing p with
  | nil => simp at h
  | cons r rs ih =>
    rw [List.exists_mem_cons_iff] at h
    rcases h with hlate | hlater
    · have hended : (job.round p r).1.status ≠ .running := by
        unfold round
        split
        · rename_i hstopped
          exact hstopped
        · have hdeaf : job.listens p r = false := by simp [listens, hlate]
          rw [hdeaf]
          simp
      show (job.rounds (job.round p r).1 rs).1.status ≠ .running
      rw [rounds_ended job hended]
      exact hended
    · exact ih hlater

end PunchJob

end Sf4e.Netplay
