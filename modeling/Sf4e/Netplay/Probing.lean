import Sf4e.Lib.Resend
import Sf4e.Netplay.SameRoad
/-!
# The clock of the punch

Both loops of `sf4e__HolePunch` send again and again by the 32-bit tick counter
of Windows. `Turn` is a turn of a loop in true time, counted from the start of
the call; a `Round` is what the code sees of it.

`askMapping_found`: what `QueryMapping` returns.

Both hold their first send back while the counter is in the upper half of its
range: `resend_by_uptime`.
-/
open Sf4e.Lib Sf4e.Session Sf4e.Server

namespace Sf4e.Netplay

/-! ## `QueryMapping` -/

/-- One turn of the loop of `QueryMapping`. -/
structure QueryRound where
  loopAt : UInt32
  sendAt : UInt32
  nextAt : UInt32
  read : Read

/-- What stays the same over the loop; `reply` is what a datagram of the server's comes to. -/
structure QueryJob where
  server : SockAddr
  request : Bytes
  deadline : UInt32
  reply : Bytes → Option (Bytes × Option UInt16)

inductive QueryStatus where
  | running
  | over
  | replied (answer : Option (Bytes × Option UInt16))
  deriving DecidableEq

structure Querying where
  nextSend : UInt32
  status : QueryStatus

def Querying.start : Querying := ⟨0, .running⟩

namespace QueryJob

variable (job : QueryJob)

/-- The request goes out every 120 ms. -/
def sendRequest (q : Querying) (r : QueryRound) : Querying × List Packet :=
  if ticksSince r.sendAt q.nextSend ≥ 0 then ({ q with nextSend := r.nextAt + 120 }, [⟨job.server, job.request⟩])
  else (q, [])

def listens (q : Querying) (r : QueryRound) : Bool := q.status = .running && ticksSince r.loopAt job.deadline < 0

/-- One turn of the loop. A failed read is about one datagram, and only the server can answer. -/
def round (q : Querying) (r : QueryRound) : Querying × List Packet :=
  if q.status ≠ .running then (q, [])
  else if job.listens q r then
    let (q, sent) := job.sendRequest q r
    match r.read with
    | .nothing => (q, sent)
    | .failed => (q, sent)
    | .datagram sender data =>
      if sender ≠ job.server then (q, sent) else ({ q with status := .replied (job.reply data) }, sent)
  else ({ q with status := .over }, [])

def rounds (q : Querying) : List QueryRound → Querying × List Packet
  | [] => (q, [])
  | r :: rest =>
    let (q, sent) := job.round q r
    let (q, more) := rounds q rest
    (q, sent ++ more)

end QueryJob

/-- The answer the loop comes to, where it comes to one. -/
def QueryStatus.answer : QueryStatus → Option (Bytes × Option UInt16)
  | .replied answer => answer
  | _ => none

/-- `QueryMapping`, with its loop. -/
def HolePunch.askMapping (h : HolePunch) (job : QueryJob) (turns : List QueryRound) : (HolePunch × Bool) × List Packet :=
  if !h.isOpen then ((h, false), [])
  else
    let (q, sent) := job.rounds .start turns
    (h.queryMapping q.status.answer, sent)

/-! ## What `QueryMapping` returns -/

namespace QueryJob

variable (job : QueryJob)

/-- `data` is the first datagram from the server, and every turn up to it began in time. -/
inductive Answered : List QueryRound → Bytes → Prop
  | now {r : QueryRound} {rest : List QueryRound} {data : Bytes} (htime : ticksSince r.loopAt job.deadline < 0)
      (hread : r.read = .datagram job.server data) : Answered (r :: rest) data
  | later {r : QueryRound} {rest : List QueryRound} {data : Bytes} (htime : ticksSince r.loopAt job.deadline < 0)
      (hquiet : ∀ other, r.read ≠ .datagram job.server other) (h : Answered rest data) : Answered (r :: rest) data

variable {q : Querying} {r : QueryRound}

theorem sendRequest_status (q : Querying) (r : QueryRound) : (job.sendRequest q r).1.status = q.status := by
  unfold sendRequest
  split <;> rfl

theorem listens_iff : job.listens q r = true ↔ q.status = .running ∧ ticksSince r.loopAt job.deadline < 0 := by
  simp [listens]

theorem round_reply (h : job.listens q r = true) {data : Bytes} (hread : r.read = .datagram job.server data) :
    (job.round q r).1.status = .replied (job.reply data) := by
  unfold round
  rw [if_neg (by simp [((job.listens_iff).1 h).1]), if_pos h, hread]
  simp

theorem round_quiet (h : job.listens q r = true) (hread : ∀ data, r.read ≠ .datagram job.server data) :
    (job.round q r).1.status = .running := by
  have hkept : (job.sendRequest q r).1.status = .running := (job.sendRequest_status q r).trans ((job.listens_iff).1 h).1
  unfold round
  rw [if_neg (by simp [((job.listens_iff).1 h).1]), if_pos h]
  cases hr : r.read with
  | nothing => exact hkept
  | failed => exact hkept
  | datagram sender data =>
    have hother : sender ≠ job.server := by
      rintro rfl
      exact hread data hr
    dsimp only
    rw [if_pos hother]
    exact hkept

theorem round_late (hq : q.status = .running) (h : ¬job.listens q r = true) : (job.round q r).1.status = .over := by
  unfold round
  rw [if_neg (by simp [hq]), if_neg h]

/-- The loop is left at the first turn that ends it. -/
theorem rounds_ended (h : q.status ≠ .running) (rs : List QueryRound) : job.rounds q rs = (q, []) := by
  induction rs with
  | nil => rfl
  | cons r rs ih =>
    have hround : job.round q r = (q, []) := if_pos h
    rw [rounds, hround]
    dsimp only
    rw [ih]
    rfl

/-- The loop comes to what the server's first datagram says. -/
theorem rounds_replied (hq : q.status = .running) (rs : List QueryRound) (answer : Option (Bytes × Option UInt16)) :
    (job.rounds q rs).1.status = .replied answer ↔ ∃ data, job.Answered rs data ∧ job.reply data = answer := by
  induction rs generalizing q with
  | nil =>
    rw [rounds, hq]
    exact ⟨nofun, nofun⟩
  | cons r rs ih =>
    have hnext : (job.rounds q (r :: rs)).1 = (job.rounds (job.round q r).1 rs).1 := rfl
    rw [hnext]
    by_cases hlistens : job.listens q r = true
    · have htime := ((job.listens_iff).1 hlistens).2
      by_cases hread : ∃ data, r.read = .datagram job.server data
      · obtain ⟨data, hread⟩ := hread
        have hstatus := job.round_reply hlistens hread
        rw [job.rounds_ended (by rw [hstatus]; exact nofun), hstatus]
        refine ⟨fun heq => ⟨data, .now htime hread, QueryStatus.replied.inj heq⟩, ?_⟩
        rintro ⟨other, hanswered, rfl⟩
        cases hanswered with
        | now _ hread' =>
          obtain ⟨-, rfl⟩ := Read.datagram.inj (hread.symm.trans hread')
          rfl
        | later _ hquiet _ => exact absurd hread (hquiet data)
      · have hquiet : ∀ data, r.read ≠ .datagram job.server data := fun data hdata => hread ⟨data, hdata⟩
        rw [ih (job.round_quiet hlistens hquiet)]
        refine exists_congr fun data => and_congr_left fun _ => ⟨.later htime hquiet, fun hanswered => ?_⟩
        cases hanswered with
        | now _ hread' => exact absurd hread' (hquiet data)
        | later _ _ h => exact h
    · have hstatus := job.round_late hq hlistens
      rw [job.rounds_ended (by rw [hstatus]; exact nofun), hstatus]
      refine ⟨nofun, ?_⟩
      rintro ⟨data, hanswered, -⟩
      refine absurd ((job.listens_iff).2 ⟨hq, ?_⟩) hlistens
      cases hanswered with
      | now htime _ => exact htime
      | later htime _ _ => exact htime

end QueryJob

theorem QueryStatus.answer_eq_some {status : QueryStatus} {found : Bytes × Option UInt16} :
    status.answer = some found ↔ status = .replied (some found) := by
  cases status with
  | replied answer =>
    show answer = some found ↔ _
    rw [QueryStatus.replied.injEq]
  | _ => exact ⟨nofun, nofun⟩

theorem HolePunch.queryMapping_found (h : HolePunch) (answer : Option (Bytes × Option UInt16)) :
    (h.queryMapping answer).2 = true ↔ ∃ ip port, answer = some (ip, some port) ∧ port ≠ 0 := by
  match answer with
  | none => simp [queryMapping]
  | some (ip, none) => simp [queryMapping]
  | some (ip, some port) => simp [queryMapping]

/-- `QueryMapping` succeeds exactly where the server's first datagram comes in time and has an address
and a port in it, and then that is the PC's public address. -/
theorem HolePunch.askMapping_found (h : HolePunch) (job : QueryJob) (turns : List QueryRound) :
    (h.askMapping job turns).1.2 = true ↔ h.isOpen = true ∧ ∃ data ip port, job.Answered turns data ∧
      job.reply data = some (ip, some port) ∧ port ≠ 0 ∧
        (h.askMapping job turns).1.1 = { h with publicIp := ip, publicPort := port } := by
  by_cases hopen : h.isOpen = true
  · have hreplied : ∀ found, (job.rounds .start turns).1.status.answer = some found ↔
        ∃ data, job.Answered turns data ∧ job.reply data = some found :=
      fun found => QueryStatus.answer_eq_some.trans (job.rounds_replied (q := .start) rfl turns (some found))
    have hask : (h.askMapping job turns).1 = h.queryMapping (job.rounds .start turns).1.status.answer := by
      simp [askMapping, hopen]
    rw [hask, queryMapping_found, and_iff_right hopen]
    constructor
    · rintro ⟨ip, port, hanswer, hport⟩
      obtain ⟨data, hanswered, hreply⟩ := (hreplied _).1 hanswer
      exact ⟨data, ip, port, hanswered, hreply, hport, by rw [hanswer]; rfl⟩
    · rintro ⟨data, ip, port, hanswered, hreply, hport, -⟩
      exact ⟨ip, port, (hreplied _).2 ⟨data, hanswered, hreply⟩, hport⟩
  · simp [askMapping, hopen]

/-! ## True time -/

/-- One turn of either loop, in milliseconds since the call began. -/
structure Turn where
  loopAt : ℕ
  settleAt : ℕ
  sendAt : ℕ
  nextAt : ℕ
  probeAt : ℕ
  read : Read
  answeredAt : ℕ
  ackAt : ℕ
  provenAt : ℕ
  deriving DecidableEq

/-- What `Punch` sees of a turn, when the counter read `start` as the call began. -/
def Turn.round (start : UInt32) (t : Turn) : Round where
  loopAt := ticks start t.loopAt
  settleAt := ticks start t.settleAt
  sendAt := ticks start t.sendAt
  nextAt := ticks start t.nextAt
  probeAt := ticks start t.probeAt
  read := t.read
  answeredAt := ticks start t.answeredAt
  ackAt := ticks start t.ackAt
  provenAt := ticks start t.provenAt

/-- What `QueryMapping` sees of it. -/
def Turn.queryRound (start : UInt32) (t : Turn) : QueryRound where
  loopAt := ticks start t.loopAt
  sendAt := ticks start t.sendAt
  nextAt := ticks start t.nextAt
  read := t.read

/-- When turns check their send and when they note it. -/
def checkTimes (turns : List Turn) : List (ℕ × ℕ) := turns.map fun t => (t.sendAt, t.nextAt)

/-! ## What is sent when -/

namespace PunchJob

variable (job : PunchJob) (start : UInt32)

/-- The turns the loop takes. -/
def taken (p : Punching) : List Turn → List Turn
  | [] => []
  | t :: rest =>
    (if job.listens p (t.round start) then [t] else []) ++ taken (job.round p (t.round start)).1 rest

/-- Every candidate is sent a probe in this turn. -/
def allProbed (p : Punching) (r : Round) : Bool :=
  job.candidates.all fun c => (⟨c.addr, job.probe⟩ : Packet) ∈ (job.round p r).2

/-- The turns the loop takes, and whether every candidate is sent a probe in them. -/
def checks (p : Punching) : List Turn → List Check
  | [] => []
  | t :: rest =>
    (if job.listens p (t.round start) then [⟨t.sendAt, t.nextAt, job.allProbed p (t.round start)⟩] else []) ++
      checks (job.round p (t.round start)).1 rest

/-- The stay after a proof is all that `settleDown` sets. -/
theorem settleDown_eq (p : Punching) (r : Round) : ∃ settle, job.settleDown p r = { p with settle := settle } := by
  unfold settleDown
  split
  · exact ⟨_, rfl⟩
  · exact ⟨p.settle, rfl⟩

theorem hearProbe_eq (p : Punching) (r : Round) (isMarked : Bool) :
    ∃ settle acked, job.hearProbe p r isMarked = { p with settle := settle, ackedPeer := acked } := by
  unfold hearProbe
  split
  · exact ⟨_, _, rfl⟩
  · exact ⟨p.settle, p.ackedPeer, rfl⟩

/-- What a datagram leaves alone. -/
theorem hear_keeps (p : Punching) (r : Round) (sender : SockAddr) (data : Bytes) :
    (job.hear p r sender data).1.nextSend = p.nextSend ∧ (job.hear p r sender data).1.status = p.status := by
  unfold hear
  split
  · obtain ⟨settle, acked, hprobe⟩ := job.hearProbe_eq p r (data = job.matchProbe)
    obtain ⟨settle', hsettle⟩ := job.settleDown_eq (job.hearProbe p r (data = job.matchProbe)) r
    rw [hsettle, hprobe]
    exact ⟨rfl, rfl⟩
  · split
    · split
      · exact ⟨rfl, rfl⟩
      · rename_i what _
        obtain ⟨settle, hsettle⟩ := job.settleDown_eq (hearAck p r sender what) r
        rw [hsettle]
        exact ⟨rfl, rfl⟩
    · exact ⟨rfl, rfl⟩

theorem hear_sent {p : Punching} {r : Round} {sender : SockAddr} {data : Bytes} {packet : Packet}
    (h : packet ∈ (job.hear p r sender data).2) : packet.data = job.ack := by
  unfold hear at h
  split at h
  · rw [List.mem_singleton.1 h]
  · split at h
    · split at h <;> cases h
    · cases h

theorem probe_ne_ack : job.probe ≠ job.ack := by
  unfold probe
  split
  · exact job.ack_ne_matchProbe.symm
  · exact job.ack_ne_plain.symm

/-- What a turn that the loop takes sends: the probes if they are due, and answers. -/
theorem round_taken {p : Punching} {r : Round} (h : job.listens p r = true) :
    (job.round p r).1.nextSend = (job.sendProbes p r).1.nextSend ∧
      ∀ c : Candidate, (⟨c.addr, job.probe⟩ : Packet) ∈ (job.round p r).2 ↔
        (⟨c.addr, job.probe⟩ : Packet) ∈ (job.sendProbes p r).2 := by
  cases hread : r.read with
  | nothing =>
    rw [job.round_nothing h hread]
    exact ⟨rfl, fun c => Iff.rfl⟩
  | failed =>
    rw [job.round_failed h hread]
    exact ⟨rfl, fun c => Iff.rfl⟩
  | datagram sender data =>
    rw [job.round_datagram h hread]
    refine ⟨(job.hear_keeps _ _ _ _).1, fun c => ?_⟩
    show _ ∈ _ ++ _ ↔ _
    rw [List.mem_append]
    exact or_iff_left fun hack => job.probe_ne_ack (job.hear_sent hack)

/-- A turn the loop does not take sends nothing. -/
theorem round_untaken {p : Punching} {r : Round} (h : job.listens p r = false) :
    (job.round p r).1.nextSend = p.nextSend := by
  unfold round
  rw [h]
  split <;> rfl

theorem allProbed_eq (hcandidates : job.candidates ≠ []) {p : Punching} {r : Round} (h : job.listens p r = true) :
    job.allProbed p r = decide (ticksSince r.sendAt p.nextSend ≥ 0) := by
  obtain ⟨-, hsent⟩ := job.round_taken h
  unfold allProbed
  by_cases hdue : ticksSince r.sendAt p.nextSend ≥ 0
  · rw [decide_eq_true hdue]
    refine List.all_eq_true.2 fun c hc => decide_eq_true ((hsent c).2 ?_)
    rw [sendProbes, if_pos hdue]
    exact List.mem_map_of_mem hc
  · obtain ⟨c, rest, hc⟩ := List.exists_cons_of_ne_nil hcandidates
    have hnone : ¬(⟨c.addr, job.probe⟩ : Packet) ∈ (job.round p r).2 := by
      rw [hsent c, sendProbes, if_neg hdue]
      exact List.not_mem_nil
    rw [decide_eq_false hdue, hc, List.all_cons, decide_eq_false hnone, Bool.false_and]

/-- The probes are sent as the timer says. -/
theorem checks_eq (hcandidates : job.candidates ≠ []) (p : Punching) (ts : List Turn) :
    job.checks start p ts = timerChecks start 50 p.nextSend (checkTimes (job.taken start p ts)) := by
  induction ts generalizing p with
  | nil => rfl
  | cons t ts ih =>
    rw [checks, taken, ih]
    cases hlistens : job.listens p (t.round start) with
    | false =>
      rw [job.round_untaken hlistens]
      rfl
    | true =>
      rw [(job.round_taken hlistens).1, job.allProbed_eq hcandidates hlistens]
      show _ = timerChecks start 50 p.nextSend
        ((t.sendAt, t.nextAt) :: checkTimes (job.taken start (job.round p (t.round start)).1 ts))
      rw [timerChecks_cons]
      by_cases hdue : ticksSince (t.round start).sendAt p.nextSend ≥ 0
      · rw [decide_eq_true hdue, sendProbes, if_pos hdue]
        exact (if_pos hdue).symm
      · rw [decide_eq_false hdue, sendProbes, if_neg hdue]
        exact (if_neg hdue).symm

end PunchJob

namespace QueryJob

variable (job : QueryJob) (start : UInt32)

/-- The turns the loop takes. -/
def taken (q : Querying) : List Turn → List Turn
  | [] => []
  | t :: rest =>
    (if job.listens q (t.queryRound start) then [t] else []) ++ taken (job.round q (t.queryRound start)).1 rest

/-- The turns the loop takes, and whether the server is sent the request in them. -/
def checks (q : Querying) : List Turn → List Check
  | [] => []
  | t :: rest =>
    (if job.listens q (t.queryRound start) then
      [⟨t.sendAt, t.nextAt, (⟨job.server, job.request⟩ : Packet) ∈ (job.round q (t.queryRound start)).2⟩] else []) ++
      checks (job.round q (t.queryRound start)).1 rest

/-- A turn that the loop takes sends the request if it is due. -/
theorem round_taken {q : Querying} {r : QueryRound} (h : job.listens q r = true) :
    (job.round q r).1.nextSend = (job.sendRequest q r).1.nextSend ∧ (job.round q r).2 = (job.sendRequest q r).2 := by
  have hrunning : ¬q.status ≠ .running := by
    intro hstopped
    simp [listens, hstopped] at h
  unfold round
  rw [if_neg hrunning, if_pos h]
  cases r.read with
  | nothing => exact ⟨rfl, rfl⟩
  | failed => exact ⟨rfl, rfl⟩
  | datagram sender data =>
    dsimp only
    split <;> exact ⟨rfl, rfl⟩

theorem round_untaken {q : Querying} {r : QueryRound} (h : job.listens q r = false) :
    (job.round q r).1.nextSend = q.nextSend := by
  unfold round
  rw [h]
  split <;> rfl

/-- The requests are sent as the timer says. -/
theorem checks_eq (q : Querying) (ts : List Turn) :
    job.checks start q ts = timerChecks start 120 q.nextSend (checkTimes (job.taken start q ts)) := by
  induction ts generalizing q with
  | nil => rfl
  | cons t ts ih =>
    rw [checks, taken, ih]
    cases hlistens : job.listens q (t.queryRound start) with
    | false =>
      rw [job.round_untaken hlistens]
      rfl
    | true =>
      obtain ⟨hnext, hsent⟩ := job.round_taken hlistens
      rw [hnext, hsent]
      show _ = timerChecks start 120 q.nextSend
        ((t.sendAt, t.nextAt) :: checkTimes (job.taken start (job.round q (t.queryRound start)).1 ts))
      rw [timerChecks_cons, sendRequest]
      by_cases hdue : ticksSince (t.queryRound start).sendAt q.nextSend ≥ 0
      · rw [if_pos hdue]
        refine Eq.trans ?_ (if_pos hdue).symm
        simp only [List.mem_singleton, decide_true]
        rfl
      · rw [if_neg hdue]
        refine Eq.trans ?_ (if_neg hdue).symm
        simp only [List.not_mem_nil, decide_false]
        rfl

end QueryJob

/-! ## The uptime -/

/-- A turn's send check falls while the counter reads less than half its range. -/
def lowTick (start : UInt32) (t : Turn) : Prop := (ticks start t.sendAt).toNat < 2 ^ 31

instance (start : UInt32) : DecidablePred (lowTick start) :=
  fun t => inferInstanceAs (Decidable ((ticks start t.sendAt).toNat < 2 ^ 31))

theorem checkTimes_low {start : UInt32} {ts : List Turn} :
    (checkTimes ts ≠ [] → ∃ t ∈ checkTimes ts, (ticks start t.1).toNat < 2 ^ 31) ↔ (ts ≠ [] → ∃ t ∈ ts, lowTick start t) := by
  unfold checkTimes lowTick
  rw [Ne, List.map_eq_nil_iff]
  refine imp_congr_right fun _ => ⟨?_, fun ⟨t, ht, hlow⟩ => ⟨_, List.mem_map_of_mem ht, hlow⟩⟩
  rintro ⟨times, htimes, hlow⟩
  obtain ⟨t, ht, rfl⟩ := List.mem_map.1 htimes
  exact ⟨t, ht, hlow⟩

/-- Each loop sends, and goes on sending, exactly when one of its turns finds the tick counter in the
lower half of its range, whatever it read at the start of the call. -/
theorem resend_by_uptime (start : UInt32) (job : PunchJob) (hcandidates : job.candidates ≠ []) (ts : List Turn)
    (hts : Forward 50 (checkTimes (job.taken start .start ts))) (query : QueryJob) (us : List Turn)
    (hus : Forward 120 (checkTimes (query.taken start .start us))) :
    (KeepsSending 50 (job.checks start .start ts) ↔
      (job.taken start .start ts ≠ [] → ∃ t ∈ job.taken start .start ts, lowTick start t)) ∧
    (KeepsSending 120 (query.checks start .start us) ↔
      (query.taken start .start us ≠ [] → ∃ t ∈ query.taken start .start us, lowTick start t)) := by
  rw [job.checks_eq start hcandidates, query.checks_eq start]
  refine ⟨?_, ?_⟩
  · rw [← checkTimes_low]
    exact keepsSending_iff (by decide) hts
  · rw [← checkTimes_low]
    exact keepsSending_iff (by decide) hus

/-! ### A PC that has been up for 25 days -/

def Turn.at_ (t : ℕ) (read : Read) : Turn := ⟨t, t, t, t, t, read, t, t, t⟩

/-- Three turns that read nothing. -/
def quietTurns : List Turn := [.at_ 0 .nothing, .at_ 5 .nothing, .at_ 150 .nothing]

/-- A call of `Punch` with 900 ms, to one address. -/
def punchFor900 (start : UInt32) : PunchJob := ⟨[⟨⟨0x0a000002, 23457⟩, .publicAddr⟩], ascii "token", false, start + 900⟩

/-- A call of `QueryMapping` with 400 ms. -/
def queryFor400 (start : UInt32) : QueryJob := ⟨⟨0x0a000001, 23456⟩, ascii "SF4ESTUN1", start + 400, fun _ => none⟩

theorem resend_by_uptime_fresh :
    KeepsSending 50 ((punchFor900 0).checks 0 .start quietTurns) ∧
      KeepsSending 120 ((queryFor400 0).checks 0 .start quietTurns) := by
  obtain ⟨hpunch, hquery⟩ := resend_by_uptime 0 (punchFor900 0) (by decide) quietTurns
    ⟨by decide +kernel, by decide +kernel, by decide +kernel⟩ (queryFor400 0) quietTurns
    ⟨by decide +kernel, by decide +kernel, by decide +kernel⟩
  refine ⟨hpunch.2 fun _ => ?_, hquery.2 fun _ => ?_⟩
  · exact ⟨.at_ 0 .nothing, by decide +kernel, by decide +kernel⟩
  · exact ⟨.at_ 0 .nothing, by decide +kernel, by decide +kernel⟩

/-- With the counter in its upper half, three turns of either loop send nothing at all. -/
theorem resend_by_uptime_upper :
    ¬KeepsSending 50 ((punchFor900 0x80000000).checks 0x80000000 .start quietTurns) ∧
      ¬KeepsSending 120 ((queryFor400 0x80000000).checks 0x80000000 .start quietTurns) := by
  constructor
  · intro h
    obtain ⟨c, hc, hsent⟩ := h.once (by decide +kernel)
    exact absurd hsent (by revert c; decide +kernel)
  · intro h
    obtain ⟨c, hc, hsent⟩ := h.once (by decide +kernel)
    exact absurd hsent (by revert c; decide +kernel)

end Sf4e.Netplay
