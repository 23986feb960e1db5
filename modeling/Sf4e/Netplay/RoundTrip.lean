import Mathlib.Data.Rat.Cast.Order
import Mathlib.Tactic.Linarith
import Mathlib.Tactic.NormNum
import Sf4e.Netplay.Probing
import Sf4e.Session.Delay
/-!
# The measured round trip

`Punch` reports the time from the last probes it sent to the first answer it
counts. Answers carry no mark of the probe they belong to, and probes go out
again every 50 ms. `acksRead` lists the answers of a call with what had been sent
by then.

The measurement is long enough exactly when no probes went out in the meantime,
`measured_at_least_iff`. That is so where one sending was all there was,
`allOut_of_one`, and never on a path longer than the interval and the time a turn
takes, `not_allOut_of_far`.
-/
open Sf4e.Lib Sf4e.Session Sf4e.Server

namespace Sf4e.Netplay

/-! ## The answer that counts -/

namespace PunchJob

variable (job : PunchJob) (start : UInt32)

/-- The loop counts an answer in this turn. -/
def counts (p : Punching) (r : Round) : Bool :=
  job.listens p r && match r.read with
    | .datagram sender data => data = job.ack && job.offers sender
    | _ => false

/-- The clock's reading at the last probes, once a turn has sent its own. -/
def probedAt (p : Punching) (r : Round) : UInt32 := (job.sendProbes p r).1.lastProbeAt

/-- A datagram, before any answer was counted. -/
theorem hear_measures {p : Punching} (hgot : p.gotAck = false) (hwhich : p.which = none) (r : Round) (sender : SockAddr)
    (data : Bytes) :
    if data = job.ack ∧ job.offers sender = true then
      (job.hear p r sender data).1.gotAck = true ∧ (job.hear p r sender data).1.rttMs = ticksSince r.ackAt p.lastProbeAt
    else (job.hear p r sender data).1.gotAck = false ∧ (job.hear p r sender data).1.which = none ∧
      (job.hear p r sender data).1.lastProbeAt = p.lastProbeAt := by
  by_cases hack : data = job.ack
  · have hcandidate := job.whichCandidate_isSome p sender
    rw [hwhich, Option.isSome_none, Bool.false_or] at hcandidate
    cases hc : job.whichCandidate p sender with
    | none =>
      rw [hc, Option.isSome_none] at hcandidate
      have hstep : (job.hear p r sender data).1 = p := by
        simp [hear, hack, job.ack_ne_plain, job.ack_ne_matchProbe, hc]
      rw [if_neg fun hand => Bool.false_ne_true (hcandidate.trans hand.2), hstep]
      exact ⟨hgot, hwhich, rfl⟩
    | some what =>
      rw [hc, Option.isSome_some] at hcandidate
      have hstep : (job.hear p r sender data).1 = job.settleDown (hearAck p r sender what) r := by
        simp [hear, hack, job.ack_ne_plain, job.ack_ne_matchProbe, hc]
      obtain ⟨settle, hsettle⟩ := job.settleDown_eq (hearAck p r sender what) r
      rw [if_pos ⟨hack, hcandidate.symm⟩, hstep, hsettle]
      exact ⟨rfl, by simp only [hearAck, hgot, Bool.not_false, if_true]⟩
  · rw [if_neg fun hand => hack hand.1]
    unfold hear
    rw [if_neg hack]
    split
    · obtain ⟨settle, acked, hprobe⟩ := job.hearProbe_eq p r (data = job.matchProbe)
      obtain ⟨settle', hsettle⟩ := job.settleDown_eq (job.hearProbe p r (data = job.matchProbe)) r
      rw [hsettle, hprobe]
      exact ⟨hgot, hwhich, rfl⟩
    · exact ⟨hgot, hwhich, rfl⟩

/-- The first answer is what is measured, against the last probes sent. -/
theorem round_measures {p : Punching} (hgot : p.gotAck = false) (hwhich : p.which = none) (r : Round) :
    if job.counts p r = true then
      (job.round p r).1.gotAck = true ∧ (job.round p r).1.rttMs = ticksSince r.ackAt (job.probedAt p r)
    else (job.round p r).1.gotAck = false ∧ (job.round p r).1.which = none ∧
      (job.round p r).1.lastProbeAt = if job.listens p r then job.probedAt p r else p.lastProbeAt := by
  cases hlistens : job.listens p r with
  | false =>
    have hcounts : job.counts p r = false := by rw [counts, hlistens, Bool.false_and]
    have hstays : (job.round p r).1.gotAck = p.gotAck ∧ (job.round p r).1.which = p.which ∧
        (job.round p r).1.lastProbeAt = p.lastProbeAt := by
      unfold round
      rw [hlistens]
      split <;> exact ⟨rfl, rfl, rfl⟩
    rw [hcounts, hstays.1, hstays.2.1, hstays.2.2]
    exact ⟨hgot, hwhich, rfl⟩
  | true =>
    obtain ⟨-, hsentWhich, hsentGot⟩ := job.sendProbes_heard p r
    have hgot' := hsentGot.trans hgot
    have hwhich' := hsentWhich.trans hwhich
    cases hread : r.read with
    | nothing =>
      have hcounts : job.counts p r = false := by rw [counts, hread, Bool.and_false]
      rw [job.round_nothing hlistens hread, hcounts]
      exact ⟨hgot', hwhich', rfl⟩
    | failed =>
      have hcounts : job.counts p r = false := by rw [counts, hread, Bool.and_false]
      rw [job.round_failed hlistens hread, hcounts]
      exact ⟨hgot', hwhich', rfl⟩
    | datagram sender data =>
      have hcounts : job.counts p r = true ↔ data = job.ack ∧ job.offers sender = true := by
        rw [counts, hlistens, hread, Bool.true_and, Bool.and_eq_true, decide_eq_true_eq]
      have hhear := job.hear_measures hgot' hwhich' r sender data
      rw [job.round_datagram hlistens hread]
      by_cases hack : data = job.ack ∧ job.offers sender = true
      · rw [if_pos hack] at hhear
        rw [if_pos (hcounts.2 hack)]
        exact hhear
      · rw [if_neg hack] at hhear
        rw [if_neg fun h => hack (hcounts.1 h)]
        exact hhear

/-- What was measured stays. -/
theorem round_measured {p : Punching} (hgot : p.gotAck = true) (r : Round) :
    (job.round p r).1.gotAck = true ∧ (job.round p r).1.rttMs = p.rttMs := by
  have hsend : (job.sendProbes p r).1.gotAck = true ∧ (job.sendProbes p r).1.rttMs = p.rttMs := by
    unfold sendProbes
    split <;> exact ⟨hgot, rfl⟩
  have hhear : ∀ (sender : SockAddr) (data : Bytes) {q : Punching}, q.gotAck = true →
      (job.hear q r sender data).1.gotAck = true ∧ (job.hear q r sender data).1.rttMs = q.rttMs := by
    intro sender data q hq
    unfold hear
    split
    · obtain ⟨settle, acked, hprobe⟩ := job.hearProbe_eq q r (data = job.matchProbe)
      obtain ⟨settle', hsettle⟩ := job.settleDown_eq (job.hearProbe q r (data = job.matchProbe)) r
      rw [hsettle, hprobe]
      exact ⟨hq, rfl⟩
    · split
      · split
        · exact ⟨hq, rfl⟩
        · rename_i what _
          obtain ⟨settle, hsettle⟩ := job.settleDown_eq (hearAck q r sender what) r
          rw [hsettle]
          exact ⟨rfl, by simp only [hearAck, hq, Bool.not_true, Bool.false_eq_true, if_false]⟩
      · exact ⟨hq, rfl⟩
  unfold round
  split
  · exact ⟨hgot, rfl⟩
  · split
    · cases r.read with
      | nothing => exact hsend
      | failed => exact hsend
      | datagram sender data =>
        obtain ⟨hstill, hsame⟩ := hhear sender data hsend.1
        exact ⟨hstill, hsame.trans hsend.2⟩
    · exact ⟨hgot, rfl⟩

theorem rounds_measured {p : Punching} (hgot : p.gotAck = true) (rs : List Round) :
    (job.rounds p rs).1.gotAck = true ∧ (job.rounds p rs).1.rttMs = p.rttMs := by
  induction rs generalizing p with
  | nil => exact ⟨hgot, rfl⟩
  | cons r rs ih =>
    obtain ⟨hstill, hsame⟩ := job.round_measured hgot r
    obtain ⟨hend, hrtt⟩ := ih hstill
    exact ⟨hend, hrtt.trans hsame⟩

end PunchJob

/-- An answer that a call reads: when probes had gone out by then, when its turn made the send check,
when it was read, and whether it is from a host that was offered. -/
structure HeardAck where
  sentAt : List ℕ
  checkedAt : ℕ
  readAt : ℕ
  offered : Bool
  deriving DecidableEq

/-- The clock at the last of these times. -/
def lastReading (start : UInt32) (sentAt : List ℕ) : UInt32 := sentAt.getLast?.elim 0 (ticks start)

namespace PunchJob

variable (job : PunchJob) (start : UInt32)

/-- When a turn sends probes, if it does. -/
def probeTimes (p : Punching) (t : Turn) : List ℕ :=
  if job.listens p (t.round start) && ticksSince (ticks start t.sendAt) p.nextSend ≥ 0 then [t.probeAt] else []

/-- The answer a turn reads, if it does. -/
def ackOf (p : Punching) (sentAt : List ℕ) (t : Turn) : Option HeardAck :=
  match t.read with
  | .datagram sender data =>
    if job.listens p (t.round start) && data = job.ack then some ⟨sentAt, t.sendAt, t.ackAt, job.offers sender⟩ else none
  | _ => none

/-- The answers a call reads; probes went out at `sentAt` before. -/
def acksRead (p : Punching) (sentAt : List ℕ) : List Turn → List HeardAck
  | [] => []
  | t :: rest =>
    (job.ackOf start p (sentAt ++ job.probeTimes start p t) t).toList ++
      acksRead (job.round p (t.round start)).1 (sentAt ++ job.probeTimes start p t) rest

theorem ackOf_cases (p : Punching) (sentAt : List ℕ) (t : Turn) :
    (job.ackOf start p sentAt t = none ∧ job.counts p (t.round start) = false) ∨
      job.ackOf start p sentAt t = some ⟨sentAt, t.sendAt, t.ackAt, job.counts p (t.round start)⟩ := by
  unfold ackOf counts
  show _ ∨ _
  cases hread : t.read with
  | nothing => exact .inl ⟨rfl, by rw [show (t.round start).read = .nothing from hread, Bool.and_false]⟩
  | failed => exact .inl ⟨rfl, by rw [show (t.round start).read = .failed from hread, Bool.and_false]⟩
  | datagram sender data =>
    rw [show (t.round start).read = .datagram sender data from hread]
    by_cases hack : (job.listens p (t.round start) && decide (data = job.ack)) = true
    · right
      rw [Bool.and_eq_true, decide_eq_true_eq] at hack
      simp [hack.1, hack.2]
    · left
      refine ⟨if_neg hack, ?_⟩
      rw [Bool.not_eq_true] at hack
      rw [← Bool.and_assoc, hack, Bool.false_and]

theorem lastReading_probeTimes (p : Punching) (t : Turn) {sentAt : List ℕ}
    (hlast : p.lastProbeAt = lastReading start sentAt) :
    (if job.listens p (t.round start) then job.probedAt p (t.round start) else p.lastProbeAt) =
      lastReading start (sentAt ++ job.probeTimes start p t) := by
  unfold probeTimes probedAt sendProbes
  cases job.listens p (t.round start) with
  | false => simpa using hlast
  | true =>
    by_cases hdue : ticksSince (ticks start t.sendAt) p.nextSend ≥ 0
    · rw [show ticksSince (t.round start).sendAt p.nextSend = ticksSince (ticks start t.sendAt) p.nextSend from rfl]
      simp [hdue, lastReading, Turn.round]
    · rw [show ticksSince (t.round start).sendAt p.nextSend = ticksSince (ticks start t.sendAt) p.nextSend from rfl]
      simp [hdue, hlast]

/-- What a call measures: the first answer from a host that was offered, against the last probes sent. -/
theorem rounds_measures {p : Punching} (hgot : p.gotAck = false) (hwhich : p.which = none) {sentAt : List ℕ}
    (hlast : p.lastProbeAt = lastReading start sentAt) (ts : List Turn) :
    ((job.acksRead start p sentAt ts).find? (·.offered) = none ∧
      (job.rounds p (ts.map (Turn.round start))).1.gotAck = false) ∨
    ∃ a, (job.acksRead start p sentAt ts).find? (·.offered) = some a ∧
      (job.rounds p (ts.map (Turn.round start))).1.gotAck = true ∧
      (job.rounds p (ts.map (Turn.round start))).1.rttMs =
        ticksSince (ticks start a.readAt) (lastReading start a.sentAt) := by
  induction ts generalizing p sentAt with
  | nil => exact .inl ⟨rfl, hgot⟩
  | cons t ts ih =>
    have hmeasures := job.round_measures hgot hwhich (t.round start)
    have hreading := job.lastReading_probeTimes start p t hlast
    show _ ∨ ∃ a, _ ∧ (job.rounds (job.round p (t.round start)).1 (ts.map (Turn.round start))).1.gotAck = true ∧ _
    rw [acksRead]
    cases hcounts : job.counts p (t.round start) with
    | true =>
      rw [hcounts, if_pos rfl] at hmeasures
      obtain ⟨hend, hrtt⟩ := job.rounds_measured hmeasures.1 (ts.map (Turn.round start))
      have hlistens : job.listens p (t.round start) = true := by
        rw [counts, Bool.and_eq_true] at hcounts
        exact hcounts.1
      rcases job.ackOf_cases start p (sentAt ++ job.probeTimes start p t) t with ⟨-, hnot⟩ | hsome
      · rw [hcounts] at hnot
        cases hnot
      · refine .inr ⟨⟨sentAt ++ job.probeTimes start p t, t.sendAt, t.ackAt, true⟩, ?_, hend, ?_⟩
        · rw [hsome, hcounts]
          rfl
        · rw [hlistens, if_pos rfl] at hreading
          exact hrtt.trans (hmeasures.2.trans (by rw [hreading]; rfl))
    | false =>
      rw [hcounts, if_neg Bool.false_ne_true] at hmeasures
      obtain ⟨hgot', hwhich', hlast'⟩ := hmeasures
      have hskip : ∀ rest : List HeardAck,
          ((job.ackOf start p (sentAt ++ job.probeTimes start p t) t).toList ++ rest).find? (·.offered) =
            rest.find? (·.offered) := by
        intro rest
        rcases job.ackOf_cases start p (sentAt ++ job.probeTimes start p t) t with ⟨hnone, -⟩ | hsome
        · rw [hnone]
          rfl
        · rw [hsome, hcounts]
          rfl
      rw [hskip]
      exact ih hgot' hwhich' (hlast'.trans hreading)

end PunchJob

/-- Turns whose times go forward, over before the counter can have turned over half. -/
structure InOrder (ts : List Turn) : Prop where
  within : ∀ t ∈ ts, t.sendAt ≤ t.nextAt ∧ t.nextAt ≤ t.probeAt ∧ t.probeAt ≤ t.ackAt
  between : ts.Pairwise fun t u => t.ackAt ≤ u.sendAt
  short : ∀ t ∈ ts, t.ackAt < 2 ^ 31

theorem InOrder.tail {t : Turn} {ts : List Turn} (h : InOrder (t :: ts)) : InOrder ts :=
  ⟨fun u hu => h.within u (List.mem_cons_of_mem _ hu), h.between.tail, fun u hu => h.short u (List.mem_cons_of_mem _ hu)⟩

/-- No time after the last of `sentAt`, which lies at most 50 ms before the answer's send check. -/
structure HeardAck.Fresh (a : HeardAck) : Prop where
  most : ∀ s ∈ a.sentAt, ∃ last, a.sentAt.getLast? = some last ∧ s ≤ last
  past : ∀ s ∈ a.sentAt, s ≤ a.readAt
  short : a.readAt < 2 ^ 31
  recent : ∀ last, a.sentAt.getLast? = some last → a.checkedAt < last + 50

namespace PunchJob

variable (job : PunchJob) (start : UInt32)

/-- Probes have gone out at `sentAt`, at the latest 50 ms before `nextSend`, and all before `limit`. -/
structure SentBy (p : Punching) (sentAt : List ℕ) (limit : ℕ) : Prop where
  most : ∀ s ∈ sentAt, ∃ last, sentAt.getLast? = some last ∧ s ≤ last
  past : ∀ s ∈ sentAt, s ≤ limit
  next : ∀ last, sentAt.getLast? = some last → ∃ noted ≤ last, p.nextSend = ticks start (noted + 50)

theorem SentBy.probe {p : Punching} {sentAt : List ℕ} {t : Turn} (h : SentBy start p sentAt t.sendAt)
    (hwithin : t.sendAt ≤ t.nextAt ∧ t.nextAt ≤ t.probeAt ∧ t.probeAt ≤ t.ackAt) :
    SentBy start (job.round p (t.round start)).1 (sentAt ++ job.probeTimes start p t) t.ackAt := by
  unfold probeTimes
  split
  · rename_i hsends
    rw [Bool.and_eq_true, decide_eq_true_eq] at hsends
    refine ⟨fun s hs => ⟨t.probeAt, by simp, ?_⟩, fun s hs => ?_, fun last hlast => ⟨t.nextAt, ?_, ?_⟩⟩
    · rcases List.mem_append.1 hs with hold | hnew
      · have := h.past s hold
        omega
      · rw [List.mem_singleton.1 hnew]
    · rcases List.mem_append.1 hs with hold | hnew
      · have := h.past s hold
        omega
      · rw [List.mem_singleton.1 hnew]
        omega
    · rw [List.getLast?_concat, Option.some.injEq] at hlast
      omega
    · rw [(job.round_taken hsends.1).1, sendProbes]
      rw [if_pos (show ticksSince (t.round start).sendAt p.nextSend ≥ 0 from hsends.2)]
      exact ticks_add start t.nextAt 50
  · rename_i hwaits
    have hnext : (job.round p (t.round start)).1.nextSend = p.nextSend := by
      cases hlistens : job.listens p (t.round start) with
      | false => exact job.round_untaken hlistens
      | true =>
        rw [hlistens, Bool.true_and, decide_eq_true_eq] at hwaits
        rw [(job.round_taken hlistens).1, sendProbes]
        rw [if_neg (show ¬ticksSince (t.round start).sendAt p.nextSend ≥ 0 from hwaits)]
    rw [List.append_nil]
    refine ⟨h.most, fun s hs => ?_, fun last hlast => hnext ▸ h.next last hlast⟩
    have := h.past s hs
    omega

/-- A turn that is taken comes less than 50 ms after the last probes. -/
theorem SentBy.recent {p : Punching} {sentAt : List ℕ} {t : Turn} (h : SentBy start p sentAt t.sendAt)
    (hwithin : t.sendAt ≤ t.nextAt ∧ t.nextAt ≤ t.probeAt ∧ t.probeAt ≤ t.ackAt) (hshort : t.ackAt < 2 ^ 31)
    (hlistens : job.listens p (t.round start) = true) (last : ℕ)
    (hlast : (sentAt ++ job.probeTimes start p t).getLast? = some last) : t.sendAt < last + 50 := by
  unfold probeTimes at hlast
  rw [hlistens, Bool.true_and] at hlast
  split at hlast
  · rw [List.getLast?_concat, Option.some.injEq] at hlast
    omega
  · rename_i hwaits
    rw [List.append_nil] at hlast
    obtain ⟨noted, hnoted, hnext⟩ := h.next last hlast
    have hpast := h.past last (List.mem_of_getLast? hlast)
    rw [decide_eq_true_eq, hnext, ge_iff_le, Int32.le_iff_toInt_le] at hwaits
    unfold ticksSince at hwaits
    rw [ticks_sub_toInt start (by omega) (by omega)] at hwaits
    change ¬(0 : ℤ) ≤ _ at hwaits
    omega

theorem acksRead_fresh {p : Punching} {sentAt : List ℕ} {ts : List Turn} (h : InOrder ts)
    (hsent : ∀ t ∈ ts, SentBy start p sentAt t.sendAt) : ∀ a ∈ job.acksRead start p sentAt ts, a.Fresh := by
  induction ts generalizing p sentAt with
  | nil => exact nofun
  | cons t ts ih =>
    have hwithin := h.within t List.mem_cons_self
    have hnow := hsent t List.mem_cons_self
    have hprobed := hnow.probe job start hwithin
    intro a ha
    rw [acksRead, List.mem_append] at ha
    rcases ha with hack | hlater
    · unfold ackOf at hack
      cases hread : t.read with
      | nothing => rw [hread] at hack; cases hack
      | failed => rw [hread] at hack; cases hack
      | datagram sender data =>
        rw [hread] at hack
        dsimp only at hack
        split at hack
        · rename_i hlistens
          rw [Bool.and_eq_true] at hlistens
          obtain rfl := List.mem_singleton.1 hack
          exact ⟨hprobed.most, hprobed.past, h.short t List.mem_cons_self,
            hnow.recent job start hwithin (h.short t List.mem_cons_self) hlistens.1⟩
        · cases hack
    · refine ih h.tail (fun u hu => ?_) a hlater
      have horder := (List.pairwise_cons.1 h.between).1 u hu
      exact ⟨hprobed.most, fun s hs => (hprobed.past s hs).trans horder, hprobed.next⟩

end PunchJob

/-- No answer is read less than `D` milliseconds after the probe it belongs to went out. -/
def NoAnswerBefore (D : ℚ) (acks : List HeardAck) : Prop := ∀ a ∈ acks, ∃ s ∈ a.sentAt, (s : ℚ) + D ≤ a.readAt

/-- Every probe sent before the first answer from an offered host had been out for `D` milliseconds by
then, not only the one it belongs to. -/
def AllOut (D : ℚ) (acks : List HeardAck) : Prop :=
  ∀ a, acks.find? (·.offered) = some a → ∀ s ∈ a.sentAt, (s : ℚ) + D ≤ a.readAt

/-- What a call of `Punch` that returns true has been through. -/
theorem punch_of_ok {inetPton : Bytes → Option UInt32} {h : HolePunch} {peer : DirectPeer} {timeoutMs : UInt32}
    {matchStart : Bool} {call : PunchCall} (hok : (h.punch inetPton peer timeoutMs matchStart call).ok = true) :
    let p := ((punchJob inetPton peer timeoutMs call.startAt matchStart).rounds .start call.turns).1
    p.gotAck = true ∧ (h.punch inetPton peer timeoutMs matchStart call).rttMs = p.rttMs ∧
      (h.punch inetPton peer timeoutMs matchStart call).chosenIp = p.chosenIp := by
  unfold HolePunch.punch at hok ⊢
  dsimp only at hok ⊢
  split at hok
  · cases hok
  · rename_i hruns
    rw [if_neg hruns]
    refine ⟨?_, rfl, rfl⟩
    simp only [PunchJob.proven, Bool.and_eq_true] at hok
    exact hok.1.2

section

variable (inetPton : Bytes → Option UInt32)

/-- A call of `Punch` in true time. -/
def HolePunch.timedPunch (h : HolePunch) (peer : DirectPeer) (timeoutMs : UInt32) (matchStart : Bool) (start : UInt32)
    (ts : List Turn) : Punched :=
  h.punch inetPton peer timeoutMs matchStart ⟨start, ts.map (Turn.round start)⟩

/-- The answers it reads. -/
def answersHeard (peer : DirectPeer) (timeoutMs : UInt32) (matchStart : Bool) (start : UInt32) (ts : List Turn) :
    List HeardAck :=
  (punchJob inetPton peer timeoutMs start matchStart).acksRead start .start [] ts

variable {inetPton} {h : HolePunch} {peer : DirectPeer} {timeoutMs : UInt32} {matchStart : Bool} {start : UInt32}
  {ts : List Turn}

/-- A call's first answer, with what it measured. -/
theorem measured_of_ok (hts : InOrder ts) (hok : (h.timedPunch inetPton peer timeoutMs matchStart start ts).ok = true)
    (hsent : ∀ a ∈ answersHeard inetPton peer timeoutMs matchStart start ts, a.sentAt ≠ []) :
    ∃ a last, (answersHeard inetPton peer timeoutMs matchStart start ts).find? (·.offered) = some a ∧
      a.Fresh ∧ a.sentAt.getLast? = some last ∧ last ≤ a.readAt ∧
      (h.timedPunch inetPton peer timeoutMs matchStart start ts).rttMs.toInt = (a.readAt : ℤ) - last := by
  obtain ⟨hgot, hrtt, -⟩ := punch_of_ok hok
  have hstart : Punching.start.lastProbeAt = lastReading start [] := rfl
  rcases (punchJob inetPton peer timeoutMs start matchStart).rounds_measures start (p := .start) rfl rfl hstart ts with
    ⟨-, hnone⟩ | ⟨a, ha, -, hmeasured⟩
  · rw [hnone] at hgot
    cases hgot
  · have hmem := List.mem_of_find?_eq_some ha
    have hfresh : a.Fresh := (punchJob inetPton peer timeoutMs start matchStart).acksRead_fresh start hts
      (fun t _ => (⟨nofun, nofun, nofun⟩ : PunchJob.SentBy start .start [] t.sendAt)) a hmem
    obtain ⟨last, hlast⟩ : ∃ last, a.sentAt.getLast? = some last :=
      Option.isSome_iff_exists.1 (List.getLast?_isSome.2 (hsent a hmem))
    have hpast := hfresh.past last (List.mem_of_getLast? hlast)
    have hshort := hfresh.short
    refine ⟨a, last, ha, hfresh, hlast, hpast, ?_⟩
    unfold HolePunch.timedPunch
    rw [hrtt, hmeasured, lastReading, hlast]
    exact ticks_sub_toInt start (by omega) (by omega)

/-- However far the other PC is, the measured round trip stays under the interval of the probes and
the time its turn took. -/
theorem measured_below (hts : InOrder ts) (hok : (h.timedPunch inetPton peer timeoutMs matchStart start ts).ok = true)
    (hsent : ∀ a ∈ answersHeard inetPton peer timeoutMs matchStart start ts, a.sentAt ≠ []) :
    ∃ a, (answersHeard inetPton peer timeoutMs matchStart start ts).find? (·.offered) = some a ∧
      (h.timedPunch inetPton peer timeoutMs matchStart start ts).rttMs.toInt < 50 + (a.readAt - a.checkedAt) := by
  obtain ⟨a, last, ha, hfresh, hlast, hpast, hrtt⟩ := measured_of_ok hts hok hsent
  have hrecent := hfresh.recent last hlast
  exact ⟨a, ha, by omega⟩

/-- What is measured is long enough exactly when everything sent had been out for that long. -/
theorem measured_iff (hts : InOrder ts) (hok : (h.timedPunch inetPton peer timeoutMs matchStart start ts).ok = true)
    (hsent : ∀ a ∈ answersHeard inetPton peer timeoutMs matchStart start ts, a.sentAt ≠ []) (D : ℚ) :
    D ≤ (h.timedPunch inetPton peer timeoutMs matchStart start ts).rttMs.toInt ↔
      AllOut D (answersHeard inetPton peer timeoutMs matchStart start ts) := by
  obtain ⟨a, last, ha, hfresh, hlast, -, hrtt⟩ := measured_of_ok hts hok hsent
  have hcast : (((a.readAt : ℤ) - last : ℤ) : ℚ) = (a.readAt : ℚ) - last := by push_cast; rfl
  rw [hrtt, hcast]
  constructor
  · intro hD a' ha' s hs
    obtain rfl := Option.some.inj (ha.symm.trans ha')
    obtain ⟨last', hlast', hle⟩ := hfresh.most s hs
    obtain rfl := Option.some.inj (hlast.symm.trans hlast')
    have : (s : ℚ) ≤ last := by exact_mod_cast hle
    linarith
  · intro hall
    have := hall a ha last (List.mem_of_getLast? hlast)
    linarith

theorem NoAnswerBefore.sent {D : ℚ} {acks : List HeardAck} (hpath : NoAnswerBefore D acks) : ∀ a ∈ acks, a.sentAt ≠ [] := by
  intro a ha
  obtain ⟨s, hs, -⟩ := hpath a ha
  exact List.ne_nil_of_mem hs

/-! Which schedules these are. -/

/-- Where the probes went out once before the first answer, all of them had been out for as long as the
one it belongs to. -/
theorem allOut_of_one {D : ℚ} {acks : List HeardAck} (hpath : NoAnswerBefore D acks)
    (hone : ∀ a, acks.find? (·.offered) = some a → a.sentAt.length = 1) : AllOut D acks := by
  intro a ha s hs
  obtain ⟨only, honly⟩ := List.length_eq_one_iff.1 (hone a ha)
  obtain ⟨s', hs', hout⟩ := hpath a (List.mem_of_find?_eq_some ha)
  rw [honly, List.mem_singleton] at hs hs'
  rw [hs, ← hs']
  exact hout

/-- On a path longer than the interval of the probes and the time a turn takes, probes have always gone
out in the meantime. -/
theorem not_allOut_of_far {D : ℚ} (hts : InOrder ts)
    (hpath : NoAnswerBefore D (answersHeard inetPton peer timeoutMs matchStart start ts))
    (hok : (h.timedPunch inetPton peer timeoutMs matchStart start ts).ok = true) {turn : ℕ}
    (hturn : ∀ a ∈ answersHeard inetPton peer timeoutMs matchStart start ts, a.readAt ≤ a.checkedAt + turn)
    (hfar : 50 + turn ≤ D) : ¬AllOut D (answersHeard inetPton peer timeoutMs matchStart start ts) := by
  obtain ⟨a, ha, hbelow⟩ := measured_below hts hok hpath.sent
  have hread := hturn a (List.mem_of_find?_eq_some ha)
  rw [← measured_iff hts hok hpath.sent]
  intro hlong
  have hless : (h.timedPunch inetPton peer timeoutMs matchStart start ts).rttMs.toInt < 50 + turn := by omega
  have : ((h.timedPunch inetPton peer timeoutMs matchStart start ts).rttMs.toInt : ℚ) < 50 + turn := by exact_mod_cast hless
  linarith

/-- The round trip a call measures is as long as the true one exactly when no probes went out in the
last of it, and then the delay that goes with it is long enough. -/
theorem measured_at_least_iff (hts : InOrder ts) (D : ℚ)
    (hpath : NoAnswerBefore D (answersHeard inetPton peer timeoutMs matchStart start ts))
    (hok : (h.timedPunch inetPton peer timeoutMs matchStart start ts).ok = true) :
    (D ≤ (h.timedPunch inetPton peer timeoutMs matchStart start ts).rttMs.toInt ↔
      AllOut D (answersHeard inetPton peer timeoutMs matchStart start ts)) ∧
    (AllOut D (answersHeard inetPton peer timeoutMs matchStart start ts) →
      ∀ d : Int32, 0 ≤ d.toInt → (d.toInt : ℚ) ≤ D → (inputDelayForRoundTrip d).toInt ≤
        (inputDelayForRoundTrip (h.timedPunch inetPton peer timeoutMs matchStart start ts).rttMs).toInt) := by
  have hmeasured := measured_iff hts hok hpath.sent D
  refine ⟨hmeasured, fun hall d hd hdD => inputDelayForRoundTrip_mono hd ?_⟩
  exact_mod_cast hdD.trans (hmeasured.2 hall)

end

/-! ### A path of 120 ms -/

def farPeer : DirectPeer := ⟨ascii "10.0.0.2", 23457, [], 0, ascii "token"⟩

/-- A socket that is open. -/
def openSocket : HolePunch := ⟨true, 23456, [], 0, [], 0⟩

/-- Resolves to the host of the sample peer. -/
def toFarPeer : Bytes → Option UInt32 := fun _ => some 0x0a000002

/-- Probes go out at 0, 50 and 100, and the first of them is answered at 120. -/
def farTurns : List Turn :=
  [.at_ 0 .nothing, .at_ 50 .nothing, .at_ 100 .nothing,
    .at_ 120 (.datagram ⟨0x0a000002, 23457⟩ (PUNCH_MAGIC ++ ascii "A" ++ ascii "token"))]

/-- The same path, the other PC's answer being to its only probe. -/
def nearTurns : List Turn :=
  [.at_ 0 .nothing, .at_ 30 (.datagram ⟨0x0a000002, 23457⟩ (PUNCH_MAGIC ++ ascii "A" ++ ascii "token"))]

theorem inOrder_far : InOrder farTurns := ⟨by decide, by decide, by decide⟩

/-- A path of 30 ms is measured as it is. -/
theorem measured_at_least_near :
    (30 : ℚ) ≤ (openSocket.timedPunch toFarPeer farPeer 900 false 0 nearTurns).rttMs.toInt := by
  have hacks : answersHeard toFarPeer farPeer 900 false 0 nearTurns = [⟨[0], 30, 30, true⟩] := by decide +kernel
  have hin : InOrder nearTurns := ⟨by decide, by decide, by decide⟩
  refine (measured_at_least_iff hin 30 ?_ (by decide +kernel)).1.2 ?_
  · rw [hacks]
    intro a ha
    obtain rfl := List.mem_singleton.1 ha
    exact ⟨0, by simp, by norm_num⟩
  · rw [hacks]
    intro a ha s hs
    obtain rfl : _ = a := Option.some.inj ha
    rw [List.mem_singleton.1 hs]
    norm_num

/-- A path of 120 ms is measured as 20, and the delay that goes with that is 1 frame and not 3. -/
theorem measured_at_least_far :
    InOrder farTurns ∧ NoAnswerBefore 120 (answersHeard toFarPeer farPeer 900 false 0 farTurns) ∧
      (openSocket.timedPunch toFarPeer farPeer 900 false 0 farTurns).ok = true ∧
      (openSocket.timedPunch toFarPeer farPeer 900 false 0 farTurns).rttMs = 20 ∧
      inputDelayForRoundTrip 20 = 1 ∧ inputDelayForRoundTrip 120 = 3 := by
  refine ⟨inOrder_far, ?_, by decide +kernel, by decide +kernel, rfl, rfl⟩
  have hacks : answersHeard toFarPeer farPeer 900 false 0 farTurns = [⟨[0, 50, 100], 120, 120, true⟩] := by decide +kernel
  rw [hacks]
  intro a ha
  obtain rfl := List.mem_singleton.1 ha
  exact ⟨0, by simp, by norm_num⟩

end Sf4e.Netplay
