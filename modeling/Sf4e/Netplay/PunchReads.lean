import Sf4e.Netplay.RoundTrip
/-!
# What may decide a punch

Anybody can send to the port, and the socket reports errors of its own. What
`recvfrom` gives is a `Receive`, of which the loop sees a `Read`.

- A read that fails ends the call; nothing else that is not the other player's
  does anything: `noise_harmless_iff`.
- The host of an answer is checked once. After an answer from a host that was
  offered, one from any host is taken: `endpoint_offered_iff`.
-/
open Sf4e.Lib Sf4e.Session Sf4e.Server

namespace Sf4e.Netplay

/-! ## Reads -/

/-- What `recvfrom` gives: an error, which may be that there is nothing to read, or a datagram, with
whether `WSAGetLastError` still says that there was nothing. -/
inductive Receive where
  | refused (wouldBlock : Bool)
  | datagram (sender : SockAddr) (data : Bytes) (stale : Bool)
  deriving DecidableEq

/-- The buffer of a read. -/
def READ_SIZE : ℕ := 1500 - 1

/-- What the loop sees. A datagram of no bytes reads as an error of whatever was last, one too long for
the buffer as an error of its own. -/
def Receive.read : Receive → Read
  | .refused wouldBlock => if wouldBlock then .nothing else .failed
  | .datagram sender data stale =>
    if data = [] then if stale then .nothing else .failed
    else if READ_SIZE < data.length then .failed
    else .datagram sender data

/-- A turn of the loop that reads this. -/
def Receive.turn (x : Receive) (clock : Round) : Round := { clock with read := x.read }

/-- The turns of a call, each with its clock and what is read. -/
def turnsOf (xs : List (Round × Receive)) : List Round := xs.map fun x => x.2.turn x.1

namespace PunchJob

variable (job : PunchJob)

/-- A datagram with the token: a plain probe, a marked one or an answer. -/
def bears : Receive → Bool
  | .refused _ => false
  | .datagram _ data _ => data.length ≤ READ_SIZE && (data = job.plainProbe || data = job.matchProbe || data = job.ack)

/-- What a call reads without the noise: nothing in its place. -/
def hush (x : Receive) : Receive := if job.bears x then x else .refused true

def hushed (xs : List (Round × Receive)) : List (Round × Receive) := xs.map fun x => (x.1, job.hush x.2)

/-- The call ends by its deadline or its stay. -/
def EndsOnTime (rs : List Round) : Prop :=
  (job.rounds .start rs).1.status ≠ .running → ∃ before r after, rs = before ++ r :: after ∧
    (job.rounds .start before).1.status = .running ∧ (job.rounds .start (before ++ [r])).1.status = .over ∧
    (¬ticksSince r.loopAt job.deadline < 0 ∨
      ((job.rounds .start before).1.settle ≠ 0 ∧ ticksSince r.settleAt (job.rounds .start before).1.settle ≥ 0))

/-- The call comes to what it would come to without the noise, sends the same, and ends in time. -/
structure NoiseHarmless (xs : List (Round × Receive)) : Prop where
  same : job.rounds .start (turnsOf xs) = job.rounds .start (turnsOf (job.hushed xs))
  ends : job.EndsOnTime (turnsOf xs)

/-! ### One turn -/

theorem hush_read_ne_failed (x : Receive) : (job.hush x).read ≠ .failed := by
  unfold hush
  split
  · rename_i hbears
    cases x with
    | refused wouldBlock => cases hbears
    | datagram sender data stale =>
      simp only [bears, Bool.and_eq_true, decide_eq_true_eq] at hbears
      have hne : data ≠ [] := by
        rintro rfl
        simp [plainProbe, matchProbe, ack, PUNCH_MAGIC, ascii] at hbears
      rw [Receive.read, if_neg hne, if_neg (not_lt.2 hbears.1)]
      intro hread
      cases hread
  · intro hread
    cases hread

/-- A datagram without the token does nothing. -/
theorem hear_noise {p : Punching} {r : Round} {sender : SockAddr} {data : Bytes} (hplain : data ≠ job.plainProbe)
    (hmark : data ≠ job.matchProbe) (hack : data ≠ job.ack) : job.hear p r sender data = (p, []) := by
  simp [hear, hplain, hmark, hack]

/-- Noise that does not fail reads as nothing, or as a datagram without the token. -/
theorem noise_read {x : Receive} (hnoise : job.bears x = false) (hread : x.read ≠ .failed) :
    x.read = .nothing ∨ ∃ sender data, x.read = .datagram sender data ∧ data ≠ job.plainProbe ∧ data ≠ job.matchProbe ∧
      data ≠ job.ack := by
  cases x with
  | refused wouldBlock =>
    cases wouldBlock with
    | true => exact .inl rfl
    | false => exact absurd rfl hread
  | datagram sender data stale =>
    rw [Receive.read] at hread ⊢
    by_cases hempty : data = []
    · rw [if_pos hempty] at hread ⊢
      cases stale with
      | true => exact .inl rfl
      | false => exact absurd rfl hread
    · rw [if_neg hempty] at hread ⊢
      by_cases hlong : READ_SIZE < data.length
      · rw [if_pos hlong] at hread
        exact absurd rfl hread
      · rw [if_neg hlong]
        have hlen : data.length ≤ READ_SIZE := not_lt.1 hlong
        rw [bears, decide_eq_true hlen, Bool.true_and, Bool.or_eq_false_iff, Bool.or_eq_false_iff, decide_eq_false_iff_not,
          decide_eq_false_iff_not, decide_eq_false_iff_not] at hnoise
        exact .inr ⟨sender, data, rfl, hnoise.1.1, hnoise.1.2, hnoise.2⟩

/-- Where nothing fails, the loop does not notice the noise. -/
theorem round_hush (p : Punching) (clock : Round) (x : Receive)
    (hread : job.listens p clock = true → x.read ≠ .failed) :
    job.round p (x.turn clock) = job.round p ((job.hush x).turn clock) := by
  cases hbears : job.bears x with
  | true => rw [hush, if_pos hbears]
  | false =>
    rw [hush, if_neg (by rw [hbears]; exact Bool.false_ne_true)]
    have hlistens : ∀ y : Receive, job.listens p (y.turn clock) = job.listens p clock := fun _ => rfl
    unfold round
    rw [hlistens, hlistens]
    split
    · rfl
    · split
      · rename_i hrun
        show _ = ((job.sendProbes p clock).1, (job.sendProbes p clock).2)
        rcases job.noise_read hbears (hread hrun) with hnothing | ⟨sender, data, hdata, hplain, hmark, hack⟩
        · rw [show (x.turn clock).read = .nothing from hnothing]
          rfl
        · rw [show (x.turn clock).read = .datagram sender data from hdata]
          dsimp only
          rw [job.hear_noise hplain hmark hack, List.append_nil]
          rfl
      · rfl

/-! ### The call -/

theorem rounds_cons (p : Punching) (r : Round) (rs : List Round) :
    job.rounds p (r :: rs) =
      ((job.rounds (job.round p r).1 rs).1, (job.round p r).2 ++ (job.rounds (job.round p r).1 rs).2) := rfl

theorem rounds_hush {p : Punching} {xs : List (Round × Receive)} (h : .failed ∉ job.reads p (turnsOf xs)) :
    job.rounds p (turnsOf xs) = job.rounds p (turnsOf (job.hushed xs)) := by
  induction xs generalizing p with
  | nil => rfl
  | cons x xs ih =>
    obtain ⟨clock, x⟩ := x
    show job.rounds p (x.turn clock :: turnsOf xs) = job.rounds p ((job.hush x).turn clock :: turnsOf (job.hushed xs))
    change .failed ∉ job.reads p (x.turn clock :: turnsOf xs) at h
    rw [reads, List.mem_append, not_or] at h
    have hround := job.round_hush p clock x fun hlistens hfailed => h.1 (by
      rw [if_pos (show job.listens p (x.turn clock) = true from hlistens)]
      exact List.mem_singleton.2 hfailed.symm)
    rw [rounds_cons, rounds_cons, hround, ih (hround ▸ h.2)]

/-- A failed read ends the call as failed. -/
theorem failed_of_read {p : Punching} {rs : List Round} (h : .failed ∈ job.reads p rs) :
    (job.rounds p rs).1.status = .failed := by
  induction rs generalizing p with
  | nil => cases h
  | cons r rs ih =>
    rw [rounds_cons]
    rw [reads, List.mem_append] at h
    rcases h with hnow | hlater
    · split at hnow
      · rename_i hlistens
        have hfailed : r.read = .failed := (List.mem_singleton.1 hnow).symm
        have hround : (job.round p r).1.status = .failed := by rw [job.round_failed hlistens hfailed]
        rw [job.rounds_ended (by rw [hround]; decide)]
        exact hround
      · cases hnow
    · exact ih hlater

/-- A turn that does not fail leaves the call running, or over by its deadline or its stay. -/
theorem round_status (p : Punching) (r : Round) (hrunning : p.status = .running) :
    (job.listens p r = true ∧ r.read = .failed ∧ (job.round p r).1.status = .failed) ∨
      (job.round p r).1.status = .running ∨
      ((job.round p r).1.status = .over ∧
        (¬ticksSince r.loopAt job.deadline < 0 ∨ (p.settle ≠ 0 ∧ ticksSince r.settleAt p.settle ≥ 0))) := by
  cases hlistens : job.listens p r with
  | false =>
    right
    right
    refine ⟨?_, ?_⟩
    · unfold round
      rw [if_neg (not_not.2 hrunning), hlistens]
      rfl
    · by_contra hnever
      rw [not_or, not_not] at hnever
      simp [listens, hrunning, hnever.1] at hlistens
      exact hnever.2 ⟨hlistens.1, hlistens.2⟩
  | true =>
    have hsend : (job.sendProbes p r).1.status = .running := by
      unfold sendProbes
      split <;> exact hrunning
    cases hread : r.read with
    | nothing =>
      right
      left
      rw [job.round_nothing hlistens hread]
      exact hsend
    | failed =>
      left
      refine ⟨rfl, rfl, ?_⟩
      rw [job.round_failed hlistens hread]
    | datagram sender data =>
      right
      left
      rw [job.round_datagram hlistens hread]
      exact (job.hear_keeps _ _ _ _).2.trans hsend

theorem rounds_endsOnTime {rs : List Round} (h : .failed ∉ job.reads .start rs) : job.EndsOnTime rs := by
  -- The turn that ends the call is the last of those before it that find it running.
  have hmain : ∀ (rs before : List Round), (job.rounds .start before).1.status = .running →
      .failed ∉ job.reads (job.rounds .start before).1 rs → (job.rounds .start (before ++ rs)).1.status ≠ .running →
      ∃ mid r after, rs = mid ++ r :: after ∧ (job.rounds .start (before ++ mid)).1.status = .running ∧
        (job.rounds .start (before ++ mid ++ [r])).1.status = .over ∧ (¬ticksSince r.loopAt job.deadline < 0 ∨
          ((job.rounds .start (before ++ mid)).1.settle ≠ 0 ∧
            ticksSince r.settleAt (job.rounds .start (before ++ mid)).1.settle ≥ 0)) := by
    intro rs
    induction rs with
    | nil =>
      intro before hrunning _ hended
      rw [List.append_nil] at hended
      exact absurd hrunning hended
    | cons r rs ih =>
      intro before hrunning hreads hended
      have hnext : (job.rounds .start (before ++ [r])).1 = (job.round (job.rounds .start before).1 r).1 :=
        job.rounds_append .start before [r]
      rw [reads, List.mem_append, not_or] at hreads
      rcases job.round_status _ r hrunning with ⟨hlistens, hfailed, -⟩ | hgoes | ⟨hover, hwhy⟩
      · rw [hlistens, if_pos rfl, hfailed] at hreads
        exact absurd (List.mem_singleton.2 rfl) hreads.1
      · obtain ⟨mid, u, after, heq, hmid⟩ := ih (before ++ [r]) (hnext ▸ hgoes) (hnext ▸ hreads.2)
          (by rwa [List.append_assoc])
        refine ⟨r :: mid, u, after, by rw [heq]; rfl, ?_⟩
        rwa [List.append_assoc, List.singleton_append] at hmid
      · refine ⟨[], r, rs, rfl, ?_, ?_, ?_⟩
        · rwa [List.append_nil]
        · rw [List.append_nil, hnext]
          exact hover
        · rwa [List.append_nil]
  intro hended
  exact hmain rs [] rfl h hended

theorem rounds_not_failed {p : Punching} {rs : List Round} (hp : p.status ≠ .failed) (h : .failed ∉ job.reads p rs) :
    (job.rounds p rs).1.status ≠ .failed := by
  induction rs generalizing p with
  | nil => exact hp
  | cons r rs ih =>
    by_cases hrunning : p.status = .running
    · rw [reads, List.mem_append, not_or] at h
      rw [rounds_cons]
      refine ih ?_ h.2
      rcases job.round_status p r hrunning with ⟨hlistens, hfailed, -⟩ | hgoes | ⟨hover, -⟩
      · rw [hlistens, if_pos rfl, hfailed] at h
        exact absurd (List.mem_singleton.2 rfl) h.1
      · rw [hgoes]
        decide
      · rw [hover]
        decide
    · rw [job.rounds_ended hrunning]
      exact hp

theorem mem_reads {p : Punching} {rs : List Round} {x : Read} (h : x ∈ job.reads p rs) : ∃ r ∈ rs, r.read = x := by
  induction rs generalizing p with
  | nil => cases h
  | cons r rs ih =>
    rw [reads, List.mem_append] at h
    rcases h with hnow | hlater
    · split at hnow
      · exact ⟨r, List.mem_cons_self, (List.mem_singleton.1 hnow).symm⟩
      · cases hnow
    · obtain ⟨u, hu, hread⟩ := ih hlater
      exact ⟨u, List.mem_cons_of_mem _ hu, hread⟩

/-- A call comes to what it would without the noise exactly when no read of it fails with anything but
that there is nothing to read. -/
theorem noise_harmless_iff (xs : List (Round × Receive)) :
    job.NoiseHarmless xs ↔ .failed ∉ job.reads .start (turnsOf xs) := by
  constructor
  · intro h hfailed
    have hquiet : .failed ∉ job.reads .start (turnsOf (job.hushed xs)) := by
      intro hmem
      obtain ⟨r, hr, hread⟩ := job.mem_reads hmem
      obtain ⟨y, hy, rfl⟩ := List.mem_map.1 hr
      obtain ⟨x, -, rfl⟩ := List.mem_map.1 hy
      exact job.hush_read_ne_failed x.2 hread
    have hended := job.failed_of_read hfailed
    rw [h.same] at hended
    exact job.rounds_not_failed (by decide) hquiet hended
  · exact fun h => ⟨job.rounds_hush h, job.rounds_endsOnTime h⟩

end PunchJob

/-- A datagram too long for the buffer comes in before the answer of the other PC. -/
def sprayed : List (Round × Receive) :=
  [((Turn.at_ 10 .nothing).round 0, .datagram ⟨0x0b000001, 9⟩ (List.replicate 1500 0) true),
    ((Turn.at_ 30 .nothing).round 0, .datagram ⟨0x0a000002, 23457⟩ (PUNCH_MAGIC ++ ascii "A" ++ ascii "token") true)]

/-- It ends the call, which without it would have proven the path. -/
theorem noise_harmless_sprayed :
    ¬(punchFor900 0).NoiseHarmless sprayed ∧
      (punchFor900 0).proven ((punchFor900 0).rounds .start (turnsOf sprayed)).1 = false ∧
      (punchFor900 0).proven ((punchFor900 0).rounds .start (turnsOf ((punchFor900 0).hushed sprayed))).1 = true := by
  have hreads : .failed ∈ (punchFor900 0).reads .start (turnsOf sprayed) := by decide +kernel
  refine ⟨fun h => ?_, by decide +kernel, by decide +kernel⟩
  have hended := h.same ▸ (punchFor900 0).failed_of_read hreads
  exact absurd hended (by decide +kernel)

/-! ## The host of an answer -/

namespace PunchJob

variable (job : PunchJob)

/-- Who has sent the answers among these reads. -/
def ackSenders (reads : List Read) : List SockAddr :=
  reads.filterMap fun
    | .datagram sender data => if data = job.ack then some sender else none
    | _ => none

/-- The state a call is in after answers from these senders. -/
structure Answered (p : Punching) (senders : List SockAddr) : Prop where
  which : p.which.isSome = senders.any job.offers
  got : p.gotAck = p.which.isSome
  chosen : p.gotAck = true → ∃ s, senders.getLast? = some s ∧ p.chosenIp = ipText s.ip

variable {job}

theorem Answered.same {p p' : Punching} {senders : List SockAddr} (h : job.Answered p senders) (hwhich : p'.which = p.which)
    (hgot : p'.gotAck = p.gotAck) (hchosen : p'.chosenIp = p.chosenIp) : job.Answered p' senders :=
  ⟨hwhich ▸ h.which, by rw [hgot, hwhich, h.got], by rw [hgot, hchosen]; exact h.chosen⟩

theorem Answered.settleDown {p : Punching} {senders : List SockAddr} (h : job.Answered p senders) (r : Round) :
    job.Answered (job.settleDown p r) senders := by
  obtain ⟨settle, hsettle⟩ := job.settleDown_eq p r
  rw [hsettle]
  exact h.same rfl rfl rfl

/-- One datagram. -/
theorem Answered.hear {p : Punching} {senders : List SockAddr} (h : job.Answered p senders) (r : Round) (sender : SockAddr)
    (data : Bytes) :
    job.Answered (job.hear p r sender data).1 (senders ++ job.ackSenders [.datagram sender data]) := by
  by_cases hack : data = job.ack
  · have hsenders : job.ackSenders [.datagram sender data] = [sender] := by simp [ackSenders, hack]
    have hcandidate := job.whichCandidate_isSome p sender
    rw [hsenders]
    cases hc : job.whichCandidate p sender with
    | none =>
      have hstep : (job.hear p r sender data).1 = p := by
        simp [PunchJob.hear, hack, job.ack_ne_plain, job.ack_ne_matchProbe, hc]
      rw [hc, Option.isSome_none, eq_comm, Bool.or_eq_false_iff] at hcandidate
      rw [hstep]
      refine ⟨?_, h.got, fun hgot => ?_⟩
      · rw [List.any_append, ← h.which, hcandidate.1, List.any_cons, hcandidate.2]
        rfl
      · rw [h.got, hcandidate.1] at hgot
        cases hgot
    | some what =>
      have hstep : (job.hear p r sender data).1 = job.settleDown (hearAck p r sender what) r := by
        simp [PunchJob.hear, hack, job.ack_ne_plain, job.ack_ne_matchProbe, hc]
      rw [hc, Option.isSome_some] at hcandidate
      rw [hstep]
      have hheard : job.Answered (hearAck p r sender what) (senders ++ [sender]) := by
        refine ⟨?_, rfl, fun _ => ⟨sender, List.getLast?_concat, rfl⟩⟩
        rw [List.any_append, ← h.which, List.any_cons, List.any_nil, Bool.or_false, ← hcandidate]
        rfl
      exact hheard.settleDown r
  · have hsenders : job.ackSenders [.datagram sender data] = [] := by simp [ackSenders, hack]
    rw [hsenders, List.append_nil]
    unfold PunchJob.hear
    rw [if_neg hack]
    split
    · obtain ⟨settle, acked, hprobe⟩ := job.hearProbe_eq p r (data = job.matchProbe)
      refine Answered.settleDown ?_ r
      rw [hprobe]
      exact h.same rfl rfl rfl
    · exact h

theorem Answered.sendProbes {p : Punching} {senders : List SockAddr} (h : job.Answered p senders) (r : Round) :
    job.Answered (job.sendProbes p r).1 senders := by
  unfold PunchJob.sendProbes
  split
  · exact h.same rfl rfl rfl
  · exact h

/-- One turn of the loop. -/
theorem Answered.round {p : Punching} {senders : List SockAddr} (h : job.Answered p senders) (r : Round) :
    job.Answered (job.round p r).1 (senders ++ job.ackSenders (if job.listens p r then [r.read] else [])) := by
  cases hlistens : job.listens p r with
  | false =>
    have hnone : job.ackSenders [] = [] := rfl
    rw [if_neg Bool.false_ne_true, hnone, List.append_nil]
    unfold PunchJob.round
    rw [hlistens]
    split
    · exact h
    · exact h.same rfl rfl rfl
  | true =>
    have hsent := h.sendProbes r
    rw [if_pos rfl]
    cases hread : r.read with
    | nothing =>
      have hnone : job.ackSenders [.nothing] = [] := rfl
      rw [job.round_nothing hlistens hread, hnone, List.append_nil]
      exact hsent
    | failed =>
      have hnone : job.ackSenders [.failed] = [] := rfl
      rw [job.round_failed hlistens hread, hnone, List.append_nil]
      exact hsent.same rfl rfl rfl
    | datagram sender data =>
      rw [job.round_datagram hlistens hread]
      exact hsent.hear r sender data

theorem Answered.rounds {p : Punching} {senders : List SockAddr} (h : job.Answered p senders) (rs : List Round) :
    job.Answered (job.rounds p rs).1 (senders ++ job.ackSenders (job.reads p rs)) := by
  induction rs generalizing p senders with
  | nil => exact (List.append_nil senders).symm ▸ h
  | cons r rs ih =>
    have hread : job.ackSenders (job.reads p (r :: rs)) =
        job.ackSenders (if job.listens p r then [r.read] else []) ++ job.ackSenders (job.reads (job.round p r).1 rs) :=
      List.filterMap_append
    rw [hread, ← List.append_assoc]
    exact ih (h.round r)

end PunchJob

/-- Different hosts are printed differently. -/
theorem ipText_inj {a b : UInt32} (h : ipText a = ipText b) : a = b := by
  have hdot : ascii "." = [0x2e] := by decide
  unfold ipText at h
  simp only [hdot, List.append_assoc, List.singleton_append] at h
  obtain ⟨h3, h⟩ := toDecimal_append_inj h
  obtain ⟨h2, h⟩ := toDecimal_append_inj h
  obtain ⟨h1, h⟩ := toDecimal_append_inj h
  have h0 := toDecimal_inj h
  rw [← UInt32.toNat_inj]
  have ha := a.toNat_lt
  have hb := b.toNat_lt
  omega

/-- The endpoint of a call that returns true is the host of the last answer it has read. -/
theorem punch_answered {inetPton : Bytes → Option UInt32} {h : HolePunch} {peer : DirectPeer} {timeoutMs : UInt32}
    {matchStart : Bool} {call : PunchCall} (hok : (h.punch inetPton peer timeoutMs matchStart call).ok = true) :
    ∃ sender, ((punchJob inetPton peer timeoutMs call.startAt matchStart).ackSenders
        ((punchJob inetPton peer timeoutMs call.startAt matchStart).reads .start call.turns)).getLast? = some sender ∧
      (h.punch inetPton peer timeoutMs matchStart call).chosenIp = ipText sender.ip := by
  obtain ⟨hgot, -, hchosen⟩ := punch_of_ok hok
  have hstart : (punchJob inetPton peer timeoutMs call.startAt matchStart).Answered .start [] := ⟨rfl, rfl, nofun⟩
  obtain ⟨sender, hlast, hip⟩ := (hstart.rounds call.turns).chosen hgot
  rw [List.nil_append] at hlast
  exact ⟨sender, hlast, hchosen.trans hip⟩

/-- The endpoint of a call that returns true has the host of a candidate exactly when the last answer it
has read comes from one. -/
theorem endpoint_offered_iff (inetPton : Bytes → Option UInt32) (h : HolePunch) (peer : DirectPeer) (timeoutMs : UInt32)
    (matchStart : Bool) (call : PunchCall) (hok : (h.punch inetPton peer timeoutMs matchStart call).ok = true) :
    (∃ c ∈ candidatesOf inetPton peer, (h.punch inetPton peer timeoutMs matchStart call).chosenIp = ipText c.addr.ip) ↔
      ∃ sender, ((punchJob inetPton peer timeoutMs call.startAt matchStart).ackSenders
          ((punchJob inetPton peer timeoutMs call.startAt matchStart).reads .start call.turns)).getLast? = some sender ∧
        ∃ c ∈ candidatesOf inetPton peer, sender.ip = c.addr.ip := by
  obtain ⟨sender, hlast, hip⟩ := punch_answered hok
  rw [hip, hlast]
  constructor
  · rintro ⟨c, hc, htext⟩
    exact ⟨sender, rfl, c, hc, ipText_inj htext⟩
  · rintro ⟨sender', hsender, c, hc, heq⟩
    obtain rfl := Option.some.inj hsender
    exact ⟨c, hc, by rw [heq]⟩

/-- After the other PC's answer a stranger's comes in, with the same token. -/
def strangerAnswers : PunchCall :=
  ⟨0, [(Turn.at_ 10 (.datagram ⟨0x0a000002, 23457⟩ (PUNCH_MAGIC ++ ascii "A" ++ ascii "token"))).round 0,
    (Turn.at_ 20 (.datagram ⟨0x0b000001, 9⟩ (PUNCH_MAGIC ++ ascii "A" ++ ascii "token"))).round 0]⟩

theorem endpoint_offered_answered :
    ∃ c ∈ candidatesOf toFarPeer farPeer,
      (openSocket.punch toFarPeer farPeer 900 false ⟨0, strangerAnswers.turns.take 1⟩).chosenIp = ipText c.addr.ip :=
  (endpoint_offered_iff toFarPeer openSocket farPeer 900 false ⟨0, strangerAnswers.turns.take 1⟩ (by decide +kernel)).2
    ⟨⟨0x0a000002, 23457⟩, by decide +kernel, by decide +kernel⟩

/-- The call returns true, with the stranger's host. -/
theorem endpoint_offered_stranger :
    (openSocket.punch toFarPeer farPeer 900 false strangerAnswers).ok = true ∧
      (openSocket.punch toFarPeer farPeer 900 false strangerAnswers).chosenIp = ascii "11.0.0.1" ∧
      ¬∃ c ∈ candidatesOf toFarPeer farPeer,
        (openSocket.punch toFarPeer farPeer 900 false strangerAnswers).chosenIp = ipText c.addr.ip :=
  ⟨by decide +kernel, by decide +kernel, by decide +kernel⟩

end Sf4e.Netplay
