import Sf4e.Netplay.DirectPlay
/-!
# Two PCs at match start

Each PC calls `TryDirectPath` on its own and punches until it has heard enough or
its window is over. `CallKnows` is what a call knows of the other PC, and
`rounds_heard` says the loop computes it. `MatchStart` runs the two calls side by
side.

`same_road_iff`: the two verdicts are the same exactly when both calls have been
answered and met or neither has. Where the last answers to one of them are lost,
they are not: `roads_part`. And no other loss parts the roads of two PCs that were
paired: `same_road_of_answers`.
-/
open Sf4e.Lib Sf4e.Session Sf4e.Server

namespace Sf4e.Netplay

/-! ## What a call has heard -/

/-- What a call knows: its socket has failed, the port of the last answer to its probes, and
that the other PC is at match start. -/
structure CallKnows where
  failed : Bool
  answer : Option UInt16
  met : Bool
  deriving DecidableEq

def Punching.heard (p : Punching) : CallKnows :=
  ⟨p.status = .failed, if p.gotAck then some p.chosenPort else none, p.ackedPeer⟩

/-- Enough to go direct. -/
def CallKnows.proves (h : CallKnows) : Bool := !h.failed && h.met && h.answer.any fun port => port ≠ 0

namespace PunchJob

variable (job : PunchJob)

/-- The host is one the other player has offered. -/
def offers (sender : SockAddr) : Bool := job.candidates.any fun c => sender.ip = c.addr.ip

/-- What one read adds, at match start. -/
def learn (h : CallKnows) : Read → CallKnows
  | .nothing => h
  | .failed => { h with failed := true }
  | .datagram sender data =>
    if data = job.matchProbe then { h with met := true }
    else if data = job.ack && (h.answer.isSome || job.offers sender) then { h with answer := some sender.port }
    else h

/-- What the loop reads before it ends. -/
def reads (p : Punching) : List Round → List Read
  | [] => []
  | r :: rest => (if job.listens p r then [r.read] else []) ++ reads (job.round p r).1 rest

/-- What is read is read in a turn. -/
theorem turn_of_reads {p : Punching} {rs : List Round} {read : Read} (h : read ∈ job.reads p rs) :
    ∃ r ∈ rs, r.read = read := by
  induction rs generalizing p with
  | nil => cases h
  | cons r rs ih =>
    rcases List.mem_append.1 h with hnow | hlater
    · split at hnow
      · exact ⟨r, List.mem_cons_self, (List.mem_singleton.1 hnow).symm⟩
      · cases hnow
    · obtain ⟨r', hr', hread⟩ := ih hlater
      exact ⟨r', List.mem_cons_of_mem r hr', hread⟩

theorem matchProbe_ne_plain : job.matchProbe ≠ job.plainProbe := by
  intro h
  have := congrArg List.length h
  simp [matchProbe, plainProbe, ascii] at this

theorem ack_ne_plain : job.ack ≠ job.plainProbe := by
  intro h
  have := congrArg List.length h
  simp [ack, plainProbe, ascii] at this

theorem ack_ne_matchProbe : job.ack ≠ job.matchProbe := by
  intro h
  simp [ack, matchProbe, ascii] at h

/-- A call knows whose answer it has. -/
def Known (p : Punching) : Prop := p.which.isSome = p.gotAck

theorem whichCandidate_isSome (p : Punching) (sender : SockAddr) :
    (job.whichCandidate p sender).isSome = (p.which.isSome || job.offers sender) := by
  have hfold : ∀ (l : List Candidate) (which : Option CandidateWhat),
      (l.foldl (fun which c => if sender.ip = c.addr.ip then some c.what else which) which).isSome =
        (which.isSome || l.any fun c => sender.ip = c.addr.ip) := by
    intro l
    induction l with
    | nil => simp
    | cons c l ih =>
      intro which
      rw [List.foldl_cons, ih, List.any_cons]
      by_cases hip : sender.ip = c.addr.ip
      · simp [hip]
      · simp [hip]
  exact hfold job.candidates p.which

/-- The stay after a proof changes nothing that is known. -/
theorem settleDown_heard (p : Punching) (r : Round) :
    (job.settleDown p r).heard = p.heard ∧ (job.settleDown p r).which = p.which ∧
      (job.settleDown p r).gotAck = p.gotAck := by
  unfold settleDown
  split <;> exact ⟨rfl, rfl, rfl⟩

theorem sendProbes_heard (p : Punching) (r : Round) :
    (job.sendProbes p r).1.heard = p.heard ∧ (job.sendProbes p r).1.which = p.which ∧
      (job.sendProbes p r).1.gotAck = p.gotAck := by
  unfold sendProbes
  split <;> exact ⟨rfl, rfl, rfl⟩

/-- A datagram that was read teaches what `learn` says. -/
theorem hear_heard (hmatch : job.matchStart = true) {p : Punching} (hp : Known p) (r : Round) (sender : SockAddr)
    (data : Bytes) :
    (job.hear p r sender data).1.heard = job.learn p.heard (.datagram sender data) ∧
      Known (job.hear p r sender data).1 := by
  have hknown : p.heard.answer.isSome = p.which.isSome := by
    simp only [Punching.heard]
    rw [show p.which.isSome = p.gotAck from hp]
    split <;> simp_all
  by_cases hmark : data = job.matchProbe
  · obtain ⟨hheard, hwhich, hgot⟩ := job.settleDown_heard (job.hearProbe p r true) r
    have hstep : (job.hear p r sender data).1 = job.settleDown (job.hearProbe p r true) r := by
      simp [hear, hmark]
    rw [hstep, hheard, Known, hwhich, hgot]
    exact ⟨by simp [learn, hmark, hearProbe, Punching.heard], hp⟩
  · by_cases hplain : data = job.plainProbe
    · -- a plain probe is answered, and says nothing about match start
      obtain ⟨hheard, hwhich, hgot⟩ := job.settleDown_heard (job.hearProbe p r false) r
      have hsame : job.hearProbe p r false = p := by simp [hearProbe, hmatch]
      have hstep : (job.hear p r sender data).1 = job.settleDown (job.hearProbe p r false) r := by
        simp [hear, hplain, job.matchProbe_ne_plain.symm]
      rw [hstep, hheard, Known, hwhich, hgot, hsame]
      exact ⟨by simp [learn, hplain, job.matchProbe_ne_plain.symm, job.ack_ne_plain.symm], hp⟩
    · by_cases hack : data = job.ack
      · have hwhich := job.whichCandidate_isSome p sender
        cases hc : job.whichCandidate p sender with
        | none =>
          have hstep : (job.hear p r sender data).1 = p := by
            simp [hear, hack, job.ack_ne_plain, job.ack_ne_matchProbe, hc]
          rw [hc, Option.isSome_none] at hwhich
          rw [hstep]
          refine ⟨?_, hp⟩
          simp only [learn, hack, hknown, ← hwhich]
          simp [job.ack_ne_matchProbe]
        | some what =>
          obtain ⟨hheard, hkeptWhich, hkeptGot⟩ := job.settleDown_heard (hearAck p r sender what) r
          have hstep : (job.hear p r sender data).1 = job.settleDown (hearAck p r sender what) r := by
            simp [hear, hack, job.ack_ne_plain, job.ack_ne_matchProbe, hc]
          rw [hc, Option.isSome_some] at hwhich
          rw [hstep, hheard, Known, hkeptWhich, hkeptGot]
          refine ⟨?_, rfl⟩
          simp only [learn, hack, hknown, ← hwhich]
          simp [hearAck, Punching.heard, job.ack_ne_matchProbe]
      · have hstep : (job.hear p r sender data).1 = p := by simp [hear, hplain, hmark, hack]
        rw [hstep]
        exact ⟨by simp [learn, hmark, hack], hp⟩

/-- One turn of the loop teaches what it reads. -/
theorem round_heard (hmatch : job.matchStart = true) {p : Punching} (hp : Known p) (r : Round) :
    (job.round p r).1.heard = (if job.listens p r then job.learn p.heard r.read else p.heard) ∧
      Known (job.round p r).1 := by
  unfold round
  split
  · rename_i hstopped
    have hdeaf : job.listens p r = false := by simp [listens, hstopped]
    rw [hdeaf]
    exact ⟨rfl, hp⟩
  · rename_i hrunning
    split
    · obtain ⟨hheard, hwhich, hgot⟩ := job.sendProbes_heard p r
      have hsent : Known (job.sendProbes p r).1 := by rw [Known, hwhich, hgot]; exact hp
      cases r.read with
      | nothing => exact ⟨hheard, hsent⟩
      | failed =>
        refine ⟨?_, hsent⟩
        rw [learn, ← hheard]
        simp [Punching.heard]
      | datagram sender data =>
        rw [← hheard]
        exact job.hear_heard hmatch hsent r sender data
    · refine ⟨?_, hp⟩
      simp only [not_not] at hrunning
      simp [Punching.heard, hrunning]

/-- The loop knows what it has read. -/
theorem rounds_heard (hmatch : job.matchStart = true) {p : Punching} (hp : Known p) (rs : List Round) :
    (job.rounds p rs).1.heard = (job.reads p rs).foldl job.learn p.heard := by
  induction rs generalizing p with
  | nil => rfl
  | cons r rs ih =>
    obtain ⟨hheard, hknown⟩ := job.round_heard hmatch hp r
    show (job.rounds (job.round p r).1 rs).1.heard = _
    rw [ih hknown, hheard, reads, List.foldl_append]
    split <;> rfl

theorem rounds_known (hmatch : job.matchStart = true) {p : Punching} (hp : Known p) (rs : List Round) :
    Known (job.rounds p rs).1 := by
  induction rs generalizing p with
  | nil => exact hp
  | cons r rs ih => exact ih (job.round_heard hmatch hp r).2

/-- What one turn adds: a marked probe is met, an answer is had. -/
theorem round_learns (hmatch : job.matchStart = true) {p : Punching} (hp : Known p) (r : Round) :
    (p.ackedPeer = true → (job.round p r).1.ackedPeer = true) ∧
      ((job.round p r).1.gotAck = true → p.gotAck = true ∨ ∃ sender, r.read = .datagram sender job.ack) ∧
      (job.listens p r = true → ∀ sender, r.read = .datagram sender job.matchProbe →
        (job.round p r).1.ackedPeer = true) := by
  obtain ⟨hheard, -⟩ := job.round_heard hmatch hp r
  have hmet : (job.round p r).1.ackedPeer = (if job.listens p r then job.learn p.heard r.read else p.heard).met :=
    congrArg (·.met) hheard
  have hgot : (job.round p r).1.gotAck =
      (if job.listens p r then job.learn p.heard r.read else p.heard).answer.isSome := by
    rw [← hheard]
    simp only [Punching.heard]
    split <;> simp_all
  have hbefore : p.heard.answer.isSome = p.gotAck := by
    simp only [Punching.heard]
    split <;> simp_all
  rw [hmet, hgot]
  split
  · refine ⟨fun hp => ?_, fun hnow => ?_, fun _ sender hread => ?_⟩
    · cases r.read with
      | nothing => exact hp
      | failed => exact hp
      | datagram sender data =>
        simp only [learn]
        repeat' split
        all_goals first
          | rfl
          | exact hp
    · cases hread : r.read with
      | nothing => rw [hread] at hnow; exact .inl (hbefore ▸ hnow)
      | failed => rw [hread] at hnow; exact .inl (hbefore ▸ hnow)
      | datagram sender data =>
        rw [hread] at hnow
        by_cases hack : data = job.ack
        · exact .inr ⟨sender, by rw [hack]⟩
        · left
          rw [← hbefore]
          simpa [learn, hack, apply_ite CallKnows.answer] using hnow
    · rw [hread]
      simp [learn]
  · rename_i hdeaf
    exact ⟨id, fun hnow => .inl (hbefore ▸ hnow), fun hlistens => absurd hlistens hdeaf⟩

/-- What a turn sends: its own probe, and an answer to a probe. -/
theorem round_sent (p : Punching) (r : Round) {packet : Packet} (h : packet ∈ (job.round p r).2) :
    packet.data = job.probe ∨
      packet.data = job.ack ∧ job.listens p r = true ∧
        ∃ sender data, r.read = .datagram sender data ∧ (data = job.plainProbe ∨ data = job.matchProbe) := by
  have hprobes : ∀ packet ∈ (job.sendProbes p r).2, packet.data = job.probe := by
    intro packet hpacket
    unfold sendProbes at hpacket
    split at hpacket
    · obtain ⟨c, -, rfl⟩ := List.mem_map.1 hpacket
      rfl
    · cases hpacket
  unfold round at h
  split at h
  · cases h
  · split at h
    · rename_i hlistens
      cases hread : r.read with
      | nothing => rw [hread] at h; exact .inl (hprobes packet h)
      | failed => rw [hread] at h; exact .inl (hprobes packet h)
      | datagram sender data =>
        rw [hread] at h
        rcases List.mem_append.1 h with hsent | hacked
        · exact .inl (hprobes packet hsent)
        · unfold hear at hacked
          split at hacked
          · rename_i hprobe
            obtain rfl := List.mem_singleton.1 hacked
            exact .inr ⟨rfl, hlistens, sender, data, rfl, by simpa using hprobe⟩
          · split at hacked
            · split at hacked <;> cases hacked
            · cases hacked
    · cases h

/-! ## Enough to go direct, in what was read -/

/-- The senders of the answers that were read. -/
def acks (log : List Read) : List SockAddr :=
  log.filterMap fun
    | .datagram sender data => if data = job.ack then some sender else none
    | _ => none

theorem mem_acks {log : List Read} {sender : SockAddr} : sender ∈ job.acks log ↔ .datagram sender job.ack ∈ log := by
  unfold acks
  rw [List.mem_filterMap]
  constructor
  · rintro ⟨read, hmem, hread⟩
    cases read with
    | nothing => cases hread
    | failed => cases hread
    | datagram sender' data =>
      dsimp only at hread
      split at hread
      · rename_i hack
        obtain rfl := Option.some.inj hread
        exact hack ▸ hmem
      · cases hread
  · exact fun hmem => ⟨_, hmem, if_pos rfl⟩

/-- The first answer must come from an offered host; those after it may come from any. -/
def answers (log : List Read) : List SockAddr := (job.acks log).dropWhile fun sender => !job.offers sender

/-- The socket has not failed, a marked probe has been read, and the last answer has a port. -/
structure Proves (log : List Read) : Prop where
  healthy : .failed ∉ log
  met : ∃ sender, .datagram sender job.matchProbe ∈ log
  answered : ∃ sender, (job.answers log).getLast? = some sender ∧ sender.port ≠ 0

theorem foldl_learn_failed (log : List Read) (h : CallKnows) :
    (log.foldl job.learn h).failed = true ↔ h.failed = true ∨ .failed ∈ log := by
  induction log generalizing h with
  | nil => simp
  | cons read log ih =>
    rw [List.foldl_cons, ih]
    cases read with
    | nothing => simp [learn]
    | failed => simp [learn]
    | datagram sender data =>
      have hkept : (job.learn h (.datagram sender data)).failed = h.failed := by
        simp only [learn]
        repeat' split
        all_goals rfl
      simp [hkept]

theorem foldl_learn_met (log : List Read) (h : CallKnows) :
    (log.foldl job.learn h).met = true ↔ h.met = true ∨ ∃ sender, .datagram sender job.matchProbe ∈ log := by
  induction log generalizing h with
  | nil => simp
  | cons read log ih =>
    rw [List.foldl_cons, ih]
    cases read with
    | nothing => simp [learn]
    | failed => simp [learn]
    | datagram sender data =>
      by_cases hmark : data = job.matchProbe
      · subst hmark
        have hmet : (job.learn h (.datagram sender job.matchProbe)).met = true := by simp [learn]
        simp only [hmet, true_or, true_iff]
        exact .inr ⟨sender, List.mem_cons_self⟩
      · have hkept : (job.learn h (.datagram sender data)).met = h.met := by
          simp only [learn, hmark, if_false]
          split <;> rfl
        simp [hkept, Ne.symm hmark]

/-- The port that is known is the last answer's. -/
theorem foldl_learn_answer (log : List Read) (h : CallKnows) :
    (log.foldl job.learn h).answer =
      ((if h.answer.isSome then job.acks log else job.answers log).getLast?.map (·.port)).or h.answer := by
  induction log generalizing h with
  | nil => simp [acks, answers]
  | cons read log ih =>
    rw [List.foldl_cons, ih]
    have hother : ∀ h' : CallKnows, h'.answer = h.answer → job.acks (read :: log) = job.acks log →
        ((if h'.answer.isSome then job.acks log else job.answers log).getLast?.map (·.port)).or h'.answer =
          ((if h.answer.isSome then job.acks (read :: log) else job.answers (read :: log)).getLast?.map (·.port)).or
            h.answer := by
      intro h' hans hacks
      rw [hans, answers, answers, hacks]
    cases read with
    | nothing => exact hother h rfl rfl
    | failed => exact hother _ rfl rfl
    | datagram sender data =>
      by_cases hack : data = job.ack
      · subst hack
        have hacks : job.acks (.datagram sender job.ack :: log) = sender :: job.acks log := by simp [acks]
        by_cases hknown : h.answer.isSome || job.offers sender
        · -- from here on every answer counts
          have hlearn : job.learn h (.datagram sender job.ack) = { h with answer := some sender.port } := by
            simp only [learn, job.ack_ne_matchProbe, if_false, hknown]
            rfl
          have hlist : (if h.answer.isSome then job.acks (.datagram sender job.ack :: log)
              else job.answers (.datagram sender job.ack :: log)) = sender :: job.acks log := by
            split
            · exact hacks
            · rename_i hnone
              have hoffers : job.offers sender = true := by simpa [hnone] using hknown
              rw [answers, hacks, List.dropWhile_cons_of_neg (by simp [hoffers])]
          rw [hlearn, hlist, List.getLast?_cons]
          simp only [Option.isSome_some, if_true]
          cases (job.acks log).getLast? <;> rfl
        · have hlearn : job.learn h (.datagram sender job.ack) = h := by
            simp only [learn, job.ack_ne_matchProbe, if_false, hknown]
            rfl
          obtain ⟨hnone, hstranger⟩ : h.answer.isSome = false ∧ job.offers sender = false := by simpa using hknown
          rw [hlearn, hnone, answers, answers, hacks, List.dropWhile_cons_of_pos (by simp [hstranger])]
          rfl
      · have hacks : job.acks (.datagram sender data :: log) = job.acks log := by simp [acks, hack]
        refine hother _ ?_ hacks
        simp only [learn, hack, decide_false, Bool.false_and, Bool.false_eq_true, if_false]
        split <;> rfl

/-- What a call has heard is enough exactly when what it has read is. -/
theorem proves_iff (log : List Read) : (log.foldl job.learn ⟨false, none, false⟩).proves = true ↔ job.Proves log := by
  have hfailed := job.foldl_learn_failed log ⟨false, none, false⟩
  have hmet := job.foldl_learn_met log ⟨false, none, false⟩
  have hanswer := job.foldl_learn_answer log ⟨false, none, false⟩
  simp only [Option.isSome_none, Bool.false_eq_true, if_false, Option.or_none, false_or] at hfailed hmet hanswer
  simp only [CallKnows.proves, Bool.and_eq_true, Bool.not_eq_true', hmet, hanswer]
  constructor
  · rintro ⟨⟨hok, hmark⟩, hport⟩
    refine ⟨fun hmem => ?_, hmark, ?_⟩
    · rw [hfailed.2 hmem] at hok
      cases hok
    · cases hlast : (job.answers log).getLast? with
      | none => rw [hlast] at hport; cases hport
      | some sender => exact ⟨sender, rfl, by simpa [hlast] using hport⟩
  · rintro ⟨hok, hmark, sender, hlast, hport⟩
    refine ⟨⟨?_, hmark⟩, by simp [hlast, hport]⟩
    cases hf : (log.foldl job.learn ⟨false, none, false⟩).failed with
    | false => rfl
    | true => exact absurd (hfailed.1 hf) hok

end PunchJob

/-! ## One call -/

namespace DirectPlay

variable (inetPton : Bytes → Option UInt32)

/-- `TryDirectPath` punches. -/
def punches (c : DirectPlay) : Bool := c.directEnabled && c.peer.port ≠ 0 && c.punch.isOpen

/-- The loop of the call. -/
def pathJob (c : DirectPlay) (startAt : UInt32) : PunchJob := punchJob inetPton c.peer MATCH_PUNCH_MS startAt true

/-- What the call reads before it ends. -/
def pathReads (c : DirectPlay) (call : PunchCall) : List Read :=
  (c.pathJob inetPton call.startAt).reads .start call.turns

/-- The call has what it needs to go direct: with a Punch, what that has read; without, a path
that still counts as proven. -/
def Proves (c : DirectPlay) (call : PunchCall) : Prop :=
  if c.punches then
    candidatesOf inetPton c.peer ≠ [] ∧ (c.pathJob inetPton call.startAt).Proves (c.pathReads inetPton call)
  else c.punchProven = true ∧ c.provenPort ≠ 0

/-- With a Punch, the verdict is the Punch's, and a port. -/
theorem tryDirectPath_punches {c : DirectPlay} (hp : c.punches = true) (call : PunchCall) :
    (c.tryDirectPath inetPton call).2.1 =
      ((c.punch.punch inetPton c.peer MATCH_PUNCH_MS true call).ok &&
        decide ((c.punch.punch inetPton c.peer MATCH_PUNCH_MS true call).chosenPort ≠ 0)) := by
  have hprove : proveNow inetPton { c with matchIsDirect := false } call =
      (if (c.punch.punch inetPton c.peer MATCH_PUNCH_MS true call).ok then
        ({ c with
          matchIsDirect := false
          provenIp := (c.punch.punch inetPton c.peer MATCH_PUNCH_MS true call).chosenIp
          provenPort := (c.punch.punch inetPton c.peer MATCH_PUNCH_MS true call).chosenPort
          directRttMs := (c.punch.punch inetPton c.peer MATCH_PUNCH_MS true call).rttMs
          punchProven := true }, (c.punch.punch inetPton c.peer MATCH_PUNCH_MS true call).sent)
      else ({ c with matchIsDirect := false, punchProven := false },
        (c.punch.punch inetPton c.peer MATCH_PUNCH_MS true call).sent)) := if_pos hp
  simp only [tryDirectPath, hprove]
  cases (c.punch.punch inetPton c.peer MATCH_PUNCH_MS true call).ok with
  | false => rfl
  | true =>
    simp only [if_true, Bool.true_and]
    split <;> simp_all

/-- Without one, a path proven earlier decides. -/
theorem tryDirectPath_unpunching {c : DirectPlay} (hp : c.punches = false) (call : PunchCall) :
    (c.tryDirectPath inetPton call).2.1 = (c.punchProven && decide (c.provenPort ≠ 0)) := by
  have hguard : punches { c with matchIsDirect := false } ≠ true := by
    rw [show punches { c with matchIsDirect := false } = false from hp]
    exact Bool.false_ne_true
  have hprove : proveNow inetPton { c with matchIsDirect := false } call = ({ c with matchIsDirect := false }, []) :=
    if_neg hguard
  simp only [tryDirectPath, hprove]
  split <;> simp_all

/-- A Punch returns true, with a port, when it has heard enough. -/
theorem punch_heard {c : DirectPlay} (hp : c.punches = true) (hcand : candidatesOf inetPton c.peer ≠ [])
    (call : PunchCall) :
    ((c.punch.punch inetPton c.peer MATCH_PUNCH_MS true call).ok &&
        decide ((c.punch.punch inetPton c.peer MATCH_PUNCH_MS true call).chosenPort ≠ 0)) =
      (((c.pathJob inetPton call.startAt).rounds .start call.turns).1.heard).proves := by
  have hopen : c.punch.isOpen = true := (Bool.and_eq_true_iff.1 hp).2
  have hcand' : (punchJob inetPton c.peer MATCH_PUNCH_MS call.startAt true).candidates ≠ [] := hcand
  simp only [HolePunch.punch, hopen, hcand', decide_false, Bool.not_true, Bool.or_self, Bool.false_eq_true, if_false]
  rw [← pathJob]
  generalize ((c.pathJob inetPton call.startAt).rounds .start call.turns).1 = p
  have hmatch : (c.pathJob inetPton call.startAt).matchStart = true := rfl
  simp only [PunchJob.proven, hmatch, Punching.heard, CallKnows.proves]
  cases p.gotAck <;> cases p.ackedPeer <;> simp

/-- The verdict of `TryDirectPath` is what it has read. -/
theorem tryDirectPath_iff (c : DirectPlay) (call : PunchCall) :
    (c.tryDirectPath inetPton call).2.1 = true ↔ c.Proves inetPton call := by
  unfold Proves
  split
  · rename_i hp
    rw [tryDirectPath_punches inetPton hp]
    by_cases hcand : candidatesOf inetPton c.peer = []
    · have hnone : (c.punch.punch inetPton c.peer MATCH_PUNCH_MS true call).ok = false := by
        simp [HolePunch.punch, punchJob, hcand]
      rw [hnone, hcand]
      simp
    · have hlearned := (c.pathJob inetPton call.startAt).rounds_heard rfl (p := .start) rfl call.turns
      rw [punch_heard inetPton hp hcand, hlearned]
      exact ((c.pathJob inetPton call.startAt).proves_iff _).trans ⟨fun h => ⟨hcand, h⟩, fun h => h.2⟩
  · rename_i hp
    rw [tryDirectPath_unpunching inetPton (by simpa using hp)]
    simp

end DirectPlay

/-! ## Both calls -/

/-- Two PCs at the start of one match. A call that has not begun is `none`. -/
structure MatchStart where
  client : Sides DirectPlay
  call : Sides (Option PunchCall)

inductive MatchAct where
  | call (i : Side) (startAt : UInt32)
  | turn (i : Side) (r : Round)

section

variable (inetPton : Bytes → Option UInt32)

namespace MatchStart

/-- Where the loop of a call stands. -/
def loop (s : MatchStart) (i : Side) (call : PunchCall) : Punching :=
  (((s.client.get i).pathJob inetPton call.startAt).rounds .start call.turns).1

/-- The call is still in its loop. -/
def running (s : MatchStart) (i : Side) (call : PunchCall) : Bool :=
  (s.client.get i).punches && candidatesOf inetPton (s.client.get i).peer ≠ [] &&
    (s.loop inetPton i call).status = .running

/-- What a call has returned. -/
def verdict (s : MatchStart) (i : Side) : Option Bool :=
  (s.call.get i).bind fun call =>
    if s.running inetPton i call then none else some ((s.client.get i).tryDirectPath inetPton call).2.1

/-- The call has what it needs to go direct. -/
def Proves (s : MatchStart) (i : Side) : Prop :=
  ∃ call ∈ s.call.get i, (s.client.get i).Proves inetPton call

/-- Two clients about to call. -/
def of (client : Sides DirectPlay) : MatchStart := ⟨client, ⟨none, none⟩⟩

end MatchStart

/-- The two PCs, one turn of one loop at a time. What a PC sends is emitted with its side. -/
def matchStart : Machine MatchStart MatchAct (Side × Packet) where
  next s
    | .call i startAt =>
      match s.call.get i with
      | none => ({ s with call := s.call.set i (some ⟨startAt, []⟩) }, [])
      | some _ => (s, [])
    | .turn i r =>
      match s.call.get i with
      | none => (s, [])
      | some call =>
        if s.running inetPton i call then
          ({ s with call := s.call.set i (some { call with turns := call.turns ++ [r] }) },
            (((s.client.get i).pathJob inetPton call.startAt).round (s.loop inetPton i call) r).2.map fun p => (i, p))
        else (s, [])

/-- A call that has returned has returned what it proved. -/
theorem verdict_iff {s : MatchStart} {i : Side} {v : Bool} (h : s.verdict inetPton i = some v) :
    v = true ↔ s.Proves inetPton i := by
  obtain ⟨call, hcall, hv⟩ := Option.bind_eq_some_iff.1 h
  split at hv
  · cases hv
  · obtain rfl := Option.some.inj hv
    rw [DirectPlay.tryDirectPath_iff]
    constructor
    · exact fun hproves => ⟨call, hcall, hproves⟩
    · rintro ⟨other, hother, hproves⟩
      obtain rfl : call = other := Option.some.inj (hcall.symm.trans hother)
      exact hproves

/-- Both PCs take the same road exactly when both calls have proved the path or neither has. -/
theorem same_road_iff (client : Sides DirectPlay) (as : List MatchAct) {v w : Bool}
    (hv : ((matchStart inetPton).run (.of client) as).verdict inetPton 0 = some v)
    (hw : ((matchStart inetPton).run (.of client) as).verdict inetPton 1 = some w) :
    v = w ↔ (((matchStart inetPton).run (.of client) as).Proves inetPton 0 ↔
      ((matchStart inetPton).run (.of client) as).Proves inetPton 1) := by
  rw [← verdict_iff inetPton hv, ← verdict_iff inetPton hw, Bool.eq_iff_iff]

/-! ## Two PCs that were paired -/

/-- Two clients with direct play on, each with the other's endpoints and one token. -/
structure Matched (client : Sides DirectPlay) (token : Bytes) : Prop where
  on : ∀ i, (client.get i).punches = true
  peers : ∀ i, (client.get i).peer =
    ⟨(client.get i.other).punch.publicIp, (client.get i.other).punch.publicPort,
      (client.get i.other).punch.localIp, (client.get i.other).punch.localPort, token⟩

/-- The host is one the other player has offered. -/
def DirectPlay.offered (c : DirectPlay) (sender : SockAddr) : Bool :=
  (candidatesOf inetPton c.peer).any fun candidate => sender.ip = candidate.addr.ip

/-- A turn in which the socket works, and what it reads comes from an offered host, and from a port. -/
def Healthy (c : DirectPlay) (r : Round) : Prop :=
  match r.read with
  | .nothing => True
  | .failed => False
  | .datagram sender _ => c.offered inetPton sender = true ∧ sender.port ≠ 0

/-- Datagrams are lost, late or doubled: what a PC reads the other's call has sent it. -/
def Carried (h : List (Taken MatchStart MatchAct (Side × Packet))) (s : MatchStart) (a : MatchAct) : Prop :=
  match a with
  | .call _ _ => True
  | .turn i r => Healthy inetPton (s.client.get i) r ∧ match r.read with
    | .datagram _ data => ∃ t ∈ h, ∃ sent ∈ t.out, sent.1 = i.other ∧ sent.2.data = data
    | _ => True

instance (c : DirectPlay) (r : Round) : Decidable (Healthy inetPton c r) := by
  unfold Healthy
  split <;> infer_instance

instance (h : List (Taken MatchStart MatchAct (Side × Packet))) (s : MatchStart) (a : MatchAct) :
    Decidable (Carried inetPton h s a) := by
  unfold Carried
  repeat' split
  all_goals infer_instance

/-! ## What an answer proves -/

namespace MatchStart

/-- The call of a PC has an answer, or has met the other PC. -/
def answered (s : MatchStart) (i : Side) : Bool := (s.call.get i).any fun call => (s.loop inetPton i call).gotAck
def met (s : MatchStart) (i : Side) : Bool := (s.call.get i).any fun call => (s.loop inetPton i call).ackedPeer

end MatchStart

/-- What an action of the two PCs does: nothing, a call that begins, or a turn of a loop. -/
inductive Turned (s : MatchStart) : MatchAct → MatchStart → List (Side × Packet) → Prop where
  | idle {a : MatchAct} : Turned s a s []
  | begun {i : Side} {startAt : UInt32} (hcall : s.call.get i = none) :
      Turned s (.call i startAt) { s with call := s.call.set i (some ⟨startAt, []⟩) } []
  | turned {i : Side} {r : Round} {call : PunchCall} (hcall : s.call.get i = some call) :
      Turned s (.turn i r) { s with call := s.call.set i (some { call with turns := call.turns ++ [r] }) }
        ((((s.client.get i).pathJob inetPton call.startAt).round (s.loop inetPton i call) r).2.map fun p => (i, p))

theorem turned_of (s : MatchStart) (a : MatchAct) :
    Turned inetPton s a ((matchStart inetPton).next s a).1 ((matchStart inetPton).next s a).2 := by
  cases a with
  | call i startAt =>
    cases hcall : s.call.get i with
    | none => simpa only [matchStart, hcall] using Turned.begun hcall
    | some call => simpa only [matchStart, hcall] using Turned.idle
  | turn i r =>
    cases hcall : s.call.get i with
    | none => simpa only [matchStart, hcall] using Turned.idle
    | some call =>
      cases hrun : s.running inetPton i call with
      | false => simpa only [matchStart, hcall, hrun, Bool.false_eq_true, if_false] using Turned.idle
      | true => simpa only [matchStart, hcall, hrun, if_true] using Turned.turned hcall

/-- The datagrams sent so far, and what has come of them. -/
structure Spoken (token : Bytes) (h : List (Taken MatchStart MatchAct (Side × Packet))) (s : MatchStart) : Prop where
  tokens : ∀ i, (s.client.get i).peer.token = token
  /-- A call only sends marked probes and, once it has met the other PC, answers. -/
  sent : ∀ t ∈ h, ∀ sent ∈ t.out, sent.2.data = PUNCH_MAGIC ++ ascii "M" ++ token ∨
    sent.2.data = PUNCH_MAGIC ++ ascii "A" ++ token ∧ s.met inetPton sent.1 = true
  answered : ∀ i, s.answered inetPton i = true → s.met inetPton i.other = true

/-- What a call has met and has been answered stays so. -/
theorem Spoken.of_kept {token : Bytes} {h : List (Taken MatchStart MatchAct (Side × Packet))} {s s' : MatchStart}
    (ht : Spoken inetPton token h s) (hclient : s'.client = s.client)
    (hmet : ∀ i, s.met inetPton i = true → s'.met inetPton i = true)
    (hanswered : ∀ i, s'.answered inetPton i = true → s.answered inetPton i = true) : Spoken inetPton token h s' where
  tokens i := by
    rw [hclient]
    exact ht.tokens i
  sent t hmem sent hsent := (ht.sent t hmem sent hsent).imp_right fun hack => ⟨hack.1, hmet _ hack.2⟩
  answered i hi := hmet _ (ht.answered i (hanswered i hi))

theorem Spoken.quiet {token : Bytes} {h : List (Taken MatchStart MatchAct (Side × Packet))} {s : MatchStart}
    (ht : Spoken inetPton token h s) {t : Taken MatchStart MatchAct (Side × Packet)} (hout : t.out = []) :
    Spoken inetPton token (t :: h) s where
  tokens := ht.tokens
  sent t' hmem sent hsent := by
    rcases List.mem_cons.1 hmem with rfl | hold
    · rw [hout] at hsent
      cases hsent
    · exact ht.sent t' hold sent hsent
  answered := ht.answered

/-- What a call reads the other one has sent. -/
theorem Spoken.heard {token : Bytes} {h : List (Taken MatchStart MatchAct (Side × Packet))} {s : MatchStart} {i : Side}
    {r : Round} (ht : Spoken inetPton token h s) (hcarried : Carried inetPton h s (.turn i r)) {sender : SockAddr}
    {data : Bytes} (hdata : r.read = .datagram sender data) :
    data = PUNCH_MAGIC ++ ascii "M" ++ token ∨
      data = PUNCH_MAGIC ++ ascii "A" ++ token ∧ s.met inetPton i.other = true := by
  have hsent := hcarried.2
  rw [hdata] at hsent
  obtain ⟨t, ht', sent, hsent, hside, rfl⟩ := hsent
  rw [← hside]
  exact ht.sent t ht' sent hsent

namespace MatchStart

variable (s : MatchStart) (i : Side)

/-- The loop of a call with this. -/
theorem met_eq {call : PunchCall} (hcall : s.call.get i = some call) :
    s.met inetPton i = (s.loop inetPton i call).ackedPeer := by
  rw [met, hcall, Option.any_some]

theorem answered_eq {call : PunchCall} (hcall : s.call.get i = some call) :
    s.answered inetPton i = (s.loop inetPton i call).gotAck := by
  rw [answered, hcall, Option.any_some]

/-- Another call at the side `i` leaves the other side's as it was. -/
theorem met_set_other (call : Option PunchCall) :
    MatchStart.met inetPton { s with call := s.call.set i call } i.other = s.met inetPton i.other := by
  simp [met, loop]

theorem answered_set_other (call : Option PunchCall) :
    MatchStart.answered inetPton { s with call := s.call.set i call } i.other = s.answered inetPton i.other := by
  simp [answered, loop]

end MatchStart

theorem spoken_turned {token : Bytes} {h : List (Taken MatchStart MatchAct (Side × Packet))} {s : MatchStart} {i : Side}
    {r : Round} {call : PunchCall} (ht : Spoken inetPton token h s) (hcall : s.call.get i = some call)
    (hcarried : Carried inetPton h s (.turn i r)) {t : Taken MatchStart MatchAct (Side × Packet)}
    (hout : t.out =
      (((s.client.get i).pathJob inetPton call.startAt).round (s.loop inetPton i call) r).2.map fun p => (i, p)) :
    Spoken inetPton token (t :: h)
      { s with call := s.call.set i (some { call with turns := call.turns ++ [r] }) } := by
  have hmetOther := s.met_set_other inetPton i (some { call with turns := call.turns ++ [r] })
  have hansweredOther := s.answered_set_other inetPton i (some { call with turns := call.turns ++ [r] })
  have hself : (s.call.set i (some { call with turns := call.turns ++ [r] })).get i =
      some { call with turns := call.turns ++ [r] } := Sides.get_set_self ..
  generalize hs' : ({ s with call := s.call.set i (some { call with turns := call.turns ++ [r] }) } : MatchStart) = s'
    at hmetOther hansweredOther
  generalize hjob : (s.client.get i).pathJob inetPton call.startAt = job at hout
  have hmatch : job.matchStart = true := by rw [← hjob]; rfl
  have htoken : job.token = token := by rw [← hjob]; exact ht.tokens i
  have hknown : PunchJob.Known (s.loop inetPton i call) := PunchJob.rounds_known _ rfl (p := .start) rfl _
  obtain ⟨hmeets, hanswers, hprobed⟩ := job.round_learns hmatch hknown r
  -- the loop after the turn
  have hself : s'.call.get i = some { call with turns := call.turns ++ [r] } := by rw [← hs']; exact hself
  have hclient : s'.client = s.client := by rw [← hs']
  have hloop : s'.loop inetPton i { call with turns := call.turns ++ [r] } = (job.round (s.loop inetPton i call) r).1 := by
    rw [← hs', ← hjob]
    exact PunchJob.rounds_append _ _ _ _
  have hmetSelf : s'.met inetPton i = (job.round (s.loop inetPton i call) r).1.ackedPeer := by
    rw [s'.met_eq inetPton i hself, hloop]
  have hmet : ∀ j, s.met inetPton j = true → s'.met inetPton j = true := by
    intro j hj
    rcases Side.eq_or_other i j with rfl | rfl
    · rw [hmetSelf]
      exact hmeets (s.met_eq inetPton j hcall ▸ hj)
    · rw [hmetOther]
      exact hj
  refine ⟨fun j => by rw [hclient]; exact ht.tokens j, fun t' hmem sent hsent => ?_, fun j hj => ?_⟩
  · rcases List.mem_cons.1 hmem with rfl | hold
    · rw [hout] at hsent
      obtain ⟨packet, hpacket, rfl⟩ := List.mem_map.1 hsent
      rcases job.round_sent _ r hpacket with hprobe | ⟨hack, hlistens, sender, data, hdata, hkind⟩
      · left
        rw [hprobe, PunchJob.probe, if_pos hmatch, PunchJob.matchProbe, htoken]
      · -- only a marked probe can have been answered
        right
        refine ⟨by rw [hack, PunchJob.ack, htoken], ?_⟩
        have hmarked : data = job.matchProbe := by
          refine hkind.resolve_left fun hplain => ?_
          rcases ht.heard inetPton hcarried hdata with hm | ⟨ha, -⟩
          · rw [← htoken] at hm
            exact job.matchProbe_ne_plain (hm.symm.trans hplain)
          · rw [← htoken] at ha
            exact job.ack_ne_plain (ha.symm.trans hplain)
        rw [hmetSelf]
        exact hprobed hlistens sender (hmarked ▸ hdata)
    · exact (ht.sent t' hold sent hsent).imp_right fun hack => ⟨hack.1, hmet _ hack.2⟩
  · rcases Side.eq_or_other i j with rfl | rfl
    · rw [s'.answered_eq inetPton j hself, hloop] at hj
      rcases hanswers hj with hbefore | ⟨sender, hack⟩
      · exact hmet _ (ht.answered j ((s.answered_eq inetPton j hcall).trans hbefore))
      · rcases ht.heard inetPton hcarried hack with hm | ⟨-, hthere⟩
        · rw [← htoken] at hm
          exact absurd hm job.ack_ne_matchProbe
        · exact hmet _ hthere
    · exact hmet _ (ht.answered i.other (hansweredOther ▸ hj))

theorem spoken_next {token : Bytes} {h : List (Taken MatchStart MatchAct (Side × Packet))} {s : MatchStart}
    (ht : Spoken inetPton token h s) {a : MatchAct} (ha : Carried inetPton h s a) :
    Spoken inetPton token ((matchStart inetPton).taken s a :: h) ((matchStart inetPton).next s a).1 := by
  have hstep := turned_of inetPton s a
  have hout : ((matchStart inetPton).taken s a).out = ((matchStart inetPton).next s a).2 := rfl
  generalize ((matchStart inetPton).next s a).1 = s' at hstep ⊢
  generalize ((matchStart inetPton).next s a).2 = out at hstep hout
  cases hstep with
  | idle => exact ht.quiet inetPton hout
  | @begun i startAt hcall =>
    have hkept : Spoken inetPton token h { s with call := s.call.set i (some ⟨startAt, []⟩) } := by
      refine ht.of_kept inetPton rfl (fun j hj => ?_) fun j hj => ?_
      -- a call that has not begun has met nobody
      · rcases Side.eq_or_other i j with rfl | rfl
        · rw [MatchStart.met, hcall] at hj
          cases hj
        · simpa [MatchStart.met, MatchStart.loop] using hj
      · rcases Side.eq_or_other i j with rfl | rfl
        · rw [MatchStart.answered, Sides.get_set_self] at hj
          cases hj
        · simpa [MatchStart.answered, MatchStart.loop] using hj
    exact hkept.quiet inetPton hout
  | turned hcall => exact spoken_turned inetPton ht hcall ha hout

/-- Whatever is lost or late, a call that has an answer has reached the other PC at match start. -/
theorem answered_met {client : Sides DirectPlay} {token : Bytes} (hmatched : Matched client token) {as : List MatchAct}
    (h : (matchStart inetPton).Meets (Carried inetPton) (.of client) [] as) (i : Side)
    (hi : ((matchStart inetPton).run (.of client) as).answered inetPton i = true) :
    ((matchStart inetPton).run (.of client) as).met inetPton i.other = true := by
  have hstart : Spoken inetPton token [] (.of client) := by
    refine ⟨fun i => ?_, fun t ht => absurd ht List.not_mem_nil, fun i hi => ?_⟩
    · show (client.get i).peer.token = token
      rw [hmatched.peers i]
    · have hnone : (MatchStart.of client).call.get i = none := by
        induction i using Side.cases with
        | zero => rfl
        | one => rfl
      rw [MatchStart.answered, hnone] at hi
      cases hi
  exact (Machine.inv_of_steps (Spoken inetPton token) (fun _ _ _ ht ha => spoken_next inetPton ht ha) hstart h).answered i hi

/-! ## Which losses part the roads -/

/-- The call of a PC has read this datagram before it ended. -/
def MatchStart.Hears (s : MatchStart) (i : Side) (data : Bytes) : Prop :=
  ∃ call ∈ s.call.get i, ∃ sender, .datagram sender data ∈ (s.client.get i).pathReads inetPton call

def AllHealthy (client : Sides DirectPlay) (s : MatchStart) : Prop :=
  s.client = client ∧ ∀ i, ∀ call ∈ s.call.get i, ∀ r ∈ call.turns, Healthy inetPton (s.client.get i) r

theorem allHealthy_next {client : Sides DirectPlay} {h : List (Taken MatchStart MatchAct (Side × Packet))} {s : MatchStart}
    (hs : AllHealthy inetPton client s) {a : MatchAct} (ha : Carried inetPton h s a) :
    AllHealthy inetPton client ((matchStart inetPton).next s a).1 := by
  obtain ⟨hclient, hturns⟩ := hs
  have hstep := turned_of inetPton s a
  generalize ((matchStart inetPton).next s a).1 = s' at hstep ⊢
  generalize ((matchStart inetPton).next s a).2 = out at hstep
  cases hstep with
  | idle => exact ⟨hclient, hturns⟩
  | @begun i startAt hcall =>
    refine ⟨hclient, fun j call hj r hr => ?_⟩
    rcases Side.eq_or_other i j with rfl | rfl
    · rw [Sides.get_set_self] at hj
      obtain rfl := Option.some.inj hj
      cases hr
    · rw [Sides.get_set_other] at hj
      exact hturns _ call hj r hr
  | @turned i r call hcall =>
    refine ⟨hclient, fun j call' hj r' hr => ?_⟩
    rcases Side.eq_or_other i j with rfl | rfl
    · rw [Sides.get_set_self] at hj
      obtain rfl := Option.some.inj hj
      rcases List.mem_append.1 hr with hold | hnew
      · exact hturns _ call hcall r' hold
      · obtain rfl := List.mem_singleton.1 hnew
        exact ha.1
    · rw [Sides.get_set_other] at hj
      exact hturns _ call' hj r' hr

theorem allHealthy_run {client : Sides DirectPlay} {as : List MatchAct}
    (h : (matchStart inetPton).Meets (Carried inetPton) (.of client) [] as) :
    AllHealthy inetPton client ((matchStart inetPton).run (.of client) as) := by
  refine Machine.inv_of_steps (fun _ s => AllHealthy inetPton client s)
    (fun _ _ _ hs ha => allHealthy_next inetPton hs ha) ⟨rfl, fun i call hcall => ?_⟩ h
  match i with
  | 0 => cases hcall
  | 1 => cases hcall

section

variable {c : DirectPlay} {call : PunchCall}

theorem sender_of_healthy (h : ∀ r ∈ call.turns, Healthy inetPton c r) {sender : SockAddr} {data : Bytes}
    (hmem : .datagram sender data ∈ c.pathReads inetPton call) : c.offered inetPton sender = true ∧ sender.port ≠ 0 := by
  obtain ⟨r, hr, hdata⟩ := PunchJob.turn_of_reads _ hmem
  have hr := h r hr
  rwa [Healthy, hdata] at hr

/-- Where the sockets work every answer counts, since its host is offered. -/
theorem answers_of_healthy (h : ∀ r ∈ call.turns, Healthy inetPton c r) :
    (c.pathJob inetPton call.startAt).answers (c.pathReads inetPton call) =
      (c.pathJob inetPton call.startAt).acks (c.pathReads inetPton call) := by
  refine List.dropWhile_eq_self_iff.2 fun hne => ?_
  have hmem := (PunchJob.mem_acks _).1 (List.getElem_mem hne)
  rw [Bool.not_eq_true', Bool.not_eq_false]
  exact (sender_of_healthy inetPton h hmem).1

/-- And a call has what it needs once a marked probe and an answer have come. -/
theorem proves_of_healthy {token : Bytes} (hp : c.punches = true) (htoken : c.peer.token = token)
    (h : ∀ r ∈ call.turns, Healthy inetPton c r) :
    c.Proves inetPton call ↔
      (∃ sender, .datagram sender (PUNCH_MAGIC ++ ascii "M" ++ token) ∈ c.pathReads inetPton call) ∧
        ∃ sender, .datagram sender (PUNCH_MAGIC ++ ascii "A" ++ token) ∈ c.pathReads inetPton call := by
  subst htoken
  have hunfailed : .failed ∉ c.pathReads inetPton call := by
    intro hmem
    obtain ⟨r, hr, hfailed⟩ := PunchJob.turn_of_reads _ hmem
    have hr := h r hr
    rwa [Healthy, hfailed] at hr
  have hacks (sender : SockAddr) : sender ∈ (c.pathJob inetPton call.startAt).acks (c.pathReads inetPton call) ↔
      .datagram sender (c.pathJob inetPton call.startAt).ack ∈ c.pathReads inetPton call := PunchJob.mem_acks _
  rw [DirectPlay.Proves, if_pos hp]
  constructor
  · rintro ⟨-, hproves⟩
    obtain ⟨sender, hlast, -⟩ := hproves.answered
    rw [answers_of_healthy inetPton h] at hlast
    exact ⟨hproves.met, sender, (hacks sender).1 (List.mem_of_getLast? hlast)⟩
  · rintro ⟨hmet, answer, hanswer⟩
    have hcandidates : candidatesOf inetPton c.peer ≠ [] := by
      obtain ⟨candidate, hmem, -⟩ := List.any_eq_true.1 (sender_of_healthy inetPton h hanswer).1
      exact List.ne_nil_of_mem hmem
    refine ⟨hcandidates, hunfailed, hmet, ?_⟩
    have hne := List.ne_nil_of_mem ((hacks answer).2 hanswer)
    rw [answers_of_healthy inetPton h]
    refine ⟨_, List.getLast?_eq_some_getLast hne, ?_⟩
    exact (sender_of_healthy inetPton h ((hacks _).1 (List.getLast_mem hne))).2

end

section

variable {client : Sides DirectPlay} {token : Bytes} {s : MatchStart}

theorem met_iff (hmatched : Matched client token) (hs : AllHealthy inetPton client s) (i : Side) :
    s.met inetPton i = true ↔ s.Hears inetPton i (PUNCH_MAGIC ++ ascii "M" ++ token) := by
  obtain ⟨rfl, -⟩ := hs
  have htoken : (s.client.get i).peer.token = token := by rw [hmatched.peers i]
  unfold MatchStart.met MatchStart.Hears
  cases s.call.get i with
  | none => simp
  | some call =>
    have hheard := ((s.client.get i).pathJob inetPton call.startAt).rounds_heard rfl (p := .start) rfl call.turns
    have hlearned := ((s.client.get i).pathJob inetPton call.startAt).foldl_learn_met
      ((s.client.get i).pathReads inetPton call) ⟨false, none, false⟩
    rw [Option.any_some, show (s.loop inetPton i call).ackedPeer = (s.loop inetPton i call).heard.met from rfl,
      show (s.loop inetPton i call).heard = _ from hheard]
    refine hlearned.trans ?_
    simp [← htoken, PunchJob.matchProbe, DirectPlay.pathJob, punchJob]

theorem answered_of_hears (hmatched : Matched client token) (hs : AllHealthy inetPton client s) {i : Side}
    (h : s.Hears inetPton i (PUNCH_MAGIC ++ ascii "A" ++ token)) : s.answered inetPton i = true := by
  obtain ⟨rfl, hturns⟩ := hs
  have htoken : (s.client.get i).peer.token = token := by rw [hmatched.peers i]
  obtain ⟨call, hcall, sender, hmem⟩ := h
  have hheard := ((s.client.get i).pathJob inetPton call.startAt).rounds_heard rfl (p := .start) rfl call.turns
  have hlearned := ((s.client.get i).pathJob inetPton call.startAt).foldl_learn_answer
    ((s.client.get i).pathReads inetPton call) ⟨false, none, false⟩
  have hack : .datagram sender ((s.client.get i).pathJob inetPton call.startAt).ack ∈
      (s.client.get i).pathReads inetPton call := by
    simpa [← htoken, PunchJob.ack, DirectPlay.pathJob, punchJob] using hmem
  have hne := List.ne_nil_of_mem ((PunchJob.mem_acks _).2 hack)
  simp only [Option.isSome_none, Bool.false_eq_true, if_false, Option.or_none] at hlearned
  rw [answers_of_healthy inetPton (hturns i call hcall), List.getLast?_eq_some_getLast hne, Option.map_some] at hlearned
  have hanswer : (s.loop inetPton i call).heard.answer = _ := (congrArg (·.answer) hheard).trans hlearned
  rw [s.answered_eq inetPton i hcall]
  by_contra hgot
  simp only [Punching.heard, hgot, if_false] at hanswer
  cases hanswer

end

/-- Two PCs that were paired, on a network that only loses, delays or doubles datagrams: their roads part exactly
when one of them has been met and answered and all answers to the other are lost or late. -/
theorem same_road_of_answers {client : Sides DirectPlay} {token : Bytes} (hmatched : Matched client token)
    {as : List MatchAct} (h : (matchStart inetPton).Meets (Carried inetPton) (.of client) [] as) :
    let s := (matchStart inetPton).run (.of client) as
    (s.Proves inetPton 0 ↔ s.Proves inetPton 1) ↔
      ∀ i, s.Hears inetPton i (PUNCH_MAGIC ++ ascii "M" ++ token) → s.Hears inetPton i (PUNCH_MAGIC ++ ascii "A" ++ token) →
        s.Hears inetPton i.other (PUNCH_MAGIC ++ ascii "A" ++ token) := by
  intro s
  have hhealthy := allHealthy_run inetPton h
  have hmet (i : Side) : s.Hears inetPton i (PUNCH_MAGIC ++ ascii "A" ++ token) →
      s.Hears inetPton i.other (PUNCH_MAGIC ++ ascii "M" ++ token) := by
    intro hanswer
    exact (met_iff inetPton hmatched hhealthy i.other).1
      (answered_met inetPton hmatched h i (answered_of_hears inetPton hmatched hhealthy hanswer))
  have hproves (i : Side) : s.Proves inetPton i ↔ s.Hears inetPton i (PUNCH_MAGIC ++ ascii "M" ++ token) ∧
      s.Hears inetPton i (PUNCH_MAGIC ++ ascii "A" ++ token) := by
    obtain ⟨hclient, hturns⟩ := hhealthy
    have hpunches : (s.client.get i).punches = true := by rw [hclient]; exact hmatched.on i
    have htoken : (s.client.get i).peer.token = token := by rw [hclient, hmatched.peers i]
    constructor
    · rintro ⟨call, hcall, hproves⟩
      obtain ⟨hmarked, hanswer⟩ := (proves_of_healthy inetPton hpunches htoken (hturns i call hcall)).1 hproves
      exact ⟨⟨call, hcall, hmarked⟩, call, hcall, hanswer⟩
    · rintro ⟨⟨call, hcall, hmarked⟩, call', hcall', hanswer⟩
      obtain rfl : call = call' := Option.some.inj (hcall.symm.trans hcall')
      exact ⟨call, hcall, (proves_of_healthy inetPton hpunches htoken (hturns i call hcall)).2 ⟨hmarked, hanswer⟩⟩
  have hmet₀ := hmet 0
  have hmet₁ := hmet 1
  rw [show Side.other 0 = 1 from rfl] at hmet₀
  rw [show Side.other 1 = 0 from rfl] at hmet₁
  rw [hproves 0, hproves 1]
  constructor
  · intro hsame i hmarked hanswer
    match i with
    | 0 => exact (hsame.1 ⟨hmarked, hanswer⟩).2
    | 1 => exact (hsame.2 ⟨hmarked, hanswer⟩).2
  · intro hanswers
    constructor
    · exact fun ⟨hmarked, hanswer⟩ => ⟨hmet₀ hanswer, hanswers 0 hmarked hanswer⟩
    · exact fun ⟨hmarked, hanswer⟩ => ⟨hmet₁ hanswer, hanswers 1 hmarked hanswer⟩

end

namespace Sample

/-- `inet_pton`, of the two public addresses. -/
def inetPtonOfBoth (ip : Bytes) : Option UInt32 :=
  if ip = ascii "1.2.3.4" then some 0x01020304 else if ip = ascii "5.6.7.8" then some 0x05060708 else none

/-- A client that was paired with another one. -/
def paired (ip : String) (port : UInt16) (peerIp : String) (peerPort : UInt16) : DirectPlay :=
  { DirectPlay.new 23457 with
    punch := ⟨true, 23457, ascii ip, port, [], 0⟩
    directEnabled := true
    peer := ⟨ascii peerIp, peerPort, [], 0, ascii "00"⟩ }

def bothPaired : Sides DirectPlay := ⟨paired "1.2.3.4" 4000 "5.6.7.8" 5000, paired "5.6.7.8" 5000 "1.2.3.4" 4000⟩

def addrs : Sides SockAddr := ⟨⟨0x01020304, 4000⟩, ⟨0x05060708, 5000⟩⟩

/-- A turn at a time, and a datagram of the other PC. -/
def turnAt (now : UInt32) (read : Read) : Round := ⟨now, now, now, now, now, read, now, now, now⟩

def fromOther (i : Side) (kind : String) : Read :=
  .datagram (addrs.get i.other) (PUNCH_MAGIC ++ ascii kind ++ ascii "00")

/-- The second PC answers the first one and is met by it. -/
def oneAnswered : List MatchAct :=
  [.call 0 1000, .call 1 1000, .turn 0 (turnAt 1000 .nothing), .turn 1 (turnAt 1010 (fromOther 1 "M")),
    .turn 0 (turnAt 1020 (fromOther 0 "A")), .turn 0 (turnAt 1030 (fromOther 0 "M"))]

/-- Nothing more reaches the second PC. -/
def answersLost : List MatchAct := oneAnswered ++ [.turn 0 (turnAt 1200 .nothing), .turn 1 (turnAt 6000 .nothing)]

/-- One answer does. -/
def answersHeard : List MatchAct :=
  oneAnswered ++ [.turn 1 (turnAt 1040 (fromOther 1 "A")), .turn 0 (turnAt 1200 .nothing), .turn 1 (turnAt 1200 .nothing)]

end Sample

/-- Where an answer gets through, both go direct. -/
theorem same_road_answered :
    ((matchStart Sample.inetPtonOfBoth).run (.of Sample.bothPaired) Sample.answersHeard).Proves Sample.inetPtonOfBoth 0 ↔
      ((matchStart Sample.inetPtonOfBoth).run (.of Sample.bothPaired) Sample.answersHeard).Proves
        Sample.inetPtonOfBoth 1 :=
  (same_road_iff Sample.inetPtonOfBoth Sample.bothPaired Sample.answersHeard (v := true) (w := true)
    (by decide +kernel) (by decide +kernel)).1 rfl

/-- Where all answers to one PC are lost, that PC takes the relay and the other goes direct. -/
theorem roads_part :
    ¬ ∀ (inetPton : Bytes → Option UInt32) (client : Sides DirectPlay) (token : Bytes) (as : List MatchAct) (v w : Bool),
      Matched client token → (matchStart inetPton).Meets (Carried inetPton) (.of client) [] as →
        ((matchStart inetPton).run (.of client) as).verdict inetPton 0 = some v →
          ((matchStart inetPton).run (.of client) as).verdict inetPton 1 = some w → v = w := by
  intro h
  have hmatched : Matched Sample.bothPaired (ascii "00") := ⟨by decide +kernel, by decide +kernel⟩
  exact absurd (h Sample.inetPtonOfBoth Sample.bothPaired (ascii "00") Sample.answersLost true false hmatched
    (by decide +kernel) (by decide +kernel) (by decide +kernel)) (by decide)

end Sf4e.Netplay
