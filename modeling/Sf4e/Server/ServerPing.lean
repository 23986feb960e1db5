import Sf4e.Server.Exchange
/-!
# The time to the lobby server

`Ping` reads the clock, and the next reply with `ok` set that `Poll` gets through is
measured against that reading: the reply to a retransmission, to a ping that was given up
or to another request.
-/
open Sf4e.Lib Sf4e.Session

namespace Sf4e.Server

/-- The reply says `ok`, and nothing that is read of it before the clock throws. -/
def reachesClock (reply : Json) : Bool :=
  saysOk reply && (str reply "code" "").isOk && (reply.value (ascii "session_port") Json.getInt32 0).isOk &&
    (str reply "secret" "").isOk && (reply.value (ascii "lobbies") Json.getInt32 0).isOk &&
    (reply.value (ascii "capacity") Json.getInt32 0).isOk

def Request.isPing : Request → Bool
  | .ping => true
  | _ => false

/-! ## What a call does to the clock -/

namespace Matchmaker

/-- The stamp that waits for a reply, and the time that was found last. -/
def pingTime (m : Matchmaker) : UInt64 × Int32 := (m.pingSentAt, m.serverPingMs)

/-- The two once a reply has come that gets as far as the clock. -/
def measured (m : Matchmaker) (later : UInt64) : UInt64 × Int32 :=
  if m.pingSentAt ≠ 0 then (0, Int32.ofInt (later - m.pingSentAt).toNat) else m.pingTime

/-- `Ping` stamps the client before it sends. -/
def stamped (m : Matchmaker) (r : Request) (time : UInt64) : Matchmaker :=
  if r.isPing && m.configured then { m with pingSentAt := time } else m

/-- What a `Poll` makes of the datagram it finds. -/
def hears (parse : Bytes → Option Json) (m : Matchmaker) (t : Turn) : Option Json :=
  t.packet.bind fun p =>
    if m.listens t.now && p.data ≠ [] && p.data.length ≤ 1499 && p.ip = m.serverIp && p.port = m.serverPort then
      parse (p.data.takeWhile (· ≠ 0))
    else none

theorem andThen_append (fs gs : List (Matchmaker → Except JsonError Matchmaker)) (m : Matchmaker) :
    m.andThen (fs ++ gs) = if (m.andThen fs).2 = none then (m.andThen fs).1.andThen gs else m.andThen fs := by
  induction fs generalizing m with
  | nil => rfl
  | cons f fs ih =>
    rw [List.cons_append, andThen, andThen]
    cases f m with
    | error e => rfl
    | ok m' => exact ih m'

/-- The statements that come before the clock. -/
theorem read_first (m : Matchmaker) (reply : Json) (later : UInt64) (hok : saysOk reply = true) :
    ((m.andThen ((readReply reply later).take 5)).2 = none ↔ reachesClock reply = true) ∧
      (m.andThen ((readReply reply later).take 5)).1.pingTime = m.pingTime := by
  have hlobbies (fallback : Int32) := Json.isOk_value reply (ascii "lobbies") Json.getInt32 0 fallback
  have hcapacity (fallback : Int32) := Json.isOk_value reply (ascii "capacity") Json.getInt32 0 fallback
  simp only [readReply, List.cons_append, List.take_succ_cons, List.take_zero, andThen]
  unfold reachesClock
  rw [hok]
  cases str reply "code" "" with
  | error e => simp [bind, Except.bind, Except.isOk, Except.toBool]
  | ok code =>
    cases reply.value (ascii "session_port") Json.getInt32 0 with
    | error e => simp [bind, Except.bind, pure, Except.pure, Except.isOk, Except.toBool, pingTime]
    | ok port =>
      cases str reply "secret" "" with
      | error e => simp [bind, Except.bind, pure, Except.pure, Except.isOk, Except.toBool, pingTime]
      | ok secret =>
        simp only [bind, Except.bind, pure, Except.pure]
        rw [hlobbies m.lobbiesInUse]
        cases reply.value (ascii "lobbies") Json.getInt32 m.lobbiesInUse with
        | error e => simp [Except.isOk, Except.toBool, pingTime]
        | ok lobbies =>
          dsimp only
          rw [hcapacity m.capacity]
          cases reply.value (ascii "capacity") Json.getInt32 m.capacity with
          | error e => simp [Except.isOk, Except.toBool, pingTime]
          | ok capacity => simp [Except.isOk, Except.toBool, pingTime]

/-- Those that come after it. -/
theorem read_last (reply : Json) (later : UInt64) :
    ∀ f ∈ (readReply reply later).drop 6, ∀ m m', f m = .ok m' → m'.pingTime = m.pingTime := by
  intro f hf m m' h
  simp only [readReply, List.cons_append, List.drop_succ_cons, List.drop_zero, List.mem_cons, List.nil_append] at hf
  rcases hf with rfl | rfl | rfl | hf
  · obtain ⟨n, -, h⟩ := bind_ok h
    cases h
    rfl
  · obtain ⟨n, -, h⟩ := bind_ok h
    cases h
    rfl
  · obtain ⟨n, -, h⟩ := bind_ok h
    cases h
    rfl
  · exact readList_keeps pingTime (fun _ _ => rfl) reply f hf m m' h

theorem read_pingTime (m : Matchmaker) (reply : Json) (later : UInt64) (hok : saysOk reply = true) :
    (m.andThen (readReply reply later)).1.pingTime = if reachesClock reply then m.measured later else m.pingTime := by
  obtain ⟨hfirst, hkept⟩ := m.read_first reply later hok
  have hlast := read_last reply later
  have hsplit : readReply reply later = (readReply reply later).take 5 ++ (readReply reply later).drop 5 :=
    (List.take_append_drop 5 _).symm
  rw [hsplit, andThen_append]
  split
  · rename_i hnone
    -- the clock is the fifth step, and it finds the stamp as it was
    rw [if_pos (hfirst.1 hnone)]
    generalize (m.andThen ((readReply reply later).take 5)).1 = m₁ at hkept
    obtain ⟨hsent, hms⟩ := Prod.mk.inj hkept
    have hclock : (readReply reply later).drop 5 =
        (fun m => .ok (if m.pingSentAt ≠ 0 then
          { m with serverPingMs := Int32.ofInt (later - m.pingSentAt).toNat, pingSentAt := 0 } else m)) ::
          (readReply reply later).drop 6 := rfl
    rw [hclock, andThen, andThen_keeps pingTime hlast]
    unfold measured
    rw [← hkept, ← hsent]
    split <;> rfl
  · -- an exception before it: the rest is not run
    rename_i hsome
    rw [if_neg (fun h => hsome (hfirst.2 h))]
    exact hkept

/-- The `try` block. -/
theorem handleReply_pingTime (m : Matchmaker) (reply : Json) (later : UInt64) :
    (m.handleReply reply later).pingTime = if reachesClock reply then m.measured later else m.pingTime := by
  have hread := m.read_pingTime reply later
  unfold handleReply
  split
  · rename_i hvalue
    have hno : reachesClock reply = false := by simp [reachesClock, saysOk, hvalue]
    rw [hno]
    rfl
  · rename_i hvalue
    have hok : saysOk reply = true := by simp [saysOk, hvalue]
    rw [← hread hok]
    split
    · rename_i heq
      rw [heq]
      rfl
    · rename_i heq
      rw [heq]
      rfl
  · rename_i hvalue
    have hno : reachesClock reply = false := by simp [reachesClock, saysOk, hvalue]
    rw [hno]
    split <;> rfl

theorem receive_pingTime (parse : Bytes → Option Json) (m : Matchmaker) (p : Packet) (later : UInt64) :
    (m.receive parse p later).pingTime =
      if p.data ≠ [] ∧ p.data.length ≤ 1499 ∧ (p.ip = m.serverIp ∧ p.port = m.serverPort) ∧
          (parse (p.data.takeWhile (· ≠ 0))).any reachesClock then m.measured later
      else m.pingTime := by
  unfold receive
  split
  · rename_i hfits
    rw [if_neg (by rintro ⟨hdata, hlen, -⟩; simp [hdata, Nat.not_lt.2 hlen] at hfits)]
  · rename_i hfits
    simp only [Bool.or_eq_true, decide_eq_true_eq, not_or, Nat.not_lt] at hfits
    split
    · rename_i hsender
      rw [if_neg (by rintro ⟨-, -, ⟨hip, hport⟩, -⟩; simp [hip, hport] at hsender)]
    · rename_i hsender
      simp only [Bool.or_eq_true, decide_eq_true_eq, not_or, not_not] at hsender
      cases parse (p.data.takeWhile (· ≠ 0)) with
      | none => simp [badReply, pingTime]
      | some reply => simp only [handleReply_pingTime, Option.any_some, hfits, hsender, ne_eq, not_false_iff, true_and, and_self]

theorem poll_pingTime (parse : Bytes → Option Json) (m : Matchmaker) (t : Turn) :
    (m.poll parse t).1.pingTime =
      if (m.hears parse t).any reachesClock then m.measured t.later else m.pingTime := by
  obtain ⟨-, -, hip, hport⟩ := m.transmit_keeps t.now
  have htime : (m.transmit t.now).1.pingTime = m.pingTime ∧ (m.transmit t.now).1.measured t.later = m.measured t.later := by
    unfold transmit
    split <;> exact ⟨rfl, rfl⟩
  cases hlistens : m.listens t.now with
  | false =>
    have hdeaf : m.hears parse t = none := by
      unfold hears
      cases t.packet <;> simp [hlistens]
    rw [hdeaf, Option.any_none]
    simp only [listens, Bool.and_eq_false_iff, decide_eq_false_iff_not, Bool.not_eq_false'] at hlistens
    unfold poll
    split
    · rfl
    · rename_i hwait
      rw [if_pos (hlistens.resolve_left (fun h => hwait h))]
      rfl
  | true =>
    have hgoes := hlistens
    simp only [listens, Bool.and_eq_true, Bool.not_eq_true', decide_eq_true_eq] at hgoes
    unfold poll hears
    rw [if_neg (not_not.2 hgoes.1), if_neg (Bool.eq_false_iff.1 hgoes.2)]
    dsimp only
    cases t.packet with
    | none => exact htime.1
    | some p =>
      dsimp only
      rw [receive_pingTime, htime.1, htime.2, hip, hport, hlistens, Option.bind_some]
      refine if_congr ?_ rfl rfl
      by_cases hread : p.data ≠ [] ∧ p.data.length ≤ 1499 ∧ p.ip = m.serverIp ∧ p.port = m.serverPort
      · simp [hread]
      · have hno : (true && decide (p.data ≠ []) && decide (p.data.length ≤ 1499) && decide (p.ip = m.serverIp) &&
            decide (p.port = m.serverPort)) = false := by
          simpa [and_assoc] using hread
        rw [hno]
        simp only [Bool.false_eq_true, if_false, Option.any_none]
        exact iff_of_false (fun h => hread ⟨h.1, h.2.1, h.2.2.1⟩) (fun h => h)

theorem call_stamped (parse : Bytes → Option Json) (m : Matchmaker) (r : Request) (time : UInt64) (t : Turn) :
    m.call parse r time t = (m.stamped r time).request parse r t := by
  cases r with
  | ping =>
    unfold call ping stamped
    cases m.configured <;> rfl
  | _ => rfl

theorem poll_sent (parse : Bytes → Option Json) (m : Matchmaker) (t : Turn) :
    (m.poll parse t).2 = if m.listens t.now && m.due t.now then m.pending else none := by
  have hsent : (m.transmit t.now).2 = if m.due t.now then m.pending else none := by
    unfold transmit
    split <;> rfl
  unfold poll listens
  split
  · rename_i hidle
    simp [hidle]
  · rename_i hwait
    split
    · rename_i hgive
      simp [hgive]
    · rename_i hgoes
      rw [Bool.eq_false_iff.2 hgoes]
      rw [not_not] at hwait
      simp only [hwait, decide_true, Bool.not_false, Bool.true_and, ← hsent]
      split <;> rfl

end Matchmaker

/-! ## A client and what it has transmitted -/

/-- A datagram of the client: for which of its requests it was, whether that was a ping,
and the clock when it was sent. -/
structure Transmission where
  number : Nat
  ping : Bool
  time : UInt64

/-- The client, the number of the latest request, and whether that is a ping. What it has
transmitted is there oldest first. -/
structure Caller where
  client : Matchmaker
  requests : Nat
  pinging : Bool
  sent : List Transmission

/-- A call of the client. `answers` says which transmission the datagram that is found
answers, where it is a reply to one. -/
inductive ClientCall where
  | request (r : Request) (time : UInt64) (t : Turn) (answers : Option Nat)
  | poll (t : Turn) (answers : Option Nat)
  | cancel

def Caller.put (c : Caller) (client : Matchmaker) (now : UInt64) (sent : Option Json) : Caller :=
  { c with client, sent := c.sent ++ sent.toList.map fun _ => ⟨c.requests, c.pinging, now⟩ }

/-- The client, one call at a time, with what it sends. Any datagram may be found at any
time, from anywhere; `parse` is `json::parse`. -/
def caller (parse : Bytes → Option Json) : Machine Caller ClientCall Json where
  next c
    | .request r time t _ =>
      match c.client.call parse r time t with
      | none => (c, [])
      | some (client, sent) =>
        ({ c with requests := c.requests + 1, pinging := r.isPing }.put client t.now sent, sent.toList)
    | .poll t _ =>
      let (client, sent) := c.client.poll parse t
      (c.put client t.now sent, sent.toList)
    | .cancel => ({ c with client := c.client.cancel }, [])

def Caller.start (client : Matchmaker) : Caller := ⟨client, 0, false, []⟩

/-! ## Times that are real -/

/-- A `Poll`, as it is made: by which client, for which request, and what it finds. -/
structure Polling where
  client : Matchmaker
  number : Nat
  ping : Bool
  turn : Turn
  answers : Option Nat

/-- What it transmits. -/
def Polling.transmits (q : Polling) : List Transmission :=
  if q.client.listens q.turn.now && q.client.due q.turn.now then
    q.client.pending.toList.map fun _ => ⟨q.number, q.ping, q.turn.now⟩
  else []

/-- The `Poll` of a call. A request makes one once it is on its way. -/
def Caller.polls (c : Caller) : ClientCall → Option Polling
  | .request r time t answers =>
    if c.client.configured && r.toJson.Dumps then
      some ⟨(c.client.stamped r time).waitFor r.toJson, c.requests + 1, r.isPing, t, answers⟩
    else none
  | .poll t answers => some ⟨c.client, c.requests, c.pinging, t, answers⟩
  | .cancel => none

/-- Where this call sets `serverPingMs`, that is the time from a transmission of the latest
request, a ping, until the reply to it was found. -/
def PingIsReal (parse : Bytes → Option Json) (c : Caller) (a : ClientCall) : Prop :=
  ∀ q ∈ c.polls a, q.client.pingSentAt ≠ 0 → ((caller parse).next c a).1.client.pingSentAt = 0 →
    ∃ k ∈ q.answers, ∃ sent ∈ ((caller parse).next c a).1.sent[k]?,
      sent.ping = true ∧ sent.number = ((caller parse).next c a).1.requests ∧
        ((caller parse).next c a).1.client.serverPingMs.toInt = (q.turn.later.toNat : Int) - sent.time.toNat

/-- From the stamp and from `time` it is as long until `later`, as an `int` counts. -/
structure Spans (stamp time later : UInt64) : Prop where
  stamp : stamp.toNat % 2 ^ 32 = time.toNat % 2 ^ 32
  soon : later.toNat < time.toNat + 2 ^ 31
  after : time.toNat ≤ later.toNat + 2 ^ 31

/-- Where a `Poll` finds a reply that gets to the clock while a stamp is set, it answers a
transmission of the latest request, a ping, that was made when the clock stood at the stamp. -/
def PingInTime (parse : Bytes → Option Json) (c : Caller) (a : ClientCall) : Prop :=
  ∀ q ∈ c.polls a, q.client.pingSentAt ≠ 0 → (q.client.hears parse q.turn).any reachesClock = true →
    ∃ k ∈ q.answers, ∃ sent ∈ (c.sent ++ q.transmits)[k]?,
      sent.ping = true ∧ sent.number = q.number ∧ Spans q.client.pingSentAt sent.time q.turn.later

theorem spans_iff (stamp time later : UInt64) :
    (Int32.ofInt (later - stamp).toNat).toInt = (later.toNat : Int) - time.toNat ↔ Spans stamp time later := by
  have hstamp := stamp.toNat_lt
  have hlater := later.toNat_lt
  have hsize : Int32.size = 2 ^ 32 := rfl
  rw [Int32.toInt_ofInt, UInt64.toNat_sub, hsize, Int.bmod_def]
  constructor
  · intro h
    split at h
    · exact ⟨by omega, by omega, by omega⟩
    · exact ⟨by omega, by omega, by omega⟩
  · rintro ⟨hstamp, hsoon, hafter⟩
    split <;> omega

theorem next_of_polls (parse : Bytes → Option Json) {c : Caller} {a : ClientCall} {q : Polling} (h : c.polls a = some q) :
    ((caller parse).next c a).1 =
      ⟨(q.client.poll parse q.turn).1, q.number, q.ping, c.sent ++ q.transmits⟩ := by
  have hsent : c.sent ++ q.transmits =
      c.sent ++ (q.client.poll parse q.turn).2.toList.map fun _ => ⟨q.number, q.ping, q.turn.now⟩ := by
    rw [Matchmaker.poll_sent, Polling.transmits]
    split <;> rfl
  rw [hsent]
  cases a with
  | cancel => cases h
  | poll t answers =>
    cases h
    rfl
  | request r time t answers =>
    rw [Caller.polls] at h
    split at h
    · rename_i hgoes
      simp only [Bool.and_eq_true, decide_eq_true_eq] at hgoes
      cases h
      have hcall : c.client.call parse r time t =
          some (((c.client.stamped r time).waitFor r.toJson).poll parse t) := by
        have hconfigured : (c.client.stamped r time).configured = true := by
          unfold Matchmaker.stamped
          split <;> exact hgoes.1
        rw [Matchmaker.call_stamped, Matchmaker.request, hconfigured, if_neg (by decide), if_pos hgoes.2]
        rfl
      dsimp only [caller]
      rw [hcall]
      rfl
    · cases h

/-- A stamp is used up by the reply that gets to the clock, and by nothing else. -/
theorem stamp_used {parse : Bytes → Option Json} {m : Matchmaker} {t : Turn} (h : m.pingSentAt ≠ 0) :
    (m.poll parse t).1.pingSentAt = 0 ↔ (m.hears parse t).any reachesClock = true := by
  have htime := m.poll_pingTime parse t
  constructor
  · intro hzero
    by_contra hdeaf
    rw [if_neg hdeaf] at htime
    exact h ((congrArg Prod.fst htime).symm.trans hzero)
  · intro hheard
    rw [if_pos hheard, Matchmaker.measured, if_pos h] at htime
    exact congrArg Prod.fst htime

theorem ping_measured {parse : Bytes → Option Json} {m : Matchmaker} {t : Turn} (h : m.pingSentAt ≠ 0)
    (hheard : (m.hears parse t).any reachesClock = true) :
    (m.poll parse t).1.serverPingMs = Int32.ofInt (t.later - m.pingSentAt).toNat := by
  have htime := m.poll_pingTime parse t
  rw [if_pos hheard, Matchmaker.measured, if_pos h] at htime
  exact congrArg Prod.snd htime

theorem polls_serverPingMs {c : Caller} {a : ClientCall} {q : Polling} (h : c.polls a = some q) :
    q.client.serverPingMs = c.client.serverPingMs := by
  cases a with
  | cancel => cases h
  | poll t answers =>
    cases h
    rfl
  | request r time t answers =>
    rw [Caller.polls] at h
    split at h
    · cases h
      show (c.client.stamped r time).serverPingMs = _
      unfold Matchmaker.stamped
      split <;> rfl
    · cases h

/-- The time is what it was where a call does not use up a stamp. -/
theorem serverPingMs_kept (parse : Bytes → Option Json) (c : Caller) (a : ClientCall)
    (h : ∀ q ∈ c.polls a, q.client.pingSentAt ≠ 0 → ((caller parse).next c a).1.client.pingSentAt ≠ 0) :
    ((caller parse).next c a).1.client.serverPingMs = c.client.serverPingMs := by
  cases hpolls : c.polls a with
  | some q =>
    have hq := h q hpolls
    have htime := q.client.poll_pingTime parse q.turn
    rw [next_of_polls parse hpolls] at hq ⊢
    rw [← polls_serverPingMs hpolls]
    dsimp only at hq ⊢
    by_cases hstamp : q.client.pingSentAt = 0
    · -- without a stamp nothing is measured
      rw [Matchmaker.measured, if_neg (not_not.2 hstamp), ite_self] at htime
      exact congrArg Prod.snd htime
    · rw [if_neg (fun hheard => hq hstamp ((stamp_used hstamp).2 hheard))] at htime
      exact congrArg Prod.snd htime
  | none =>
    cases a with
    | cancel => rfl
    | poll t answers => cases hpolls
    | request r time t answers =>
      rw [Caller.polls] at hpolls
      split at hpolls
      · cases hpolls
      · rename_i hstops
        have hsame : (c.client.stamped r time).serverPingMs = c.client.serverPingMs ∧
            (c.client.stamped r time).configured = c.client.configured := by
          unfold Matchmaker.stamped
          split <;> exact ⟨rfl, rfl⟩
        dsimp only [caller]
        rw [Matchmaker.call_stamped, Matchmaker.request, hsame.2]
        cases hset : c.client.configured with
        | false => exact hsame.1
        | true =>
          rw [hset, Bool.true_and, decide_eq_true_eq] at hstops
          rw [if_neg (by decide), if_neg hstops]

theorem pingIsReal_iff (parse : Bytes → Option Json) (c : Caller) (a : ClientCall) :
    PingIsReal parse c a ↔ PingInTime parse c a := by
  refine forall_congr' fun q => forall_congr' fun hpolls => forall_congr' fun hstamp => ?_
  rw [next_of_polls parse hpolls]
  refine (imp_congr_left (stamp_used hstamp)).trans (forall_congr' fun hheard => ?_)
  rw [ping_measured hstamp hheard]
  simp only [spans_iff]

/-- In a run, every time that is set is real if and only if every reply that meets a stamp
answers the transmission that was stamped. -/
theorem server_ping_real (parse : Bytes → Option Json) (client : Matchmaker) (calls : List ClientCall) :
    (caller parse).Meets (fun _ => PingIsReal parse) (.start client) [] calls ↔
      (caller parse).Meets (fun _ => PingInTime parse) (.start client) [] calls :=
  Machine.meets_iff_of_inv (fun _ => True) (fun c a _ => pingIsReal_iff parse c a) (fun _ _ _ _ => trivial) trivial

namespace Sample

/-- `json::parse`, of the reply to a ping. -/
def parsePong (data : Bytes) : Option Json := if data = pongText then some (LobbyServer.start.pingReply 1) else none

def pong : Packet := ⟨0x0a0000fe, 23400, pongText⟩

/-- The first datagram of a Ping is lost. The second is answered within 30 ms. -/
def lostOnce : List ClientCall :=
  [.request .ping 1000 ⟨1000, 1000, none⟩ none, .poll ⟨1701, 1701, none⟩ none, .poll ⟨1731, 1731, some pong⟩ (some 1)]

end Sample

instance (parse : Bytes → Option Json) (c : Caller) (a : ClientCall) : Decidable (PingIsReal parse c a) := by
  unfold PingIsReal
  infer_instance

/-- The player is told 731 ms. -/
theorem lost_ping_counted :
    ((caller Sample.parsePong).run (.start (.new 0x0a0000fe 23400 true)) Sample.lostOnce).client.serverPingMs = 731 ∧
      ¬(caller Sample.parsePong).Meets (fun _ => PingIsReal Sample.parsePong) (.start (.new 0x0a0000fe 23400 true)) []
        Sample.lostOnce := by
  decide +kernel

end Sf4e.Server
