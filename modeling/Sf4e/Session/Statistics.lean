import Sf4e.Lib.Log
import Sf4e.Session.Runs
/-!
# Match statistics

A `match_start` is logged when a match is called, and a `match_end` when a result
comes in or the next match is called before one did. The server knows a single
clock, which is written in both places. `MatchLog` is what the lines amount to,
kept beside the server with what no line says: the activation of the lobby each
match was called in, and the match a result is the result of.

`statistics_iff`: the lines are right in exactly the runs whose match clocks are
ended by the match that was called last (`OwnClock`), which is said in the events
of the run.
-/
open Sf4e.Lib

namespace Sf4e.Session

open SessionServer

/-! ## The lines about matches -/

inductive MatchRecord where
  | started
  | ended (seconds : Int32) (reported : Bool)
  deriving DecidableEq

def Out.matchRecord? : Out → Option MatchRecord
  | .logStat (.matchEnd seconds _ reported) _ => some (.ended seconds reported)
  | .logStat (.matchStart _ _) _ => some .started
  | _ => none

def matchRecords (out : List Out) : List MatchRecord := out.filterMap Out.matchRecord?

theorem matchRecords_append (out more : List Out) :
    matchRecords (out ++ more) = matchRecords out ++ matchRecords more :=
  List.filterMap_append

theorem matchRecords_nil_of_forall {out : List Out} (h : ∀ o ∈ out, o.matchRecord? = none) : matchRecords out = [] :=
  List.filterMap_eq_nil_iff.2 h

/-- The message is a result that the server can read. -/
def ClientMsg.isResult : ClientMsg → Bool
  | .reportResults (some _) => true
  | _ => false

/-- The message is a result that the server handles. -/
def Stepping.hearsResult (p : Stepping) (m : IncomingMsg) : Bool :=
  (p.server.cidMap.find m.conn).isSome && m.msg.isResult

/-- The message ends the match clock: a result, three seconds or more into a match. -/
def Stepping.endsClock (p : Stepping) (m : IncomingMsg) : Bool :=
  p.hearsResult m && p.server.matchStartMs ≠ 0 && m.tick.nowMs - p.server.matchStartMs ≥ 3000

theorem Stepping.running_of_endsClock (p : Stepping) {m : IncomingMsg} (h : p.endsClock m = true) :
    p.server.matchStartMs ≠ 0 := by
  unfold Stepping.endsClock at h
  simp only [Bool.and_eq_true, decide_eq_true_eq] at h
  exact h.1.2

/-- The clock is left alone, and nothing is logged about a match. -/
structure ClockKept (p : Stepping) (r : Stepping × List Out) : Prop where
  clock : r.1.server.matchStartMs = p.server.matchStartMs
  records : matchRecords r.2 = []

theorem SessionServer.SameRoom.clock {s s' : SessionServer} (h : s.SameRoom s') : s'.matchStartMs = s.matchStartMs :=
  h.keeps fun _ _ _ _ _ => rfl

theorem clock_exchange (s : SessionServer) (tick : Tick) :
    (s.maybeExchangeDirectEndpoints tick).1.matchStartMs = s.matchStartMs ∧
      matchRecords (s.maybeExchangeDirectEndpoints tick).2 = [] := by
  unfold maybeExchangeDirectEndpoints
  repeat' split
  all_goals exact ⟨rfl, rfl⟩

theorem clock_rotateLoser (s : SessionServer) (loser : Int) : (s.rotateLoser loser).matchStartMs = s.matchStartMs := by
  unfold rotateLoser
  dsimp only
  repeat' split
  all_goals rfl

theorem clock_join (p : Stepping) (m : IncomingMsg) (cid : ConnectionID) (request : Option SessionJoinRequest) :
    ClockKept p (p.serve (p.server.onJoinRequest m cid request)) := by
  unfold Stepping.serve onJoinRequest
  cases request with
  | none => exact ⟨rfl, rfl⟩
  | some request =>
    dsimp only [registerToWait]
    cases p.server.joinRefusal request with
    | some reason => exact ⟨rfl, rfl⟩
    | none =>
      refine ⟨?_, rfl⟩
      dsimp only [seatMember]
      split <;> rfl

theorem clock_desyncReport (p : Stepping) (m : IncomingMsg) (report : Option DesyncReport) :
    ClockKept p (p.serve (p.server.onDesyncReport m.conn report m.tick)) := by
  unfold Stepping.serve onDesyncReport
  cases report with
  | none => exact ⟨rfl, rfl⟩
  | some report =>
    dsimp only
    split
    · exact ⟨rfl, rfl⟩
    · refine ⟨rfl, matchRecords_nil_of_forall ?_⟩
      rw [List.forall_mem_cons, List.forall_mem_map]
      exact ⟨rfl, fun _ _ => rfl⟩

theorem clock_results (p : Stepping) (loser : Int32) (tick : Tick) :
    let ends := p.server.matchStartMs ≠ 0 && tick.nowMs - p.server.matchStartMs ≥ 3000
    (p.serve (p.server.onReportResults (some loser) tick)).1.server.matchStartMs =
        (if ends then 0 else p.server.matchStartMs) ∧
      matchRecords (p.serve (p.server.onReportResults (some loser) tick)).2 =
        if ends then [.ended (wholeSeconds (tick.nowMs - p.server.matchStartMs)) true] else [] := by
  have hrest : ∀ s : SessionServer, (s.rotateLoser loser.toInt).clearWatching.clearReadyMarks.matchStartMs =
      s.matchStartMs := fun s => clock_rotateLoser s loser.toInt
  dsimp only [Stepping.serve, onReportResults, handleResults]
  rw [hrest]
  unfold closeMatchClock
  split
  · exact ⟨rfl, rfl⟩
  · exact ⟨rfl, rfl⟩

/-- What does not end the clock leaves it, and logs nothing about a match. -/
theorem clock_known {p : Stepping} {m : IncomingMsg} {cid : ConnectionID} (hresult : m.msg.isResult = false) :
    ClockKept p (handleKnown p m cid) := by
  unfold handleKnown
  cases hmsg : m.msg with
  | joinReq request => exact clock_join p m cid request
  | desyncReport report => exact clock_desyncReport p m report
  | lobbyReady request => exact ⟨(p.lobbyReady_room m request).clock, rfl⟩
  | forward msg fwd =>
    refine ⟨rfl, ?_⟩
    dsimp only [Stepping.serve, onForward]
    repeat' split
    all_goals rfl
  | setChara request => exact ⟨(p.server.setChara_room m.conn request).clock, rfl⟩
  | directOffer offer =>
    unfold Stepping.serve onDirectOffer
    dsimp only
    split
    · exact ⟨(clock_exchange _ _).1, (clock_exchange _ _).2⟩
    · exact ⟨rfl, rfl⟩
  | setEnv rngSeed => exact ⟨(p.server.setEnv_room m.conn rngSeed).clock, rfl⟩
  | setStage stageID => exact ⟨(p.server.setStage_room m.conn stageID).clock, rfl⟩
  | reportResults loser =>
    cases loser with
    | none => exact ⟨rfl, rfl⟩
    | some loser =>
      rw [hmsg] at hresult
      cases hresult
  | battleSnapshot data =>
    refine ⟨rfl, ?_⟩
    dsimp only [Stepping.serve, onBattleSnapshot]
    split
    · rfl
    · refine matchRecords_nil_of_forall ?_
      rw [List.forall_mem_map]
      exact fun _ _ => rfl
  | _ => exact ⟨rfl, rfl⟩

theorem clock_message (p : Stepping) (m : IncomingMsg) :
    (handleMessage p m).1.server.matchStartMs = (if p.endsClock m then 0 else p.server.matchStartMs) ∧
      matchRecords (handleMessage p m).2 =
        if p.endsClock m then [.ended (wholeSeconds (m.tick.nowMs - p.server.matchStartMs)) true] else [] := by
  have hkept : ∀ r, p.endsClock m = false → ClockKept p r →
      r.1.server.matchStartMs = (if p.endsClock m then 0 else p.server.matchStartMs) ∧
        matchRecords r.2 =
          if p.endsClock m then [.ended (wholeSeconds (m.tick.nowMs - p.server.matchStartMs)) true] else [] := by
    intro r hends hr
    rw [hends]
    exact ⟨hr.clock, hr.records⟩
  unfold handleMessage
  cases hcid : p.server.cidMap.find m.conn with
  | none =>
    refine hkept _ ?_ ?_
    · rw [Stepping.endsClock, Stepping.hearsResult, hcid, Option.isSome_none, Bool.false_and, Bool.false_and,
        Bool.false_and]
    · cases m.msg <;> exact ⟨rfl, rfl⟩
  | some cid =>
    cases hresult : m.msg.isResult with
    | false =>
      refine hkept _ ?_ (clock_known hresult)
      rw [Stepping.endsClock, Stepping.hearsResult, hresult, Bool.and_false, Bool.false_and, Bool.false_and]
    | true =>
      cases hmsg : m.msg with
      | reportResults loser =>
        cases loser with
        | none =>
          rw [hmsg] at hresult
          cases hresult
        | some loser =>
          have hends : p.endsClock m =
              (p.server.matchStartMs ≠ 0 && m.tick.nowMs - p.server.matchStartMs ≥ 3000 : Bool) := by
            rw [Stepping.endsClock, Stepping.hearsResult, hcid, hresult, Option.isSome_some, Bool.true_and, Bool.true_and]
          rw [hends]
          simp only [handleKnown, hmsg]
          exact clock_results p loser m.tick
      | _ =>
        rw [hmsg] at hresult
        cases hresult

theorem clock_sendUpdate (s : SessionServer) :
    s.sendUpdate.1.matchStartMs = s.matchStartMs ∧ matchRecords s.sendUpdate.2 = [] := by
  unfold sendUpdate
  split
  · exact ⟨rfl, rfl⟩
  · exact ⟨rfl, rfl⟩

theorem clock_settled (p : Stepping) (tick : Tick) : (settled p tick).matchStartMs = p.server.matchStartMs := by
  have hdrop : ∀ (s : SessionServer) side, (s.dropCharaFromVacatedSeat side).matchStartMs = s.matchStartMs := by
    intro s side
    unfold dropCharaFromVacatedSeat
    split <;> rfl
  unfold settled
  rw [(clock_exchange _ tick).1, dropCharaFromVacatedSeats, hdrop, hdrop]

/-- What a called match logs: the end of one that was never reported comes first. -/
theorem clock_sendAllReady (s : SessionServer) (tick : Tick) :
    matchRecords (s.sendAllReady tick).2 =
      (if s.matchStartMs ≠ 0 then [.ended (wholeSeconds (tick.nowMs - s.matchStartMs)) false] else []) ++ [.started] := by
  unfold sendAllReady
  dsimp only
  rw [matchRecords_append, matchRecords_append]
  show [] ++ matchRecords (if s.matchStartMs ≠ 0 then _ else []) ++ [.started] = _
  rw [List.nil_append]
  split <;> rfl

theorem clock_finish (p : Stepping) (tick : Tick) :
    (finishStep p tick).1.server.matchStartMs =
        (if p.bSendLobbyAllReady then tick.nowMs else p.server.matchStartMs) ∧
      matchRecords (finishStep p tick).2 =
        if p.bSendLobbyAllReady then
          (if p.server.matchStartMs ≠ 0 then [.ended (wholeSeconds (tick.nowMs - p.server.matchStartMs)) false]
            else []) ++ [.started]
        else [] := by
  have hclock : (settled p tick).sendUpdate.1.matchStartMs = p.server.matchStartMs :=
    (clock_sendUpdate _).1.trans (clock_settled p tick)
  have hsynced : matchRecords
      (if p.bSendBattleSynced then [(finishStep p tick).1.server.broadcast .battleSynced] else []) = [] := by
    split <;> rfl
  constructor
  · rw [finishStep_server]
    split
    · rfl
    · exact hclock
  · rw [finishStep_out, matchRecords_append, matchRecords_append, matchRecords_append, hsynced,
      (clock_exchange _ tick).2, (clock_sendUpdate _).2, List.append_nil, List.nil_append, List.nil_append]
    cases p.bSendLobbyAllReady with
    | false => rfl
    | true => rw [if_pos rfl, if_pos rfl, clock_sendAllReady, hclock]

theorem clock_disconnectAll (s : SessionServer) :
    s.disconnectAll.1.matchStartMs = s.matchStartMs ∧ matchRecords s.disconnectAll.2 = [] := by
  unfold disconnectAll
  refine ⟨?_, matchRecords_nil_of_forall ?_⟩
  · dsimp only
    split <;> rfl
  · rw [List.forall_mem_map]
    exact fun _ _ => rfl

theorem clock_event (p : Stepping) (e : Event) : ClockKept p (p.serve (p.server.host e)) := by
  cases e with
  | connecting conn ip acceptOk =>
    dsimp only [Stepping.serve, SessionServer.host, SessionServer.connecting]
    split <;> exact ⟨rfl, rfl⟩
  | closed conn wasConnected =>
    refine ⟨?_, rfl⟩
    dsimp only [Stepping.serve, SessionServer.host, connectionClosed]
    split <;> rfl
  | create hash secret isPublic => exact ⟨(clock_disconnectAll p.server).1, (clock_disconnectAll p.server).2⟩
  | release =>
    have h := clock_disconnectAll (setPublic { p.server with sidecarHash := [], joinSecret := [] } false)
    exact ⟨h.1, h.2⟩
  | resetBattleSync => exact ⟨rfl, rfl⟩

/-! ## What the lines amount to -/

/-- A `match_start`, with its number, the activation it was logged in, and whether a result of the
match has been handled since. -/
structure StartedMatch where
  no : ℕ
  startMs : UInt64
  activation : ℕ
  heard : Bool

/-- The lines so far: how many there are of each kind, the `match_start`s without a `match_end`,
latest first, and the last reading of the clock. -/
structure MatchLog where
  activation : ℕ
  started : ℕ
  ended : ℕ
  opened : List StartedMatch
  lastMs : UInt64

/-- An action, with the match that its result is the result of, if it brings one. -/
structure Reported where
  act : Act
  ofMatch : Option ℕ

/-- The server, with the lines so far. -/
structure Logged where
  stepping : Stepping
  log : MatchLog

namespace MatchLog

/-- A line's `match_end` closes the latest open `match_start`. -/
def write (log : MatchLog) (nowMs : UInt64) : MatchRecord → MatchLog
  | .started =>
    { log with
      started := log.started + 1
      opened := ⟨log.started + 1, nowMs, log.activation, false⟩ :: log.opened }
  | .ended _ _ => { log with ended := log.ended + 1, opened := log.opened.tail }

/-- A lobby is activated when it is created, and no longer active when it is released. -/
def reactivate (log : MatchLog) : Act → MatchLog
  | .event (.create _ _ _) => { log with activation := log.activation + 1 }
  | .event .release => { log with activation := log.activation + 1 }
  | _ => log

/-- A result of match `no` has been handled. -/
def hear (log : MatchLog) (no : ℕ) : MatchLog :=
  { log with opened := log.opened.map fun r => { r with heard := r.heard || r.no = no } }

end MatchLog

/-- The clock's reading during an action; an event does not read it. -/
def Logged.nowMs (s : Logged) : Act → UInt64
  | .message m => m.tick.nowMs
  | .endStep tick => tick.nowMs
  | .event _ => s.log.lastMs

/-- The match whose result an action brings to the server. -/
def Logged.hears (s : Logged) (a : Reported) : Option ℕ :=
  match a.act with
  | .message m => if s.stepping.hearsResult m then a.ofMatch else none
  | _ => none

def Logged.written (s : Logged) (a : Act) : MatchLog :=
  (matchRecords (sessionServer.next s.stepping a).2).foldl (fun log r => log.write (s.nowMs a) r)
    { s.log.reactivate a with lastMs := s.nowMs a }

def Logged.next (s : Logged) (a : Reported) : Logged where
  stepping := (sessionServer.next s.stepping a.act).1
  log :=
    match s.hears a with
    | some no => (s.written a.act).hear no
    | none => s.written a.act

def statistics : Machine Logged Reported Out where
  next s a := (s.next a, (sessionServer.next s.stepping a.act).2)

def Logged.start (cfg : HostConfig) : Logged := ⟨Sf4e.Session.start cfg, ⟨0, 0, 0, [], 0⟩⟩

/-- The clock does not go back. -/
def ClockForward (s : Logged) (a : Reported) : Prop := s.log.lastMs ≤ s.nowMs a.act

/-! ## The law and its condition -/

/-- How long a match has been running. -/
def StartedMatch.runsMs (r : StartedMatch) (nowMs : UInt64) : ℕ := nowMs.toNat - r.startMs.toNat

/-- A `match_end` line is right: it closes a match of this activation that was not reported before,
its seconds are the match's until now, and either that match is the one reported or the next one
starts with the next line. -/
def Closes (log : MatchLog) (nowMs : UInt64) (ofMatch : Option ℕ) (seconds : Int32) (reported : Bool)
    (rest : List MatchRecord) : Prop :=
  ∃ r ∈ log.opened.head?, r.activation = log.activation ∧ r.heard = false ∧
    seconds.toInt = (r.runsMs nowMs / 1000 : ℕ) ∧ if reported then ofMatch = some r.no else rest.head? = some .started

def EveryEndCloses (nowMs : UInt64) (ofMatch : Option ℕ) : MatchLog → List MatchRecord → Prop
  | _, [] => True
  | log, .started :: rest => EveryEndCloses nowMs ofMatch (log.write nowMs .started) rest
  | log, .ended seconds reported :: rest =>
    Closes log nowMs ofMatch seconds reported rest ∧
      EveryEndCloses nowMs ofMatch (log.write nowMs (.ended seconds reported)) rest

/-- What the statistics promise of an action. -/
structure Accounted (s : Logged) (a : Reported) : Prop where
  balance : (s.next a).log.ended ≤ (s.next a).log.started
  closes : EveryEndCloses (s.nowMs a.act) a.ofMatch (s.log.reactivate a.act)
    (matchRecords (sessionServer.next s.stepping a.act).2)
  /-- Only the running match's own result ends its clock. -/
  kept : ∀ m, a.act = .message m → (∀ r ∈ s.log.opened.head?, a.ofMatch ≠ some r.no) →
    (s.next a).stepping.server.matchStartMs = s.stepping.server.matchStartMs

/-- The lobby is created or released. -/
def Act.reactivates : Act → Bool
  | .event (.create _ _ _) => true
  | .event .release => true
  | _ => false

/-- The steps of a run, newest first. -/
abbrev StatisticsRun := List (Taken Logged Reported Out)

/-- The step calls a match. -/
def calls (t : Taken Logged Reported Out) : Bool := decide (MatchRecord.started ∈ matchRecords t.out)

/-- The match of the latest call can be counted: since the call the lobby has neither been created nor
released and no result of the match has been handled, and its seconds fit. -/
def LatestCountable (past : StatisticsRun) (nowMs : UInt64) : Prop :=
  (∀ t ∈ Log.since calls past, t.act.act.reactivates = false ∧ t.pre.hears t.act ≠ some (past.countP calls)) ∧
    (past.find? calls).all (fun t => (nowMs.toNat - (t.pre.nowMs t.act.act).toNat) / 1000 < 2 ^ 31) = true

/-- A running clock is only ended by the match that was called last: by its own result, or by the next call. -/
def OwnClock (past : StatisticsRun) (s : Logged) (a : Reported) : Prop :=
  match a.act with
  | .message m =>
    s.stepping.endsClock m = true → LatestCountable past m.tick.nowMs ∧ a.ofMatch = some (past.countP calls)
  | .endStep tick =>
    s.stepping.bSendLobbyAllReady = true → s.stepping.server.matchStartMs ≠ 0 → LatestCountable past tick.nowMs
  | .event _ => True

/-! ## The clock and the lines -/

/-- How the clock stands to the lines. -/
structure MatchLog.Timed (log : MatchLog) (clock : UInt64) : Prop where
  running : clock ≠ 0 → ∃ r ∈ log.opened.head?, r.startMs = clock
  balance : log.started = log.ended + log.opened.length
  past : ∀ r ∈ log.opened, r.startMs ≤ log.lastMs

namespace MatchLog.Timed

variable {log : MatchLog} {clock nowMs : UInt64}

theorem opened (h : log.Timed clock) (hrun : clock ≠ 0) :
    ∃ r rest, log.opened = r :: rest ∧ r.startMs = clock ∧ r.startMs ≤ log.lastMs := by
  obtain ⟨r, hr, hstart⟩ := h.running hrun
  obtain ⟨rest, hopen⟩ := List.head?_eq_some_iff.1 hr
  exact ⟨r, rest, hopen, hstart, h.past r (by rw [hopen]; exact List.mem_cons_self)⟩

theorem ended_le (h : log.Timed clock) : log.ended ≤ log.started := by
  rw [h.balance]
  exact Nat.le_add_right ..

theorem read (h : log.Timed clock) (hforward : log.lastMs ≤ nowMs) : MatchLog.Timed { log with lastMs := nowMs } clock where
  running := h.running
  balance := h.balance
  past r hr := UInt64.le_trans (h.past r hr) hforward

theorem reactivate (h : log.Timed clock) (a : Act) : (log.reactivate a).Timed clock := by
  unfold MatchLog.reactivate
  split <;> exact ⟨h.running, h.balance, h.past⟩

theorem close (h : log.Timed clock) (hrun : clock ≠ 0) (nowMs : UInt64) (seconds : Int32) (reported : Bool) :
    (log.write nowMs (.ended seconds reported)).Timed 0 := by
  obtain ⟨r, rest, hopen, -, -⟩ := h.opened hrun
  have hbalance := h.balance
  have hpast := h.past
  rw [hopen] at hbalance hpast
  refine ⟨fun hne => absurd rfl hne, ?_, ?_⟩
  · show log.started = log.ended + 1 + log.opened.tail.length
    rw [hbalance, hopen, List.tail_cons, List.length_cons]
    omega
  · show ∀ r ∈ log.opened.tail, r.startMs ≤ log.lastMs
    rw [hopen]
    exact fun r hr => hpast r (List.mem_cons_of_mem _ hr)

theorem call (h : log.Timed clock) (hnow : log.lastMs = nowMs) : (log.write nowMs .started).Timed nowMs where
  running _ := ⟨_, rfl, rfl⟩
  balance := by
    show log.started + 1 = log.ended + (log.opened.length + 1)
    rw [h.balance]
    rfl
  past := List.forall_mem_cons.2 ⟨hnow.symm ▸ UInt64.le_refl _, h.past⟩

theorem hear (h : log.Timed clock) (no : ℕ) : (log.hear no).Timed clock where
  running hrun := by
    obtain ⟨r, rest, hopen, hstart, -⟩ := h.opened hrun
    unfold MatchLog.hear
    rw [hopen]
    exact ⟨_, rfl, hstart⟩
  balance := by
    show log.started = log.ended + (log.opened.map _).length
    rw [List.length_map]
    exact h.balance
  past := by
    unfold MatchLog.hear
    dsimp only
    rw [List.forall_mem_map]
    exact h.past

end MatchLog.Timed

def Clocked (s : Logged) : Prop := s.log.Timed s.stepping.server.matchStartMs

theorem clocked_start (cfg : HostConfig) : Clocked (.start cfg) where
  running h := absurd rfl h
  balance := rfl
  past _ h := by cases h

/-- The lines are those of the run: while the clock runs, the latest open `match_start` is that of the
latest call. -/
structure Recorded (past : StatisticsRun) (s : Logged) : Prop where
  started : s.log.started = past.countP calls
  latest : s.stepping.server.matchStartMs ≠ 0 → ∃ r rest t, s.log.opened = r :: rest ∧ past.find? calls = some t ∧
    r.no = past.countP calls ∧ r.startMs = t.pre.nowMs t.act.act ∧
    r.activation + (Log.since calls past).countP (·.act.act.reactivates) = s.log.activation ∧
    r.heard = (Log.since calls past).any fun t => t.pre.hears t.act = some (past.countP calls)

theorem wholeSeconds_iff {startMs nowMs : UInt64} (h : startMs ≤ nowMs) :
    (wholeSeconds (nowMs - startMs)).toInt = ((nowMs.toNat - startMs.toNat) / 1000 : ℕ) ↔
      (nowMs.toNat - startMs.toNat) / 1000 < 2 ^ 31 := by
  have hdiv : ((nowMs - startMs) / 1000).toNat = (nowMs.toNat - startMs.toNat) / 1000 := by
    rw [UInt64.toNat_div, UInt64.toNat_sub_of_le _ _ h]
    rfl
  have hsize : Int32.size = 2 ^ 32 := rfl
  rw [wholeSeconds, hdiv, Int32.toInt_ofNat', hsize, Int.bmod_def]
  generalize (nowMs.toNat - startMs.toNat) / 1000 = n
  split <;> omega

/-! ## The lines and the run -/

theorem next_log (s : Logged) (a : Reported) :
    (s.next a).log.started = (s.written a.act).started ∧ (s.next a).log.activation = (s.written a.act).activation ∧
      (s.next a).log.opened =
        (s.written a.act).opened.map fun r => { r with heard := r.heard || decide (s.hears a = some r.no) } := by
  unfold Logged.next
  dsimp only
  cases s.hears a with
  | none => exact ⟨rfl, rfl, by simp⟩
  | some no =>
    refine ⟨rfl, rfl, List.map_congr_left fun r _ => ?_⟩
    simp only [Option.some.injEq, eq_comm]

namespace Recorded

variable {past : StatisticsRun} {s s' : Logged} {t : Taken Logged Reported Out}

/-- No match is called, and the clock runs on or is ended. -/
theorem quiet (h : Recorded past s) (hcalls : calls t = false) (hstarted : s'.log.started = s.log.started)
    (hclock : s'.stepping.server.matchStartMs ≠ 0 → s.stepping.server.matchStartMs ≠ 0)
    (hopened : s'.stepping.server.matchStartMs ≠ 0 → s'.log.opened =
      s.log.opened.map fun r => { r with heard := r.heard || decide (t.pre.hears t.act = some r.no) })
    (hactivation : s'.log.activation = s.log.activation + if t.act.act.reactivates then 1 else 0) :
    Recorded (t :: past) s' := by
  have hcount : (t :: past).countP calls = past.countP calls := List.countP_cons_of_neg (by simp [hcalls])
  refine ⟨by rw [hstarted, hcount, h.started], fun hrun => ?_⟩
  obtain ⟨r, rest, call, hopen, hfind, hno, hstart, hact, hheard⟩ := h.latest (hclock hrun)
  rw [hcount, Log.since_other hcalls, List.find?_cons_of_neg (by simp [hcalls]), hopened hrun, hopen]
  refine ⟨_, _, call, rfl, hfind, hno, hstart, ?_, ?_⟩
  · rw [List.countP_cons, hactivation, ← hact, Nat.add_assoc]
  · rw [List.any_cons]
    dsimp only
    rw [hno, hheard, Bool.or_comm]

/-- A match is called. -/
theorem called (h : Recorded past s) (hcalls : calls t = true)
    (hopened : ∃ rest, s'.log.opened = ⟨s.log.started + 1, t.pre.nowMs t.act.act, s'.log.activation, false⟩ :: rest)
    (hstarted : s'.log.started = s.log.started + 1) : Recorded (t :: past) s' := by
  have hcount : (t :: past).countP calls = past.countP calls + 1 := List.countP_cons_of_pos hcalls
  obtain ⟨rest, hopened⟩ := hopened
  refine ⟨by rw [hstarted, hcount, h.started], fun _ => ?_⟩
  rw [hcount, Log.since_mark hcalls, List.find?_cons_of_pos hcalls]
  exact ⟨_, rest, t, hopened, rfl, by rw [h.started], rfl, rfl, rfl⟩

end Recorded

section Acts

variable {past : StatisticsRun} {s : Logged} (h : Recorded past s) (ofMatch : Option ℕ)

include h

theorem recorded_message (m : IncomingMsg) :
    Recorded (statistics.taken s ⟨.message m, ofMatch⟩ :: past) (s.next ⟨.message m, ofMatch⟩) := by
  obtain ⟨hstarted, hactivation, hopened⟩ := next_log s ⟨.message m, ofMatch⟩
  obtain ⟨hclock, hrecords⟩ := clock_message s.stepping m
  have hout : matchRecords (statistics.taken s ⟨.message m, ofMatch⟩).out = _ := hrecords
  have hwritten : s.written (.message m) = (matchRecords (handleMessage s.stepping m).2).foldl
    (fun log r => log.write m.tick.nowMs r) { s.log with lastMs := m.tick.nowMs } := rfl
  rw [hrecords] at hwritten
  have hnext : (s.next ⟨.message m, ofMatch⟩).stepping.server.matchStartMs = _ := hclock
  rw [hwritten] at hstarted hactivation hopened
  cases hends : s.stepping.endsClock m with
  | false =>
    rw [hends] at hstarted hactivation hopened hnext hout
    refine h.quiet ?_ hstarted ?_ (fun _ => hopened) hactivation
    · rw [calls, hout]
      rfl
    · rw [hnext]
      exact id
  | true =>
    rw [hends] at hstarted hactivation hopened hnext hout
    refine h.quiet ?_ hstarted ?_ ?_ hactivation
    · rw [calls, hout]
      rfl
    · exact fun hrun => absurd hnext hrun
    · exact fun hrun => absurd hnext hrun

theorem recorded_endStep (tick : Tick) :
    Recorded (statistics.taken s ⟨.endStep tick, ofMatch⟩ :: past) (s.next ⟨.endStep tick, ofMatch⟩) := by
  obtain ⟨hstarted, hactivation, hopened⟩ := next_log s ⟨.endStep tick, ofMatch⟩
  obtain ⟨hclock, hrecords⟩ := clock_finish s.stepping tick
  have hout : matchRecords (statistics.taken s ⟨.endStep tick, ofMatch⟩).out = _ := hrecords
  have hwritten : s.written (.endStep tick) = (matchRecords (finishStep s.stepping tick).2).foldl
    (fun log r => log.write tick.nowMs r) { s.log with lastMs := tick.nowMs } := rfl
  rw [hrecords] at hwritten
  have hnext : (s.next ⟨.endStep tick, ofMatch⟩).stepping.server.matchStartMs = _ := hclock
  rw [hwritten] at hstarted hactivation hopened
  cases hready : s.stepping.bSendLobbyAllReady with
  | false =>
    rw [hready] at hstarted hactivation hopened hnext hout
    refine h.quiet ?_ hstarted ?_ (fun _ => hopened) hactivation
    · rw [calls, hout]
      rfl
    · rw [hnext]
      exact id
  | true =>
    rw [hready, if_pos rfl] at hstarted hactivation hopened hout
    -- a clock that runs is closed out first
    by_cases hrun : s.stepping.server.matchStartMs ≠ 0
    all_goals
      first
        | rw [if_pos hrun] at hstarted hactivation hopened hout
        | rw [if_neg hrun] at hstarted hactivation hopened hout
      refine h.called ?_ ?_ hstarted
      · rw [calls, hout]
        rfl
      · rw [hopened, hactivation]
        exact ⟨_, rfl⟩

theorem recorded_event (e : Event) :
    Recorded (statistics.taken s ⟨.event e, ofMatch⟩ :: past) (s.next ⟨.event e, ofMatch⟩) := by
  obtain ⟨hstarted, hactivation, hopened⟩ := next_log s ⟨.event e, ofMatch⟩
  obtain ⟨hclock, hrecords⟩ := clock_event s.stepping e
  have hout : matchRecords (statistics.taken s ⟨.event e, ofMatch⟩).out = _ := hrecords
  have hwritten : s.written (.event e) = (matchRecords (s.stepping.serve (s.stepping.server.host e)).2).foldl
    (fun log r => log.write s.log.lastMs r) { s.log.reactivate (.event e) with lastMs := s.log.lastMs } := rfl
  rw [hrecords] at hwritten
  rw [hwritten] at hstarted hactivation hopened
  refine h.quiet ?_ ?_ ?_ (fun _ => ?_) ?_
  · rw [calls, hout]
    rfl
  · rw [hstarted]
    cases e <;> rfl
  · rw [show (s.next ⟨.event e, ofMatch⟩).stepping.server.matchStartMs = _ from hclock]
    exact id
  · rw [hopened]
    cases e <;> rfl
  · rw [hactivation]
    cases e <;> rfl

end Acts

theorem recorded_next {past : StatisticsRun} {s : Logged} (h : Recorded past s) (a : Reported) :
    Recorded (statistics.taken s a :: past) (s.next a) := by
  obtain ⟨act, ofMatch⟩ := a
  cases act with
  | message m => exact recorded_message h ofMatch m
  | endStep tick => exact recorded_endStep h ofMatch tick
  | event e => exact recorded_event h ofMatch e

theorem recorded_start (cfg : HostConfig) : Recorded [] (.start cfg) := ⟨rfl, fun h => absurd rfl h⟩

section Steps

variable {past : StatisticsRun} {s : Logged} {a : Reported}

/-- The match that a running clock belongs to can be counted when the run says so. -/
theorem countable_iff (hrecorded : Recorded past s) (hrun : s.stepping.server.matchStartMs ≠ 0) (nowMs : UInt64) :
    ∃ r rest, s.log.opened = r :: rest ∧ r.no = past.countP calls ∧
      (LatestCountable past nowMs ↔
        r.activation = s.log.activation ∧ r.heard = false ∧ r.runsMs nowMs / 1000 < 2 ^ 31) := by
  obtain ⟨r, rest, t, hopen, hfind, hno, hstart, hact, hheard⟩ := hrecorded.latest hrun
  refine ⟨r, rest, hopen, hno, ?_⟩
  have hlobby : r.activation = s.log.activation ↔ ∀ t ∈ Log.since calls past, t.act.act.reactivates = false := by
    have hzero : r.activation = s.log.activation ↔ (Log.since calls past).countP (·.act.act.reactivates) = 0 := by omega
    rw [hzero, List.countP_eq_zero]
    simp
  have hunheard : r.heard = false ↔ ∀ t ∈ Log.since calls past, t.pre.hears t.act ≠ some (past.countP calls) := by
    rw [hheard, List.any_eq_false]
    simp
  unfold LatestCountable StartedMatch.runsMs
  rw [hfind, Option.all_some, decide_eq_true_eq, hlobby, hunheard, hstart, ← and_assoc, forall₂_and]

/-- A `match_end` line measured by the clock is right when the match is of this activation and
not too long. -/
theorem closes_iff (h : Clocked s) (hrecorded : Recorded past s) (hrun : s.stepping.server.matchStartMs ≠ 0)
    {nowMs : UInt64} (hforward : s.log.lastMs ≤ nowMs) (ofMatch : Option ℕ) (reported : Bool) (rest : List MatchRecord) :
    Closes s.log nowMs ofMatch (wholeSeconds (nowMs - s.stepping.server.matchStartMs)) reported rest ↔
      LatestCountable past nowMs ∧
        if reported then ofMatch = some (past.countP calls) else rest.head? = some .started := by
  obtain ⟨r, others, hopen, hstart, hpast⟩ := h.opened hrun
  obtain ⟨r', others', hopen', hno, hcountable⟩ := countable_iff hrecorded hrun nowMs
  obtain ⟨rfl, -⟩ := List.cons.inj (hopen.symm.trans hopen')
  have hsecs := wholeSeconds_iff (UInt64.le_trans hpast hforward)
  rw [hcountable]
  unfold Closes StartedMatch.runsMs
  rw [hopen, ← hstart, List.head?_cons]
  simp only [Option.mem_some_iff, exists_eq_left', hsecs, hno, and_assoc]

theorem written_message (h : Clocked s) (m : IncomingMsg) (hforward : s.log.lastMs ≤ m.tick.nowMs) :
    (s.written (.message m)).Timed (handleMessage s.stepping m).1.server.matchStartMs := by
  obtain ⟨hclock, hrecords⟩ := clock_message s.stepping m
  show MatchLog.Timed ((matchRecords (handleMessage s.stepping m).2).foldl (fun log r => log.write m.tick.nowMs r)
    { s.log with lastMs := m.tick.nowMs }) _
  rw [hclock, hrecords]
  cases hends : s.stepping.endsClock m with
  | false => exact h.read hforward
  | true =>
    exact (h.read hforward).close (s.stepping.running_of_endsClock hends) m.tick.nowMs
      (wholeSeconds (m.tick.nowMs - s.stepping.server.matchStartMs)) true

theorem written_endStep (h : Clocked s) (tick : Tick) (hforward : s.log.lastMs ≤ tick.nowMs) :
    (s.written (.endStep tick)).Timed (finishStep s.stepping tick).1.server.matchStartMs := by
  obtain ⟨hclock, hrecords⟩ := clock_finish s.stepping tick
  show MatchLog.Timed ((matchRecords (finishStep s.stepping tick).2).foldl (fun log r => log.write tick.nowMs r)
    { s.log with lastMs := tick.nowMs }) _
  rw [hclock, hrecords]
  cases s.stepping.bSendLobbyAllReady with
  | false => exact h.read hforward
  | true =>
    by_cases hrun : s.stepping.server.matchStartMs = 0
    · rw [if_pos rfl, if_pos rfl, if_neg (not_not.2 hrun)]
      exact (h.read hforward).call rfl
    · rw [if_pos rfl, if_pos rfl, if_pos hrun]
      exact ((h.read hforward).close hrun tick.nowMs
        (wholeSeconds (tick.nowMs - s.stepping.server.matchStartMs)) false).call rfl

theorem written_event (h : Clocked s) (e : Event) :
    (s.written (.event e)).Timed (s.stepping.server.host e).1.matchStartMs := by
  obtain ⟨hclock, hrecords⟩ := clock_event s.stepping e
  show MatchLog.Timed ((matchRecords (s.stepping.serve (s.stepping.server.host e)).2).foldl
    (fun log r => log.write s.log.lastMs r) { s.log.reactivate (.event e) with lastMs := s.log.lastMs })
    (s.stepping.serve (s.stepping.server.host e)).1.server.matchStartMs
  rw [hclock, hrecords]
  have hlast : (s.log.reactivate (.event e)).lastMs = s.log.lastMs := by cases e <;> rfl
  exact (h.reactivate (.event e)).read (hlast ▸ UInt64.le_refl _)

theorem clocked_next (h : Clocked s) (hforward : ClockForward s a) : Clocked (s.next a) := by
  have hwritten : (s.written a.act).Timed (sessionServer.next s.stepping a.act).1.server.matchStartMs := by
    obtain ⟨act, ofMatch⟩ := a
    cases act with
    | message m => exact written_message h m hforward
    | endStep tick => exact written_endStep h tick hforward
    | event e => exact written_event h e
  unfold Clocked Logged.next
  dsimp only
  split
  · exact hwritten.hear _
  · exact hwritten

theorem accounted_message (h : Clocked s) (hrecorded : Recorded past s) {m : IncomingMsg} (hact : a.act = .message m)
    (hforward : ClockForward s a) (hnext : Clocked (s.next a)) : Accounted s a ↔ OwnClock past s a := by
  obtain ⟨act, ofMatch⟩ := a
  subst hact
  obtain ⟨hclock, hrecords⟩ := clock_message s.stepping m
  cases hends : s.stepping.endsClock m with
  | false =>
    rw [hends] at hclock hrecords
    refine iff_of_true ⟨?_, ?_, ?_⟩ ?_
    · exact hnext.ended_le
    · show EveryEndCloses _ _ _ (matchRecords (handleMessage s.stepping m).2)
      rw [hrecords]
      trivial
    · intro _ _ _
      exact hclock
    · intro hends'
      rw [hends] at hends'
      cases hends'
  | true =>
    have hrun := s.stepping.running_of_endsClock hends
    rw [hends] at hclock hrecords
    have hiff := closes_iff h hrecorded hrun hforward ofMatch true []
    obtain ⟨r, rest, hopen, hno, -⟩ := countable_iff hrecorded hrun m.tick.nowMs
    constructor
    · intro hacc _
      have hcloses := hacc.closes
      change EveryEndCloses _ _ _ (matchRecords (handleMessage s.stepping m).2) at hcloses
      rw [hrecords] at hcloses
      exact hiff.1 hcloses.1
    · intro hown
      refine ⟨hnext.ended_le, ?_, ?_⟩
      · show EveryEndCloses _ _ _ (matchRecords (handleMessage s.stepping m).2)
        rw [hrecords]
        exact ⟨hiff.2 (hown hends), trivial⟩
      · rintro _ - hnone
        have hhead : r ∈ s.log.opened.head? := by rw [hopen]; rfl
        exact absurd ((hown hends).2.trans (congrArg some hno.symm)) (hnone r hhead)

theorem accounted_endStep (h : Clocked s) (hrecorded : Recorded past s) {tick : Tick} (hact : a.act = .endStep tick)
    (hforward : ClockForward s a) (hnext : Clocked (s.next a)) : Accounted s a ↔ OwnClock past s a := by
  obtain ⟨act, ofMatch⟩ := a
  subst hact
  obtain ⟨-, hrecords⟩ := clock_finish s.stepping tick
  have hiff : EveryEndCloses tick.nowMs ofMatch s.log (matchRecords (finishStep s.stepping tick).2) ↔
      OwnClock past s ⟨.endStep tick, ofMatch⟩ := by
    rw [hrecords]
    unfold OwnClock
    cases s.stepping.bSendLobbyAllReady with
    | false => exact iff_of_true trivial nofun
    | true =>
      by_cases hrun : s.stepping.server.matchStartMs = 0
      · rw [if_pos rfl, if_neg (not_not.2 hrun)]
        exact iff_of_true trivial fun _ hne => absurd hrun hne
      · rw [if_pos rfl, if_pos hrun]
        have hcloses := closes_iff h hrecorded hrun hforward ofMatch false [.started]
        simp only [List.head?_cons, Bool.false_eq_true, if_false, and_true] at hcloses
        simp only [List.cons_append, List.nil_append, EveryEndCloses, and_true, forall_const]
        exact hcloses.trans ⟨fun hown _ => hown, fun hown => hown hrun⟩
  constructor
  · intro hacc
    exact hiff.1 hacc.closes
  · intro hown
    exact ⟨hnext.ended_le, hiff.2 hown, nofun⟩

theorem accounted_event {e : Event} (hact : a.act = .event e) (hnext : Clocked (s.next a)) :
    Accounted s a ↔ OwnClock past s a := by
  obtain ⟨act, ofMatch⟩ := a
  subst hact
  refine iff_of_true ⟨hnext.ended_le, ?_, nofun⟩ trivial
  show EveryEndCloses _ _ _ (matchRecords (s.stepping.serve (s.stepping.server.host e)).2)
  rw [(clock_event s.stepping e).records]
  trivial

theorem accounted_step (h : Clocked s) (hrecorded : Recorded past s) (hforward : ClockForward s a) :
    Accounted s a ↔ OwnClock past s a := by
  have hnext := clocked_next h hforward
  cases hact : a.act with
  | message m => exact accounted_message h hrecorded hact hforward hnext
  | endStep tick => exact accounted_endStep h hrecorded hact hforward hnext
  | event e => exact accounted_event hact hnext

end Steps

theorem meets_accounted_iff (cfg : HostConfig) {as : List Reported}
    (hforward : statistics.Meets (fun _ => ClockForward) (.start cfg) [] as) :
    statistics.Meets (fun _ => Accounted) (.start cfg) [] as ↔ statistics.Meets OwnClock (.start cfg) [] as := by
  have hstart : Clocked (.start cfg) ∧ Recorded [] (.start cfg) := ⟨clocked_start cfg, recorded_start cfg⟩
  constructor
  · intro hacc
    exact Machine.meets_of_inv (fun past s => Clocked s ∧ Recorded past s)
      (fun _ _ a h hd => ⟨clocked_next h.1 hd.1, recorded_next h.2 a⟩)
      (fun _ _ _ h hd => (accounted_step h.1 h.2 hd.1).1 hd.2) hstart (hforward.and hacc)
  · intro hown
    exact Machine.meets_of_inv (fun past s => Clocked s ∧ Recorded past s)
      (fun _ _ a h hd => ⟨clocked_next h.1 hd.1, recorded_next h.2 a⟩)
      (fun _ _ _ h hd => (accounted_step h.1 h.2 hd.1).2 hd.2) hstart (hforward.and hown)

/-- The statistics of a run are right exactly when every match clock that ends is ended by the
match that was called last, in the activation it was called in. -/
theorem statistics_iff (cfg : HostConfig) (as : List Reported)
    (hforward : statistics.Meets (fun _ => ClockForward) (.start cfg) [] as) :
    statistics.Meets (fun _ => Accounted) (.start cfg) [] as ↔ statistics.Meets OwnClock (.start cfg) [] as :=
  meets_accounted_iff cfg hforward

instance (past : StatisticsRun) (nowMs : UInt64) : Decidable (LatestCountable past nowMs) :=
  inferInstanceAs (Decidable (_ ∧ _ = true))

instance (past : StatisticsRun) (s : Logged) (a : Reported) : Decidable (OwnClock past s a) := by
  unfold OwnClock
  split <;> infer_instance

instance (s : Logged) (a : Reported) : Decidable (ClockForward s a) :=
  inferInstanceAs (Decidable (_ ≤ _))

namespace Sample

/-- Nothing in these calls is a result. -/
def unreported (calls : List Call) : List Reported := (acts calls).map fun a => ⟨a, none⟩

/-- The first match is reported a minute after it was called. -/
def reportedMatch : List Reported :=
  unreported bothReady ++
    [⟨.message { say 1 (loses 1) with tick := ⟨61000, 60, []⟩ }, some 1⟩, ⟨.endStep ⟨61000, 60, []⟩, none⟩]

/-- Both players leave their match, the lobby is released, and two others play in it. -/
def walkedOut : List Reported :=
  unreported (bothReady ++
    [.event (.closed 1 true), .event (.closed 2 true), .event .release, openLobby] ++
      enter 3 "C" false ++ enter 4 "D" false ++ [step [say 4 ready, say 3 ready]])

end Sample

theorem statistics_iff_reported :
    statistics.Meets (fun _ => Accounted) (.start (lobbyHost 0)) [] Sample.reportedMatch :=
  (statistics_iff (lobbyHost 0) Sample.reportedMatch (by decide +kernel)).2 (by decide +kernel)

/-- The match that was walked out of ends in another activation of the lobby. -/
theorem statistics_walkedOut :
    ¬ ∀ (cfg : HostConfig) (as : List Reported), statistics.Meets (fun _ => ClockForward) (.start cfg) [] as →
      statistics.Meets (fun _ => Accounted) (.start cfg) [] as := by
  intro h
  have hforward : statistics.Meets (fun _ => ClockForward) (.start (lobbyHost 0)) [] Sample.walkedOut := by
    decide +kernel
  have hown := (meets_accounted_iff _ hforward).1 (h (lobbyHost 0) Sample.walkedOut hforward)
  revert hown
  decide +kernel

end Sf4e.Session
