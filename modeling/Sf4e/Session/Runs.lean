import Sf4e.Session.Effects
/-!
# Runs of the session server

A run is a list of calls: Steps, and between them the connection callbacks and
the host's calls. `Call.acts` is what a call does, one action at a time.
-/
open Sf4e.Lib

namespace Sf4e.Session

inductive Call where
  | step (msgs : List IncomingMsg) (tick : Tick)
  | event (e : Event)

def Call.acts : Call → List Act
  | .step msgs tick => msgs.map .message ++ [.endStep tick]
  | .event e => [.event e]

def acts (calls : List Call) : List Act := calls.flatMap Call.acts

/-- The steps taken so far, newest first. -/
abbrev Past := List (Taken Stepping Act Out)

/-! ## Events come between Steps -/

/-- The latest action is a message, so a Step is under way. -/
def midStep (h : Past) : Bool :=
  match h with
  | t :: _ => match t.act with
    | .message _ => true
    | _ => false
  | [] => false

/-- An event only happens between Steps. -/
def Between (h : Past) (_ : Stepping) (a : Act) : Prop :=
  match a with
  | .event _ => midStep h = false
  | _ => True

theorem meets_between_messages (p : Stepping) (h : Past) (msgs : List IncomingMsg) :
    sessionServer.Meets Between p h (msgs.map .message) := by
  induction msgs generalizing p h with
  | nil => trivial
  | cons m msgs ih => exact ⟨trivial, ih _ _⟩

theorem meets_between (p : Stepping) (h : Past) (hrest : midStep h = false) (calls : List Call) :
    sessionServer.Meets Between p h (acts calls) := by
  induction calls generalizing p h with
  | nil => trivial
  | cons c calls ih =>
    cases c with
    | event e => exact ⟨hrest, ih _ _ rfl⟩
    | step msgs tick =>
      have hacts : acts (.step msgs tick :: calls) = msgs.map .message ++ .endStep tick :: acts calls := by
        simp [acts, Call.acts]
      rw [hacts]
      exact Machine.meets_append.2 ⟨meets_between_messages p h msgs, trivial, ih _ _ rfl⟩

/-! ## What a Step broadcasts -/

namespace Out

def isBroadcast : Out → Bool
  | .broadcast _ _ => true
  | _ => false

def isAllReady : Out → Bool
  | .broadcast _ .lobbyAllReady => true
  | _ => false

def isSynced : Out → Bool
  | .broadcast _ .battleSynced => true
  | _ => false

/-- A broadcast SessionDataUpdate. -/
def update? : Out → Option (LobbyData × MatchData)
  | .broadcast _ (.dataUpdate lobbyData matchData) => some (lobbyData, matchData)
  | _ => none

theorem not_allReady {o : Out} (h : o.isBroadcast = false) : o.isAllReady = false := by
  cases o <;> first | rfl | cases h

theorem not_synced {o : Out} (h : o.isBroadcast = false) : o.isSynced = false := by
  cases o <;> first | rfl | cases h

theorem no_update {o : Out} (h : o.isBroadcast = false) : o.update? = none := by
  cases o <;> first | rfl | cases h

end Out

theorem exchange_quiet (s : SessionServer) (tick : Tick) :
    ∀ o ∈ (s.maybeExchangeDirectEndpoints tick).2, o.isBroadcast = false := by
  unfold SessionServer.maybeExchangeDirectEndpoints
  repeat' split
  all_goals simp [Out.isBroadcast]

theorem message_quiet (p : Stepping) (m : IncomingMsg) :
    ∀ o ∈ (handleMessage p m).2, o.isBroadcast = false := by
  unfold handleMessage
  cases p.server.cidMap.find m.conn with
  | none => cases m.msg <;> simp [Stepping.serve, SessionServer.onHello, Out.isBroadcast]
  | some cid =>
    simp only [handleKnown]
    cases m.msg with
    | forward msg fwd =>
      simp only [Stepping.serve, SessionServer.onForward]
      repeat' split
      all_goals simp [Out.isBroadcast]
    | joinReq request =>
      simp only [Stepping.serve, SessionServer.onJoinRequest]
      repeat' split
      all_goals simp [Out.isBroadcast]
    | desyncReport report =>
      simp only [Stepping.serve, SessionServer.onDesyncReport]
      repeat' split
      · simp
      · simp
      · simp only [List.mem_cons, List.mem_map]
        rintro o (rfl | ⟨other, _, rfl⟩) <;> rfl
    | directOffer offer =>
      simp only [Stepping.serve, SessionServer.onDirectOffer]
      split
      · exact exchange_quiet _ _
      · simp
    | reportResults loserSide =>
      simp only [Stepping.serve, SessionServer.onReportResults, SessionServer.handleResults,
        SessionServer.closeMatchClock]
      repeat' split
      all_goals simp_all [Out.isBroadcast]
    | battleSnapshot data =>
      simp only [Stepping.serve, SessionServer.onBattleSnapshot]
      split
      · simp
      · simp only [List.mem_map]
        rintro o ⟨other, _, rfl⟩
        rfl
    | _ => simp [Stepping.serve]

theorem event_quiet (p : Stepping) (e : Event) :
    ∀ o ∈ (p.serve (p.server.host e)).2, o.isBroadcast = false := by
  cases e with
  | connecting conn ip acceptOk =>
    simp only [Stepping.serve, SessionServer.host, SessionServer.connecting]
    split <;> simp [Out.isBroadcast]
  | closed conn wasConnected =>
    simp [Stepping.serve, SessionServer.host, SessionServer.connectionClosed, Out.isBroadcast]
  | create hash secret isPublic =>
    simp only [Stepping.serve, SessionServer.host, SessionServer.disconnectAll, List.mem_map]
    rintro o ⟨e, _, rfl⟩
    rfl
  | release =>
    simp only [Stepping.serve, SessionServer.host, SessionServer.disconnectAll, List.mem_map]
    rintro o ⟨e, _, rfl⟩
    rfl
  | resetBattleSync => simp [Stepping.serve, SessionServer.host]

/-- The update a Step ends with describes the table it leaves. -/
def Describes (u : LobbyData × MatchData) (t : Table) : Prop :=
  u.2 = t.matchData ∧
    (u.1.members.filter fun d => !d.spectator).map (·.connId) = t.roster.map (·.connId)

theorem describes_updateMsg (s : SessionServer) (called synced : Bool) {u : LobbyData × MatchData} {o : Out}
    (ho : o = s.broadcast s.updateMsg) (hu : o.update? = some u) :
    Describes u (Stepping.table ⟨s, called, synced⟩) := by
  subst ho
  simp only [SessionServer.broadcast, SessionServer.updateMsg, Out.update?, Option.some.injEq] at hu
  subst hu
  refine ⟨rfl, ?_⟩
  simp only [Stepping.table, SessionServer.roster, SessionServer.players, List.map_map, List.filter_map]
  rfl

/-- The outputs of the end of a Step, in order. -/
theorem finishStep_out (p : Stepping) (tick : Tick) :
    (finishStep p tick).2 =
      (p.server.dropCharaFromVacatedSeats.maybeExchangeDirectEndpoints tick).2 ++
        (settled p tick).sendUpdate.2 ++
        (if p.bSendLobbyAllReady then ((settled p tick).sendUpdate.1.sendAllReady tick).2 else []) ++
        (if p.bSendBattleSynced then [(finishStep p tick).1.server.broadcast .battleSynced] else []) := by
  simp only [finishStep, settled]
  cases p.bSendLobbyAllReady <;> rfl

theorem sendUpdate_out (s : SessionServer) : ∀ o ∈ s.sendUpdate.2, o = s.broadcast s.updateMsg := by
  unfold SessionServer.sendUpdate
  split <;> simp

theorem finish_allReady (p : Stepping) (tick : Tick) :
    (finishStep p tick).2.any Out.isAllReady = p.bSendLobbyAllReady := by
  have hpeers := exchange_quiet p.server.dropCharaFromVacatedSeats tick
  have hupd : (settled p tick).sendUpdate.2.any Out.isAllReady = false := by
    apply List.any_eq_false.2
    intro o ho
    rw [sendUpdate_out _ o ho]
    simp [SessionServer.broadcast, SessionServer.updateMsg, Out.isAllReady]
  have hpeers' : (p.server.dropCharaFromVacatedSeats.maybeExchangeDirectEndpoints tick).2.any
      Out.isAllReady = false :=
    List.any_eq_false.2 fun o ho => by simp [Out.not_allReady (hpeers o ho)]
  have hsync : (if p.bSendBattleSynced then [(finishStep p tick).1.server.broadcast .battleSynced]
      else []).any Out.isAllReady = false := by
    split <;> simp [SessionServer.broadcast, Out.isAllReady]
  rw [finishStep_out]
  simp only [List.any_append, hpeers', hupd, hsync, Bool.false_or, Bool.or_false]
  cases p.bSendLobbyAllReady with
  | false => rfl
  | true => simp [SessionServer.sendAllReady, SessionServer.broadcast, Out.isAllReady]

theorem finish_synced (p : Stepping) (tick : Tick) :
    (finishStep p tick).2.any Out.isSynced = p.bSendBattleSynced := by
  have hpeers := exchange_quiet p.server.dropCharaFromVacatedSeats tick
  have hupd : (settled p tick).sendUpdate.2.any Out.isSynced = false := by
    apply List.any_eq_false.2
    intro o ho
    rw [sendUpdate_out _ o ho]
    simp [SessionServer.broadcast, SessionServer.updateMsg, Out.isSynced]
  have hpeers' : (p.server.dropCharaFromVacatedSeats.maybeExchangeDirectEndpoints tick).2.any
      Out.isSynced = false :=
    List.any_eq_false.2 fun o ho => by simp [Out.not_synced (hpeers o ho)]
  have hready : (if p.bSendLobbyAllReady then ((settled p tick).sendUpdate.1.sendAllReady tick).2
      else []).any Out.isSynced = false := by
    cases p.bSendLobbyAllReady with
    | false => rfl
    | true =>
      simp only [SessionServer.sendAllReady, if_true]
      split <;> simp [SessionServer.broadcast, SessionServer.updateMsg, Out.isSynced]
  rw [finishStep_out]
  simp only [List.any_append, hpeers', hupd, hready, Bool.false_or]
  cases p.bSendBattleSynced with
  | false => rfl
  | true => simp [SessionServer.broadcast, Out.isSynced]

/-- Every update a Step broadcasts describes the table at its end. -/
theorem finish_updates {p : Stepping} (h : p.server.WellSeated) (tick : Tick) {o : Out}
    {u : LobbyData × MatchData} (ho : o ∈ (finishStep p tick).2) (hu : o.update? = some u) :
    Describes u p.table.finish := by
  have hset : ∀ s : SessionServer, Stepping.table ⟨s, false, false⟩ = p.table.finish →
      o = s.broadcast s.updateMsg → Describes u p.table.finish := by
    intro s hs hos
    rw [← hs]
    exact describes_updateMsg s false false hos hu
  have hfin : Stepping.table ⟨settled p tick, false, false⟩ = p.table.finish := by
    rw [Table.finish, ← table_settled h tick]
    rfl
  rw [finishStep_out] at ho
  simp only [List.mem_append] at ho
  rcases ho with ((ho | ho) | ho) | ho
  · rw [Out.no_update (exchange_quiet _ _ o ho)] at hu
    cases hu
  · exact hset _ hfin (sendUpdate_out _ o ho)
  · split at ho
    · simp only [SessionServer.sendAllReady, List.mem_append, List.mem_cons, List.not_mem_nil, or_false] at ho
      rcases ho with ((rfl | rfl) | ho) | rfl
      · exact hset _ (by rw [table_callSpectators, table_sendUpdate, hfin]) rfl
      · cases hu
      · split at ho
        · rw [List.mem_singleton.1 ho] at hu
          cases hu
        · cases ho
      · cases hu
    · cases ho
  · split at ho
    · rw [List.mem_singleton.1 ho] at hu
      cases hu
    · cases ho

/-! ## Inputs for runs written out -/

/-- Lobby `i` as `main` of the lobby server sets it up. -/
def lobbyHost (i : Nat) : HostConfig where
  identity := ascii "sf4e-lobby-" ++ toDecimal i
  sidecarHash := []
  editionSelect := true
  roundCount := 3
  roundTime := ⟨0, 99⟩
  relayPort := 24001 + UInt16.ofNat i
  spectatorRelayBase := 25001 + UInt16.ofNat (4 * i)
  spectatorSlots := 2
  requireJoinSecret := true

namespace Sample

def tick : Tick := ⟨1000, 0, []⟩

def peerAddr : PeerAddr := ⟨some 0x0a000001, false, ascii "10.0.0.1", ascii_lt (by simp)⟩

def say (conn : Conn) (msg : ClientMsg) : IncomingMsg := ⟨conn, msg, 1, peerAddr, tick⟩

/-- One Step over these messages. -/
def step (msgs : List IncomingMsg) : Call := .step msgs tick

def openLobby : Call := .event (.create (ascii "build") (ascii "secret") false)

def joinAs (name : String) (spectator : Bool) : ClientMsg :=
  .joinReq (some ⟨ascii "build", ascii name, 23457, spectator, ascii "secret"⟩)

/-- A connection is accepted, says hello and joins. -/
def enter (conn : Conn) (name : String) (spectator : Bool) : List Call :=
  [.event (.connecting conn conn true), step [say conn .hello, say conn (joinAs name spectator)]]

/-- Connections 1 and 2 in the player seats of a new lobby. -/
def twoPlayers : List Call := openLobby :: (enter 1 "A" false ++ enter 2 "B" false)

def ready : ClientMsg := .lobbyReady (some ⟨0, true, 30, -1⟩)

/-- Both players ready up, which calls the match. -/
def bothReady : List Call := twoPlayers ++ [step [say 2 ready, say 1 ready]]

def unready : ClientMsg := .lobbyReady (some ⟨-1, false, -1, -1⟩)

def loses (side : Int32) : ClientMsg := .reportResults (some side)

end Sample

end Sf4e.Session
