import Sf4e.Session.Readiness
/-!
# What a spectator can do to the players' match

Every branch that looks for the sender's seat compares connections with the
entries 0 and 1, and a spectator can stand there. `SpectatorSafe` says, for each
message, when it still leaves the match alone.
-/
open Sf4e.Lib

namespace Sf4e.Session

/-- Every entry of the connection is a spectator's, and it has one. -/
def Stepping.spectates (p : Stepping) (conn : Conn) : Prop :=
  (∃ e ∈ p.server.clients, e.conn = conn) ∧ ∀ e ∈ p.server.clients, e.conn = conn → e.isPlayer = false

instance (p : Stepping) (conn : Conn) : Decidable (p.spectates conn) := inferInstanceAs (Decidable (_ ∧ _))

/-- Who sits where, with the endpoint held for each player. -/
def SessionServer.seating (s : SessionServer) : List (Conn × DirectOffer) :=
  s.players.map fun m => (m.conn, m.direct)

/-- A snapshot, a desync report or an endpoint that goes to a player. -/
def tellsPlayer (p : Stepping) : Out → Bool
  | .relay conn _ => p.server.players.any fun m => m.conn = conn
  | .respond conn (.desyncReport _) => p.server.players.any fun m => m.conn = conn
  | .respond conn (.directPeer _) => p.server.players.any fun m => m.conn = conn
  | _ => false

/-- The players' match is as it was: seats, picks, stage, seed, marks and
delays; no call and no start is pending that was not, and no player is told
anything. -/
structure Undisturbed (p : Stepping) (r : Stepping × List Out) : Prop where
  seating : r.1.server.seating = p.server.seating
  matchData : r.1.server.matchData = p.server.matchData
  called : r.1.bSendLobbyAllReady = true → p.bSendLobbyAllReady = true
  synced : r.1.bSendBattleSynced = true → p.bSendBattleSynced = true
  told : ∀ o ∈ r.2, tellsPlayer p o = false

/-- A ready from entry `side` changes neither marks nor delays, and calls no match. -/
def ReadyKeeps (p : Stepping) (side : Side) (num : Nat) (request : LobbyReady) : Prop :=
  p.server.matchData.readyMessageNum.get side = num ∧
    if p.server.matchData.isAllReady then
      p.bSendLobbyAllReady = true ∧
        ∀ s, p.server.matchData.inputDelay.get s =
          SessionServer.sharedInputDelay (p.server.readyRequest.set side request)
    else p.server.matchData.inputDelay.get side = request.inputDelay

/-- When a message from a spectator leaves the match alone. -/
def SpectatorSafe (p : Stepping) (m : IncomingMsg) : Prop :=
  registered p m = true →
    match m.msg with
    | .battleLoaded => p.server.allLoaded = true → p.bSendBattleSynced = true
    | .lobbyReady (some request) =>
      ∀ found ∈ p.server.sideOf m.conn,
        if request.ready then ReadyKeeps p found.1 m.messageNumber request
        else p.server.matchData.isAllReady = false →
          ¬ p.server.matchData.marked found.1 ∧ p.server.matchData.inputDelay.get found.1 = -1
    | .reportResults (some loser) =>
      (∀ side, ¬ p.server.matchData.marked side) ∧
        (p.server.roster.length = 2 → loser.toInt = 0 →
          p.server.seating = p.server.seating.reverse ∧ p.server.matchData.chara.s0 = p.server.matchData.chara.s1)
    | msg => SettingsKept p m.conn msg

instance (p : Stepping) (side : Side) (num : Nat) (request : LobbyReady) :
    Decidable (ReadyKeeps p side num request) := by
  unfold ReadyKeeps
  infer_instance

instance (p : Stepping) (m : IncomingMsg) : Decidable (SpectatorSafe p m) := by
  obtain ⟨conn, msg, num, peerAddr, tick⟩ := m
  induction msg using ClientMsg.casesOn with
  | battleLoaded => exact inferInstanceAs (Decidable (_ → _ → _ = true))
  | lobbyReady request =>
    induction request using Option.casesOn with
    | none => exact inferInstanceAs (Decidable (_ → SettingsKept p conn _))
    | some request =>
      exact inferInstanceAs (Decidable (_ → ∀ found ∈ p.server.sideOf conn,
        if request.ready then ReadyKeeps p found.1 num request else _ → _ ∧ _))
  | reportResults loser =>
    induction loser using Option.casesOn with
    | none => exact inferInstanceAs (Decidable (_ → SettingsKept p conn _))
    | some loser => exact inferInstanceAs (Decidable (_ → (∀ side : Side, _) ∧ (_ → _ → _ ∧ _)))
  | _ => exact inferInstanceAs (Decidable (_ → SettingsKept p conn _))

/-! ## Seating -/

namespace SessionServer

theorem seating_same {s s' : SessionServer} (h : s'.clients = s.clients) : s'.seating = s.seating := by
  rw [seating, seating, players, players, h]

theorem seating_map {f : SessionMember → SessionMember}
    (hf : ∀ m, (f m).isPlayer = m.isPlayer ∧ (f m).conn = m.conn ∧ (f m).direct = m.direct)
    {s s' : SessionServer} (hc : s'.clients = s.clients.map f) : s'.seating = s.seating := by
  rw [seating, seating, players, players, hc, List.filter_map, List.map_map]
  have hfilter : s.clients.filter ((·.isPlayer) ∘ f) = s.clients.filter (·.isPlayer) :=
    List.filter_congr fun m _ => (hf m).1
  rw [hfilter]
  exact List.map_congr_left fun m _ => by simp [(hf m).2.1, (hf m).2.2]

/-- Changing a spectator's entry changes no player. -/
theorem players_modify {f : SessionMember → SessionMember} (hf : ∀ m, (f m).isPlayer = m.isPlayer)
    (l : List SessionMember) (i : Nat) (hi : ∀ m, l[i]? = some m → m.isPlayer = false) :
    (l.modify i f).filter (·.isPlayer) = l.filter (·.isPlayer) := by
  induction l generalizing i with
  | nil => simp
  | cons m l ih =>
    cases i with
    | zero =>
      have hm : m.isPlayer = false := hi m rfl
      simp [hf, hm]
    | succ i =>
      simp only [List.modify_succ_cons, List.filter_cons]
      rw [ih i fun m' hm' => hi m' (by simpa using hm')]

theorem seating_seatMember_player {s : SessionServer} (h : WellSeated s) {m : SessionMember}
    (hp : m.data.spectator = false) : (s.seatMember m).seating = s.seating ++ [(m.conn, m.direct)] := by
  have hplay : m.isPlayer = true := by simp [SessionMember.isPlayer, hp]
  simp only [seatMember, hp, Bool.false_eq_true, if_false, onMembershipChanged, seating, players]
  rw [playerCount_countP, h.front.filter_insert hplay]
  simp

theorem seating_seatMember_spectator {s : SessionServer} {m : SessionMember} (hp : m.data.spectator = true) :
    (s.seatMember m).seating = s.seating := by
  simp [seatMember, hp, seating, players, SessionMember.isPlayer]

theorem Pair.seating_eq {s : SessionServer} {a b : SessionMember} {back : List SessionMember}
    (h : Pair s a b back) : s.seating = [(a.conn, a.direct), (b.conn, b.direct)] := by
  rw [SessionServer.seating, h.players]
  rfl

end SessionServer

/-! ## A spectator is no player -/

section

variable {p : Stepping} {m : IncomingMsg} (hw : p.server.WellSeated) (hspec : p.spectates m.conn)

include hspec in
theorem no_player_of_spectates (e : SessionMember) (he : e ∈ p.server.players) : e.conn ≠ m.conn := by
  intro hc
  obtain ⟨hmem, hp⟩ := List.mem_filter.1 he
  rw [hspec.2 e hmem hc] at hp
  cases hp

include hspec in
theorem spectator_entry {side : Side} {e : SessionMember} (hside : p.server.sideOf m.conn = some (side, e)) :
    e.isPlayer = false := by
  obtain ⟨he, hc⟩ := SessionServer.sideOf_some hside
  exact hspec.2 e (List.mem_of_getElem? he) hc

include hw hspec in
/-- A spectator at entry 0 or 1 leaves no room for two players. -/
theorem lone_of_spectator {side : Side} {e : SessionMember} (hside : p.server.sideOf m.conn = some (side, e)) :
    p.server.roster.length < 2 := by
  have hnone : p.server.roster[side.val]? = none :=
    no_occupant_of_sideOf hw hside (spectator_entry hspec hside)
  have := List.getElem?_eq_none_iff.1 hnone
  have := side.isLt
  omega

end

/-! ## The branches -/

/-- A branch that leaves the flags alone and tells no player anything. -/
theorem undisturbed_serve {p : Stepping} {r : SessionServer × List Out}
    (htold : ∀ o ∈ r.2, tellsPlayer p o = false) :
    Undisturbed p (p.serve r) ↔ r.1.seating = p.server.seating ∧ r.1.matchData = p.server.matchData := by
  constructor
  · intro h
    exact ⟨h.seating, h.matchData⟩
  · rintro ⟨hseat, hdata⟩
    exact ⟨hseat, hdata, id, id, htold⟩

/-- A branch that only writes match data. -/
theorem undisturbed_data {p : Stepping} {s : SessionServer} (hc : s.clients = p.server.clients) :
    Undisturbed p (p.serve (s, [])) ↔ s.matchData = p.server.matchData := by
  rw [undisturbed_serve (by simp)]
  exact and_iff_right (SessionServer.seating_same hc)

theorem undisturbed_same (p : Stepping) : Undisturbed p (p.serve (p.server, [])) :=
  ⟨rfl, rfl, id, id, by simp [Stepping.serve]⟩

theorem undisturbed_join {p : Stepping} (hw : p.server.WellSeated) (m : IncomingMsg) (cid : ConnectionID)
    (request : SessionJoinRequest) :
    Undisturbed p (p.serve (p.server.onJoinRequest m cid (some request))) ↔
      request.spectator = true ∨ (p.server.joinRefusal request).isSome = true := by
  cases href : p.server.joinRefusal request with
  | some reason =>
    have he : p.server.onJoinRequest m cid (some request) = (p.server, [.respond m.conn (.joinReject reason)]) := by
      simp only [SessionServer.onJoinRequest, SessionServer.registerToWait, href]
    rw [he, undisturbed_serve (by simp [tellsPlayer])]
    simp
  | none =>
    let seated := p.server.seatMember (p.server.newMember m.conn request m.peerAddr cid)
    have he : p.server.onJoinRequest m cid (some request) = ({ seated with dataDirty := true }, []) := by
      simp only [SessionServer.onJoinRequest, SessionServer.registerToWait, href]
      rfl
    have hdata : seated.matchData = p.server.matchData := by
      simp only [seated, SessionServer.seatMember]
      split <;> rfl
    have hrole := (SessionServer.newMember_seat p.server m.conn request m.peerAddr cid).2
    rw [he, undisturbed_serve (by simp)]
    have hdirty : ({ seated with dataDirty := true } : SessionServer).seating = seated.seating :=
      SessionServer.seating_same rfl
    dsimp only
    rw [hdirty]
    cases hspec : request.spectator with
    | true =>
      rw [hspec] at hrole
      exact ⟨fun _ => .inl rfl, fun _ => ⟨SessionServer.seating_seatMember_spectator hrole, hdata⟩⟩
    | false =>
      rw [hspec] at hrole
      constructor
      · -- a player more
        rintro ⟨hsame, -⟩
        have hlen := congrArg List.length hsame
        rw [SessionServer.seating_seatMember_player hw hrole, List.length_append] at hlen
        simp at hlen
      · simp

theorem undisturbed_setChara (p : Stepping) (conn : Conn) (chara : CharaConditions) :
    Undisturbed p (p.serve (p.server.onSetChara conn (some chara), [])) ↔
      ∀ found ∈ p.server.sideOf conn, charaConditionsValid chara = true →
        p.server.matchData.chara.get found.1 = chara := by
  unfold SessionServer.onSetChara
  cases p.server.sideOf conn with
  | none => exact iff_of_true (undisturbed_same p) (by simp)
  | some found =>
    obtain ⟨side, e⟩ := found
    dsimp only
    cases hv : charaConditionsValid chara with
    | false => exact iff_of_true (undisturbed_same p) (by simp)
    | true =>
      refine (undisturbed_data (by rfl)).trans ⟨?_, ?_⟩
      · rintro h _ ⟨⟩ _
        exact Sides.set_eq_self.1 (congrArg MatchData.chara h)
      · intro h
        have hset := Sides.set_eq_self.2 (h (side, e) rfl rfl)
        simp only [if_true, hset]

theorem undisturbed_setEnv (p : Stepping) (conn : Conn) (rngSeed : UInt32) :
    Undisturbed p (p.serve (p.server.onSetEnv conn (some rngSeed), [])) ↔
      ∀ found ∈ p.server.sideOf conn, found.1 = 0 → p.server.matchData.rngSeed = rngSeed := by
  unfold SessionServer.onSetEnv
  match p.server.sideOf conn with
  | none => exact iff_of_true (undisturbed_same p) (by simp)
  | some (1, e) => exact iff_of_true (undisturbed_same p) (by simp)
  | some (0, e) =>
    refine (undisturbed_data (by rfl)).trans ⟨?_, ?_⟩
    · intro h _ _ _
      exact (congrArg MatchData.rngSeed h).symm
    · intro h
      show { p.server.matchData with rngSeed } = p.server.matchData
      rw [← h (0, e) rfl rfl]

theorem undisturbed_setStage (p : Stepping) (conn : Conn) (stageID : Int32) :
    Undisturbed p (p.serve (p.server.onSetStage conn (some stageID), [])) ↔
      ∀ found ∈ p.server.sideOf conn, found.1 = 0 → stageIDValid stageID.toInt = true →
        p.server.matchData.stageID = stageID.toInt := by
  unfold SessionServer.onSetStage
  match p.server.sideOf conn with
  | none => exact iff_of_true (undisturbed_same p) (by simp)
  | some (1, e) => exact iff_of_true (undisturbed_same p) (by simp)
  | some (0, e) =>
    show Undisturbed p (p.serve (if stageIDValid stageID.toInt then _ else _, [])) ↔ _
    cases hv : stageIDValid stageID.toInt with
    | false => exact iff_of_true (undisturbed_same p) (by simp)
    | true =>
      refine (undisturbed_data (by rfl)).trans ⟨?_, ?_⟩
      · intro h _ _ _ _
        exact (congrArg MatchData.stageID h).symm
      · intro h
        show { p.server.matchData with stageID := stageID.toInt } = p.server.matchData
        rw [← h (0, e) rfl rfl rfl]

section

variable {p : Stepping} {m : IncomingMsg} (hspec : p.spectates m.conn)

include hspec in
/-- Only the spectator's own flag is set. -/
theorem undisturbed_load :
    Undisturbed p (p.battleLoaded m, []) ↔ (p.server.allLoaded = true → p.bSendBattleSynced = true) := by
  have hmark : ∀ e ∈ p.server.clients,
      ((SessionServer.markLoaded m.conn e).data.spectator || (SessionServer.markLoaded m.conn e).data.battleLoaded) =
        (e.data.spectator || e.data.battleLoaded) := by
    intro e he
    unfold SessionServer.markLoaded
    by_cases hc : e.conn = m.conn
    · have := hspec.2 e he hc
      simp only [SessionMember.isPlayer, Bool.not_eq_false'] at this
      simp [hc, this]
    · simp [hc]
  have hloaded : (p.server.onBattleLoaded m.conn).allLoaded = p.server.allLoaded := by
    simp only [SessionServer.allLoaded, SessionServer.onBattleLoaded, List.all_map]
    rw [Bool.eq_iff_iff, List.all_eq_true, List.all_eq_true]
    exact forall₂_congr fun e he => by rw [← hmark e he]; rfl
  have hseat : (p.server.onBattleLoaded m.conn).seating = p.server.seating := by
    refine SessionServer.seating_map (fun e => ?_) rfl
    unfold SessionServer.markLoaded
    split <;> exact ⟨rfl, rfl, rfl⟩
  have hsync : (p.battleLoaded m).bSendBattleSynced = p.server.allLoaded := hloaded
  constructor
  · intro h hall
    exact h.synced (hsync.trans hall)
  · intro h
    exact ⟨hseat, rfl, id, fun hs => h (hsync.symm.trans hs), by simp⟩

end

/-- The match data after a ready, with the marks and the delays apart. -/
theorem onReady_matchData (s : SessionServer) (side : Side) (num : Nat) (request : LobbyReady) :
    (s.onReady side num request).matchData =
      { s.matchData with
        readyMessageNum := s.matchData.readyMessageNum.set side num
        inputDelay :=
          if (s.markReady side num request).matchData.isAllReady then
            let shared := SessionServer.sharedInputDelay (s.readyRequest.set side request)
            ⟨shared, shared⟩
          else s.matchData.inputDelay.set side request.inputDelay } := by
  simp only [SessionServer.onReady, SessionServer.stampDelay]
  split <;> rfl

theorem undisturbed_ready (p : Stepping) (side : Side) (num : Nat) (request : LobbyReady) :
    Undisturbed p
        ({ p with
            server := p.server.onReady side num request
            bSendLobbyAllReady :=
              p.bSendLobbyAllReady || (p.server.onReady side num request).matchData.isAllReady }, []) ↔
      ReadyKeeps p side num request := by
  have hseat : (p.server.onReady side num request).seating = p.server.seating := by
    refine SessionServer.seating_same ?_
    simp only [SessionServer.onReady, SessionServer.stampDelay]
    split <;> rfl
  have hdata := onReady_matchData p.server side num request
  have hall : (p.server.onReady side num request).matchData.isAllReady =
      (p.server.markReady side num request).matchData.isAllReady := by
    rw [hdata]
    rfl
  -- with the mark as it was, the pair is complete if it was before
  have hsame : p.server.matchData.readyMessageNum.get side = num →
      (p.server.markReady side num request).matchData.isAllReady = p.server.matchData.isAllReady := by
    intro h
    simp only [SessionServer.markReady, MatchData.isAllReady, Sides.set_eq_self.2 h]
  unfold ReadyKeeps
  constructor
  · intro h
    have hd := hdata.symm.trans h.matchData
    have hmark := Sides.set_eq_self.1 (congrArg MatchData.readyMessageNum hd)
    have hdelay := congrArg MatchData.inputDelay hd
    refine ⟨hmark, ?_⟩
    simp only [hsame hmark] at hdelay
    split
    · rename_i hready
      rw [if_pos hready] at hdelay
      refine ⟨h.called ?_, fun s => ?_⟩
      · simp only [hall, hsame hmark, hready, Bool.or_true]
      · rw [← hdelay]
        cases s using Side.cases with
        | zero => rfl
        | one => rfl
    · rename_i hready
      rw [if_neg hready] at hdelay
      exact Sides.set_eq_self.1 hdelay
  · rintro ⟨hmark, hkeep⟩
    have hdelay : (p.server.onReady side num request).matchData.inputDelay = p.server.matchData.inputDelay := by
      rw [hdata]
      simp only [hsame hmark]
      split at hkeep
      · rename_i hready
        rw [if_pos hready]
        apply Sides.ext_get
        intro s
        rw [hkeep.2 s]
        cases s using Side.cases with
        | zero => rfl
        | one => rfl
      · rename_i hready
        rw [if_neg hready]
        exact Sides.set_eq_self.2 hkeep
    refine ⟨hseat, ?_, ?_, id, by simp⟩
    · rw [hdata] at hdelay ⊢
      simp only at hdelay
      simp only [hdelay, Sides.set_eq_self.2 hmark]
    · intro hcalled
      simp only [hall, hsame hmark, Bool.or_eq_true] at hcalled
      rcases hcalled with hc | hc
      · exact hc
      · rw [if_pos hc] at hkeep
        exact hkeep.1

theorem undisturbed_unready (p : Stepping) (side : Side) :
    Undisturbed p ({ p with server := p.server.onUnready side }, []) ↔
      (p.server.matchData.isAllReady = false →
        ¬ p.server.matchData.marked side ∧ p.server.matchData.inputDelay.get side = -1) := by
  show Undisturbed p (p.serve (p.server.onUnready side, [])) ↔ _
  unfold SessionServer.onUnready
  cases hall : p.server.matchData.isAllReady with
  | true => exact iff_of_true (undisturbed_same p) (by simp)
  | false =>
    refine (undisturbed_data (by rfl)).trans ⟨?_, ?_⟩
    · intro h _
      have hmark := Sides.set_eq_self.1 (congrArg MatchData.readyMessageNum h)
      exact ⟨by simp [MatchData.marked, hmark], Sides.set_eq_self.1 (congrArg MatchData.inputDelay h)⟩
    · intro h
      obtain ⟨hmark, hdelay⟩ := h rfl
      have hnum : p.server.matchData.readyMessageNum.get side = -1 := by simpa [MatchData.marked] using hmark
      simp only [Bool.false_eq_true, if_false, Sides.set_eq_self.2 hnum, Sides.set_eq_self.2 hdelay]

theorem seating_result {s : SessionServer} (h : s.WellSeated) (loser : Int) (tick : Tick) :
    (s.handleResults loser tick).1.seating =
      if s.roster.length = 2 ∧ loser = 0 then s.seating.reverse else s.seating := by
  have hclock : (s.closeMatchClock tick).1.clients = s.clients ∧ (s.closeMatchClock tick).1.WellSeated := by
    unfold SessionServer.closeMatchClock
    split
    · exact ⟨rfl, h.same rfl rfl rfl⟩
    · exact ⟨rfl, h⟩
  have hseat : (s.closeMatchClock tick).1.seating = s.seating := SessionServer.seating_same hclock.1
  have hroster : (s.closeMatchClock tick).1.roster = s.roster := SessionServer.roster_same hclock.1
  have hclear : ∀ s' : SessionServer, s'.clearWatching.clearReadyMarks.seating = s'.seating := fun s' =>
    SessionServer.seating_map (s := s') (f := fun m => { m with data := { m.data with watching := false } })
      (fun _ => ⟨rfl, rfl, rfl⟩) rfl
  unfold SessionServer.handleResults
  rw [hclear]
  rcases SessionServer.rotateLoser_cases hclock.2 loser with ⟨hno, he⟩ | ⟨h0, a, b, back, hpair, he⟩
  · rw [hroster] at hno
    rw [he, if_neg hno, hseat]
  · have h2 : s.roster.length = 2 := by rw [← hroster, hpair.roster]; rfl
    rw [he, if_pos ⟨h2, h0⟩, ← hseat, hpair.seating_eq, hpair.swapped.seating_eq]
    rfl

theorem undisturbed_result {p : Stepping} (hw : p.server.WellSeated) (loser : Int32) (tick : Tick) :
    Undisturbed p (p.serve (p.server.onReportResults (some loser) tick)) ↔
      (∀ side, ¬ p.server.matchData.marked side) ∧
        (p.server.roster.length = 2 → loser.toInt = 0 →
          p.server.seating = p.server.seating.reverse ∧ p.server.matchData.chara.s0 = p.server.matchData.chara.s1) := by
  have hquiet : ∀ o ∈ (p.server.onReportResults (some loser) tick).2, tellsPlayer p o = false := by
    simp only [SessionServer.onReportResults, SessionServer.handleResults, SessionServer.closeMatchClock]
    split <;> simp [tellsPlayer]
  have hseat : (p.server.onReportResults (some loser) tick).1.seating =
      if p.server.roster.length = 2 ∧ loser.toInt = 0 then p.server.seating.reverse else p.server.seating :=
    (SessionServer.seating_same rfl).trans (seating_result hw loser.toInt tick)
  have hdata : (p.server.onReportResults (some loser) tick).1.matchData =
      ((if p.table.rotates loser.toInt then p.table.swapSeats else p.table).clearMarks).matchData :=
    congrArg Table.matchData (table_result p.server hw loser.toInt tick p.bSendLobbyAllReady p.bSendBattleSynced)
  rw [undisturbed_serve hquiet, hseat, hdata]
  have hmarks : p.server.matchData.readyMessageNum = ⟨-1, -1⟩ ↔ ∀ side, ¬ p.server.matchData.marked side := by
    constructor
    · intro h side
      unfold MatchData.marked
      rw [h]
      cases side using Side.cases with
      | zero => simp
      | one => simp
    · intro h
      apply Sides.ext_get
      intro side
      have := h side
      unfold MatchData.marked at this
      cases side using Side.cases with
      | zero => simpa using this
      | one => simpa using this
  rw [← hmarks]
  by_cases hrot : p.table.rotates loser.toInt
  · have hrot' : p.server.roster.length = 2 ∧ loser.toInt = 0 := hrot
    rw [if_pos hrot, if_pos hrot']
    constructor
    · rintro ⟨hrev, hd⟩
      have hswap : p.server.matchData.chara.swap = p.server.matchData.chara := congrArg MatchData.chara hd
      refine ⟨(congrArg MatchData.readyMessageNum hd).symm, fun _ _ => ⟨hrev.symm, ?_⟩⟩
      exact congrArg Sides.s1 hswap
    · rintro ⟨hnum, hsame⟩
      obtain ⟨hrev, hchara⟩ := hsame hrot'.1 hrot'.2
      refine ⟨hrev.symm, ?_⟩
      show ({ p.server.matchData with
        chara := p.server.matchData.chara.swap
        readyMessageNum := ⟨-1, -1⟩ } : MatchData) = p.server.matchData
      have hswap : p.server.matchData.chara.swap = p.server.matchData.chara := by
        apply Sides.ext_get
        intro side
        cases side using Side.cases with
        | zero => exact hchara.symm
        | one => exact hchara
      rw [hswap, ← hnum]
  · have hrot' : ¬(p.server.roster.length = 2 ∧ loser.toInt = 0) := hrot
    rw [if_neg hrot, if_neg hrot']
    constructor
    · rintro ⟨-, hd⟩
      exact ⟨(congrArg MatchData.readyMessageNum hd).symm, fun h2 h0 => absurd ⟨h2, h0⟩ hrot'⟩
    · rintro ⟨hnum, -⟩
      refine ⟨rfl, ?_⟩
      show ({ p.server.matchData with readyMessageNum := ⟨-1, -1⟩ } : MatchData) = p.server.matchData
      rw [← hnum]

/-- An endpoint offered by a spectator has nobody to go to. -/
theorem undisturbed_offer {p : Stepping} {m : IncomingMsg} (hw : p.server.WellSeated)
    (hspec : p.spectates m.conn) (offer : Option DirectOffer) :
    Undisturbed p (p.serve (p.server.onDirectOffer m.conn offer m.tick)) := by
  unfold SessionServer.onDirectOffer
  cases hside : p.server.sideOf m.conn with
  | none => exact undisturbed_same p
  | some found =>
    obtain ⟨side, e⟩ := found
    cases offer with
    | none => exact undisturbed_same p
    | some offer =>
      have hlone := lone_of_spectator hw hspec hside
      let offered : SessionServer := { p.server with
        directExchanged := false
        clients := p.server.clients.modify side.val fun m => { m with direct := offer } }
      have hcount : offered.playerCount = p.server.playerCount :=
        SessionServer.playerCount_of_cards (SessionServer.map_modify_of_keeps (by intro m; rfl) _ _)
      have hexch : offered.maybeExchangeDirectEndpoints m.tick = (offered, []) := by
        unfold SessionServer.maybeExchangeDirectEndpoints
        rw [hcount, SessionServer.playerCount_eq]
        simp [hlone]
      have hseat : offered.seating = p.server.seating := by
        refine congrArg (List.map _) (SessionServer.players_modify (by intro m; rfl) _ _ fun m hm => ?_)
        have he := (SessionServer.sideOf_some hside).1
        rw [SessionServer.entry_eq, hm, Option.some.injEq] at he
        rw [he]
        exact spectator_entry hspec hside
      show Undisturbed p (p.serve (offered.maybeExchangeDirectEndpoints m.tick))
      rw [hexch]
      exact (undisturbed_serve (by simp)).2 ⟨hseat, rfl⟩

/-- Desync reports are taken from players only. -/
theorem undisturbed_desync {p : Stepping} {m : IncomingMsg} (hw : p.server.WellSeated)
    (hspec : p.spectates m.conn) (report : Option DesyncReport) :
    Undisturbed p (p.serve (p.server.onDesyncReport m.conn report m.tick)) := by
  have hfrom : p.server.fromPlayer m.conn = false := by
    apply List.any_eq_false.2
    intro e he
    have hplayer : e ∈ p.server.players := by
      rw [SessionServer.playerCount_countP, hw.front.take_countP] at he
      exact he
    simpa using no_player_of_spectates hspec e hplayer
  cases report with
  | none => exact undisturbed_same p
  | some report =>
    have he : p.server.onDesyncReport m.conn (some report) m.tick = (p.server, []) := by
      simp only [SessionServer.onDesyncReport, hfrom, Bool.not_false, Bool.true_or, if_true]
    rw [he]
    exact undisturbed_same p

/-! ## Any message -/

/-- A registered spectator's message, branch by branch. -/
theorem undisturbed_known {p : Stepping} {m : IncomingMsg} {cid : ConnectionID} (hw : p.server.WellSeated)
    (hspec : p.spectates m.conn) (hcid : p.server.cidMap.find m.conn = some cid) :
    Undisturbed p (handleKnown p m cid) ↔ SpectatorSafe p m := by
  have hreg : registered p m = true := by simp [registered, hcid]
  unfold SpectatorSafe
  rw [forall_prop_of_true hreg]
  unfold handleKnown
  cases m.msg with
  | forward msg fwd =>
    refine iff_of_true ((undisturbed_serve ?_).2 ⟨rfl, rfl⟩) trivial
    simp only [SessionServer.onForward]
    repeat' split
    all_goals simp [tellsPlayer]
  | joinReq request =>
    cases request with
    | none =>
      refine iff_of_true ((undisturbed_serve ?_).2 ⟨rfl, rfl⟩) trivial
      simp [SessionServer.onJoinRequest, tellsPlayer]
    | some request => exact undisturbed_join hw m cid request
  | setChara request =>
    cases request with
    | none =>
      dsimp only
      rw [SessionServer.setChara_none]
      exact iff_of_true (undisturbed_same p) trivial
    | some chara => exact undisturbed_setChara p m.conn chara
  | desyncReport report => exact iff_of_true (undisturbed_desync hw hspec report) trivial
  | directOffer offer => exact iff_of_true (undisturbed_offer hw hspec offer) trivial
  | setEnv rngSeed =>
    cases rngSeed with
    | none =>
      dsimp only
      rw [SessionServer.setEnv_none]
      exact iff_of_true (undisturbed_same p) trivial
    | some rngSeed => exact undisturbed_setEnv p m.conn rngSeed
  | setStage stageID =>
    cases stageID with
    | none =>
      dsimp only
      rw [SessionServer.setStage_none]
      exact iff_of_true (undisturbed_same p) trivial
    | some stageID => exact undisturbed_setStage p m.conn stageID
  | battleLoaded => exact undisturbed_load hspec
  | lobbyReady request =>
    cases request with
    | none =>
      dsimp only
      rw [Stepping.lobbyReady_none]
      exact iff_of_true (undisturbed_same p) trivial
    | some request =>
      simp only [Stepping.lobbyReady]
      cases p.server.sideOf m.conn with
      | none => exact iff_of_true (undisturbed_same p) (by simp)
      | some found =>
        obtain ⟨side, e⟩ := found
        cases hready : request.ready with
        | true =>
          simp only [hready, if_true]
          refine (undisturbed_ready p side m.messageNumber request).trans ⟨?_, ?_⟩
          · rintro h _ ⟨⟩
            exact h
          · intro h
            exact h (side, e) rfl
        | false =>
          simp only [hready, Bool.false_eq_true, if_false]
          refine (undisturbed_unready p side).trans ⟨?_, ?_⟩
          · rintro h _ ⟨⟩
            exact h
          · intro h
            exact h (side, e) rfl
  | reportResults loser =>
    cases loser with
    | none => exact iff_of_true (undisturbed_same p) trivial
    | some loser => exact undisturbed_result hw loser m.tick
  | battleSnapshot data =>
    obtain ⟨e, he, hc⟩ := hspec.1
    have hany : (p.server.clients.any fun m' => m'.conn = m.conn && m'.data.spectator) = true := by
      have := hspec.2 e he hc
      simp only [SessionMember.isPlayer, Bool.not_eq_false'] at this
      exact List.any_eq_true.2 ⟨e, he, by simp [hc, this]⟩
    simp only [SessionServer.onBattleSnapshot, hany, if_true]
    exact iff_of_true (undisturbed_same p) trivial
  | _ => exact iff_of_true (undisturbed_same p) trivial

theorem undisturbed_iff {p : Stepping} {m : IncomingMsg} (hw : p.server.WellSeated)
    (hspec : p.spectates m.conn) : Undisturbed p (handleMessage p m) ↔ SpectatorSafe p m := by
  unfold handleMessage
  cases hcid : p.server.cidMap.find m.conn with
  | some cid => exact undisturbed_known hw hspec hcid
  | none =>
    refine iff_of_true ?_ (by simp [SpectatorSafe, registered, hcid])
    cases m.msg with
    | hello => exact (undisturbed_serve (by simp [SessionServer.onHello, tellsPlayer])).2 ⟨rfl, rfl⟩
    | _ => exact undisturbed_same p

/-- In every reachable state, a spectator's message leaves the players' match
alone exactly when it is safe. -/
theorem spectator_undisturbed_iff (cfg : HostConfig) (as : List Act) (m : IncomingMsg)
    (hspec : (sessionServer.run (start cfg) as).spectates m.conn) :
    Undisturbed (sessionServer.run (start cfg) as) (handleMessage (sessionServer.run (start cfg) as) m) ↔
      SpectatorSafe (sessionServer.run (start cfg) as) m :=
  undisturbed_iff
    (Machine.inv_of_all_steps (fun p : Stepping => p.server.WellSeated) (fun _ a h => wellSeated_next h a) as
      (wellSeated_start cfg))
    hspec

namespace Sample

/-- Two players and a spectator, connection 3. -/
def watched : List Call := twoPlayers ++ enter 3 "S" true

end Sample

/-- A spectator that says it has loaded. -/
theorem spectator_undisturbed_iff_loaded :
    let p := sessionServer.run (start (lobbyHost 0)) (acts Sample.watched)
    p.spectates 3 ∧ Undisturbed p (handleMessage p (Sample.say 3 .battleLoaded)) :=
  ⟨by decide +kernel,
    (spectator_undisturbed_iff (lobbyHost 0) (acts Sample.watched) (Sample.say 3 .battleLoaded)
      (by decide +kernel)).2 (by decide +kernel)⟩

/-- A spectator that reports seat 0 as the loser makes the players change seats. -/
theorem spectator_report_rotates :
    ¬ ∀ (cfg : HostConfig) (as : List Act) (m : IncomingMsg),
      (sessionServer.run (start cfg) as).spectates m.conn →
        Undisturbed (sessionServer.run (start cfg) as) (handleMessage (sessionServer.run (start cfg) as) m) := by
  intro h
  have hseat := (h (lobbyHost 0) (acts Sample.watched) (Sample.say 3 (Sample.loses 0)) (by decide +kernel)).seating
  exact absurd hseat (by decide +kernel)

end Sf4e.Session
