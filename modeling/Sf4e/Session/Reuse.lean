import Sf4e.Session.Runs
/-!
# A lobby used again

Opening a lobby again leaves three things of its earlier life in the server: the
owners of picks, the stored ready requests and the match clock. `Alike` says when
they cannot be told from those of a new server, and every action keeps it: what is
sent to the connections is the same.
-/
open Sf4e.Lib

namespace Sf4e.Session

/-- What a new lobby does not reset. -/
structure Leftover where
  readyRequest : Sides LobbyReady
  charaOwner : Sides ConnectionID
  matchStartMs : UInt64

def SessionServer.withLeft (s : SessionServer) (x : Leftover) : SessionServer :=
  { s with readyRequest := x.readyRequest, charaOwner := x.charaOwner, matchStartMs := x.matchStartMs }

/-- What reaches a connection; the log does not. -/
def Out.toConnection : Out → Bool
  | .logStat _ _ => false
  | _ => true

/-- `x` differs from what the server has where nobody looks: at the owner of a pick that
is not there, and at the request behind a mark that is not there. -/
structure Unseen (s : SessionServer) (x : Leftover) : Prop where
  owner : ∀ side, (s.matchData.chara.get side).charaID ≠ 0 → x.charaOwner.get side = s.charaOwner.get side
  request : ∀ side, s.matchData.marked side → x.readyRequest.get side = s.readyRequest.get side

def Alike (s t : SessionServer) : Prop := ∃ x, Unseen s x ∧ t = s.withLeft x

/-- The same on both sides of a call: alike after it, and the same to the connections. -/
structure AlikeAfter (r r' : SessionServer × List Out) : Prop where
  server : Alike r.1 r'.1
  out : Machine.seen Out.toConnection r.2 = Machine.seen Out.toConnection r'.2

namespace Unseen

variable {s s' : SessionServer} {x : Leftover}

/-- Picks, marks, owners and requests are as before. -/
theorem same (h : Unseen s x) (hc : s'.matchData.chara = s.matchData.chara)
    (hm : s'.matchData.readyMessageNum = s.matchData.readyMessageNum) (ho : s'.charaOwner = s.charaOwner)
    (hr : s'.readyRequest = s.readyRequest) : Unseen s' x where
  owner side := by
    rw [hc, ho]
    exact h.owner side
  request side := by
    unfold MatchData.marked
    rw [hm, hr]
    exact h.request side

/-- Both write the pick and its owner. -/
theorem pick (h : Unseen s x) {side : Side} {chara : CharaConditions} {owner : ConnectionID}
    (hc : s'.matchData.chara = s.matchData.chara.set side chara) (ho : s'.charaOwner = s.charaOwner.set side owner)
    (hm : ∀ i, s'.matchData.marked i → s.matchData.marked i) (hr : s'.readyRequest = s.readyRequest) :
    Unseen s' { x with charaOwner := x.charaOwner.set side owner } where
  owner i hi := by
    rw [ho]
    rcases Side.eq_or_other side i with rfl | rfl
    · rw [Sides.get_set_self, Sides.get_set_self]
    · rw [hc, Sides.get_set_other] at hi
      rw [Sides.get_set_other, Sides.get_set_other]
      exact h.owner _ hi
  request i hi := by
    rw [hr]
    exact h.request i (hm i hi)

/-- Both write the stored request. -/
theorem ask (h : Unseen s x) {side : Side} {request : LobbyReady} (hc : s'.matchData.chara = s.matchData.chara)
    (ho : s'.charaOwner = s.charaOwner) (hr : s'.readyRequest = s.readyRequest.set side request)
    (hm : s'.matchData.readyMessageNum.get side.other = s.matchData.readyMessageNum.get side.other) :
    Unseen s' { x with readyRequest := x.readyRequest.set side request } where
  owner i := by
    rw [hc, ho]
    exact h.owner i
  request i hi := by
    rw [hr]
    rcases Side.eq_or_other side i with rfl | rfl
    · rw [Sides.get_set_self, Sides.get_set_self]
    · rw [Sides.get_set_other, Sides.get_set_other]
      refine h.request _ ?_
      unfold MatchData.marked at hi ⊢
      rwa [hm] at hi

/-- The picks change seats with their owners, and nobody is ready. -/
theorem swap (h : Unseen s x) (hc : s'.matchData.chara = s.matchData.chara.swap) (ho : s'.charaOwner = s.charaOwner.swap)
    (hm : s'.matchData.readyMessageNum = s.matchData.readyMessageNum) (hr : s'.readyRequest = s.readyRequest) :
    Unseen s' { x with charaOwner := x.charaOwner.swap } where
  owner i hi := by
    rw [hc, Sides.get_swap] at hi
    rw [ho, Sides.get_swap, Sides.get_swap]
    exact h.owner _ hi
  request i := by
    unfold MatchData.marked
    rw [hm, hr]
    exact h.request i

/-- Nothing is left where there are no picks and no marks. -/
theorem clear (hc : s.matchData = .clear) (x : Leftover) : Unseen s x where
  owner i hi := by
    rw [hc] at hi
    cases i using Side.cases with
    | zero => exact absurd rfl hi
    | one => exact absurd rfl hi
  request i hi := by
    rw [hc] at hi
    cases i using Side.cases with
    | zero => exact absurd rfl hi
    | one => exact absurd rfl hi

end Unseen

namespace SessionServer

variable {s : SessionServer} {x : Leftover}

/-! ## What the seats do -/

theorem sideOf_withLeft (s : SessionServer) (x : Leftover) (conn : Conn) : (s.withLeft x).sideOf conn = s.sideOf conn := rfl

/-- A seat's pick is dropped by both or by neither. -/
theorem sameOwner_withLeft (h : Unseen s x) (side : Side) (hpick : (s.matchData.chara.get side).charaID ≠ 0) :
    (s.withLeft x).sameOwner side = s.sameOwner side := by
  unfold sameOwner
  have hentry : (s.withLeft x).entry side = s.entry side := rfl
  have howner : (s.withLeft x).charaOwner.get side = s.charaOwner.get side := h.owner side hpick
  rw [hentry, howner]

theorem alike_dropped (h : Unseen s x) (side : Side) :
    Alike (s.dropCharaFromVacatedSeat side) ((s.withLeft x).dropCharaFromVacatedSeat side) := by
  unfold dropCharaFromVacatedSeat
  have hdata : (s.withLeft x).matchData = s.matchData := rfl
  rw [hdata]
  by_cases hpick : (s.matchData.chara.get side).charaID ≠ 0
  · rw [sameOwner_withLeft h side hpick]
    split
    · refine ⟨{ x with charaOwner := x.charaOwner.set side .null }, ?_, rfl⟩
      refine h.pick rfl rfl (fun i hi => ?_) rfl
      -- the seat's mark is gone, the other's is as before
      unfold MatchData.marked at hi ⊢
      rcases Side.eq_or_other side i with rfl | rfl
      · exact absurd (Sides.get_set_self _ _ _) hi
      · exact Sides.get_set_other s.matchData.readyMessageNum side (-1) ▸ hi
    · exact ⟨x, h, rfl⟩
  · simp only [hpick, decide_false, Bool.and_false, Bool.false_eq_true, if_false]
    exact ⟨x, h, rfl⟩

theorem alike_exchange (h : Unseen s x) (tick : Tick) :
    AlikeAfter (s.maybeExchangeDirectEndpoints tick) ((s.withLeft x).maybeExchangeDirectEndpoints tick) := by
  have heq : (s.withLeft x).maybeExchangeDirectEndpoints tick =
      ((s.maybeExchangeDirectEndpoints tick).1.withLeft x, (s.maybeExchangeDirectEndpoints tick).2) := by
    unfold maybeExchangeDirectEndpoints
    have hentry : ∀ side, (s.withLeft x).entry side = s.entry side := fun _ => rfl
    have hcount : (s.withLeft x).playerCount = s.playerCount := rfl
    have hdone : (s.withLeft x).directExchanged = s.directExchanged := rfl
    rw [hentry, hentry, hcount, hdone]
    split
    · rfl
    · cases s.entry 0 with
      | none => rfl
      | some a =>
        cases s.entry 1 with
        | none => rfl
        | some b =>
          dsimp only
          split <;> rfl
  rw [heq]
  refine ⟨⟨x, ?_, rfl⟩, rfl⟩
  rcases maybeExchange_eq s tick with he | he <;> rw [he]
  · exact h
  · exact h.same rfl rfl rfl rfl

/-! ## The messages -/

/-- A call that neither reads nor writes what is left. -/
theorem alikeAfter_of_eq {r r' : SessionServer × List Out} (h : Unseen r.1 x) (hr : r' = (r.1.withLeft x, r.2)) :
    AlikeAfter r r' := by
  subst hr
  exact ⟨⟨x, h, rfl⟩, rfl⟩

theorem alike_join (h : Unseen s x) (m : IncomingMsg) (cid : ConnectionID) (request : Option SessionJoinRequest) :
    AlikeAfter (s.onJoinRequest m cid request) ((s.withLeft x).onJoinRequest m cid request) := by
  cases request with
  | none => exact alikeAfter_of_eq (r := (s, _)) h rfl
  | some request =>
    simp only [onJoinRequest, registerToWait]
    have href : (s.withLeft x).joinRefusal request = s.joinRefusal request := rfl
    have hnew : (s.withLeft x).newMember m.conn request m.peerAddr cid = s.newMember m.conn request m.peerAddr cid := rfl
    rw [href, hnew]
    cases s.joinRefusal request with
    | some reason => exact alikeAfter_of_eq (r := (s, _)) h rfl
    | none =>
      unfold seatMember
      dsimp only
      split
      · exact alikeAfter_of_eq (h.same rfl rfl rfl rfl) rfl
      · exact alikeAfter_of_eq (h.same rfl rfl rfl rfl) rfl

theorem alike_setChara (h : Unseen s x) (conn : Conn) (request : Option CharaConditions) :
    Alike (s.onSetChara conn request) ((s.withLeft x).onSetChara conn request) := by
  unfold onSetChara
  rw [sideOf_withLeft]
  cases s.sideOf conn with
  | none => exact ⟨x, h, rfl⟩
  | some found =>
    obtain ⟨side, e⟩ := found
    cases request with
    | none => exact ⟨x, h, rfl⟩
    | some chara =>
      dsimp only
      split
      · exact ⟨_, h.pick rfl rfl (fun _ hi => hi) rfl, rfl⟩
      · exact ⟨x, h, rfl⟩

theorem alike_desync (h : Unseen s x) (conn : Conn) (report : Option DesyncReport) (tick : Tick) :
    AlikeAfter (s.onDesyncReport conn report tick) ((s.withLeft x).onDesyncReport conn report tick) := by
  cases report with
  | none => exact alikeAfter_of_eq (r := (s, _)) h rfl
  | some report =>
    simp only [onDesyncReport]
    have hfrom : (s.withLeft x).fromPlayer conn = s.fromPlayer conn := rfl
    have hcount : (s.withLeft x).desyncReports = s.desyncReports := rfl
    rw [hfrom, hcount]
    split
    · exact alikeAfter_of_eq (r := (s, _)) h rfl
    · exact alikeAfter_of_eq (h.same rfl rfl rfl rfl) rfl

theorem alike_offer (h : Unseen s x) (conn : Conn) (offer : Option DirectOffer) (tick : Tick) :
    AlikeAfter (s.onDirectOffer conn offer tick) ((s.withLeft x).onDirectOffer conn offer tick) := by
  unfold onDirectOffer
  rw [sideOf_withLeft]
  cases s.sideOf conn with
  | none => exact alikeAfter_of_eq (r := (s, [])) h rfl
  | some found =>
    obtain ⟨side, e⟩ := found
    cases offer with
    | none => exact alikeAfter_of_eq (r := (s, [])) h rfl
    | some offer =>
      have hoffered : Unseen { s with
          directExchanged := false
          clients := s.clients.modify side.val fun m => { m with direct := offer } } x := h.same rfl rfl rfl rfl
      exact alike_exchange hoffered tick

theorem alike_setEnv (h : Unseen s x) (conn : Conn) (rngSeed : Option UInt32) :
    Alike (s.onSetEnv conn rngSeed) ((s.withLeft x).onSetEnv conn rngSeed) := by
  unfold onSetEnv
  rw [sideOf_withLeft]
  split
  · exact ⟨x, h.same rfl rfl rfl rfl, rfl⟩
  · exact ⟨x, h, rfl⟩

theorem alike_setStage (h : Unseen s x) (conn : Conn) (stageID : Option Int32) :
    Alike (s.onSetStage conn stageID) ((s.withLeft x).onSetStage conn stageID) := by
  unfold onSetStage
  rw [sideOf_withLeft]
  split
  · split
    · exact ⟨x, h.same rfl rfl rfl rfl, rfl⟩
    · exact ⟨x, h, rfl⟩
  · exact ⟨x, h, rfl⟩

/-- With both marks set both requests are seen, and the shared delay is one. -/
theorem alike_stamp (h : Unseen s x) : Alike s.stampDelay (s.withLeft x).stampDelay := by
  unfold stampDelay
  have hdata : (s.withLeft x).matchData = s.matchData := rfl
  rw [hdata]
  split
  · rename_i hall
    have hboth : (s.withLeft x).readyRequest = s.readyRequest :=
      Sides.ext_get fun side => h.request side (MatchData.isAllReady_iff.1 hall side)
    have hshared : sharedInputDelay (s.withLeft x).readyRequest = sharedInputDelay s.readyRequest := by rw [hboth]
    rw [hshared]
    exact ⟨x, h.same rfl rfl rfl rfl, rfl⟩
  · exact ⟨x, h, rfl⟩

theorem alike_ready (h : Unseen s x) (side : Side) (num : Nat) (request : LobbyReady) :
    Alike (s.onReady side num request) ((s.withLeft x).onReady side num request) := by
  have hmark : Unseen (s.markReady side num request) { x with readyRequest := x.readyRequest.set side request } :=
    h.ask rfl rfl rfl (Sides.get_set_other _ _ _)
  exact alike_stamp hmark

theorem alike_unready (h : Unseen s x) (side : Side) : Alike (s.onUnready side) ((s.withLeft x).onUnready side) := by
  unfold onUnready
  have hdata : (s.withLeft x).matchData = s.matchData := rfl
  rw [hdata]
  split
  · exact ⟨x, h, rfl⟩
  · exact ⟨_, h.ask rfl rfl rfl (Sides.get_set_other _ _ _), rfl⟩

theorem alike_rotate (h : Unseen s x) (loser : Int) : Alike (s.rotateLoser loser) ((s.withLeft x).rotateLoser loser) := by
  simp only [rotateLoser]
  have hcount : (s.withLeft x).playerCount = s.playerCount := rfl
  have hclients : (s.withLeft x).clients = s.clients := rfl
  rw [hcount, hclients]
  split
  · cases s.clients[loser.toNat]? with
    | none => exact ⟨x, h, rfl⟩
    | some e =>
      dsimp only
      split
      · exact ⟨_, h.swap rfl rfl rfl rfl, rfl⟩
      · exact ⟨x, h.same rfl rfl rfl rfl, rfl⟩
  · exact ⟨x, h, rfl⟩

/-- The match clock is only logged. -/
theorem clock_eq (s : SessionServer) (tick : Tick) :
    ∃ ms out, s.closeMatchClock tick = ({ s with matchStartMs := ms }, out) ∧ Machine.seen Out.toConnection out = [] := by
  unfold closeMatchClock
  split
  · exact ⟨0, _, rfl, rfl⟩
  · exact ⟨s.matchStartMs, [], rfl, rfl⟩

theorem alike_results (h : Unseen s x) (loser : Option Int32) (tick : Tick) :
    AlikeAfter (s.onReportResults loser tick) ((s.withLeft x).onReportResults loser tick) := by
  cases loser with
  | none => exact alikeAfter_of_eq (r := (s, [])) h rfl
  | some loser =>
    obtain ⟨ms, out, heq, hout⟩ := s.clock_eq tick
    obtain ⟨ms', out', heq', hout'⟩ := (s.withLeft x).clock_eq tick
    have hclock : Unseen { s with matchStartMs := ms } { x with matchStartMs := ms' } := ⟨h.owner, h.request⟩
    obtain ⟨y, hy, hrotate⟩ := alike_rotate hclock loser.toInt
    simp only [onReportResults, handleResults, heq, heq']
    refine ⟨⟨y, ?_, ?_⟩, hout.trans hout'.symm⟩
    · -- the picks stay with their owners, and all marks go
      refine ⟨hy.owner, fun side hi => ?_⟩
      cases side using Side.cases with
      | zero => exact absurd rfl hi
      | one => exact absurd rfl hi
    · have hleft : ({ s.withLeft x with matchStartMs := ms' } : SessionServer) =
          ({ s with matchStartMs := ms } : SessionServer).withLeft { x with matchStartMs := ms' } := rfl
      rw [hleft, hrotate]
      rfl

end SessionServer

/-! ## One action -/

/-- Two Steps under way, alike. -/
def AlikeSteps (p q : Stepping) : Prop := ∃ x, Unseen p.server x ∧ q = { p with server := p.server.withLeft x }

theorem alikeSteps_serve {p : Stepping} {x : Leftover} {r r' : SessionServer × List Out} (h : AlikeAfter r r') :
    AlikeSteps (p.serve r).1 (Stepping.serve { p with server := p.server.withLeft x } r').1 ∧
      Machine.seen Out.toConnection (p.serve r).2 =
        Machine.seen Out.toConnection (Stepping.serve { p with server := p.server.withLeft x } r').2 := by
  obtain ⟨y, hy, heq⟩ := h.server
  exact ⟨⟨y, hy, by simp only [Stepping.serve, heq]⟩, h.out⟩

theorem alikeSteps_server {p : Stepping} {x : Leftover} {s' t' : SessionServer} (h : Alike s' t') :
    AlikeSteps (p.serve (s', [])).1 (Stepping.serve { p with server := p.server.withLeft x } (t', [])).1 ∧
      Machine.seen Out.toConnection (p.serve (s', [])).2 =
        Machine.seen Out.toConnection (Stepping.serve { p with server := p.server.withLeft x } (t', [])).2 :=
  alikeSteps_serve ⟨h, rfl⟩

theorem alike_known {p : Stepping} {x : Leftover} (h : Unseen p.server x) (m : IncomingMsg) (cid : ConnectionID) :
    AlikeSteps (handleKnown p m cid).1 (handleKnown { p with server := p.server.withLeft x } m cid).1 ∧
      Machine.seen Out.toConnection (handleKnown p m cid).2 =
        Machine.seen Out.toConnection (handleKnown { p with server := p.server.withLeft x } m cid).2 := by
  have hsame : Alike p.server (p.server.withLeft x) := ⟨x, h, rfl⟩
  unfold handleKnown
  cases m.msg with
  | forward msg fwd => exact alikeSteps_serve ⟨hsame, rfl⟩
  | joinReq request => exact alikeSteps_serve (SessionServer.alike_join h m cid request)
  | setChara request => exact alikeSteps_server (SessionServer.alike_setChara h m.conn request)
  | desyncReport report => exact alikeSteps_serve (SessionServer.alike_desync h m.conn report m.tick)
  | directOffer offer => exact alikeSteps_serve (SessionServer.alike_offer h m.conn offer m.tick)
  | setEnv rngSeed => exact alikeSteps_server (SessionServer.alike_setEnv h m.conn rngSeed)
  | setStage stageID => exact alikeSteps_server (SessionServer.alike_setStage h m.conn stageID)
  | battleLoaded => exact ⟨⟨x, h.same rfl rfl rfl rfl, rfl⟩, rfl⟩
  | lobbyReady request =>
    refine ⟨?_, rfl⟩
    simp only [Stepping.lobbyReady, SessionServer.sideOf_withLeft]
    cases p.server.sideOf m.conn with
    | none => exact ⟨x, h, rfl⟩
    | some found =>
      obtain ⟨side, e⟩ := found
      cases request with
      | none => exact ⟨x, h, rfl⟩
      | some request =>
        dsimp only
        split
        · obtain ⟨y, hy, heq⟩ := SessionServer.alike_ready h side m.messageNumber request
          rw [heq]
          exact ⟨y, hy, rfl⟩
        · obtain ⟨y, hy, heq⟩ := SessionServer.alike_unready h side
          rw [heq]
          exact ⟨y, hy, rfl⟩
  | reportResults loser => exact alikeSteps_serve (SessionServer.alike_results h loser m.tick)
  | battleSnapshot data => exact alikeSteps_serve ⟨hsame, rfl⟩
  | notJson => exact ⟨⟨x, h, rfl⟩, rfl⟩
  | untyped => exact ⟨⟨x, h, rfl⟩, rfl⟩
  | hello => exact ⟨⟨x, h, rfl⟩, rfl⟩
  | unrecognized => exact ⟨⟨x, h, rfl⟩, rfl⟩

theorem alike_message {p : Stepping} {x : Leftover} (h : Unseen p.server x) (m : IncomingMsg) :
    AlikeSteps (handleMessage p m).1 (handleMessage { p with server := p.server.withLeft x } m).1 ∧
      Machine.seen Out.toConnection (handleMessage p m).2 =
        Machine.seen Out.toConnection (handleMessage { p with server := p.server.withLeft x } m).2 := by
  unfold handleMessage
  have hmap : (p.server.withLeft x).cidMap = p.server.cidMap := rfl
  dsimp only
  rw [hmap]
  cases p.server.cidMap.find m.conn with
  | some cid => exact alike_known h m cid
  | none =>
    cases m.msg with
    | hello => exact ⟨⟨x, h.same rfl rfl rfl rfl, rfl⟩, rfl⟩
    | _ => exact ⟨⟨x, h, rfl⟩, rfl⟩

namespace SessionServer

variable {s : SessionServer} {x : Leftover}

theorem alike_update (h : Unseen s x) : AlikeAfter s.sendUpdate (s.withLeft x).sendUpdate := by
  unfold sendUpdate
  have hdirty : (s.withLeft x).dataDirty = s.dataDirty := rfl
  rw [hdirty]
  split
  · exact alikeAfter_of_eq (h.same rfl rfl rfl rfl) rfl
  · exact alikeAfter_of_eq (r := (s, [])) h rfl

/-- The start of a match is logged with the clock of the one before, and sets it anew. -/
theorem alike_allReady (h : Unseen s x) (tick : Tick) :
    AlikeAfter (s.sendAllReady tick) ((s.withLeft x).sendAllReady tick) := by
  refine ⟨⟨{ x with matchStartMs := tick.nowMs }, ⟨h.owner, h.request⟩, rfl⟩, ?_⟩
  have hseen : ∀ s : SessionServer, Machine.seen Out.toConnection (s.sendAllReady tick).2 =
      [s.callSpectators.broadcast s.callSpectators.updateMsg, s.callSpectators.broadcast .lobbyAllReady] := by
    intro s
    unfold sendAllReady
    dsimp only
    split <;> rfl
  rw [hseen, hseen]
  rfl

theorem disconnectAll_withLeft (s : SessionServer) (x : Leftover) :
    (s.withLeft x).disconnectAll.1 = s.disconnectAll.1.withLeft x := by
  unfold disconnectAll
  have hclients : (s.withLeft x).clients = s.clients := rfl
  rw [hclients]
  split <;> rfl

theorem alike_host (h : Unseen s x) (e : Event) : AlikeAfter (s.host e) ((s.withLeft x).host e) := by
  cases e with
  | connecting conn ip acceptOk =>
    simp only [host, connecting]
    have haccepted : (s.withLeft x).accepted = s.accepted := rfl
    rw [haccepted]
    split
    · exact alikeAfter_of_eq (r := (s, _)) h rfl
    · exact alikeAfter_of_eq (h.same rfl rfl rfl rfl) rfl
  | closed conn wasConnected =>
    simp only [host, connectionClosed]
    have hclients : (s.withLeft x).clients = s.clients := rfl
    rw [hclients]
    split
    · exact alikeAfter_of_eq (h.same rfl rfl rfl rfl) rfl
    · exact alikeAfter_of_eq (h.same rfl rfl rfl rfl) rfl
  | create hash secret isPublic =>
    have hserver : ((s.withLeft x).host (.create hash secret isPublic)).1 =
        (s.host (.create hash secret isPublic)).1.withLeft x := by
      simp only [host, disconnectAll_withLeft]
      rfl
    exact ⟨⟨x, .clear rfl x, hserver⟩, rfl⟩
  | release =>
    have hserver : ((s.withLeft x).host .release).1 = (s.host .release).1.withLeft x := by
      have hcleared : setPublic { s.withLeft x with sidecarHash := [], joinSecret := [] } false =
          (setPublic { s with sidecarHash := [], joinSecret := [] } false).withLeft x := rfl
      simp only [host, hcleared, disconnectAll_withLeft]
      rfl
    exact ⟨⟨x, .clear rfl x, hserver⟩, rfl⟩
  | resetBattleSync => exact alikeAfter_of_eq (r := (s.resetBattleSync, [])) (h.same rfl rfl rfl rfl) rfl

end SessionServer

/-- One call after another. -/
def andThen (r : SessionServer × List Out) (f : SessionServer → SessionServer × List Out) : SessionServer × List Out :=
  ((f r.1).1, r.2 ++ (f r.1).2)

theorem AlikeAfter.andThen {r r' : SessionServer × List Out} (h : AlikeAfter r r')
    {f : SessionServer → SessionServer × List Out} (hf : ∀ s x, Unseen s x → AlikeAfter (f s) (f (s.withLeft x))) :
    AlikeAfter (andThen r f) (andThen r' f) := by
  obtain ⟨x, hx, heq⟩ := h.server
  have hnext := hf r.1 x hx
  rw [← heq] at hnext
  refine ⟨hnext.server, ?_⟩
  have happend : ∀ out out' : List Out, Machine.seen Out.toConnection (out ++ out') =
      Machine.seen Out.toConnection out ++ Machine.seen Out.toConnection out' := fun _ _ => List.filter_append _ _
  simp only [Session.andThen, happend, h.out, hnext.out]

/-- The end of a Step, call by call. -/
theorem finishStep_eq (p : Stepping) (tick : Tick) :
    finishStep p tick =
      let r := andThen (andThen (andThen (p.server.dropCharaFromVacatedSeats.maybeExchangeDirectEndpoints tick)
        SessionServer.sendUpdate) fun s => if p.bSendLobbyAllReady then s.sendAllReady tick else (s, []))
        fun s => (s, if p.bSendBattleSynced then [s.broadcast .battleSynced] else [])
      (⟨r.1, false, false⟩, r.2) := by
  simp only [finishStep, andThen]

theorem alike_finish {p : Stepping} {x : Leftover} (h : Unseen p.server x) (tick : Tick) :
    AlikeSteps (finishStep p tick).1 (finishStep { p with server := p.server.withLeft x } tick).1 ∧
      Machine.seen Out.toConnection (finishStep p tick).2 =
        Machine.seen Out.toConnection (finishStep { p with server := p.server.withLeft x } tick).2 := by
  obtain ⟨x₀, h₀, hdrop₀⟩ := SessionServer.alike_dropped h 0
  obtain ⟨x₁, h₁, hdrop₁⟩ := SessionServer.alike_dropped h₀ 1
  have hdrop : (p.server.withLeft x).dropCharaFromVacatedSeats = p.server.dropCharaFromVacatedSeats.withLeft x₁ := by
    rw [SessionServer.dropCharaFromVacatedSeats, hdrop₀, hdrop₁]
    rfl
  have hpeers : AlikeAfter (p.server.dropCharaFromVacatedSeats.maybeExchangeDirectEndpoints tick)
      ((p.server.dropCharaFromVacatedSeats.withLeft x₁).maybeExchangeDirectEndpoints tick) :=
    SessionServer.alike_exchange h₁ tick
  have hupdate := hpeers.andThen fun _ _ h => SessionServer.alike_update h
  have hready := hupdate.andThen (f := fun s => if p.bSendLobbyAllReady then s.sendAllReady tick else (s, []))
    fun s x h => by
      split
      · exact SessionServer.alike_allReady h tick
      · exact ⟨⟨x, h, rfl⟩, rfl⟩
  have hsynced := hready.andThen
    (f := fun s => (s, if p.bSendBattleSynced then [s.broadcast .battleSynced] else [])) fun s x h => ⟨⟨x, h, rfl⟩, rfl⟩
  rw [finishStep_eq, finishStep_eq, hdrop]
  obtain ⟨y, hy, heq⟩ := hsynced.server
  exact ⟨⟨y, hy, congrArg (Stepping.mk · false false) heq⟩, hsynced.out⟩

theorem alike_next {p q : Stepping} (h : AlikeSteps p q) (a : Act) :
    AlikeSteps (sessionServer.next p a).1 (sessionServer.next q a).1 ∧
      Machine.seen Out.toConnection (sessionServer.next p a).2 = Machine.seen Out.toConnection (sessionServer.next q a).2 := by
  obtain ⟨x, hx, rfl⟩ := h
  cases a with
  | message m => exact alike_message hx m
  | endStep tick => exact alike_finish hx tick
  | event e => exact alikeSteps_serve (SessionServer.alike_host hx e)

/-! ## What a lobby keeps from its setup -/

/-- What the host sets once. -/
def SessionServer.setup (s : SessionServer) : Bytes × UInt16 × UInt16 × Nat × Bool × LobbyData :=
  (s.identity, s.relayPort, s.spectatorRelayBase, s.spectatorSlots, s.requireJoinSecret,
    { s.lobbyData with isPublic := false })

/-- The setup stays, and the mark of a direct exchange goes with the last member. -/
structure SetupKept (s s' : SessionServer) : Prop where
  setup : s'.setup = s.setup
  exchanged : s'.clients = [] → (s.clients = [] ∧ s'.directExchanged = s.directExchanged) ∨ s'.directExchanged = false

namespace SetupKept

variable {s s' s'' : SessionServer}

theorem refl (s : SessionServer) : SetupKept s s := ⟨rfl, fun h => .inl ⟨h, rfl⟩⟩

theorem trans (h : SetupKept s s') (h' : SetupKept s' s'') : SetupKept s s'' := by
  refine ⟨h'.setup.trans h.setup, fun hnil => ?_⟩
  rcases h'.exchanged hnil with ⟨hnil', heq⟩ | hoff
  · rw [heq]
    exact h.exchanged hnil'
  · exact .inr hoff

/-- Members, mark and setup are as before. -/
theorem same (hs : s'.setup = s.setup) (hc : s'.clients = s.clients) (hd : s'.directExchanged = s.directExchanged) :
    SetupKept s s' :=
  ⟨hs, fun h => .inl ⟨hc ▸ h, hd⟩⟩

theorem room (h : s.SameRoom s') : SetupKept s s' := by
  obtain ⟨_, _, _, _, _, rfl⟩ := h
  exact .same rfl rfl rfl

theorem map {f : SessionMember → SessionMember} (hs : s'.setup = s.setup) (hc : s'.clients = s.clients.map f)
    (hd : s'.directExchanged = s.directExchanged) : SetupKept s s' :=
  ⟨hs, fun h => .inl ⟨List.map_eq_nil_iff.1 (hc ▸ h), hd⟩⟩

theorem identity (h : SetupKept s s') : s'.identity = s.identity := congrArg (·.1) h.setup

theorem lobbyID (h : SetupKept s s') : s'.lobbyData.id = s.lobbyData.id := congrArg (·.2.2.2.2.2.id) h.setup

end SetupKept

namespace SessionServer

theorem setup_exchange (s : SessionServer) (tick : Tick) : SetupKept s (s.maybeExchangeDirectEndpoints tick).1 := by
  unfold maybeExchangeDirectEndpoints
  split
  · exact .refl s
  · split
    · rename_i a b ha _
      split
      · exact .refl s
      · refine ⟨rfl, fun hnil => ?_⟩
        -- somebody sits in the first seat
        have hnil' : s.clients = [] := hnil
        simp [entry, hnil'] at ha
    · exact .refl s

theorem setup_rotate (s : SessionServer) (loser : Int) : SetupKept s (s.rotateLoser loser) := by
  unfold rotateLoser
  dsimp only
  split
  · cases hl : s.clients[loser.toNat]? with
    | none => exact .refl s
    | some e =>
      have hne : (s.clients.eraseIdx loser.toNat).insertIdx (s.playerCount - 1) e ≠ [] := by
        have hlt := (List.getElem?_eq_some_iff.1 hl).1
        have hcount : s.playerCount ≤ s.clients.length := List.countP_le_length
        intro hnil
        have hlen := congrArg List.length hnil
        rw [List.length_insertIdx_of_le_length (by rw [List.length_eraseIdx_of_lt hlt]; omega)] at hlen
        cases hlen
      dsimp only
      split
      · exact ⟨rfl, fun hnil => absurd hnil hne⟩
      · exact ⟨rfl, fun hnil => absurd hnil hne⟩
  · exact .refl s

theorem setup_clearWatching (s : SessionServer) : SetupKept s s.clearWatching :=
  .map (f := fun m => { m with data := { m.data with watching := false } }) rfl rfl rfl

theorem setup_clearReadyMarks (s : SessionServer) : SetupKept s s.clearReadyMarks := .same rfl rfl rfl

theorem setup_callSpectators (s : SessionServer) : SetupKept s s.callSpectators :=
  .map (f := fun m => if m.data.spectator then { m with data := { m.data with watching := true } } else m) rfl rfl rfl

theorem setup_sendAllReady (s : SessionServer) (tick : Tick) : SetupKept s (s.sendAllReady tick).1 :=
  (setup_callSpectators s).trans (.same rfl rfl rfl)

theorem setup_handleResults (s : SessionServer) (loser : Int) (tick : Tick) :
    SetupKept s (s.handleResults loser tick).1 := by
  obtain ⟨ms, out, heq, -⟩ := s.clock_eq tick
  simp only [handleResults, heq]
  have hclock : SetupKept s { s with matchStartMs := ms } := .same rfl rfl rfl
  have hrotate := hclock.trans (setup_rotate _ loser)
  exact (hrotate.trans (setup_clearWatching _)).trans (setup_clearReadyMarks _)

theorem setup_results (s : SessionServer) (loser : Option Int32) (tick : Tick) :
    SetupKept s (s.onReportResults loser tick).1 := by
  cases loser with
  | none => exact .refl s
  | some loser => exact (setup_handleResults s loser.toInt tick).trans (.same rfl rfl rfl)

theorem setup_disconnectAll (s : SessionServer) : SetupKept s s.disconnectAll.1 := by
  unfold disconnectAll
  split
  · exact .same rfl rfl rfl
  · exact ⟨rfl, fun _ => .inr rfl⟩

theorem setup_resetLobby (s : SessionServer) : SetupKept s s.resetLobby := by
  refine ⟨rfl, fun hnil => .inl ⟨?_, rfl⟩⟩
  simpa [resetLobby, resetBattleSync, clearWatching] using hnil

end SessionServer

theorem setup_known (p : Stepping) (m : IncomingMsg) (cid : ConnectionID) :
    SetupKept p.server (handleKnown p m cid).1.server := by
  unfold handleKnown
  cases m.msg with
  | joinReq request =>
    simp only [Stepping.serve, SessionServer.onJoinRequest]
    cases request with
    | none => exact .refl _
    | some request =>
      simp only [SessionServer.registerToWait]
      cases p.server.joinRefusal request with
      | some reason => exact .refl _
      | none =>
        simp only [SessionServer.seatMember]
        split
        · refine ⟨rfl, fun hnil => absurd hnil (by simp)⟩
        · exact ⟨rfl, fun _ => .inr rfl⟩
  | setChara request => exact .room (p.server.setChara_room m.conn request)
  | desyncReport report => exact .room (p.server.desyncReport_room m.conn report m.tick)
  | directOffer offer =>
    simp only [Stepping.serve, SessionServer.onDirectOffer]
    split
    · rename_i side e offer _
      have hoffered : SetupKept p.server { p.server with
          directExchanged := false
          clients := p.server.clients.modify side.val fun m => { m with direct := offer } } := ⟨rfl, fun _ => .inr rfl⟩
      exact hoffered.trans (SessionServer.setup_exchange _ m.tick)
    · exact .refl _
  | setEnv rngSeed => exact .room (p.server.setEnv_room m.conn rngSeed)
  | setStage stageID => exact .room (p.server.setStage_room m.conn stageID)
  | battleLoaded => exact .map (f := SessionServer.markLoaded m.conn) rfl rfl rfl
  | lobbyReady request => exact .room (p.lobbyReady_room m request)
  | reportResults loser => exact SessionServer.setup_results p.server loser m.tick
  | _ => exact .refl _

theorem setup_settled (p : Stepping) (tick : Tick) : SetupKept p.server (settled p tick) := by
  have hdrop : ∀ (s : SessionServer) (side : Side), SetupKept s (s.dropCharaFromVacatedSeat side) := by
    intro s side
    unfold SessionServer.dropCharaFromVacatedSeat
    split
    · exact .same rfl rfl rfl
    · exact .refl s
  exact ((hdrop _ 0).trans (hdrop _ 1)).trans (SessionServer.setup_exchange _ tick)

theorem setup_sendUpdate (s : SessionServer) : SetupKept s s.sendUpdate.1 := by
  unfold SessionServer.sendUpdate
  split
  · exact .same rfl rfl rfl
  · exact .refl s

theorem setup_finish (p : Stepping) (tick : Tick) : SetupKept p.server (finishStep p tick).1.server := by
  have hsent := (setup_settled p tick).trans (setup_sendUpdate _)
  rw [finishStep_server]
  split
  · exact hsent.trans (SessionServer.setup_sendAllReady _ tick)
  · exact hsent

theorem setup_host (s : SessionServer) (e : Event) : SetupKept s (s.host e).1 := by
  cases e with
  | connecting conn ip acceptOk =>
    simp only [SessionServer.host, SessionServer.connecting]
    split
    · exact .refl s
    · exact .same rfl rfl rfl
  | closed conn wasConnected =>
    simp only [SessionServer.host, SessionServer.connectionClosed]
    split
    · exact ⟨rfl, fun _ => .inr rfl⟩
    · exact .same rfl rfl rfl
  | create hash secret isPublic =>
    have hset : SetupKept s.disconnectAll.1 { s.disconnectAll.1 with sidecarHash := hash, joinSecret := secret } :=
      .same rfl rfl rfl
    exact (((s.setup_disconnectAll).trans hset).trans (SessionServer.setup_resetLobby _)).trans (.same rfl rfl rfl)
  | release =>
    have hset : SetupKept s (SessionServer.setPublic { s with sidecarHash := [], joinSecret := [] } false) :=
      .same rfl rfl rfl
    exact (hset.trans (SessionServer.setup_disconnectAll _)).trans (SessionServer.setup_resetLobby _)
  | resetBattleSync => exact .map (f := fun m => { m with data := { m.data with battleLoaded := false } }) rfl rfl rfl

theorem setup_next (p : Stepping) (a : Act) : SetupKept p.server (sessionServer.next p a).1.server := by
  cases a with
  | message m =>
    rw [next_message, handleMessage]
    cases p.server.cidMap.find m.conn with
    | some cid => exact setup_known p m cid
    | none => cases m.msg <;> exact .same rfl rfl rfl
  | endStep tick => exact setup_finish p tick
  | event e => exact setup_host p.server e

/-! ## Opened again -/

/-- A server as it is between two Steps, made with `cfg`. -/
structure AtRest (cfg : HostConfig) (p : Stepping) : Prop where
  setup : p.server.setup = (SessionServer.new cfg).setup
  exchanged : p.server.clients = [] → p.server.directExchanged = false
  quiet : p.bSendLobbyAllReady = false ∧ p.bSendBattleSynced = false

/-- The setup part holds inside a Step too. -/
theorem setup_run (cfg : HostConfig) {p : Stepping} (hs : p.server.setup = (SessionServer.new cfg).setup)
    (hx : p.server.clients = [] → p.server.directExchanged = false) (as : List Act) :
    (sessionServer.run p as).server.setup = (SessionServer.new cfg).setup ∧
      ((sessionServer.run p as).server.clients = [] → (sessionServer.run p as).server.directExchanged = false) := by
  refine Machine.inv_of_all_steps (fun p : Stepping => p.server.setup = (SessionServer.new cfg).setup ∧
    (p.server.clients = [] → p.server.directExchanged = false)) (fun p a h => ?_) as ⟨hs, hx⟩
  have hk := setup_next p a
  refine ⟨hk.setup.trans h.1, fun hnil => ?_⟩
  rcases hk.exchanged hnil with ⟨hnil', heq⟩ | hoff
  · rw [heq]
    exact h.2 hnil'
  · exact hoff

theorem atRest_calls (cfg : HostConfig) {p : Stepping} (h : AtRest cfg p) (calls : List Call) :
    AtRest cfg (sessionServer.run p (acts calls)) := by
  induction calls generalizing p with
  | nil => exact h
  | cons c calls ih =>
    have hacts : acts (c :: calls) = c.acts ++ acts calls := List.flatMap_cons
    rw [hacts, Machine.run_append]
    apply ih
    obtain ⟨hs, hx⟩ := setup_run cfg h.setup h.exchanged c.acts
    refine ⟨hs, hx, ?_⟩
    cases c with
    | event e => exact h.quiet
    | step msgs tick =>
      have hlast : (Call.step msgs tick).acts = msgs.map .message ++ [.endStep tick] := rfl
      rw [hlast, Machine.run_append]
      exact ⟨rfl, rfl⟩

theorem atRest_start (cfg : HostConfig) : AtRest cfg (start cfg) := ⟨rfl, fun _ => rfl, rfl, rfl⟩

/-- A new server with the hash, the secret and the visibility of a lobby: the constructor and
the setters. -/
def opened (cfg : HostConfig) (hash secret : Bytes) (isPublic : Bool) : Stepping :=
  ⟨SessionServer.setPublic { SessionServer.new cfg with sidecarHash := hash, joinSecret := secret } isPublic, false, false⟩

/-- The server of a lobby that is opened again: `DisconnectAll`, the setters and `ResetLobby`. -/
def reopened (p : Stepping) (hash secret : Bytes) (isPublic : Bool) : Stepping :=
  (sessionServer.next p (.event (.create hash secret isPublic))).1

theorem disconnectAll_eq {s : SessionServer} (hx : s.clients = [] → s.directExchanged = false) :
    s.disconnectAll.1 =
      { s with accepted := [], cidMap := [], clients := [], directExchanged := false, dataDirty := true } := by
  unfold SessionServer.disconnectAll
  by_cases hnil : s.clients = []
  · have hoff := hx hnil
    simp only [hnil, if_true, hoff]
  · simp only [hnil, if_false]
    rfl

theorem alike_reopened {cfg : HostConfig} {p : Stepping} (h : AtRest cfg p) (hash secret : Bytes) (isPublic : Bool) :
    AlikeSteps (opened cfg hash secret isPublic) (reopened p hash secret isPublic) := by
  refine ⟨⟨p.server.readyRequest, p.server.charaOwner, p.server.matchStartMs⟩, .clear rfl _, ?_⟩
  obtain ⟨hcalled, hsynced⟩ := h.quiet
  have hsetup := h.setup
  simp only [SessionServer.setup, Prod.mk.injEq] at hsetup
  obtain ⟨hid, hrelay, hbase, hslots, hreq, hlobby⟩ := hsetup
  have hpublic : { p.server.lobbyData with isPublic } = { (SessionServer.new cfg).lobbyData with isPublic } :=
    congrArg (fun l : LobbyData => { l with isPublic }) hlobby
  have hserver : (p.server.host (.create hash secret isPublic)).1 =
      (opened cfg hash secret isPublic).server.withLeft
        ⟨p.server.readyRequest, p.server.charaOwner, p.server.matchStartMs⟩ := by
    simp only [SessionServer.host, disconnectAll_eq h.exchanged, SessionServer.setPublic, SessionServer.resetLobby,
      SessionServer.clearWatching, SessionServer.resetBattleSync, List.map_nil, hid, hrelay, hbase, hslots, hreq, hpublic]
    rfl
  calc reopened p hash secret isPublic
      = ⟨(p.server.host (.create hash secret isPublic)).1, p.bSendLobbyAllReady, p.bSendBattleSynced⟩ := rfl
    _ = _ := by
      rw [hserver, hcalled, hsynced]
      rfl

/-- What a lobby that is opened again sends to the connections, whatever happened in it
before and whatever comes after, is what a new one would. -/
theorem reopened_like_new (cfg : HostConfig) (calls : List Call) (hash secret : Bytes) (isPublic : Bool)
    (later : List Act) :
    Machine.seen Out.toConnection
        (sessionServer.outs (reopened (sessionServer.run (start cfg) (acts calls)) hash secret isPublic) later) =
      Machine.seen Out.toConnection (sessionServer.outs (opened cfg hash secret isPublic) later) := by
  have hrest := atRest_calls cfg (atRest_start cfg) calls
  exact (Machine.lockstep AlikeSteps Out.toConnection (fun _ _ a h => alike_next h a)
    (alike_reopened hrest hash secret isPublic) later).2.symm

end Sf4e.Session
