import Sf4e.Session.Runs
/-!
# Pairing two players for direct play

Both players offer the addresses of their game's socket, and the server tells
each of them the other's, with one token. `Pairs` lists what an action does to
the stored offers and which DirectPeer messages it sends.

`pairs_of` is the step lemma. `paired_players` follows: at the end of a Step two
players with offers have been told each other's, with the same token.
-/
open Sf4e.Lib

namespace Sf4e.Session

/-! ## What the pairing reads -/

/-- A member as the exchange sees it. -/
structure Offered where
  conn : Conn
  direct : DirectOffer
  player : Bool
  deriving DecidableEq

def SessionMember.offered (m : SessionMember) : Offered := ⟨m.conn, m.direct, m.isPlayer⟩

/-- A player to whom an endpoint can be told. -/
def Offered.hasPort (o : Offered) : Bool := o.player && o.direct.port ≠ 0

/-- The message that tells somebody else where this member is. -/
def Offered.peer (o : Offered) (tick : Tick) : DirectPeer :=
  ⟨o.direct.ip, o.direct.port, o.direct.localIp, o.direct.localPort, tick.token.map SessionServer.hexDigit⟩

/-- The members and `_directExchanged`. -/
structure Pairing where
  exchanged : Bool
  members : List Offered

/-- Both seats are taken by players with an offer, and their offers have not been exchanged. -/
structure Pairing.Due (g : Pairing) (x y : Offered) (back : List Offered) : Prop where
  members : g.members = x :: y :: back
  first : x.player = true
  second : y.player = true
  open_ : g.exchanged = false
  firstPort : x.direct.port ≠ 0
  secondPort : y.direct.port ≠ 0

def SessionServer.pairing (s : SessionServer) : Pairing := ⟨s.directExchanged, s.clients.map (·.offered)⟩

/-- The DirectPeer messages of an output, each with the connection it goes to. -/
def Out.peers : Out → List (Conn × DirectPeer)
  | .respond conn (.directPeer peer) => [(conn, peer)]
  | .broadcast conns (.directPeer peer) => conns.map (·, peer)
  | _ => []

def peersOf (out : List Out) : List (Conn × DirectPeer) := out.flatMap Out.peers

/-- The last DirectPeer message a connection was sent. -/
def lastPeer (out : List Out) (conn : Conn) : Option DirectPeer :=
  (((peersOf out).filter (·.1 = conn)).getLast?).map (·.2)

theorem peersOf_append (out more : List Out) : peersOf (out ++ more) = peersOf out ++ peersOf more :=
  List.flatMap_append

theorem peersOf_nil_of_forall {out : List Out} (h : ∀ o ∈ out, o.peers = []) : peersOf out = [] :=
  List.flatMap_eq_nil_iff.2 h

theorem lastPeer_quiet {out more : List Out} (h : peersOf more = []) (conn : Conn) :
    lastPeer (out ++ more) conn = lastPeer out conn := by
  rw [lastPeer, lastPeer, peersOf_append, h, List.append_nil]

/-- Two messages to two connections are the last ones of both. -/
theorem lastPeer_pair {out more : List Out} {c c' : Conn} {peer peer' : DirectPeer} (hne : c ≠ c')
    (h : peersOf more = [(c, peer), (c', peer')]) :
    lastPeer (out ++ more) c = some peer ∧ lastPeer (out ++ more) c' = some peer' := by
  constructor
  · rw [lastPeer, peersOf_append, h, List.filter_append]
    simp [hne.symm]
  · rw [lastPeer, peersOf_append, h, List.filter_append]
    simp [hne]

namespace SessionServer

/-! ## The exchange -/

theorem pairing_of_clients {s s' : SessionServer} (hc : s'.clients.map (·.offered) = s.clients.map (·.offered))
    (hd : s'.directExchanged = s.directExchanged) : s'.pairing = s.pairing := by
  rw [pairing, pairing, hc, hd]

theorem SameRoom.pairing {s s' : SessionServer} (h : SameRoom s s') : s'.pairing = s.pairing :=
  h.keeps fun _ _ _ _ _ => rfl

theorem offered_map_of_keeps {f : SessionMember → SessionMember} (hf : ∀ m, (f m).offered = m.offered)
    (l : List SessionMember) : (l.map f).map (·.offered) = l.map (·.offered) := by
  rw [List.map_map]
  exact List.map_congr_left fun m _ => hf m

/-- The pairing on which an action calls `MaybeExchangeDirectEndpoints`, if it does. -/
def offering (s : SessionServer) : Act → Option Pairing
  | .message m =>
    match s.cidMap.find m.conn, m.msg, s.sideOf m.conn with
    | some _, .directOffer (some offer), some (side, _) =>
      some ⟨false, (s.clients.modify side.val fun e => { e with direct := offer }).map (·.offered)⟩
    | _, _, _ => none
  | .endStep _ => some s.pairing
  | .event _ => none

/-- Two players with offers are told each other's; in any other case nothing happens. -/
theorem pairing_exchange {s : SessionServer} (h : WellSeated s) (tick : Tick) :
    ((¬∃ x y back, s.pairing.Due x y back) ∧ (s.maybeExchangeDirectEndpoints tick).1.pairing = s.pairing ∧
        peersOf (s.maybeExchangeDirectEndpoints tick).2 = []) ∨
      ∃ x y back, s.pairing.Due x y back ∧
        (s.maybeExchangeDirectEndpoints tick).1.pairing = ⟨true, s.pairing.members⟩ ∧
        peersOf (s.maybeExchangeDirectEndpoints tick).2 = [(x.conn, y.peer tick), (y.conn, x.peer tick)] := by
  unfold maybeExchangeDirectEndpoints
  split
  · rename_i hstop
    refine .inl ⟨?_, rfl, rfl⟩
    rintro ⟨x, y, back, hdue⟩
    have hopen : s.directExchanged = false := hdue.open_
    -- two players in front are two players
    have hcount : s.playerCount = s.pairing.members.countP (·.player) := by
      rw [playerCount_countP, pairing, List.countP_map]
      rfl
    rw [hdue.members, List.countP_cons, List.countP_cons, hdue.first, hdue.second] at hcount
    simp only [hopen, Bool.false_or, decide_eq_true_eq] at hstop
    simp at hcount
    omega
  · rename_i hgo
    simp only [Bool.or_eq_true, decide_eq_true_eq, not_or, Bool.not_eq_true, Nat.not_lt] at hgo
    obtain ⟨hopen, hcount⟩ := hgo
    have htwo := h.two
    rw [playerCount_eq] at hcount
    obtain ⟨a, b, back, hpair⟩ := h.pair (by omega)
    have hmembers : s.pairing.members = a.offered :: b.offered :: back.map (·.offered) := by
      simp [pairing, hpair.clients]
    have h0 : s.entry 0 = some a := by simp [entry, hpair.clients]
    have h1 : s.entry 1 = some b := by simp [entry, hpair.clients]
    rw [h0, h1]
    dsimp only
    split
    · rename_i hzero
      refine .inl ⟨?_, rfl, rfl⟩
      rintro ⟨x, y, back', hdue⟩
      have heq := hdue.members
      rw [hmembers] at heq
      obtain ⟨rfl, rfl, -⟩ : a.offered = x ∧ b.offered = y ∧ _ := by simpa using heq
      have hports : ¬(a.direct.port = 0 ∨ b.direct.port = 0) := fun hz => hz.elim hdue.firstPort hdue.secondPort
      exact hports (by simpa using hzero)
    · rename_i hports
      obtain ⟨hpa, hpb⟩ : a.direct.port ≠ 0 ∧ b.direct.port ≠ 0 := by simpa using hports
      exact .inr ⟨a.offered, b.offered, _, ⟨hmembers, hpair.first, hpair.second, hopen, hpa, hpb⟩, rfl, rfl⟩

/-! ## What an action does -/

/-- No spectator's connection is closed. -/
def KeepsWatchers (s : SessionServer) : Act → Prop
  | .event (.closed conn _) => ∀ m ∈ s.clients, m.conn = conn → m.isPlayer = true
  | _ => True

/-- What an action does to the pairing, and the DirectPeer messages it sends. Only when a spectator leaves may
a reset have an exchange due. -/
inductive Pairs (s : SessionServer) (a : Act) : Pairing → List (Conn × DirectPeer) → Prop where
  | same (hno : ∀ g, s.offering a = some g → ¬∃ x y back, g.Due x y back) : Pairs s a s.pairing []
  | spectator {o : Offered} (hno : s.offering a = none) (hspec : o.player = false) :
      Pairs s a ⟨s.directExchanged, s.pairing.members ++ [o]⟩ []
  | swap {x y : Offered} {back : List Offered} (hno : s.offering a = none)
      (hmembers : s.pairing.members = x :: y :: back) (hx : x.player = true) (hy : y.player = true) :
      Pairs s a ⟨s.directExchanged, y :: x :: back⟩ []
  | reset {members : List Offered} (hno : ∀ g, s.offering a = some g → ¬∃ x y back, g.Due x y back)
      (hfew : s.KeepsWatchers a → ¬∃ x y back, (⟨false, members⟩ : Pairing).Due x y back) :
      Pairs s a ⟨false, members⟩ []
  | exchange {g : Pairing} {x y : Offered} {back : List Offered} {tick : Tick} (hcall : s.offering a = some g)
      (hdue : g.Due x y back) : Pairs s a ⟨true, g.members⟩ [(x.conn, y.peer tick), (y.conn, x.peer tick)]

theorem Pairs.of_eq {s : SessionServer} {a : Act} {g g' : Pairing} {peers peers' : List (Conn × DirectPeer)}
    (hg : g' = g) (hp : peers' = peers) (h : Pairs s a g peers) : Pairs s a g' peers' := by
  subst hg
  subst hp
  exact h

/-! An exchange needs two players with a port. -/

theorem not_due_of_few {members : List Offered} (h : members.countP Offered.hasPort < 2) (exchanged : Bool) :
    ¬∃ x y back, (⟨exchanged, members⟩ : Pairing).Due x y back := by
  rintro ⟨x, y, back, hdue⟩
  have hx : x.hasPort = true := by simp [Offered.hasPort, hdue.first, hdue.firstPort]
  have hy : y.hasPort = true := by simp [Offered.hasPort, hdue.second, hdue.secondPort]
  rw [show members = _ from hdue.members, List.countP_cons_of_pos hx, List.countP_cons_of_pos hy] at h
  omega

theorem ports_le (l : List SessionMember) : (l.map (·.offered)).countP Offered.hasPort ≤ l.countP (·.isPlayer) := by
  rw [List.countP_map]
  exact List.countP_mono_left fun m _ h => (Bool.and_eq_true_iff.1 h).1

/-- A newcomer has no port yet. -/
theorem few_of_join {s : SessionServer} (hroom : s.roster.length < 2) {m : SessionMember} (hport : m.direct.port = 0) :
    ((s.clients.insertIdx s.playerCount m).map (·.offered)).countP Offered.hasPort < 2 := by
  have hperm := List.perm_insertIdx m s.clients (List.countP_le_length (p := fun m => !m.data.spectator))
  have hnew : ¬m.offered.hasPort = true := by simp [Offered.hasPort, SessionMember.offered, hport]
  have hle := ports_le s.clients
  rw [← playerCount_countP, playerCount_eq] at hle
  rw [show s.playerCount = s.clients.countP fun m => !m.data.spectator from rfl, (hperm.map (·.offered)).countP_eq,
    List.map_cons, List.countP_cons_of_neg hnew]
  omega

/-- With a player gone there is one left at the most. -/
theorem few_of_leave {s : SessionServer} (h : WellSeated s) {conn : Conn}
    (hmember : s.clients.any (fun m => m.conn = conn) = true)
    (hplays : ∀ m ∈ s.clients, m.conn = conn → m.isPlayer = true) :
    ((s.clients.eraseP fun m => m.conn = conn).map (·.offered)).countP Offered.hasPort < 2 := by
  have hle := ports_le (s.clients.eraseP fun m => m.conn = conn)
  obtain ⟨m, hm, hconn⟩ := List.any_eq_true.1 hmember
  obtain ⟨gone, before, after, -, hgone, hclients, herased⟩ :=
    List.exists_of_eraseP (p := fun m => decide (m.conn = conn)) hm hconn
  have hcount : s.clients.countP (·.isPlayer) ≤ 2 := by
    rw [← playerCount_countP, playerCount_eq]
    exact h.two
  have hplayer : gone.isPlayer = true := hplays gone (by rw [hclients]; simp) (by simpa using hgone)
  rw [hclients, List.countP_append, List.countP_cons, hplayer, if_pos rfl] at hcount
  rw [herased, List.countP_append] at hle
  rw [herased]
  omega

/-- The call of the exchange that an action makes decides what it does. -/
theorem Pairs.of_exchange {s s₁ : SessionServer} {a : Act} (hw : WellSeated s₁) (hcall : s.offering a = some s₁.pairing)
    (hkept : s₁.pairing = s.pairing ∨ s₁.directExchanged = false) (tick : Tick) :
    Pairs s a (s₁.maybeExchangeDirectEndpoints tick).1.pairing (peersOf (s₁.maybeExchangeDirectEndpoints tick).2) := by
  rcases pairing_exchange hw tick with ⟨hno, hg, hp⟩ | ⟨x, y, back, hdue, hg, hp⟩
  · rw [hg, hp]
    have hno' : ∀ g, s.offering a = some g → ¬∃ x y back, g.Due x y back := by
      intro g hg'
      rw [hcall] at hg'
      rw [← Option.some.inj hg']
      exact hno
    rcases hkept with hsame | hopen
    · rw [hsame]
      exact .same hno'
    · rw [pairing, hopen] at hno ⊢
      exact .reset hno' fun _ => hno
  · rw [hg, hp]
    exact .exchange hcall hdue

theorem WellSeated.offered {s : SessionServer} (h : WellSeated s) (side : Side) (offer : DirectOffer) :
    WellSeated { s with
      directExchanged := false
      clients := s.clients.modify side.val fun e => { e with direct := offer } } :=
  h.of_cards (map_modify_of_keeps (by intro e; rfl) _ _) rfl rfl

theorem pairs_offer {p : Stepping} (h : p.server.WellSeated) {m : IncomingMsg} {cid : ConnectionID}
    (hcid : p.server.cidMap.find m.conn = some cid) {offer : Option DirectOffer} (hmsg : m.msg = .directOffer offer) :
    Pairs p.server (.message m) (p.server.onDirectOffer m.conn offer m.tick).1.pairing
      (peersOf (p.server.onDirectOffer m.conn offer m.tick).2) := by
  have hnone : p.server.offering (.message m) = none → Pairs p.server (.message m) p.server.pairing [] :=
    fun hno => .same fun g hg => by rw [hno] at hg; cases hg
  unfold onDirectOffer
  cases hside : p.server.sideOf m.conn with
  | none => exact hnone (by simp [offering, hcid, hmsg, hside])
  | some found =>
    obtain ⟨side, e⟩ := found
    cases offer with
    | none => exact hnone (by simp [offering, hcid, hmsg, hside])
    | some offer =>
      refine Pairs.of_exchange (h.offered side offer) ?_ (.inr rfl) m.tick
      simp [offering, hcid, hmsg, hside, pairing]

theorem pairs_join {p : Stepping} {m : IncomingMsg} {cid : ConnectionID} {request : Option SessionJoinRequest}
    (hmsg : m.msg = .joinReq request) :
    Pairs p.server (.message m) (p.server.onJoinRequest m cid request).1.pairing
      (peersOf (p.server.onJoinRequest m cid request).2) := by
  have hno : p.server.offering (.message m) = none := by simp [offering, hmsg]
  have hsame : Pairs p.server (.message m) p.server.pairing [] := .same fun g hg => by rw [hno] at hg; cases hg
  cases request with
  | none => exact hsame
  | some request =>
    simp only [onJoinRequest, registerToWait]
    cases href : p.server.joinRefusal request with
    | some reason => exact hsame
    | none =>
      dsimp only
      unfold seatMember
      split
      · -- a spectator stands behind everybody
        rename_i hspec
        refine (Pairs.spectator (o := (p.server.newMember m.conn request m.peerAddr cid).offered) hno ?_).of_eq ?_ rfl
        · simp [SessionMember.offered, SessionMember.isPlayer, hspec]
        · simp [pairing]
      · rename_i hplays
        have hroom := room_of_joinRefusal href (by simpa [newMember] using hplays)
        refine .reset (fun g hg => by rw [hno] at hg; cases hg) fun _ => not_due_of_few ?_ false
        exact few_of_join hroom rfl

/-- A member's record without the offer does not enter the pairing. -/
theorem pairing_map {s : SessionServer} {f : SessionMember → SessionMember} (hf : ∀ m, (f m).offered = m.offered)
    {s' : SessionServer} (hc : s'.clients = s.clients.map f) (hd : s'.directExchanged = s.directExchanged) :
    s'.pairing = s.pairing := by
  refine pairing_of_clients ?_ hd
  rw [hc, offered_map_of_keeps hf]

theorem pairing_clearWatching (s : SessionServer) : s.clearWatching.pairing = s.pairing :=
  pairing_map (f := fun m => { m with data := { m.data with watching := false } }) (fun _ => rfl) rfl rfl

theorem peersOf_clock (s : SessionServer) (tick : Tick) :
    ∃ ms out, s.closeMatchClock tick = ({ s with matchStartMs := ms }, out) ∧ peersOf out = [] := by
  unfold closeMatchClock
  split
  · exact ⟨0, _, rfl, rfl⟩
  · exact ⟨s.matchStartMs, [], rfl, rfl⟩

theorem pairs_results {p : Stepping} (h : p.server.WellSeated) {m : IncomingMsg} {loser : Option Int32}
    (hmsg : m.msg = .reportResults loser) :
    Pairs p.server (.message m) (p.server.onReportResults loser m.tick).1.pairing
      (peersOf (p.server.onReportResults loser m.tick).2) := by
  have hno : p.server.offering (.message m) = none := by simp [offering, hmsg]
  have hsame : Pairs p.server (.message m) p.server.pairing [] := .same fun g hg => by rw [hno] at hg; cases hg
  cases loser with
  | none => exact hsame
  | some loser =>
    obtain ⟨ms, out, heq, hout⟩ := p.server.peersOf_clock m.tick
    simp only [onReportResults, handleResults, heq]
    rw [hout]
    have hw : WellSeated { p.server with matchStartMs := ms } := h.same rfl rfl rfl
    have hmarks : ∀ s : SessionServer, SessionServer.pairing { s.clearWatching.clearReadyMarks with dataDirty := true } =
        s.pairing := pairing_clearWatching
    rw [hmarks]
    rcases rotateLoser_cases hw loser.toInt with ⟨-, hkeep⟩ | ⟨-, a, b, back, hpair, hswap⟩
    · rw [hkeep]
      exact hsame
    · rw [hswap]
      have hc : p.server.clients = a :: b :: back := hpair.clients
      have hmembers : p.server.pairing.members = a.offered :: b.offered :: back.map (·.offered) := by simp [pairing, hc]
      exact .swap hno hmembers hpair.first hpair.second

theorem pairs_known {p : Stepping} (h : p.server.WellSeated) {m : IncomingMsg} {cid : ConnectionID}
    (hcid : p.server.cidMap.find m.conn = some cid) :
    Pairs p.server (.message m) (handleKnown p m cid).1.server.pairing (peersOf (handleKnown p m cid).2) := by
  have hsame : (∀ offer, m.msg ≠ .directOffer offer) → ∀ r : Stepping × List Out,
      r.1.server.pairing = p.server.pairing → peersOf r.2 = [] →
      Pairs p.server (.message m) r.1.server.pairing (peersOf r.2) := by
    intro hmsg r hg hp
    rw [hg, hp]
    refine .same fun g hcall => ?_
    have hno : p.server.offering (.message m) = none := by
      simp only [offering, hcid]
      split
      · rename_i offer _ _ _ heq _
        exact absurd heq (hmsg (some offer))
      · rfl
    rw [hno] at hcall
    cases hcall
  unfold handleKnown
  cases hmsg : m.msg with
  | joinReq request => exact pairs_join hmsg
  | directOffer offer => exact pairs_offer h hcid hmsg
  | reportResults loser => exact pairs_results h hmsg
  | forward msg fwd =>
    refine hsame (by simp [hmsg]) _ rfl (peersOf_nil_of_forall ?_)
    simp only [Stepping.serve, onForward]
    repeat' split
    all_goals simp [Out.peers]
  | setChara request => exact hsame (by simp [hmsg]) _ (p.server.setChara_room m.conn request).pairing rfl
  | desyncReport report =>
    refine hsame (by simp [hmsg]) _ (p.server.desyncReport_room m.conn report m.tick).pairing
      (peersOf_nil_of_forall ?_)
    simp only [Stepping.serve, onDesyncReport]
    repeat' split
    · simp
    · simp
    · simp only [List.mem_cons, List.mem_map]
      rintro o (rfl | ⟨other, _, rfl⟩) <;> rfl
  | setEnv rngSeed => exact hsame (by simp [hmsg]) _ (p.server.setEnv_room m.conn rngSeed).pairing rfl
  | setStage stageID => exact hsame (by simp [hmsg]) _ (p.server.setStage_room m.conn stageID).pairing rfl
  | battleLoaded =>
    refine hsame (by simp [hmsg]) _ (pairing_map (f := markLoaded m.conn) (fun e => ?_) rfl rfl) rfl
    unfold markLoaded
    split <;> rfl
  | lobbyReady request => exact hsame (by simp [hmsg]) _ (p.lobbyReady_room m request).pairing rfl
  | battleSnapshot data =>
    refine hsame (by simp [hmsg]) _ rfl (peersOf_nil_of_forall ?_)
    simp only [Stepping.serve, onBattleSnapshot]
    split
    · simp
    · simp only [List.mem_map]
      rintro o ⟨other, _, rfl⟩
      rfl
  | _ => exact hsame (by simp [hmsg]) _ rfl rfl

theorem pairs_message {p : Stepping} (h : p.server.WellSeated) (m : IncomingMsg) :
    Pairs p.server (.message m) (handleMessage p m).1.server.pairing (peersOf (handleMessage p m).2) := by
  unfold handleMessage
  cases hcid : p.server.cidMap.find m.conn with
  | some cid => exact pairs_known h hcid
  | none =>
    have hsame : Pairs p.server (.message m) p.server.pairing [] := by
      refine .same fun g hcall => ?_
      simp only [offering, hcid] at hcall
      cases hcall
    cases m.msg <;> exact hsame

/-! ## The end of a Step -/

theorem pairing_dropped (s : SessionServer) : s.dropCharaFromVacatedSeats.pairing = s.pairing := by
  have hdrop : ∀ (s : SessionServer) (side : Side), (s.dropCharaFromVacatedSeat side).pairing = s.pairing := by
    intro s side
    unfold dropCharaFromVacatedSeat
    split <;> rfl
  rw [dropCharaFromVacatedSeats, hdrop, hdrop]

theorem pairing_sendUpdate (s : SessionServer) : s.sendUpdate.1.pairing = s.pairing := by
  unfold sendUpdate
  split <;> rfl

theorem pairing_sendAllReady (s : SessionServer) (tick : Tick) : (s.sendAllReady tick).1.pairing = s.pairing := by
  refine pairing_map (f := fun m =>
    if m.data.spectator then { m with data := { m.data with watching := true } } else m) (fun e => ?_) rfl rfl
  dsimp only
  split <;> rfl

theorem peersOf_sendAllReady (s : SessionServer) (tick : Tick) : peersOf (s.sendAllReady tick).2 = [] := by
  simp only [sendAllReady]
  split <;> rfl

/-- A Step ends as the exchange leaves it. -/
theorem pairing_finish (p : Stepping) (tick : Tick) :
    (finishStep p tick).1.server.pairing = (settled p tick).pairing ∧
      peersOf (finishStep p tick).2 = peersOf (p.server.dropCharaFromVacatedSeats.maybeExchangeDirectEndpoints tick).2 := by
  have hupd : peersOf (settled p tick).sendUpdate.2 = [] := by
    unfold sendUpdate
    split <;> rfl
  constructor
  · rw [finishStep_server]
    split
    · rw [pairing_sendAllReady, pairing_sendUpdate]
    · rw [pairing_sendUpdate]
  · rw [finishStep_out, peersOf_append, peersOf_append, peersOf_append, hupd]
    have hready : peersOf (if p.bSendLobbyAllReady then ((settled p tick).sendUpdate.1.sendAllReady tick).2 else []) =
        [] := by
      split
      · exact peersOf_sendAllReady _ tick
      · rfl
    have hsync : peersOf (if p.bSendBattleSynced then [(finishStep p tick).1.server.broadcast .battleSynced] else []) =
        [] := by
      split <;> rfl
    rw [hready, hsync, List.append_nil, List.append_nil, List.append_nil]

theorem wellSeated_dropped {s : SessionServer} (h : WellSeated s) : WellSeated s.dropCharaFromVacatedSeats :=
  (h.dropped 0).dropped 1

theorem pairs_finish {p : Stepping} (h : p.server.WellSeated) (tick : Tick) :
    Pairs p.server (.endStep tick) (finishStep p tick).1.server.pairing (peersOf (finishStep p tick).2) := by
  obtain ⟨hg, hp⟩ := pairing_finish p tick
  have hdrop := p.server.pairing_dropped
  rw [hg, hp]
  exact Pairs.of_exchange (wellSeated_dropped h) (by rw [hdrop]; rfl) (.inl hdrop) tick

/-! ## The host's calls and callbacks -/

theorem pairing_resetBattleSync (s : SessionServer) : s.resetBattleSync.pairing = s.pairing :=
  pairing_map (f := fun m => { m with data := { m.data with battleLoaded := false } }) (fun _ => rfl) rfl rfl

theorem pairing_resetLobby (s : SessionServer) : s.resetLobby.pairing = s.pairing := by
  have h : s.resetLobby.pairing =
      ({ s with matchData := .clear, desyncReports := 0 } : SessionServer).clearWatching.resetBattleSync.pairing := rfl
  rw [h, pairing_resetBattleSync, pairing_clearWatching]
  rfl

/-- Nobody is left to pair. -/
theorem pairing_disconnectAll (s : SessionServer) :
    s.disconnectAll.1.pairing = s.pairing ∨ s.disconnectAll.1.pairing = ⟨false, []⟩ := by
  unfold disconnectAll
  split
  · exact .inl rfl
  · exact .inr rfl

theorem pairs_host {p : Stepping} (h : p.server.WellSeated) (e : Event) :
    Pairs p.server (.event e) (p.serve (p.server.host e)).1.server.pairing (peersOf (p.serve (p.server.host e)).2) := by
  have hsame : Pairs p.server (.event e) p.server.pairing [] := .same fun g hcall => by cases hcall
  have hempty : Pairs p.server (.event e) ⟨false, []⟩ [] :=
    .reset (fun g hcall => by cases hcall) fun _ => not_due_of_few (by simp) false
  have hclosed : ∀ s : SessionServer, peersOf s.disconnectAll.2 = [] := by
    intro s
    refine peersOf_nil_of_forall fun o ho => ?_
    obtain ⟨e, -, rfl⟩ := List.mem_map.1 ho
    rfl
  cases e with
  | connecting conn ip acceptOk =>
    simp only [Stepping.serve, host, connecting]
    split <;> exact hsame
  | closed conn wasConnected =>
    simp only [Stepping.serve, host, connectionClosed]
    split
    · rename_i hmember
      refine .reset (fun g hcall => by cases hcall) fun hplays => not_due_of_few ?_ false
      exact few_of_leave h (Bool.and_eq_true_iff.1 hmember).2 hplays
    · exact hsame
  | create hash secret isPublic =>
    have hg : (p.serve (p.server.host (.create hash secret isPublic))).1.server.pairing =
        (resetLobby { p.server.disconnectAll.1 with sidecarHash := hash, joinSecret := secret }).pairing := rfl
    have hout : peersOf (p.serve (p.server.host (.create hash secret isPublic))).2 = [] := hclosed _
    rw [hg, hout, pairing_resetLobby]
    rcases p.server.pairing_disconnectAll with hd | hd
    · exact hsame.of_eq hd rfl
    · exact hempty.of_eq hd rfl
  | release =>
    have hg : (p.serve (p.server.host .release)).1.server.pairing =
        (setPublic { p.server with sidecarHash := [], joinSecret := [] } false).disconnectAll.1.resetLobby.pairing := rfl
    have hout : peersOf (p.serve (p.server.host .release)).2 = [] := hclosed _
    rw [hg, hout, pairing_resetLobby]
    rcases pairing_disconnectAll (setPublic { p.server with sidecarHash := [], joinSecret := [] } false) with hd | hd
    · exact hsame.of_eq hd rfl
    · exact hempty.of_eq hd rfl
  | resetBattleSync => exact hsame.of_eq p.server.pairing_resetBattleSync rfl

end SessionServer

/-- Every action does one of the things `Pairs` lists. -/
theorem pairs_of {p : Stepping} (h : p.server.WellSeated) (a : Act) :
    SessionServer.Pairs p.server a (sessionServer.next p a).1.server.pairing (peersOf (sessionServer.next p a).2) := by
  cases a with
  | message m => exact SessionServer.pairs_message h m
  | endStep tick => exact SessionServer.pairs_finish h tick
  | event e => exact SessionServer.pairs_host h e

/-! ## A whole run -/

/-- Once exchanged, the last DirectPeer to each of the two players is the other's. -/
def Paired (out : List Out) (g : Pairing) : Prop :=
  g.exchanged = true →
    ∃ x y back tick, g.members = x :: y :: back ∧
      (x.conn ≠ y.conn → lastPeer out x.conn = some (y.peer tick) ∧ lastPeer out y.conn = some (x.peer tick))

theorem paired_next {p : Stepping} (h : p.server.WellSeated) {out : List Out} (hpaired : Paired out p.server.pairing)
    (a : Act) : Paired (out ++ (sessionServer.next p a).2) (sessionServer.next p a).1.server.pairing := by
  have hstep := pairs_of h a
  generalize (sessionServer.next p a).2 = more at hstep ⊢
  generalize (sessionServer.next p a).1.server.pairing = g at hstep ⊢
  generalize hpeers : peersOf more = peers at hstep
  intro hg
  cases hstep with
  | same hno =>
    obtain ⟨x, y, back, tick, hmembers, hlast⟩ := hpaired hg
    exact ⟨x, y, back, tick, hmembers, by simpa only [lastPeer_quiet hpeers] using hlast⟩
  | @spectator o hno hspec =>
    obtain ⟨x, y, back, tick, hmembers, hlast⟩ := hpaired hg
    refine ⟨x, y, back ++ [o], tick, ?_, by simpa only [lastPeer_quiet hpeers] using hlast⟩
    rw [hmembers]
    rfl
  | swap hno hmembers hx hy =>
    -- the two were told of each other in either order
    obtain ⟨x, y, back, tick, hbefore, hlast⟩ := hpaired hg
    rw [hmembers] at hbefore
    obtain ⟨rfl, rfl, rfl⟩ := by simpa using hbefore
    refine ⟨_, _, _, tick, rfl, fun hne => ?_⟩
    rw [lastPeer_quiet hpeers, lastPeer_quiet hpeers]
    exact (hlast hne.symm).symm
  | reset hno _ => cases hg
  | exchange hcall hdue => exact ⟨_, _, _, _, hdue.members, fun hne => lastPeer_pair hne hpeers⟩

/-- At the end of a Step, two players with offers have been paired. -/
theorem exchanged_of_finish {p : Stepping} (h : p.server.WellSeated) (tick : Tick) {x y : Offered}
    {back : List Offered} (hmembers : (finishStep p tick).1.server.pairing.members = x :: y :: back)
    (hx : x.player = true) (hy : y.player = true) (hpx : x.direct.port ≠ 0) (hpy : y.direct.port ≠ 0) :
    (finishStep p tick).1.server.pairing.exchanged = true := by
  obtain ⟨hg, -⟩ := SessionServer.pairing_finish p tick
  rw [hg] at hmembers ⊢
  rcases SessionServer.pairing_exchange (SessionServer.wellSeated_dropped h) tick with ⟨hno, hkept, -⟩ | ⟨_, _, _, -, hdone, -⟩
  · rw [settled, hkept] at hmembers ⊢
    cases hopen : p.server.dropCharaFromVacatedSeats.pairing.exchanged with
    | true => rfl
    | false => exact absurd ⟨x, y, back, hmembers, hx, hy, hopen, hpx, hpy⟩ hno
  · rw [settled, hdone]

/-- A player seat is held by the connection. -/
def Stepping.plays (p : Stepping) (conn : Conn) : Prop :=
  ∃ side e, p.server.entry side = some e ∧ e.isPlayer = true ∧ e.conn = conn

/-- A DirectPeer only goes to a connection in a player seat. -/
def PeersToPlayers (p : Stepping) (a : Act) : Prop :=
  ∀ sent ∈ peersOf (sessionServer.next p a).2, (sessionServer.next p a).1.plays sent.1

/-- Two players in front are in the two seats. -/
theorem entry_of_members {s : SessionServer} {x y : Offered} {back : List Offered}
    (h : s.pairing.members = x :: y :: back) :
    ∃ a b, s.entry 0 = some a ∧ s.entry 1 = some b ∧ a.offered = x ∧ b.offered = y := by
  simp only [SessionServer.pairing] at h
  obtain ⟨a, rest, hclients, rfl, hrest⟩ := List.map_eq_cons_iff.1 h
  obtain ⟨b, rest', rfl, rfl, -⟩ := List.map_eq_cons_iff.1 hrest
  exact ⟨a, b, by simp [SessionServer.entry, hclients], by simp [SessionServer.entry, hclients], rfl, rfl⟩

theorem plays_of_members {p : Stepping} {x y : Offered} {back : List Offered}
    (h : p.server.pairing.members = x :: y :: back) (hx : x.player = true) (hy : y.player = true) :
    p.plays x.conn ∧ p.plays y.conn := by
  obtain ⟨a, b, ha, hb, rfl, rfl⟩ := entry_of_members h
  exact ⟨⟨0, a, ha, hx, rfl⟩, ⟨1, b, hb, hy, rfl⟩⟩

theorem peers_to_players {p : Stepping} (h : p.server.WellSeated) (a : Act) : PeersToPlayers p a := by
  intro sent hsent
  have hstep := pairs_of h a
  generalize hpost : (sessionServer.next p a).1.server.pairing = g at hstep
  generalize peersOf (sessionServer.next p a).2 = peers at hsent hstep
  cases hstep with
  | same hno => cases hsent
  | spectator hno hspec => cases hsent
  | swap hno hmembers hx hy => cases hsent
  | reset hno _ => cases hsent
  | exchange hcall hdue =>
    obtain ⟨hfirst, hsecond⟩ := plays_of_members ((congrArg (·.members) hpost).trans hdue.members) hdue.first hdue.second
    simp only [List.mem_cons, List.not_mem_nil, or_false] at hsent
    rcases hsent with rfl | rfl
    · exact hfirst
    · exact hsecond

/-- Both player seats are held, by different connections, and both stored offers have a port. -/
structure BothOffered (s : SessionServer) (a b : SessionMember) : Prop where
  first : s.entry 0 = some a
  second : s.entry 1 = some b
  players : a.isPlayer = true ∧ b.isPlayer = true
  apart : a.conn ≠ b.conn
  ports : a.direct.port ≠ 0 ∧ b.direct.port ≠ 0

/-- The endpoints stored for a member, under a token. -/
def SessionMember.toldAs (m : SessionMember) (token : Bytes) : DirectPeer :=
  ⟨m.direct.ip, m.direct.port, m.direct.localIp, m.direct.localPort, token⟩

theorem BothOffered.members {s : SessionServer} {a b : SessionMember} (h : BothOffered s a b) :
    ∃ back, s.pairing.members = a.offered :: b.offered :: back := by
  have h0 : s.clients[0]? = some a := h.first
  have h1 : s.clients[1]? = some b := h.second
  obtain ⟨m, m', rest, hclients⟩ : ∃ m m' rest, s.clients = m :: m' :: rest := by
    match hc : s.clients with
    | [] => simp [hc] at h0
    | [_] => simp [hc] at h1
    | m :: m' :: rest => exact ⟨m, m', rest, rfl⟩
  simp only [hclients, List.getElem?_cons_zero, List.getElem?_cons_succ, Option.some.injEq] at h0 h1
  subst h0
  subst h1
  exact ⟨rest.map (·.offered), by simp [SessionServer.pairing, hclients]⟩

theorem paired_run (cfg : HostConfig) (as : List Act) :
    Paired (sessionServer.outs (start cfg) as) (sessionServer.run (start cfg) as).server.pairing := by
  have hinv := Machine.inv_of_outs (M := sessionServer) (C := fun _ _ _ => True) (o := []) (h := [])
    (fun out p => p.server.WellSeated ∧ Paired out p.server.pairing)
    (fun out _ p a h _ => ⟨wellSeated_next h.1 a, paired_next h.1 h.2 a⟩)
    (s := start cfg) ⟨wellSeated_start cfg, fun hg => by cases hg⟩ (Machine.meets_true : Machine.Meets _ _ _ _ as)
  simpa only [List.nil_append] using hinv.2

/-- Over any run, two players with offers end every Step with the other's stored endpoints
and one token, and nobody else is ever sent a DirectPeer. -/
theorem paired_players (cfg : HostConfig) (calls : List Call) :
    sessionServer.Meets (fun _ => PeersToPlayers) (start cfg) [] (acts calls) ∧
      ∀ msgs tick a b,
        BothOffered (sessionServer.run (start cfg) (acts (calls ++ [.step msgs tick]))).server a b →
          ∃ token,
            lastPeer (sessionServer.outs (start cfg) (acts (calls ++ [.step msgs tick]))) a.conn =
                some (b.toldAs token) ∧
              lastPeer (sessionServer.outs (start cfg) (acts (calls ++ [.step msgs tick]))) b.conn =
                some (a.toldAs token) := by
  have hseated := wellSeated_start cfg
  constructor
  · exact Machine.meets_of_inv (C := fun _ _ _ => True) (fun _ p => p.server.WellSeated)
      (fun _ p a h _ => wellSeated_next h a) (fun _ p a h _ => peers_to_players h a) hseated Machine.meets_true
  · intro msgs tick a b hboth
    have hpaired := paired_run cfg (acts (calls ++ [.step msgs tick]))
    obtain ⟨back, hmembers⟩ := hboth.members
    -- the run ends with an end of Step
    have hacts : acts (calls ++ [.step msgs tick]) = (acts calls ++ msgs.map .message) ++ [.endStep tick] := by
      simp [acts, Call.acts]
    have hexchanged : (sessionServer.run (start cfg) (acts (calls ++ [.step msgs tick]))).server.pairing.exchanged =
        true := by
      rw [hacts, Machine.run_append] at hmembers ⊢
      have hbefore := Machine.inv_of_all_steps (M := sessionServer) (fun p => p.server.WellSeated)
        (fun p a h => wellSeated_next h a) (acts calls ++ msgs.map .message) hseated
      exact exchanged_of_finish hbefore tick hmembers hboth.players.1 hboth.players.2 hboth.ports.1 hboth.ports.2
    obtain ⟨x, y, back', last, hsame, hlast⟩ := hpaired hexchanged
    rw [hmembers] at hsame
    obtain ⟨rfl, rfl, -⟩ : a.offered = x ∧ b.offered = y ∧ _ := by simpa using hsame
    exact ⟨last.token.map SessionServer.hexDigit, hlast hboth.apart⟩

namespace Sample

def offer (ip : String) (port : UInt16) : ClientMsg := .directOffer (some ⟨ascii ip, port, [], 0⟩)

/-- Both players offer an endpoint in one Step. -/
def bothOffer : List IncomingMsg := [say 1 (offer "1.2.3.4" 4000), say 2 (offer "5.6.7.8" 5000)]

/-- The two players, once both have offered. -/
def afterOffers : SessionServer :=
  (sessionServer.run (start (lobbyHost 0)) (acts (twoPlayers ++ [.step bothOffer tick]))).server

end Sample

/-- Two players that offer in one Step. -/
theorem paired_players_once :
    ∃ a b token, BothOffered Sample.afterOffers a b ∧
      lastPeer (sessionServer.outs (start (lobbyHost 0)) (acts (Sample.twoPlayers ++ [.step Sample.bothOffer Sample.tick])))
        a.conn = some (b.toldAs token) := by
  have hboth : BothOffered Sample.afterOffers (Sample.afterOffers.clients.get ⟨0, by decide +kernel⟩)
      (Sample.afterOffers.clients.get ⟨1, by decide +kernel⟩) := by
    constructor <;> decide +kernel
  obtain ⟨token, hlast, -⟩ := (paired_players (lobbyHost 0) Sample.twoPlayers).2 Sample.bothOffer Sample.tick _ _ hboth
  exact ⟨_, _, token, hboth, hlast⟩

end Sf4e.Session
