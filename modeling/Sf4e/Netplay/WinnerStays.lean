import Sf4e.Netplay.Joined
/-!
# Winner stays

A match of the two clients is over. Each returns to the lobby, and the one that
then finds itself on side 0 reports the loser; a loser in seat 0 changes seats
with the winner. `winner_stays_iff`: when both have returned and everything is
delivered, the winner sits in seat 0 exactly if each client returned while its
own view still had it on the side it played. The battle may report the result
again in the meantime.
-/
open Sf4e.Lib Sf4e.Session

namespace Sf4e.Netplay

/-! ## The end of a match -/

/-- What a client sends during a battle. -/
def InPlay : ClientMsg → Prop
  | .battleLoaded => True
  | .battleSnapshot _ => True
  | .desyncReport (some _) => True
  | _ => False

/-- A side, as the battle system numbers it. -/
def sideNumber : Side → Int32
  | 0 => 0
  | 1 => 1

namespace Room

/-- The players' identities, client `first` in seat 0. -/
def order (r : Room) (first : Side) : List ConnectionID := [(r.clients.get first).cid, (r.clients.get first.other).cid]

/-- Every update on its way to a client shows `P`. -/
def Shows (r : Room) (P : List ConnectionID → Prop) : Prop :=
  ∀ i, P (seating (r.clients.get i).lobbyData) ∧ ∀ d ∈ r.down.get i, ∀ l m, d.msg = .dataUpdate l m → P (seating l)

end Room

/-- Client `w` has won: client 0 played in seat 0, both have the result, neither
has returned, each pick belongs to its player, and nobody is ready again. -/
structure MatchOver (r : Room) (w : Side) : Prop where
  joined : Joined r 0
  called : r.server.bSendLobbyAllReady = false
  owners : ∀ i, r.server.table.charaOwner.get i = (r.clients.get i).cid
  up : ∀ i, ∀ u ∈ r.up.get i, InPlay u.msg
  down : ∀ i, ∀ d ∈ r.down.get i, d.msg ≠ .lobbyAllReady
  shown : r.Shows (· = r.order 0)
  playing : ∀ i, (r.clients.get i).hiddenForBattle = true
  result : ∀ i, (r.clients.get i).hasResult = true ∧ (r.clients.get i).resultWinner = sideNumber w

/-- The moves until the next match: nobody presses a button. A battle that is still on the screen reports
its result a second time. -/
def Returning (w : Side) : Move → Prop
  | .perform _ (.ready _) => False
  | .perform _ .takeReadyBack => False
  | .perform _ (.matchResult winnerSide) => winnerSide = sideNumber w
  | _ => True

/-- Both clients are back in the lobby and every message is delivered. -/
def Settled (r : Room) : Prop :=
  ∀ i, (r.clients.get i).hiddenForBattle = false ∧ r.up.get i = [] ∧ r.down.get i = []

/-- Client `w` is in seat 0 and the other in seat 1, each with its pick. -/
def WinnerStays (r₀ : Room) (w : Side) (r : Room) : Prop :=
  ∀ i, r.server.table.occupant (seatOf w i) = some (r₀.clients.get i).conn ∧
    r.server.table.matchData.chara.get (seatOf w i) = r₀.server.table.matchData.chara.get i

/-- A client that returns from its battle still sees itself on the side it
played: client `i` on side `i`. -/
def KeepsSeat (r : Room) : Move → Prop
  | .perform i .draw =>
    (r.clients.get i).onMainMenu = true → (r.clients.get i).hiddenForBattle = true → (r.clients.get i).mySide = i.val
  | _ => True

/-! ## The returns -/

theorem sideOf_seating {c : SessionClient} {a b : ConnectionID} (hs : seating c.lobbyData = [a, b])
    (hp : c.spectator = false) :
    (c.cid = a → c.mySide = 0) ∧ (c.cid = b → a ≠ b → c.mySide = 1) := by
  unfold SessionClient.mySide
  rw [hs, hp]
  constructor
  · rintro rfl
    simp [List.findIdx?_cons]
  · rintro rfl hab
    simp [List.findIdx?_cons, hab]

/-- What is left of a match once the result is known. -/
structure Aftermath (r₀ : Room) (w first : Side) (r : Room) : Prop where
  joined : Joined r first
  same : ∀ i, (r.clients.get i).badge = (r₀.clients.get i).badge
  called : r.server.bSendLobbyAllReady = false
  picks : ∀ i, r.server.table.matchData.chara.get (seatOf first i) = r₀.server.table.matchData.chara.get i
  owners : ∀ i, r.server.table.charaOwner.get (seatOf first i) = (r₀.clients.get i).cid
  up : ∀ i, ∀ u ∈ r.up.get i, InPlay u.msg ∨ u.msg = .reportResults (some (1 - sideNumber w))
  down : ∀ i, ∀ d ∈ r.down.get i, d.msg ≠ .lobbyAllReady
  shown : r.Shows fun s => ∃ f, s = r₀.order f
  back : ∀ i, (r.clients.get i).hiddenForBattle = false → (r.clients.get i).onMainMenu = true
  result : ∀ i, (r.clients.get i).hiddenForBattle = true →
    (r.clients.get i).hasResult = true ∧ (r.clients.get i).resultWinner = sideNumber w

/-- How far the returns have come: who is still in the battle, which reports are
on their way, and whether only the first order has been shown. `kept` says that
no return was late. -/
inductive Phase : (w first : Side) → (kept : Bool) → (hidden : Sides Bool) → (reports : Sides Nat) → Prop → Prop where
  | level {hidden : Sides Bool} {reports : Sides Nat} {fresh : Prop} (h : fresh) :
      Phase 0 0 true hidden reports fresh
  | playing {b : Bool} {fresh : Prop} (h : fresh) : Phase 1 0 true ⟨true, b⟩ ⟨0, 0⟩ fresh
  | reported {b : Bool} {fresh : Prop} (h : fresh) : Phase 1 0 true ⟨false, b⟩ ⟨1, 0⟩ fresh
  | rotated {b : Bool} {fresh : Prop} : Phase 1 1 true ⟨false, b⟩ ⟨0, 0⟩ fresh
  | undone {fresh : Prop} : Phase 1 1 false ⟨false, false⟩ ⟨0, 1⟩ fresh
  | restored {fresh : Prop} : Phase 1 0 false ⟨false, false⟩ ⟨0, 0⟩ fresh

def isReport (u : Up) : Bool :=
  match u.msg with
  | .reportResults _ => true
  | _ => false

namespace Room

def hidden (r : Room) : Sides Bool := .of fun i => (r.clients.get i).hiddenForBattle

def reports (r : Room) : Sides Nat := .of fun i => (r.up.get i).countP isReport

end Room

/-- No return so far was late. -/
def Kept (h : Story) : Prop := ∀ t ∈ h, KeepsSeat t.pre t.act

/-- The invariant of the returns. -/
def Returns (r₀ : Room) (w : Side) (h : Story) (r : Room) : Prop :=
  ∃ first kept, Aftermath r₀ w first r ∧ Phase w first kept r.hidden r.reports (r.Shows (· = r₀.order 0)) ∧
    (kept = true ↔ Kept h)

theorem kept_cons {t : Taken Room Move Sight} {h : Story} :
    Kept (t :: h) ↔ KeepsSeat t.pre t.act ∧ Kept h := by
  simp [Kept]

theorem not_report_of_inPlay {u : Up} (h : InPlay u.msg) : ¬isReport u = true := by
  intro hrep
  unfold isReport at hrep
  split at hrep
  · rename_i heq
    rw [heq] at h
    exact h
  · cases hrep

theorem reports_of_inPlay {r : Room} (h : ∀ i, ∀ u ∈ r.up.get i, InPlay u.msg) : r.reports = ⟨0, 0⟩ := by
  have hzero : ∀ i, (r.up.get i).countP isReport = 0 := fun i =>
    List.countP_eq_zero.2 fun u hu => not_report_of_inPlay (h i u hu)
  exact congrArg₂ Sides.mk (hzero 0) (hzero 1)

theorem returns_start {r₀ : Room} {w : Side} (h : MatchOver r₀ w) : Returns r₀ w [] r₀ := by
  have hA : Aftermath r₀ w 0 r₀ :=
    { joined := h.joined
      same := fun _ => rfl
      called := h.called
      picks := fun i => by rw [seatOf_zero]
      owners := fun i => by rw [seatOf_zero]; exact h.owners i
      up := fun i u hu => .inl (h.up i u hu)
      down := h.down
      shown := fun i => ⟨⟨0, (h.shown i).1⟩, fun d hd l m hm => ⟨0, (h.shown i).2 d hd l m hm⟩⟩
      back := fun i hi => by rw [h.playing i] at hi; cases hi
      result := fun i _ => h.result i }
  have hhidden : r₀.hidden = ⟨true, true⟩ := congrArg₂ Sides.mk (h.playing 0) (h.playing 1)
  refine ⟨0, true, hA, ?_, by simp [Kept]⟩
  rw [hhidden, reports_of_inPlay h.up]
  match w with
  | 0 => exact .level h.shown
  | 1 => exact .playing h.shown

/-! ## The server's moves -/

theorem Aftermath.serve {r₀ r : Room} {w first : Side} (h : Aftermath r₀ w first r) {i : Side} {u : Up}
    {rest : List Up} (hu : r.up.get i = u :: rest) (peerAddr : PeerAddr) (tick : Tick) :
    Aftermath r₀ w (firstAfter first u.msg) (r.serve i peerAddr tick).1 := by
  have hJ := h.joined.serve hu peerAddr tick
  have hlen : r.server.table.roster.length = 2 := by simpa using congrArg List.length h.joined.seats
  have hcalm : (∀ chara, u.msg ≠ .setChara (some chara)) ∧ ∀ request, u.msg ≠ .lobbyReady (some request) := by
    rcases h.up i u (hu ▸ List.mem_cons_self) with hin | hmsg
    · constructor
      · intro chara hmsg
        rw [hmsg] at hin
        exact hin
      · intro request hmsg
        rw [hmsg] at hin
        exact hin
    · rw [hmsg]
      exact ⟨nofun, nofun⟩
  have hcalled := called_afterPlayer r.server.table (seatOf first i) (r.clients.get i).cid
    (m := r.incoming i u peerAddr tick) hcalm.2
  have hpicks := fun j => (picks_afterPlayer hlen first i j (r.clients.get i).cid
    (r.incoming i u peerAddr tick)).resolve_right fun hset => hset.1.elim hcalm.1
  rw [← h.joined.table_serve hu] at hcalled hpicks
  have hdown := h.joined.serve_down hu peerAddr tick
  rw [Room.serve_cons hu] at hJ hdown ⊢
  refine ⟨hJ, h.same, hcalled.trans h.called, fun j => (hpicks j).1.trans (h.picks j),
    fun j => (hpicks j).2.trans (h.owners j), ?_, ?_, ?_, h.back, h.result⟩
  · intro j v hv
    exact h.up j v (Room.mem_up_taken hu hv)
  · intro j d hd
    rcases hdown j d hd with hd | ⟨-, report, -, hmsg⟩
    · exact h.down j d hd
    · simp [hmsg]
  · intro j
    refine ⟨(h.shown j).1, fun d hd l m hm => ?_⟩
    rcases hdown j d hd with hd | ⟨-, report, -, hmsg⟩
    · exact (h.shown j).2 d hd l m hm
    · rw [hmsg] at hm
      cases hm

theorem Aftermath.cid {r₀ r : Room} {w first : Side} (h : Aftermath r₀ w first r) (i : Side) :
    (r.clients.get i).cid = (r₀.clients.get i).cid := congrArg (·.2.1) (h.same i)

/-- The end of a Step shows the order the table is in. -/
theorem Aftermath.endStep_shows {r₀ r : Room} {w first : Side} (h : Aftermath r₀ w first r) (tick : Tick) (i : Side) :
    ∀ d ∈ (r.endStep tick).1.down.get i, d ∈ r.down.get i ∨
      d.msg ≠ .lobbyAllReady ∧ ∀ l m, d.msg = .dataUpdate l m → seating l = r₀.order first := by
  intro d hd
  refine (h.joined.endStep_down tick i d hd).imp id fun hend => ⟨fun hall => ?_, fun l m hmsg => ?_⟩
  · rw [hall] at hend
    rw [AtEnd, h.called] at hend
    cases hend
  · rw [hmsg] at hend
    refine hend.2.trans ?_
    rw [Table.roster_finish, h.joined.cids, Room.order, h.cid, h.cid]

theorem Aftermath.endStep {r₀ r : Room} {w first : Side} (h : Aftermath r₀ w first r) (tick : Tick) :
    Aftermath r₀ w first (r.endStep tick).1 := by
  have hJ := h.joined.endStep tick
  have hshows := h.endStep_shows tick
  have htable : (r.endStep tick).1.server.table = { r.server.table with called := false, synced := false } := by
    have howned : ∀ side, r.server.table.sameOwner side = true ∨ (r.server.table.matchData.chara.get side).charaID = 0 := by
      intro side
      obtain ⟨i, rfl⟩ := seatOf_surj first side
      exact .inl (h.joined.sameOwner ((h.owners i).trans (h.cid i).symm))
    show (finishStep r.server tick).1.table = _
    rw [table_finish h.joined.seated, Table.finish, Table.dropPicks_owned howned]
  refine ⟨hJ, h.same, congrArg Table.called htable, ?_, ?_, h.up, ?_, ?_, h.back, h.result⟩
  · intro i
    rw [htable]
    exact h.picks i
  · intro i
    rw [htable]
    exact h.owners i
  · intro i d hd
    rcases hshows i d hd with hd | hd
    · exact h.down i d hd
    · exact hd.1
  · intro i
    refine ⟨(h.shown i).1, fun d hd l m hm => ?_⟩
    rcases hshows i d hd with hd | hd
    · exact (h.shown i).2 d hd l m hm
    · exact ⟨first, hd.2 l m hm⟩

/-! ## The clients' moves -/

/-- A message that calls no match leaves the battle's state and result alone. -/
theorem receive_calm {c : SessionClient} {d : Down} (hfrom : FromServer d.msg) (hcall : d.msg ≠ .lobbyAllReady) :
    (c.receive d).1.hiddenForBattle = c.hiddenForBattle ∧ (c.receive d).1.onMainMenu = c.onMainMenu ∧
      (c.receive d).1.hasResult = c.hasResult ∧ (c.receive d).1.resultWinner = c.resultWinner := by
  unfold SessionClient.receive
  cases hmsg : d.msg with
  | helloResp cid =>
    rw [hmsg] at hfrom
    exact hfrom.elim
  | joinReject result =>
    rw [hmsg] at hfrom
    exact hfrom.elim
  | lobbyAllReady => exact (hcall hmsg).elim
  | dataUpdate l m =>
    simp only [SessionClient.onDataUpdate]
    repeat' split
    all_goals exact ⟨rfl, rfl, rfl, rfl⟩
  | desyncReport report =>
    simp only
    split <;> exact ⟨rfl, rfl, rfl, rfl⟩
  | _ => exact ⟨rfl, rfl, rfl, rfl⟩

theorem lobbyData_receive (c : SessionClient) (d : Down) :
    (c.receive d).1.lobbyData = c.lobbyData ∨ ∃ l m, d.msg = .dataUpdate l m ∧ (c.receive d).1.lobbyData = l := by
  unfold SessionClient.receive
  cases hmsg : d.msg with
  | dataUpdate l m =>
    refine .inr ⟨l, m, rfl, ?_⟩
    simp only [SessionClient.onDataUpdate]
    repeat' split
    all_goals rfl
  | lobbyAllReady =>
    simp only [SessionClient.onReady]
    split <;> exact .inl rfl
  | desyncReport report =>
    simp only
    split <;> exact .inl rfl
  | _ => exact .inl rfl

/-- A client sees what was on its way to it. -/
theorem Room.Shows.deliver {r : Room} {P : List ConnectionID → Prop} (h : r.Shows P) (i : Side) :
    (r.deliver i).1.Shows P := by
  cases hd : r.down.get i with
  | nil =>
    rw [Room.deliver_nil hd]
    exact h
  | cons d rest =>
    rw [Room.deliver_cons hd]
    intro j
    rcases Side.eq_or_other i j with rfl | rfl
    · refine ⟨?_, fun d' hd' => ?_⟩
      · rw [Room.put_client]
        rcases lobbyData_receive (r.clients.get _) d with hl | ⟨l, m, hmsg, hl⟩
        · rw [hl]
          exact (h _).1
        · rw [hl]
          exact (h _).2 d (hd ▸ List.mem_cons_self) l m hmsg
      · rw [Room.put_down, Sides.get_set_self] at hd'
        exact (h _).2 d' (hd ▸ List.mem_cons_of_mem _ hd')
    · refine ⟨?_, fun d' hd' => ?_⟩
      · rw [Room.put_client_other]
        exact (h _).1
      · rw [Room.put_down, Sides.get_set_other] at hd'
        exact (h _).2 d' hd'

theorem fromPlayer_inPlay {msg : ClientMsg} (h : InPlay msg) : FromPlayer msg := by
  cases msg with
  | desyncReport report => cases report <;> exact h
  | battleLoaded => trivial
  | battleSnapshot data => trivial
  | _ => exact h.elim

/-- A client changes what it sees or where it is. -/
theorem Aftermath.put {r₀ r : Room} {w first : Side} (h : Aftermath r₀ w first r) {i : Side} {c : SessionClient}
    {sent : List Up} (hbadge : c.badge = (r.clients.get i).badge) (hshown : ∃ f, seating c.lobbyData = r₀.order f)
    (hsent : ∀ u ∈ sent, InPlay u.msg ∨ u.msg = .reportResults (some (1 - sideNumber w)))
    (hback : c.hiddenForBattle = false → c.onMainMenu = true)
    (hresult : c.hiddenForBattle = true → c.hasResult = true ∧ c.resultWinner = sideNumber w) :
    Aftermath r₀ w first (r.put i c sent) := by
  have hJ : Joined (r.put i c sent) first := by
    apply h.joined.put hbadge
    intro u hu
    rcases hsent u hu with hin | hrep
    · exact fromPlayer_inPlay hin
    · rw [hrep]
      trivial
  refine ⟨hJ, fun j => (Room.badge_put hbadge sent j).trans (h.same j), h.called, h.picks, h.owners, ?_, h.down, ?_,
    ?_, ?_⟩
  · intro j u hu
    rcases Room.mem_up_put hu with hu | hu
    · exact h.up j u hu
    · exact hsent u hu
  · intro j
    refine ⟨?_, (h.shown j).2⟩
    rcases Side.eq_or_other i j with rfl | rfl
    · rw [Room.put_client]
      exact hshown
    · rw [Room.put_client_other]
      exact (h.shown _).1
  · intro j
    rcases Side.eq_or_other i j with rfl | rfl
    · rw [Room.put_client]
      exact hback
    · rw [Room.put_client_other]
      exact h.back _
  · intro j
    rcases Side.eq_or_other i j with rfl | rfl
    · rw [Room.put_client]
      exact hresult
    · rw [Room.put_client_other]
      exact h.result _

theorem Room.hidden_put (r : Room) (i : Side) (c : SessionClient) (sent : List Up) :
    (r.put i c sent).hidden = r.hidden.set i c.hiddenForBattle := by
  apply Sides.ext_get
  intro j
  rcases Side.eq_or_other i j with rfl | rfl
  · simp [Room.hidden]
  · simp [Room.hidden]

theorem Room.reports_put (r : Room) (i : Side) (c : SessionClient) (sent : List Up) :
    (r.put i c sent).reports = r.reports.set i (r.reports.get i + sent.countP isReport) := by
  apply Sides.ext_get
  intro j
  rcases Side.eq_or_other i j with rfl | rfl
  · simp [Room.reports]
  · simp [Room.reports]

theorem Aftermath.deliver {r₀ r : Room} {w first : Side} (h : Aftermath r₀ w first r) (i : Side) :
    Aftermath r₀ w first (r.deliver i).1 ∧ (r.deliver i).1.hidden = r.hidden ∧
      (r.deliver i).1.reports = r.reports := by
  cases hd : r.down.get i with
  | nil =>
    rw [Room.deliver_nil hd]
    exact ⟨h, rfl, rfl⟩
  | cons d rest =>
    have hmem : d ∈ r.down.get i := hd ▸ List.mem_cons_self
    obtain ⟨hbadge, hsent⟩ := receive_keeps (c := r.clients.get i) (h.joined.down i d hmem)
    obtain ⟨hhid, hmenu, hhas, hwin⟩ :=
      receive_calm (c := r.clients.get i) (h.joined.down i d hmem) (h.down i d hmem)
    have hrest : Aftermath r₀ w first { r with down := r.down.set i rest } := by
      have hless : ∀ j, ∀ d' ∈ (r.down.set i rest).get j, d' ∈ r.down.get j := by
        intro j d' hd'
        rcases Side.eq_or_other i j with rfl | rfl
        · rw [Sides.get_set_self] at hd'
          exact hd ▸ List.mem_cons_of_mem _ hd'
        · rwa [Sides.get_set_other] at hd'
      obtain ⟨hseated, hapart, hknown, hseats, hplayers, hup, hdown⟩ := h.joined
      exact ⟨⟨hseated, hapart, hknown, hseats, hplayers, hup, fun j d' hd' => hdown j d' (hless j d' hd')⟩,
        h.same, h.called, h.picks, h.owners, h.up, fun j d' hd' => h.down j d' (hless j d' hd'),
        fun j => ⟨(h.shown j).1, fun d' hd' => (h.shown j).2 d' (hless j d' hd')⟩, h.back, h.result⟩
    have hview : ∃ f, seating ((r.clients.get i).receive d).1.lobbyData = r₀.order f := by
      rcases lobbyData_receive (r.clients.get i) d with hl | ⟨l, m, hmsg, hl⟩
      · rw [hl]
        exact (h.shown i).1
      · rw [hl]
        exact (h.shown i).2 d hmem l m hmsg
    rw [Room.deliver_cons hd, hsent, Room.hidden_put, Room.reports_put, hhid]
    refine ⟨hrest.put hbadge hview (by simp) ?_ ?_, ?_, ?_⟩
    · rw [hhid, hmenu]
      exact h.back i
    · rw [hhid, hhas, hwin]
      exact h.result i
    · refine Sides.set_eq_self.2 ?_
      simp [Room.hidden]
    · exact Sides.set_eq_self.2 rfl

/-- What a PC does in a battle, its return apart. -/
theorem doing_inPlay {c : SessionClient} {w i : Side} {d : Doing} (hm : Returning w (.perform i d)) (hdraw : d ≠ .draw) :
    (c.perform d).1.hiddenForBattle = c.hiddenForBattle ∧
      (c.onMainMenu = true → (c.perform d).1.onMainMenu = true) ∧
      (c.hasResult = true ∧ c.resultWinner = sideNumber w →
        (c.perform d).1.hasResult = true ∧ (c.perform d).1.resultWinner = sideNumber w) ∧
      ∀ u ∈ (c.perform d).2.1, InPlay u.msg := by
  have hall : ∀ (c : SessionClient) (msgs : List ClientMsg), (∀ msg ∈ msgs, InPlay msg) →
      ∀ u ∈ (c.sendAll msgs).2, InPlay u.msg := by
    intro c msgs hmsgs u hu
    refine hmsgs u.msg ?_
    rw [← c.sendAll_msgs msgs]
    exact List.mem_map_of_mem hu
  unfold SessionClient.perform
  split
  · cases d with
    | draw => exact (hdraw rfl).elim
    | ready o => exact hm.elim
    | takeReadyBack => exact hm.elim
    | matchResult winnerSide =>
      simp only [SessionClient.doing]
      split
      · exact ⟨rfl, id, id, by simp⟩
      · exact ⟨rfl, id, fun _ => ⟨rfl, hm⟩, by simp⟩
    | hasInitialized =>
      simp only [SessionClient.doing, SessionClient.hasInitialized]
      repeat' split
      · exact ⟨rfl, id, id, by simp⟩
      · exact ⟨rfl, id, id, by simp⟩
      · exact ⟨rfl, id, id, hall _ _ (by simp [InPlay])⟩
    | exitForeground =>
      simp only [SessionClient.doing]
      split
      · exact ⟨rfl, id, id, by simp⟩
      · exact ⟨rfl, fun _ => rfl, id, by simp⟩
    | snapshot data =>
      simp only [SessionClient.doing]
      split
      · exact ⟨rfl, id, id, by simp⟩
      · exact ⟨rfl, id, id, hall _ _ (by simp [InPlay])⟩
    | desync report =>
      simp only [SessionClient.doing, SessionClient.handleDesync, SessionClient.reportDesync,
        SessionClient.abortForDesync]
      repeat' split
      all_goals refine ⟨rfl, id, id, ?_⟩
      all_goals first
        | exact hall _ _ (by simp [InPlay])
        | simp
  · exact ⟨rfl, id, id, by simp⟩

/-- `Draw` off the main menu, in the lobby, and on the return from a battle. -/
theorem draw_cases {c : SessionClient} (hc : c.connected = true) :
    (c.onMainMenu = false ∧ c.perform .draw = ({ c with hiddenForBattle := true }, [], [])) ∨
      (c.onMainMenu = true ∧ c.hiddenForBattle = false ∧ c.perform .draw = (c, [], [])) ∨
      (c.onMainMenu = true ∧ c.hiddenForBattle = true ∧ (c.perform .draw).1.hiddenForBattle = false ∧
        (c.perform .draw).1.onMainMenu = true ∧
        (c.perform .draw).2.1.map (·.msg) = if c.mySide = 0 then [.reportResults (some c.loserSide)] else []) := by
  unfold SessionClient.perform
  rw [if_pos hc]
  simp only [SessionClient.doing, SessionClient.draw]
  cases hmenu : c.onMainMenu with
  | false => exact .inl ⟨rfl, rfl⟩
  | true =>
    cases hhid : c.hiddenForBattle with
    | false => exact .inr (.inl ⟨rfl, rfl, rfl⟩)
    | true => exact .inr (.inr ⟨rfl, rfl, rfl, rfl, SessionClient.sendAll_msgs _ _⟩)

/-! ## The phases -/

theorem Phase.mono {w first : Side} {kept : Bool} {hidden : Sides Bool} {reports : Sides Nat} {P Q : Prop}
    (h : Phase w first kept hidden reports P) (hPQ : first = 0 → P → Q) : Phase w first kept hidden reports Q := by
  cases h with
  | level hP => exact .level (hPQ rfl hP)
  | playing hP => exact .playing (hPQ rfl hP)
  | reported hP => exact .reported (hPQ rfl hP)
  | rotated => exact .rotated
  | undone => exact .undone
  | restored => exact .restored

/-- The server handles a report. -/
theorem Phase.report {w first : Side} {kept : Bool} {hidden : Sides Bool} {reports : Sides Nat} {P : Prop}
    (h : Phase w first kept hidden reports P) {i : Side} {n : Nat} (hn : reports.get i = n + 1) :
    Phase w (if w = 1 then first.other else first) kept hidden (reports.set i n) P := by
  cases h with
  | level hP => exact .level hP
  | playing hP => match i with
    | 0 => cases hn
    | 1 => cases hn
  | reported hP => match i with
    | 0 =>
      cases hn
      exact .rotated
    | 1 => cases hn
  | rotated => match i with
    | 0 => cases hn
    | 1 => cases hn
  | undone => match i with
    | 0 => cases hn
    | 1 =>
      cases hn
      exact .restored
  | restored => match i with
    | 0 => cases hn
    | 1 => cases hn

/-- Client `i` returns, and sees itself in seat `side`. -/
theorem Phase.back {w first : Side} {kept : Bool} {hidden : Sides Bool} {reports : Sides Nat} {P : Prop}
    (h : Phase w first kept hidden reports P) {i side : Side} (hi : hidden.get i = true) (hside : P → side = i) :
    Phase w first (kept && decide (side = i)) (hidden.set i false)
      (reports.set i (reports.get i + if side = 0 then 1 else 0)) P := by
  cases h with
  | level hP =>
    rw [hside hP, decide_eq_true rfl]
    exact .level hP
  | playing hP =>
    rw [hside hP, decide_eq_true rfl]
    match i with
    | 0 => exact .reported hP
    | 1 =>
      cases hi
      exact .playing hP
  | reported hP =>
    rw [hside hP, decide_eq_true rfl]
    match i with
    | 0 => cases hi
    | 1 =>
      cases hi
      exact .reported hP
  | rotated => match i, side with
    | 0, _ => cases hi
    | 1, 0 =>
      -- the winner has heard of its promotion before it returns
      cases hi
      exact .undone
    | 1, 1 =>
      cases hi
      exact .rotated
  | undone => match i with
    | 0 => cases hi
    | 1 => cases hi
  | restored => match i with
    | 0 => cases hi
    | 1 => cases hi

/-! ## The run -/

theorem Returns.quiet {r₀ r r' : Room} {w first : Side} {kept : Bool} {t : Taken Room Move Sight}
    {h : Story} (hA : Aftermath r₀ w first r')
    (hP : Phase w first kept r.hidden r.reports (r.Shows (· = r₀.order 0))) (hkept : kept = true ↔ Kept h)
    (hhid : r'.hidden = r.hidden) (hrep : r'.reports = r.reports)
    (hshow : first = 0 → r.Shows (· = r₀.order 0) → r'.Shows (· = r₀.order 0)) (hK : KeepsSeat t.pre t.act) :
    Returns r₀ w (t :: h) r' := by
  refine ⟨first, kept, hA, ?_, hkept.trans ?_⟩
  · rw [hhid, hrep]
    exact hP.mono hshow
  · rw [kept_cons]
    exact ⟨fun hk => ⟨hK, hk⟩, fun hk => hk.2⟩

theorem returns_serve {r₀ r : Room} {w : Side} {h : Story} (hI : Returns r₀ w h r) (i : Side)
    (peerAddr : PeerAddr) (tick : Tick) :
    Returns r₀ w (room.taken r (.serve i peerAddr tick) :: h) (r.serve i peerAddr tick).1 := by
  obtain ⟨first, kept, hA, hP, hkept⟩ := hI
  cases hu : r.up.get i with
  | nil =>
    rw [Room.serve_nil hu]
    exact Returns.quiet hA hP hkept rfl rfl (fun _ hs => hs) trivial
  | cons u rest =>
    have hA' := hA.serve hu peerAddr tick
    have hshow : r.Shows (· = r₀.order 0) → (r.serve i peerAddr tick).1.Shows (· = r₀.order 0) := by
      intro hs j
      have hclients : (r.serve i peerAddr tick).1.clients = r.clients := by rw [Room.serve_cons hu, Room.post_clients]
      refine ⟨hclients ▸ (hs j).1, fun d hd l m hm => ?_⟩
      rcases hA.joined.serve_down hu peerAddr tick j d hd with hd | ⟨-, report, -, hmsg⟩
      · exact (hs j).2 d hd l m hm
      · rw [hmsg] at hm
        cases hm
    have hhid : (r.serve i peerAddr tick).1.hidden = r.hidden := by
      rw [Room.serve_cons hu]
      rfl
    have hrep : (r.serve i peerAddr tick).1.reports = r.reports.set i (rest.countP isReport) := by
      rw [Room.serve_cons hu]
      apply Sides.ext_get
      intro j
      rcases Side.eq_or_other i j with rfl | rfl
      · simp [Room.reports]
      · simp [Room.reports]
    have hcount : r.reports.get i = rest.countP isReport + if isReport u then 1 else 0 := by
      simp [Room.reports, hu, List.countP_cons]
    rcases hA.up i u (hu ▸ List.mem_cons_self) with hin | hmsg
    · have hno : rotates u.msg = false ∧ isReport u = false := by
        unfold isReport
        cases hmsg : u.msg <;> rw [hmsg] at hin <;> first | exact hin.elim | exact ⟨rfl, rfl⟩
      rw [firstAfter, hno.1] at hA'
      rw [hno.2] at hcount
      refine Returns.quiet hA' hP hkept hhid ?_ (fun _ => hshow) trivial
      rw [hrep]
      exact Sides.set_eq_self.2 hcount
    · have hfirst : firstAfter first u.msg = if w = 1 then first.other else first := by
        rw [firstAfter, hmsg]
        cases w using Side.cases with
        | zero => rfl
        | one => rfl
      have hreport : isReport u = true := by rw [isReport, hmsg]
      rw [hreport] at hcount
      refine ⟨firstAfter first u.msg, kept, hA', ?_, ?_⟩
      · rw [hhid, hrep, hfirst]
        exact (hP.report hcount).mono fun _ => hshow
      · rw [kept_cons, hkept]
        exact ⟨fun hk => ⟨trivial, hk⟩, fun hk => hk.2⟩

theorem returns_endStep {r₀ r : Room} {w : Side} {h : Story} (hI : Returns r₀ w h r)
    (tick : Tick) : Returns r₀ w (room.taken r (.endStep tick) :: h) (r.endStep tick).1 := by
  obtain ⟨first, kept, hA, hP, hkept⟩ := hI
  refine Returns.quiet (hA.endStep tick) hP hkept rfl rfl (fun hfirst hs i => ⟨(hs i).1, fun d hd l m hm => ?_⟩) trivial
  rcases hA.endStep_shows tick i d hd with hd | hd
  · exact (hs i).2 d hd l m hm
  · rw [hd.2 l m hm, hfirst]

theorem returns_deliver {r₀ r : Room} {w : Side} {h : Story} (hI : Returns r₀ w h r)
    (i : Side) : Returns r₀ w (room.taken r (.deliver i) :: h) (r.deliver i).1 := by
  obtain ⟨first, kept, hA, hP, hkept⟩ := hI
  obtain ⟨hA', hhid, hrep⟩ := hA.deliver i
  exact Returns.quiet hA' hP hkept hhid hrep (fun _ hs => hs.deliver i) trivial

theorem Room.Shows.put {r : Room} {P : List ConnectionID → Prop} (h : r.Shows P) {i : Side} {c : SessionClient}
    (hc : c.lobbyData = (r.clients.get i).lobbyData) (sent : List Up) : (r.put i c sent).Shows P := by
  intro j
  refine ⟨?_, (h j).2⟩
  rcases Side.eq_or_other i j with rfl | rfl
  · rw [Room.put_client, hc]
    exact (h _).1
  · rw [Room.put_client_other]
    exact (h _).1

/-- A client whose view shows client `f` in seat 0 finds its own side. -/
theorem Aftermath.mySide {r₀ r : Room} {w first : Side} (h : Aftermath r₀ w first r) {i f : Side}
    (hview : seating (r.clients.get i).lobbyData = r₀.order f) : (r.clients.get i).mySide = (seatOf f i).val := by
  have hside := sideOf_seating hview (h.joined.players i).1
  have hne : (r₀.clients.get f).cid ≠ (r₀.clients.get f.other).cid := by
    have hcid := h.joined.cid_ne
    rw [h.cid 0, h.cid 1] at hcid
    match f with
    | 0 => exact hcid
    | 1 => exact hcid.symm
  rcases Side.eq_or_other f i with rfl | rfl
  · rw [hside.1 (h.cid _), seatOf_self]
    rfl
  · rw [hside.2 (h.cid _) hne, seatOf_other_right, seatOf_self]
    rfl

/-- What a PC does apart from its return. -/
theorem returns_inPlay {r₀ r : Room} {w : Side} {h : Story} (hI : Returns r₀ w h r)
    {i : Side} {d : Doing} {c : SessionClient} (hc : ((r.clients.get i).perform d).1 = c)
    (hhid : c.hiddenForBattle = (r.clients.get i).hiddenForBattle)
    (hmenu : (r.clients.get i).onMainMenu = true → c.onMainMenu = true)
    (hres : (r.clients.get i).hasResult = true ∧ (r.clients.get i).resultWinner = sideNumber w →
      c.hasResult = true ∧ c.resultWinner = sideNumber w)
    (hsent : ∀ u ∈ ((r.clients.get i).perform d).2.1, InPlay u.msg) (hK : KeepsSeat r (.perform i d)) :
    Returns r₀ w (room.taken r (.perform i d) :: h) (r.perform i d).1 := by
  obtain ⟨first, kept, hA, hP, hkept⟩ := hI
  obtain ⟨hbadge, hdata⟩ := (r.clients.get i).perform_keeps d
  rw [hc] at hbadge hdata
  have hput : (r.perform i d).1 = r.put i c ((r.clients.get i).perform d).2.1 := by rw [Room.perform_put, hc]
  have hA' : Aftermath r₀ w first (r.put i c ((r.clients.get i).perform d).2.1) := hA.put hbadge
    (hdata ▸ (hA.shown i).1) (fun u hu => .inl (hsent u hu)) (fun hh => hmenu (hA.back i (hhid ▸ hh)))
    (by rw [hhid]; exact fun hh => hres (hA.result i hh))
  have hnone : ((r.clients.get i).perform d).2.1.countP isReport = 0 := by
    apply List.countP_eq_zero.2
    intro u hu hrep
    exact not_report_of_inPlay (hsent u hu) hrep
  refine Returns.quiet (hput ▸ hA') hP hkept ?_ ?_ (fun _ hs => hput ▸ hs.put hdata _) hK
  · rw [hput, Room.hidden_put, hhid]
    refine Sides.set_eq_self.2 ?_
    simp [Room.hidden]
  · rw [hput, Room.reports_put, hnone]
    exact Sides.set_eq_self.2 rfl

theorem loserSide_of_result {c : SessionClient} {w : Side} (hhas : c.hasResult = true)
    (hwin : c.resultWinner = sideNumber w) : c.loserSide = 1 - sideNumber w := by
  rw [SessionClient.loserSide, hhas, hwin]
  match w with
  | 0 => rfl
  | 1 => rfl

/-- A client comes back from its battle. -/
theorem returns_back {r₀ r : Room} {w : Side} {h : Story} (hI : Returns r₀ w h r) {i : Side}
    (hmenu : (r.clients.get i).onMainMenu = true) (hhid : (r.clients.get i).hiddenForBattle = true)
    (hhid' : ((r.clients.get i).perform .draw).1.hiddenForBattle = false)
    (hmenu' : ((r.clients.get i).perform .draw).1.onMainMenu = true)
    (hsent : ((r.clients.get i).perform .draw).2.1.map (·.msg) =
      if (r.clients.get i).mySide = 0 then [.reportResults (some (r.clients.get i).loserSide)] else []) :
    Returns r₀ w (room.taken r (.perform i .draw) :: h) (r.perform i .draw).1 := by
  obtain ⟨first, kept, hA, hP, hkept⟩ := hI
  obtain ⟨hbadge, hdata⟩ := (r.clients.get i).perform_keeps .draw
  obtain ⟨f, hf⟩ := (hA.shown i).1
  obtain ⟨hhas, hwin⟩ := hA.result i hhid
  have hside := hA.mySide hf
  have hsame : ∀ s : Side, ((seatOf f i).val : Int) = s.val ↔ seatOf f i = s := by
    intro s
    rw [Int.natCast_inj, Fin.val_inj]
  rw [hside, loserSide_of_result hhas hwin] at hsent
  have hzero : ((seatOf f i).val : Int) = 0 ↔ seatOf f i = 0 := hsame 0
  have hcount : ((r.clients.get i).perform .draw).2.1.countP isReport = if seatOf f i = 0 then 1 else 0 := by
    by_cases h0 : seatOf f i = 0
    · rw [if_pos (hzero.2 h0)] at hsent
      obtain ⟨u, hu, hmsg⟩ := List.map_eq_singleton_iff.1 hsent
      simp [hu, h0, isReport, hmsg]
    · rw [if_neg (mt hzero.1 h0)] at hsent
      simp [List.map_eq_nil_iff.1 hsent, h0]
  have hreport : ∀ u ∈ ((r.clients.get i).perform .draw).2.1, u.msg = .reportResults (some (1 - sideNumber w)) := by
    intro u hu
    have hmem := List.mem_map_of_mem (f := (·.msg)) hu
    rw [hsent] at hmem
    split at hmem
    · exact List.mem_singleton.1 hmem
    · cases hmem
  have hA' : Aftermath r₀ w first
      (r.put i ((r.clients.get i).perform .draw).1 ((r.clients.get i).perform .draw).2.1) :=
    hA.put hbadge ⟨f, hdata.symm ▸ hf⟩ (fun u hu => .inr (hreport u hu)) (fun _ => hmenu')
      fun hh => (Bool.false_ne_true (hhid'.symm.trans hh)).elim
  have hlevel : r.Shows (· = r₀.order 0) → seatOf f i = i := by
    intro hs
    have h0 := hA.mySide (hs i).1
    rw [hside, seatOf_zero] at h0
    exact (hsame i).1 h0
  refine ⟨first, kept && decide (seatOf f i = i), hA', ?_, ?_⟩
  · have hback := hP.back (by simpa [Room.hidden] using hhid) hlevel
    rw [Room.perform_put, Room.hidden_put, Room.reports_put, hhid', hcount]
    exact hback.mono fun _ hs => hs.put hdata _
  · rw [kept_cons, Bool.and_eq_true, decide_eq_true_iff, hkept, and_comm]
    apply and_congr_left
    intro _
    show _ ↔ ((r.clients.get i).onMainMenu = true → (r.clients.get i).hiddenForBattle = true →
      (r.clients.get i).mySide = i.val)
    rw [hside, hsame i]
    exact ⟨fun hs _ _ => hs, fun hs => hs hmenu hhid⟩

theorem returns_perform {r₀ r : Room} {w : Side} {h : Story} (hI : Returns r₀ w h r)
    {i : Side} {d : Doing} (hm : Returning w (.perform i d)) :
    Returns r₀ w (room.taken r (.perform i d) :: h) (r.perform i d).1 := by
  by_cases hdraw : d = .draw
  · subst hdraw
    have hback : (r.clients.get i).hiddenForBattle = false → (r.clients.get i).onMainMenu = true := by
      obtain ⟨first, kept, hA, -⟩ := hI
      exact hA.back i
    have hconn : (r.clients.get i).connected = true := by
      obtain ⟨first, kept, hA, -⟩ := hI
      exact (hA.joined.players i).2
    rcases draw_cases hconn with ⟨hmenu, heq⟩ | ⟨hmenu, hhid, heq⟩ | ⟨hmenu, hhid, hhid', hmenu', hsent⟩
    · have hhid : (r.clients.get i).hiddenForBattle = true := by
        cases hb : (r.clients.get i).hiddenForBattle with
        | true => rfl
        | false => exact (Bool.false_ne_true (hmenu.symm.trans (hback hb))).elim
      refine returns_inPlay hI (congrArg Prod.fst heq) hhid.symm id id ?_ fun hm => ?_
      · simp [heq]
      · exact (Bool.false_ne_true (hmenu.symm.trans hm)).elim
    · refine returns_inPlay hI (congrArg Prod.fst heq) rfl id id ?_ fun _ hh => ?_
      · simp [heq]
      · exact (Bool.false_ne_true (hhid.symm.trans hh)).elim
    · exact returns_back hI hmenu hhid hhid' hmenu' hsent
  · obtain ⟨hhid, hmenu, hres, hsent⟩ := doing_inPlay (c := r.clients.get i) hm hdraw
    refine returns_inPlay hI rfl hhid hmenu hres hsent ?_
    cases d with
    | draw => exact (hdraw rfl).elim
    | _ => trivial

theorem returns_step {r₀ r : Room} {w : Side} {h : Story} (hI : Returns r₀ w h r) (m : Move)
    (hm : Returning w m) : Returns r₀ w (room.taken r m :: h) (room.next r m).1 := by
  cases m with
  | serve i peerAddr tick => exact returns_serve hI i peerAddr tick
  | endStep tick => exact returns_endStep hI tick
  | deliver i => exact returns_deliver hI i
  | perform i d => exact returns_perform hI hm

/-- Everything is delivered: the order of the seats tells whether a return was
late. -/
theorem winnerStays_of_settled {r₀ r : Room} {w : Side} {h : Story} (hI : Returns r₀ w h r)
    (hend : Settled r) : WinnerStays r₀ w r ↔ Kept h := by
  obtain ⟨first, kept, hA, hP, hkept⟩ := hI
  have hhidden : r.hidden = ⟨false, false⟩ := congrArg₂ Sides.mk (hend 0).1 (hend 1).1
  have hreports : r.reports = ⟨0, 0⟩ := reports_of_inPlay fun i u hu => by
    rw [(hend i).2.1] at hu
    cases hu
  rw [hhidden, hreports] at hP
  have hconn : ∀ i, (r.clients.get i).conn = (r₀.clients.get i).conn := fun i => congrArg (·.1) (hA.same i)
  have hseats : ∀ i, r.server.table.occupant (seatOf first i) = some (r₀.clients.get i).conn := fun i =>
    (hA.joined.occupant i).trans (congrArg some (hconn i))
  have hstays : first = w → WinnerStays r₀ w r := by
    rintro rfl i
    exact ⟨hseats i, hA.picks i⟩
  rw [← hkept]
  generalize hreports' : (⟨0, 0⟩ : Sides Nat) = reports at hP
  cases hP with
  | level hs => exact iff_of_true (hstays rfl) rfl
  | reported hs => cases hreports'
  | rotated => exact iff_of_true (hstays rfl) rfl
  | undone => cases hreports'
  | restored =>
    -- the loser is back in seat 0
    refine iff_of_false (fun hst => ?_) Bool.false_ne_true
    have h0 := (hst 1).1.symm.trans (hseats 0)
    refine hA.joined.apart ?_
    rw [hconn, hconn]
    exact (Option.some.inj h0).symm

/-- The winner sits in seat 0 and the loser in seat 1, each with its pick, when
both have returned and everything is delivered, if and only if each client
returned while it still saw itself on the side it played. -/
theorem winner_stays_iff {r₀ : Room} {w : Side} (hstart : MatchOver r₀ w) (moves : List Move)
    (hmoves : ∀ m ∈ moves, Returning w m) (hend : Settled (room.run r₀ moves)) :
    WinnerStays r₀ w (room.run r₀ moves) ↔ room.Meets (fun _ => KeepsSeat) r₀ [] moves := by
  have hI : Returns r₀ w (room.hist r₀ [] moves) (room.run r₀ moves) :=
    Machine.inv_of_steps (C := fun _ _ m => Returning w m) (fun h r => Returns r₀ w h r)
      (fun _ _ m hI hm => returns_step hI m hm) (returns_start hstart) (Machine.meets_of_forall hmoves)
  rw [winnerStays_of_settled hI hend, Kept, Machine.forall_hist]
  simp

/-! ## A match that seat 1 wins -/

instance (r : Room) : (m : Move) → Decidable (KeepsSeat r m)
  | .perform _ .draw => inferInstanceAs (Decidable (_ → _ → _ = _))
  | .serve .. | .endStep _ | .deliver _ => .isTrue trivial
  | .perform _ (.ready _) | .perform _ .takeReadyBack | .perform _ (.matchResult _) => .isTrue trivial
  | .perform _ .hasInitialized | .perform _ .exitForeground => .isTrue trivial
  | .perform _ (.snapshot _) | .perform _ (.desync _) => .isTrue trivial

namespace Sample

theorem matchOver_wonByOne : MatchOver wonByOne 1 := by
  have hup : ∀ i, wonByOne.up.get i = [] := by decide +kernel
  have hdown : ∀ i, wonByOne.down.get i = [] := by decide +kernel
  refine ⟨joined_wonByOne, by decide +kernel, by decide +kernel, ?_, ?_, ?_, by decide +kernel, by decide +kernel⟩
  · intro i u hu
    rw [hup i] at hu
    cases hu
  · intro i d hd
    rw [hdown i] at hd
    cases hd
  · have hshown : ∀ i, seating (wonByOne.clients.get i).lobbyData = wonByOne.order 0 := by decide +kernel
    refine fun i => ⟨hshown i, fun d hd => ?_⟩
    rw [hdown i] at hd
    cases hd

/-- The winner, told its result twice, is back before it hears that the seats have changed. -/
def backInTime : List Move :=
  back 0 ++ [.perform 1 (.matchResult 1)] ++ back 1 ++ [serve 0, endStep, .deliver 0, .deliver 1]

/-- The winner stays to the end of its battle screen, and hears of it first. -/
def backLate : List Move :=
  back 0 ++ [serve 0, endStep, .deliver 0, .deliver 1] ++ back 1 ++ [serve 1, endStep, .deliver 0, .deliver 1]

end Sample

/-- Seat 1 wins, and both return before the update. -/
theorem winner_stays_in_time : WinnerStays Sample.wonByOne 1 (room.run Sample.wonByOne Sample.backInTime) :=
  (winner_stays_iff Sample.matchOver_wonByOne Sample.backInTime
    (by simp [Sample.backInTime, Sample.back, Sample.serve, Sample.endStep, Returning, sideNumber])
    (by unfold Settled; decide +kernel)).2 (by decide +kernel)

/-- Seat 1 wins, and returns late: it finds itself on side 0, reports side 0 as
the loser, and the seats change back. -/
theorem loser_stays_after_a_late_return :
    ¬ ∀ (r₀ : Room) (w : Side), MatchOver r₀ w → ∀ moves : List Move, (∀ m ∈ moves, Returning w m) →
      Settled (room.run r₀ moves) → WinnerStays r₀ w (room.run r₀ moves) := by
  intro h
  have hstays := h Sample.wonByOne 1 Sample.matchOver_wonByOne Sample.backLate
    (by simp [Sample.backLate, Sample.back, Sample.serve, Sample.endStep, Returning])
    (by unfold Settled; decide +kernel)
  exact absurd (hstays 1).1 (by decide +kernel)

end Sf4e.Netplay
