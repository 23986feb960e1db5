import Sf4e.Netplay.Joined
/-!
# Desyncs end the match on both PCs

A client that finds a gameplay difference leaves its battle and reports it, and
the server passes the report on. `desyncs_end_matches`: in a run in which every
such finding is reported, passed on and heeded, both clients are told to leave
that battle once everything is delivered, and nobody leaves another one.
-/
open Sf4e.Lib Sf4e.Session

namespace Sf4e.Netplay

/-! ## What the clients are told -/

def Sight.told? : Sight → Option (Side × Told)
  | .told i w => some (i, w)
  | .server _ => none

/-- Client `i` has been told `w`. -/
def told (h : Story) (i : Side) (w : Told) : Bool := h.any fun t => t.out.any fun s => s.told? = some (i, w)

def isDesyncUp (u : Up) : Bool :=
  match u.msg with
  | .desyncReport (some _) => true
  | _ => false

def isDesyncDown (d : Down) : Bool :=
  match d.msg with
  | .desyncReport _ => true
  | _ => false

/-! ## What it takes -/

/-- A report about `battle` reaches client `i` in that battle, with its abort
flag clear; or the client was told before, and is in no later battle that the
report could end. -/
def Heeds (h : Story) (i : Side) (c : SessionClient) (battle : Nat) : Prop :=
  (c.onMainMenu = false ∧ c.battle = battle ∧ c.bDesyncAbort = false) ∨
    (told h i (.leave battle) = true ∧ (c.onMainMenu = true ∨ c.bDesyncAbort = true))

instance (h : Story) (i : Side) (c : SessionClient) (battle : Nat) : Decidable (Heeds h i c battle) :=
  inferInstanceAs (Decidable (_ ∨ _))

/-- A finding is reported, unless it is not the battle's first; the server passes
a report on; and a report is heeded. -/
def Heard (h : Story) (r : Room) : Move → Prop
  | .perform i (.desync report) =>
    report.gameplay = true → (r.clients.get i).onMainMenu = false →
      (r.clients.get i).desyncReported = false ∨ told h i (.found (r.clients.get i).battle) = true
  | .serve i _ _ => ∀ u ∈ (r.up.get i).head?, isDesyncUp u = true → r.server.server.desyncReports < 20
  | .deliver i => ∀ d ∈ (r.down.get i).head?, isDesyncDown d = true → Heeds h i (r.clients.get i) d.battle
  | _ => True

instance (h : Story) (r : Room) : (m : Move) → Decidable (Heard h r m)
  | .perform _ (.desync _) => inferInstanceAs (Decidable (_ → _ → _ ∨ _))
  | .serve .. => inferInstanceAs (Decidable (∀ u ∈ _, _ → _))
  | .deliver _ => inferInstanceAs (Decidable (∀ d ∈ _, _ → _))
  | .endStep _ => .isTrue trivial
  | .perform _ .draw | .perform _ (.ready _) | .perform _ .takeReadyBack | .perform _ (.matchResult _) => .isTrue trivial
  | .perform _ .hasInitialized | .perform _ .exitForeground | .perform _ (.snapshot _) => .isTrue trivial

/-- The two clients are in the player seats, and no report is on its way. -/
structure Quiet (r : Room) : Prop where
  joined : ∃ first, Joined r first
  valid : ∀ i, (r.clients.get i).conn ≠ k_HSteamNetConnection_Invalid
  up : ∀ i, ∀ u ∈ r.up.get i, isDesyncUp u = false
  down : ∀ i, ∀ d ∈ r.down.get i, isDesyncDown d = false

/-! ## The invariant -/

namespace Room

/-- Client `i`'s report about a battle is on its way to the server. -/
def Reporting (r : Room) (i : Side) (battle : Nat) : Prop := ∃ u ∈ r.up.get i, isDesyncUp u = true ∧ u.battle = battle

/-- A report about a battle is on its way to client `i`. -/
def Warning (r : Room) (i : Side) (battle : Nat) : Prop := ∃ d ∈ r.down.get i, isDesyncDown d = true ∧ d.battle = battle

end Room

/-- Whoever finds a difference leaves, and the other one has been told or is
about to be. -/
structure Covered (h : Story) (r : Room) : Prop where
  joined : ∃ first, Joined r first
  valid : ∀ i, (r.clients.get i).conn ≠ k_HSteamNetConnection_Invalid
  reporting : ∀ i k, r.Reporting i k → told h i (.found k) = true
  warning : ∀ i k, r.Warning i k → ∃ j, told h j (.found k) = true
  founded : ∀ i k, told h i (.leave k) = true → ∃ j, told h j (.found k) = true
  own : ∀ i k, told h i (.found k) = true → told h i (.leave k) = true
  other : ∀ i k, told h i (.found k) = true →
    told h i.other (.leave k) = true ∨ r.Reporting i k ∨ r.Warning i.other k

theorem covered_start {r : Room} (h : Quiet r) : Covered [] r := by
  refine ⟨h.joined, h.valid, ?_, ?_, by simp [told], by simp [told], by simp [told]⟩
  · rintro i k ⟨u, hu, hrep, -⟩
    rw [h.up i u hu] at hrep
    cases hrep
  · rintro i k ⟨d, hd, hrep, -⟩
    rw [h.down i d hd] at hrep
    cases hrep

theorem told_cons {t : Taken Room Move Sight} {h : Story} {i : Side} {w : Told} :
    told (t :: h) i w = true ↔ (∃ s ∈ t.out, s.told? = some (i, w)) ∨ told h i w = true := by
  simp [told]

/-- A step that says nothing to the clients. -/
theorem told_quiet {t : Taken Room Move Sight} (hquiet : ∀ s ∈ t.out, s.told? = none) (h : Story) (i : Side)
    (w : Told) : told (t :: h) i w = true ↔ told h i w = true := by
  rw [told_cons, or_iff_right]
  rintro ⟨s, hs, hw⟩
  rw [hquiet s hs] at hw
  cases hw

theorem covered_quiet {h : Story} {r r' : Room} (hI : Covered h r) {t : Taken Room Move Sight}
    (hquiet : ∀ s ∈ t.out, s.told? = none) (hjoined : ∃ first, Joined r' first)
    (hconn : ∀ i, (r'.clients.get i).conn = (r.clients.get i).conn)
    (hup : ∀ i k, r'.Reporting i k ↔ r.Reporting i k) (hdown : ∀ i k, r'.Warning i k ↔ r.Warning i k) :
    Covered (t :: h) r' := by
  have hsame := told_quiet hquiet h
  refine ⟨hjoined, fun i => hconn i ▸ hI.valid i, ?_, ?_, ?_, ?_, ?_⟩ <;> simp only [hsame, hup, hdown]
  · exact hI.reporting
  · exact hI.warning
  · exact hI.founded
  · exact hI.own
  · exact hI.other

/-- A step that does nothing. -/
theorem covered_idle {h : Story} {r : Room} (hI : Covered h r) {m : Move} (hidle : room.next r m = (r, [])) :
    Covered (room.taken r m :: h) (room.next r m).1 := by
  have hout : (room.taken r m).out = [] := congrArg Prod.snd hidle
  rw [show (room.next r m).1 = r from congrArg Prod.fst hidle]
  exact covered_quiet hI (by simp [hout]) hI.joined (fun _ => rfl) (fun _ _ => Iff.rfl) fun _ _ => Iff.rfl

/-! ## What a PC does -/

/-- Only a desync says something to the client, or sends a report. -/
theorem perform_quiet {c : SessionClient} {d : Doing} (hd : ∀ report, d ≠ .desync report) :
    (c.perform d).2.2 = [] ∧ ∀ u ∈ (c.perform d).2.1, isDesyncUp u = false := by
  have hall : ∀ (c : SessionClient) (msgs : List ClientMsg), (∀ msg ∈ msgs, ∀ report, msg ≠ .desyncReport report) →
      ∀ u ∈ (c.sendAll msgs).2, isDesyncUp u = false := by
    intro c msgs hmsgs u hu
    have hmem : u.msg ∈ msgs := by
      rw [← c.sendAll_msgs msgs]
      exact List.mem_map_of_mem hu
    unfold isDesyncUp
    split
    · rename_i report hmsg
      exact (hmsgs _ hmem _ hmsg).elim
    · rfl
  unfold SessionClient.perform
  split
  · cases d with
    | desync report => exact (hd report rfl).elim
    | _ =>
      simp only [SessionClient.doing, SessionClient.draw, SessionClient.sendReady, SessionClient.takeReadyBack,
        SessionClient.hasInitialized]
      repeat' split
      all_goals refine ⟨by trivial, ?_⟩
      all_goals first
        | exact hall _ _ (by simp)
        | simp
  · exact ⟨rfl, by simp⟩

/-- A difference off the battle, or not of gameplay, is passed over. -/
theorem desync_passed_over {c : SessionClient} {report : DesyncReport}
    (h : ¬(report.gameplay = true ∧ c.onMainMenu = false)) : c.perform (.desync report) = (c, [], []) := by
  simp only [SessionClient.perform, SessionClient.doing, SessionClient.handleDesync]
  split
  · split
    · rfl
    · rename_i hmenu
      rw [if_neg fun hg => h ⟨hg, eq_false_of_ne_true hmenu⟩]
      simp [eq_false_of_ne_true fun hg => h ⟨hg, eq_false_of_ne_true hmenu⟩]
  · rfl

/-- A client that finds a gameplay difference leaves, and reports it the first
time. -/
theorem desync_found {c : SessionClient} {report : DesyncReport} (hc : c.connected = true)
    (hg : report.gameplay = true) (hmenu : c.onMainMenu = false) :
    (c.perform (.desync report)).2.2 = [.found c.battle, .leave c.battle] ∧
      (∀ u ∈ (c.perform (.desync report)).2.1, u.battle = c.battle) ∧
      (c.desyncReported = false → ∃ u ∈ (c.perform (.desync report)).2.1, isDesyncUp u = true ∧ u.battle = c.battle) := by
  simp only [SessionClient.perform, hc, if_true, SessionClient.doing, hmenu, Bool.false_eq_true, if_false,
    SessionClient.handleDesync, hg, SessionClient.reportDesync, Bool.not_true, Bool.or_false]
  cases hrep : c.desyncReported with
  | true => simp [SessionClient.abortForDesync, hmenu]
  | false => simp [SessionClient.abortForDesync, SessionClient.sendAll, isDesyncUp]

theorem Room.reporting_put {r : Room} {i j : Side} {c : SessionClient} {sent : List Up} {k : Nat} :
    (r.put i c sent).Reporting j k ↔
      r.Reporting j k ∨ j = i ∧ ∃ u ∈ sent, isDesyncUp u = true ∧ u.battle = k := by
  unfold Room.Reporting
  rcases Side.eq_or_other i j with rfl | rfl
  · simp [or_and_right, exists_or]
  · simp [Side.other_ne]

/-- Client `i` finds a gameplay difference. -/
theorem covered_found {h : Story} {r : Room} (hI : Covered h r) {i : Side} {report : DesyncReport}
    (hg : report.gameplay = true) (hmenu : (r.clients.get i).onMainMenu = false)
    (hC : (r.clients.get i).desyncReported = false ∨ told h i (.found (r.clients.get i).battle) = true) :
    Covered (room.taken r (.perform i (.desync report)) :: h) (r.perform i (.desync report)).1 := by
  obtain ⟨first, hJ⟩ := hI.joined
  obtain ⟨htold, hbattle, hfirst⟩ := desync_found (hJ.players i).2 hg hmenu
  have hsay : ∀ j w, told (room.taken r (.perform i (.desync report)) :: h) j w = true ↔
      (i = j ∧ (.found (r.clients.get i).battle = w ∨ .leave (r.clients.get i).battle = w)) ∨ told h j w = true := by
    intro j w
    rw [told_cons, show (room.taken r (.perform i (.desync report))).out =
      ((r.clients.get i).perform (.desync report)).2.2.map (.told i) from rfl, htold]
    simp [Sight.told?, and_or_left]
  refine ⟨⟨first, hJ.perform i _⟩, fun j => ?_, fun j k hj => ?_, fun j k hj => ?_, fun j k hj => ?_, fun j k hj => ?_,
    fun j k hj => ?_⟩
  · exact (hJ.conn_next (.perform i (.desync report)) j).symm ▸ hI.valid j
  · rw [Room.perform_put, Room.reporting_put] at hj
    rw [hsay]
    rcases hj with hj | ⟨rfl, u, hu, -, rfl⟩
    · exact .inr (hI.reporting j k hj)
    · rw [hbattle u hu]
      exact .inl ⟨rfl, .inl rfl⟩
  · obtain ⟨l, hl⟩ := hI.warning j k hj
    exact ⟨l, (hsay _ _).2 (.inr hl)⟩
  · rcases (hsay _ _).1 hj with ⟨rfl, hw⟩ | hj
    · cases hw.resolve_left nofun
      exact ⟨_, (hsay _ _).2 (.inl ⟨rfl, .inl rfl⟩)⟩
    · obtain ⟨l, hl⟩ := hI.founded j k hj
      exact ⟨l, (hsay _ _).2 (.inr hl)⟩
  · rcases (hsay _ _).1 hj with ⟨rfl, hw⟩ | hj
    · cases hw.resolve_right nofun
      exact (hsay _ _).2 (.inl ⟨rfl, .inr rfl⟩)
    · exact (hsay _ _).2 (.inr (hI.own j k hj))
  · have hold : told h j (.found k) = true → told (room.taken r (.perform i (.desync report)) :: h) j.other (.leave k) = true ∨
        (r.perform i (.desync report)).1.Reporting j k ∨ (r.perform i (.desync report)).1.Warning j.other k := by
      intro hj
      rw [hsay, Room.perform_put, Room.reporting_put]
      exact (hI.other j k hj).imp .inr (.imp .inl id)
    rcases (hsay _ _).1 hj with ⟨rfl, hw⟩ | hj
    · cases hw.resolve_right nofun
      rcases hC with hC | hC
      · -- the first finding is reported
        rw [Room.perform_put, Room.reporting_put]
        exact .inr (.inl (.inr ⟨rfl, hfirst hC⟩))
      · exact hold hC
    · exact hold hj

theorem covered_perform {h : Story} {r : Room} (hI : Covered h r) (i : Side) (d : Doing)
    (hC : Heard h r (.perform i d)) : Covered (room.taken r (.perform i d) :: h) (r.perform i d).1 := by
  obtain ⟨first, hJ⟩ := hI.joined
  have hout : (room.taken r (.perform i d)).out = ((r.clients.get i).perform d).2.2.map (.told i) := rfl
  have hquiet : ((r.clients.get i).perform d).2.2 = [] →
      (∀ u ∈ ((r.clients.get i).perform d).2.1, isDesyncUp u = false) →
      Covered (room.taken r (.perform i d) :: h) (r.perform i d).1 := by
    intro htold hsent
    refine covered_quiet hI ?_ ⟨first, hJ.perform i d⟩ (hJ.conn_next (.perform i d)) (fun j k => ?_) fun _ _ => Iff.rfl
    · simp [hout, htold]
    · rw [Room.perform_put, Room.reporting_put, or_iff_left]
      rintro ⟨-, u, hu, hrep, -⟩
      rw [hsent u hu] at hrep
      cases hrep
  by_cases hd : ∀ report, d ≠ .desync report
  · exact hquiet (perform_quiet hd).1 (perform_quiet hd).2
  · obtain ⟨report, rfl⟩ := Classical.not_forall_not.1 hd
    by_cases hfind : report.gameplay = true ∧ (r.clients.get i).onMainMenu = false
    · exact covered_found hI hfind.1 hfind.2 (hC hfind.1 hfind.2)
    · rw [desync_passed_over hfind] at hquiet
      exact hquiet rfl (by simp)

/-! ## What the server passes on -/

theorem Joined.fromPlayer {r : Room} {first : Side} (h : Joined r first) (i : Side) :
    r.server.server.fromPlayer (r.clients.get i).conn = true := by
  obtain ⟨e, hside, -⟩ := h.sideOf i
  obtain ⟨he, hc⟩ := SessionServer.sideOf_some hside
  have hcount : r.server.server.playerCount = 2 := by
    rw [SessionServer.playerCount_eq]
    simpa [Stepping.table] using congrArg List.length h.seats
  rw [SessionServer.fromPlayer, hcount, List.any_eq_true]
  refine ⟨e, List.mem_of_getElem? (i := (seatOf first i).val) ?_, by simp [hc]⟩
  rw [List.getElem?_take_of_lt (seatOf first i).isLt]
  exact he

/-- A report goes to the other client. -/
theorem warning_of_report {r : Room} {first : Side} (hJ : Joined r first)
    (hvalid : ∀ i, (r.clients.get i).conn ≠ k_HSteamNetConnection_Invalid) {i : Side} {u : Up} {rest : List Up}
    (hu : r.up.get i = u :: rest) (hrep : isDesyncUp u = true) (hcap : r.server.server.desyncReports < 20)
    (peerAddr : PeerAddr) (tick : Tick) : (r.serve i peerAddr tick).1.Warning i.other u.battle := by
  obtain ⟨e, he, -, hc⟩ := entry_of_occupant hJ.seated (hJ.occupant i.other)
  unfold isDesyncUp at hrep
  split at hrep
  · rename_i report hmsg
    have hfrom := hJ.fromPlayer i
    refine ⟨⟨.desyncReport { report with diff := report.diff.take 512 }, u.battle⟩, ?_, rfl, rfl⟩
    rw [Room.serve_cons hu, Room.post_down, hJ.handleMessage_eq]
    refine List.mem_append_right _ (List.mem_map_of_mem (List.mem_flatMap.2 ?_))
    refine ⟨.respond (r.clients.get i.other).conn (.desyncReport { report with diff := report.diff.take 512 }), ?_, by
      simp [sentTo]⟩
    have hneither : ¬(!r.server.server.fromPlayer (r.clients.get i).conn || decide (r.server.server.desyncReports ≥ 20)) =
        true := by
      simp [hfrom, hcap]
    simp only [handleKnown, Room.incoming, hmsg, Stepping.serve, SessionServer.onDesyncReport]
    rw [if_neg hneither]
    refine List.mem_cons_of_mem _ (List.mem_map.2 ⟨e, List.mem_filter.2 ⟨List.mem_of_getElem? he, ?_⟩, by rw [hc]⟩)
    rw [hc]
    simp [hvalid, hJ.conn_ne (Side.other_ne i)]
  · cases hrep

theorem told_server (r : Room) (m : Move) {out : List Out} (hout : (room.next r m).2 = out.map .server) :
    ∀ s ∈ (room.taken r m).out, s.told? = none := by
  intro s hs
  rw [show (room.taken r m).out = out.map .server from hout] at hs
  obtain ⟨o, -, rfl⟩ := List.mem_map.1 hs
  rfl

/-- What is on its way to a client stays there, and only a report adds a warning. -/
theorem warning_serve {r : Room} {first : Side} (hJ : Joined r first) {i : Side} {u : Up} {rest : List Up}
    (hu : r.up.get i = u :: rest) (peerAddr : PeerAddr) (tick : Tick) {j : Side} {k : Nat} :
    ((r.serve i peerAddr tick).1.Warning j k → r.Warning j k ∨ isDesyncUp u = true ∧ u.battle = k) ∧
      (r.Warning j k → (r.serve i peerAddr tick).1.Warning j k) := by
  constructor
  · rintro ⟨d, hd, hrep, rfl⟩
    rcases hJ.serve_down hu peerAddr tick j d hd with hd | ⟨hbattle, report, hmsg, -⟩
    · exact .inl ⟨d, hd, hrep, rfl⟩
    · exact .inr ⟨by simp [isDesyncUp, hmsg], hbattle.symm⟩
  · rintro ⟨d, hd, hrep⟩
    refine ⟨d, ?_, hrep⟩
    rw [Room.serve_cons hu, Room.post_down]
    exact List.mem_append_left _ hd

/-- The server takes a message. -/
theorem reporting_serve {r : Room} {i : Side} {u : Up} {rest : List Up} (hu : r.up.get i = u :: rest)
    (peerAddr : PeerAddr) (tick : Tick) {j : Side} {k : Nat} :
    r.Reporting j k ↔ (j = i ∧ isDesyncUp u = true ∧ u.battle = k) ∨ (r.serve i peerAddr tick).1.Reporting j k := by
  unfold Room.Reporting
  rw [Room.serve_cons hu, Room.post_up]
  rcases Side.eq_or_other i j with rfl | rfl
  · simp [hu]
  · simp [Side.other_ne]

theorem covered_serve {h : Story} {r : Room} (hI : Covered h r) (i : Side) (peerAddr : PeerAddr) (tick : Tick)
    (hC : Heard h r (.serve i peerAddr tick)) :
    Covered (room.taken r (.serve i peerAddr tick) :: h) (r.serve i peerAddr tick).1 := by
  obtain ⟨first, hJ⟩ := hI.joined
  have hnext := hJ.next (.serve i peerAddr tick)
  have hconn := hJ.conn_next (.serve i peerAddr tick)
  cases hu : r.up.get i with
  | nil =>
    exact covered_idle hI (Room.serve_nil hu peerAddr tick)
  | cons u rest =>
    have hquiet : ∀ s ∈ (room.taken r (.serve i peerAddr tick)).out, s.told? = none :=
      told_server r _ (congrArg Prod.snd (Room.serve_cons hu peerAddr tick))
    have hwarn := fun j k => warning_serve hJ hu peerAddr tick (j := j) (k := k)
    cases hrep : isDesyncUp u with
    | false =>
      refine covered_quiet hI hquiet hnext hconn (fun j k => ?_) fun j k => ⟨fun hw => ?_, (hwarn j k).2⟩
      · rw [reporting_serve hu peerAddr tick, hrep]
        simp
      · exact ((hwarn j k).1 hw).resolve_right fun hnew => Bool.false_ne_true (hrep.symm.trans hnew.1)
    | true =>
      have hcap := hC u (by simp [hu]) hrep
      have hpassed := warning_of_report hJ hI.valid hu hrep hcap peerAddr tick
      have hsame := told_quiet hquiet h
      have hmine : r.Reporting i u.battle := ⟨u, hu ▸ List.mem_cons_self, hrep, rfl⟩
      refine ⟨hnext, fun j => hconn j ▸ hI.valid j, fun j k hj => ?_, fun j k hj => ?_, ?_, ?_, fun j k hj => ?_⟩
      · rw [hsame]
        exact hI.reporting j k ((reporting_serve hu peerAddr tick).2 (.inr hj))
      · simp only [hsame]
        rcases (hwarn j k).1 hj with hj | ⟨-, rfl⟩
        · exact hI.warning j k hj
        · exact ⟨i, hI.reporting i _ hmine⟩
      · simpa only [hsame] using hI.founded
      · simpa only [hsame] using hI.own
      · rw [hsame] at hj ⊢
        apply (hI.other j k hj).imp id
        intro hway
        rcases hway with hup | hdown
        · rcases (reporting_serve hu peerAddr tick).1 hup with ⟨rfl, -, rfl⟩ | hup
          · exact .inr hpassed
          · exact .inl hup
        · exact .inr ((hwarn _ _).2 hdown)

theorem covered_endStep {h : Story} {r : Room} (hI : Covered h r) (tick : Tick) :
    Covered (room.taken r (.endStep tick) :: h) (r.endStep tick).1 := by
  obtain ⟨first, hJ⟩ := hI.joined
  refine covered_quiet hI (told_server r _ rfl) ⟨first, hJ.endStep tick⟩ (fun _ => rfl) (fun _ _ => Iff.rfl)
    fun j k => ⟨?_, ?_⟩
  · rintro ⟨d, hd, hrep, hk⟩
    rcases hJ.endStep_down tick j d hd with hd | hend
    · exact ⟨d, hd, hrep, hk⟩
    · unfold isDesyncDown at hrep
      split at hrep
      · rename_i hmsg
        rw [hmsg] at hend
        exact hend.elim
      · cases hrep
  · rintro ⟨d, hd, hrep⟩
    refine ⟨d, ?_, hrep⟩
    rw [Room.endStep, Room.post_down]
    exact List.mem_append_left _ hd

/-! ## What a client heeds -/

/-- A client gets a message. -/
theorem warning_deliver {r : Room} {i : Side} {d : Down} {rest : List Down} (hd : r.down.get i = d :: rest)
    {j : Side} {k : Nat} :
    r.Warning j k ↔ (j = i ∧ isDesyncDown d = true ∧ d.battle = k) ∨ (r.deliver i).1.Warning j k := by
  unfold Room.Warning
  rw [Room.deliver_cons hd, Room.put_down]
  rcases Side.eq_or_other i j with rfl | rfl
  · simp [hd]
  · simp [Side.other_ne]

theorem reporting_deliver {r : Room} {first : Side} (hJ : Joined r first) (i : Side) {j : Side} {k : Nat} :
    (r.deliver i).1.Reporting j k ↔ r.Reporting j k := by
  cases hd : r.down.get i with
  | nil => rw [Room.deliver_nil hd]
  | cons d rest =>
    rw [Room.deliver_cons hd, (receive_keeps (hJ.down i d (hd ▸ List.mem_cons_self))).2, Room.reporting_put]
    simp [Room.Reporting]

/-- Only a desync report makes a client leave. -/
theorem receive_stays {c : SessionClient} {d : Down} (h : isDesyncDown d = false) : (c.receive d).2.2 = false := by
  unfold SessionClient.receive
  cases hmsg : d.msg with
  | desyncReport report => simp [isDesyncDown, hmsg] at h
  | _ => rfl

/-- A client in a battle leaves on a report, unless its abort flag is set. -/
theorem receive_leaves {c : SessionClient} {d : Down} (h : isDesyncDown d = true) :
    (c.receive d).2.2 = (!c.bDesyncAbort && !c.onMainMenu) := by
  unfold isDesyncDown at h
  split at h
  · rename_i report hmsg
    simp only [SessionClient.receive, hmsg]
    split
    · rename_i habort
      simp [habort]
    · rename_i habort
      simp [habort, SessionClient.abortForDesync]
  · cases h

theorem covered_deliver {h : Story} {r : Room} (hI : Covered h r) (i : Side) (hC : Heard h r (.deliver i)) :
    Covered (room.taken r (.deliver i) :: h) (r.deliver i).1 := by
  obtain ⟨first, hJ⟩ := hI.joined
  have hnext := hJ.next (.deliver i)
  have hconn := hJ.conn_next (.deliver i)
  have hreporting := fun j k => reporting_deliver hJ i (j := j) (k := k)
  cases hd : r.down.get i with
  | nil =>
    exact covered_idle hI (Room.deliver_nil hd)
  | cons d rest =>
    have hout : (room.taken r (.deliver i)).out =
        if ((r.clients.get i).receive d).2.2 then [.told i (.leave (r.clients.get i).battle)] else [] := by
      show (r.deliver i).2 = _
      simp only [Room.deliver, hd]
    cases hrep : isDesyncDown d with
    | false =>
      refine covered_quiet hI ?_ hnext hconn hreporting fun j k => ?_
      · simp [hout, receive_stays hrep]
      · rw [warning_deliver hd, hrep]
        simp
    | true =>
      have hheeds := hC d (by simp [hd]) hrep
      rw [receive_leaves hrep] at hout
      obtain ⟨hsay, hleave⟩ : (∀ j w, told (room.taken r (.deliver i) :: h) j w = true →
          told h j w = true ∨ i = j ∧ .leave d.battle = w) ∧
          told (room.taken r (.deliver i) :: h) i (.leave d.battle) = true := by
        rcases hheeds with ⟨hmenu, hbattle, habort⟩ | ⟨htold, hidle⟩
        · have hout : (room.taken r (.deliver i)).out = [.told i (.leave d.battle)] := by
            rw [hout, hmenu, habort, hbattle]
            rfl
          refine ⟨fun j w hj => ?_, told_cons.2 (.inl ⟨.told i (.leave d.battle), by simp [hout], rfl⟩)⟩
          refine (told_cons.1 hj).symm.imp id ?_
          rintro ⟨s, hs, hw⟩
          rw [hout] at hs
          rw [List.mem_singleton.1 hs] at hw
          exact Prod.mk.inj (Option.some.inj hw)
        · have hstays : (!(r.clients.get i).bDesyncAbort && !(r.clients.get i).onMainMenu) = false := by
            rcases hidle with hmenu | habort
            · simp [hmenu]
            · simp [habort]
          rw [hstays] at hout
          have hsame := told_quiet (t := room.taken r (.deliver i)) (by simp [hout]) h
          exact ⟨fun j w hj => .inl ((hsame j w).1 hj), (hsame _ _).2 htold⟩
      have hkeep : ∀ j w, told h j w = true → told (room.taken r (.deliver i) :: h) j w = true := fun j w hj =>
        told_cons.2 (.inr hj)
      have hfound : ∀ j k, told (room.taken r (.deliver i) :: h) j (.found k) = true → told h j (.found k) = true :=
        fun j k hj => (hsay j _ hj).resolve_right fun hw => by cases hw.2
      refine ⟨hnext, fun j => hconn j ▸ hI.valid j, fun j k hj => ?_, fun j k hj => ?_, fun j k hj => ?_,
        fun j k hj => ?_, fun j k hj => ?_⟩
      · exact hkeep _ _ (hI.reporting j k ((hreporting j k).1 hj))
      · exact (hI.warning j k ((warning_deliver hd).2 (.inr hj))).imp fun _ => hkeep _ _
      · rcases hsay j _ hj with hj | ⟨-, hk⟩
        · exact (hI.founded j k hj).imp fun _ => hkeep _ _
        · cases hk
          exact (hI.warning i d.battle ⟨d, hd ▸ List.mem_cons_self, hrep, rfl⟩).imp fun _ => hkeep _ _
      · exact hkeep _ _ (hI.own j k (hfound j k hj))
      · rcases hI.other j k (hfound j k hj) with hother | hup | hdown
        · exact .inl (hkeep _ _ hother)
        · exact .inr (.inl ((hreporting j k).2 hup))
        · rcases (warning_deliver hd).1 hdown with ⟨hi, -, rfl⟩ | hdown
          · exact .inl (hi ▸ hleave)
          · exact .inr (.inr hdown)

theorem covered_next {h : Story} {r : Room} (hI : Covered h r) (m : Move) (hC : Heard h r m) :
    Covered (room.taken r m :: h) (room.next r m).1 := by
  cases m with
  | serve i peerAddr tick => exact covered_serve hI i peerAddr tick hC
  | endStep tick => exact covered_endStep hI tick
  | deliver i => exact covered_deliver hI i hC
  | perform i d => exact covered_perform hI i d hC

/-! ## Whole runs -/

/-- Everything is delivered. -/
def Delivered (r : Room) : Prop := ∀ i, r.up.get i = [] ∧ r.down.get i = []

/-- Both clients have been told to leave a battle in which one has found a
difference, once everything is delivered, and no other. -/
structure DesyncsEnd (h : Story) (r : Room) : Prop where
  both : Delivered r → ∀ i k, told h i (.found k) = true → ∀ j, told h j (.leave k) = true
  only : ∀ j k, told h j (.leave k) = true → ∃ i, told h i (.found k) = true

/-- In every run in which each finding is reported, passed on and heeded, a
desync ends the battle it was found in on both PCs, and no other battle. -/
theorem desyncs_end_matches {r : Room} (hstart : Quiet r) (moves : List Move) (hheard : room.Meets Heard r [] moves) :
    DesyncsEnd (room.hist r [] moves) (room.run r moves) := by
  have hI : Covered (room.hist r [] moves) (room.run r moves) :=
    Machine.inv_of_steps Covered (fun _ _ m hI hC => covered_next hI m hC) (covered_start hstart) hheard
  refine ⟨fun hend i k hfound j => ?_, hI.founded⟩
  rcases Side.eq_or_other i j with rfl | rfl
  · exact hI.own _ k hfound
  · rcases hI.other i k hfound with hother | ⟨u, hu, -⟩ | ⟨d, hd, -⟩
    · exact hother
    · rw [(hend i).1] at hu
      cases hu
    · rw [(hend i.other).2] at hd
      cases hd

namespace Sample

def fork : DesyncReport := ⟨7800, true, false, 1, false, 30, ascii "vitality 900/880"⟩

theorem quiet_wonByOne : Quiet wonByOne :=
  ⟨⟨0, joined_wonByOne⟩, by decide +kernel, by decide +kernel, by decide +kernel⟩

/-- Client 0 finds a difference, and client 1 hears of it in the same battle. -/
def forked : List Move := [.perform 0 (.desync fork), serve 0, .deliver 1]

/-- The two play again, and client 0 finds a difference in that battle too. -/
def forkedAgain : List Move :=
  forked ++ back 0 ++ back 1 ++ [serve 0, endStep, .deliver 0, .deliver 1] ++
    [.perform 0 (.ready (choice 7)), .perform 1 (.ready (choice 9)), serve 0, serve 0, serve 1, serve 1, serve 1,
      serve 1, endStep, .deliver 0, .deliver 0, .deliver 0, .deliver 1, .deliver 1, .deliver 1] ++
    [.perform 0 (.desync fork)]

end Sample

/-- A desync in the first match that has one. -/
theorem desyncs_end_first_match :
    DesyncsEnd (room.hist Sample.wonByOne [] Sample.forked) (room.run Sample.wonByOne Sample.forked) ∧
      told (room.hist Sample.wonByOne [] Sample.forked) 0 (.found 1) = true :=
  ⟨desyncs_end_matches Sample.quiet_wonByOne Sample.forked (by decide +kernel), by decide +kernel⟩

/-- A client's second desync is not reported, and the other one plays on. -/
theorem second_desync_unheard :
    ¬ ∀ r : Room, Quiet r → ∀ moves : List Move, DesyncsEnd (room.hist r [] moves) (room.run r moves) := by
  intro h
  have hleave := (h Sample.wonByOne Sample.quiet_wonByOne Sample.forkedAgain).both (by unfold Delivered; decide +kernel)
    0 2 (by decide +kernel) 1
  exact absurd hleave (by decide +kernel)

end Sf4e.Netplay
