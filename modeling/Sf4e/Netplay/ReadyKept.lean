import Sf4e.Netplay.Joined
/-!
# No lost ready

After a match each client returns and presses READY again. `ready_kept_iff`: in
a run of the room no ready is lost if and only if the server never handles a
result while a ready stands.
-/
open Sf4e.Lib Sf4e.Session

namespace Sf4e.Netplay

/-! ## Readies that stand -/

/-- The client and the message that the server handles in a step. -/
def heard (r : Room) : Move → Option (Side × ClientMsg)
  | .serve i _ _ => (r.up.get i).head?.map fun u => (i, u.msg)
  | _ => none

/-- Client `i` comes back from its battle. -/
def comesBack (r : Room) (i : Side) : Move → Bool
  | .perform j .draw => i = j && (r.clients.get i).onMainMenu && (r.clients.get i).hiddenForBattle
  | _ => false

/-- The server has handled a ready of client `i` that is not taken back, is not
answered by a ready of the other client, and is not for a battle that client `i`
has come back from. -/
def stands : Story → Side → Bool
  | [], _ => false
  | t :: h, i =>
    match heard t.pre t.act with
    | some (j, .lobbyReady (some request)) =>
      if j = i then request.ready && !stands h i.other else stands h i && !request.ready
    | _ => stands h i && !comesBack t.pre i t.act

/-- Two readies have met since the last Step ended. -/
def met : Story → Bool
  | [] => false
  | t :: h =>
    match t.act with
    | .endStep _ => false
    | _ =>
      met h || match heard t.pre t.act with
        | some (i, .lobbyReady (some request)) => request.ready && stands h i.other
        | _ => false

/-- A ready that stands marks the seat of its client, and when two readies have
met, the end of the Step calls the match. -/
structure NoLostReady (h : Story) (r : Room) (m : Move) : Prop where
  kept : ∀ i, stands (room.taken r m :: h) i = true → ∃ side,
    (room.next r m).1.server.table.occupant side = some (r.clients.get i).conn ∧
      (room.next r m).1.server.table.matchData.marked side
  called : ∀ tick, m = .endStep tick → met h = true → ∃ o, .server o ∈ (room.next r m).2 ∧ o.isAllReady = true

/-- The server handles a result. -/
def handlesResult (r : Room) (m : Move) : Bool :=
  match heard r m with
  | some (_, .reportResults (some _)) => true
  | _ => false

/-- No ready stands while the server handles a result. -/
def OnTime (h : Story) (r : Room) (m : Move) : Prop := handlesResult r m = true → ∀ i, stands h i = false

instance (h : Story) (r : Room) (m : Move) : Decidable (OnTime h r m) := inferInstanceAs (Decidable (_ → _))

/-- A step that handles no ready only ends readies. -/
theorem stands_of_not_ready {t : Taken Room Move Sight} {h : Story} {i : Side}
    (hno : ∀ j request, heard t.pre t.act ≠ some (j, .lobbyReady (some request))) (hs : stands (t :: h) i = true) :
    stands h i = true := by
  rw [stands] at hs
  split at hs
  · rename_i j request hheard
    exact (hno j request hheard).elim
  · exact (Bool.and_eq_true_iff.1 hs).1

theorem met_of_not_ready {t : Taken Room Move Sight} {h : Story}
    (hno : ∀ j request, heard t.pre t.act ≠ some (j, .lobbyReady (some request))) (hm : met (t :: h) = true) :
    met h = true := by
  rw [met] at hm
  split at hm
  · cases hm
  · split at hm
    · rename_i j request hheard
      exact (hno j request hheard).elim
    · rwa [Bool.or_false] at hm

/-! ## Picks at home -/

/-- The clients are in the player seats, and each pick there is its client's. -/
structure AtHome (r : Room) (first : Side) : Prop where
  joined : Joined r first
  picks : ∀ i, r.server.table.charaOwner.get (seatOf first i) = (r.clients.get i).cid ∨
    (r.server.table.matchData.chara.get (seatOf first i)).charaID = 0

namespace AtHome

variable {r : Room} {first : Side}

/-- The end of a Step drops no pick. -/
theorem table_endStep (h : AtHome r first) (tick : Tick) :
    (r.endStep tick).1.server.table = { r.server.table with called := false, synced := false } := by
  have howned : ∀ side, r.server.table.sameOwner side = true ∨ (r.server.table.matchData.chara.get side).charaID = 0 := by
    intro side
    obtain ⟨i, rfl⟩ := seatOf_surj first side
    exact (h.picks i).imp h.joined.sameOwner id
  show (finishStep r.server tick).1.table = _
  rw [table_finish h.joined.seated, Table.finish, Table.dropPicks_owned howned]

theorem serve (h : AtHome r first) {i : Side} {u : Up} {rest : List Up} (hu : r.up.get i = u :: rest)
    (peerAddr : PeerAddr) (tick : Tick) : AtHome (r.serve i peerAddr tick).1 (firstAfter first u.msg) := by
  have hJ := h.joined.serve hu peerAddr tick
  have hlen : r.server.table.roster.length = 2 := by simpa using congrArg List.length h.joined.seats
  have hpicks := fun j => picks_afterPlayer hlen first i j (r.clients.get i).cid (r.incoming i u peerAddr tick)
  rw [← h.joined.table_serve hu] at hpicks
  rw [Room.serve_cons hu] at hJ ⊢
  refine ⟨hJ, fun j => ?_⟩
  rcases hpicks j with ⟨hchara, howner⟩ | ⟨-, rfl, howner⟩
  · exact (h.picks j).imp howner.trans fun h0 => (congrArg (·.charaID) hchara).trans h0
  · exact .inl howner

theorem endStep (h : AtHome r first) (tick : Tick) : AtHome (r.endStep tick).1 first := by
  refine ⟨h.joined.endStep tick, fun i => ?_⟩
  rw [h.table_endStep]
  exact h.picks i

theorem deliver (h : AtHome r first) (i : Side) : AtHome (r.deliver i).1 first := by
  refine ⟨h.joined.deliver i, fun j => ?_⟩
  rw [Room.server_deliver, show ((r.deliver i).1.clients.get j).cid = (r.clients.get j).cid from
    congrArg (·.2.1) (h.joined.badge_deliver i j)]
  exact h.picks j

theorem perform (h : AtHome r first) (i : Side) (d : Doing) : AtHome (r.perform i d).1 first := by
  refine ⟨h.joined.perform i d, fun j => ?_⟩
  rw [Room.perform_put, Room.put_server, show ((r.put i _ _).clients.get j).cid = (r.clients.get j).cid from
    congrArg (·.2.1) (Room.badge_put ((r.clients.get i).perform_keeps d).1 _ j)]
  exact h.picks j

end AtHome

/-! ## Marks and messages -/

/-- Only readies and results touch the marks. -/
theorem marks_afterPlayer (t : Table) (side : Side) (cid : ConnectionID) {m : IncomingMsg}
    (hready : ∀ request, m.msg ≠ .lobbyReady (some request))
    (hresult : ∀ loser, m.msg ≠ .reportResults (some loser)) :
    (afterPlayer t side cid m).matchData.readyMessageNum = t.matchData.readyMessageNum := by
  unfold afterPlayer
  split
  · split <;> rfl
  · split <;> rfl
  · split <;> rfl
  · rename_i request hmsg
    exact (hready request hmsg).elim
  · rename_i loser hmsg
    exact (hresult loser hmsg).elim
  · rfl
  · rfl

/-- A result clears both marks. -/
theorem unmarked_result (t : Table) (loser : Int) (side : Side) : ¬(t.result loser).matchData.marked side := by
  match side with
  | 0 => simp [Table.result, Table.clearMarks, MatchData.marked]
  | 1 => simp [Table.result, Table.clearMarks, MatchData.marked]

/-! ## The invariant -/

/-- What the readies that stand have done to the table. -/
structure Standing (first : Side) (h : Story) (r : Room) : Prop where
  home : AtHome r first
  marks : ∀ i, stands h i = true → r.server.table.matchData.marked (seatOf first i)
  called : met h = true → r.server.table.called = true

/-- The server handles a ready of client `i`, or its withdrawal. -/
theorem standing_ready {first : Side} {h : Story} {r : Room} (hI : Standing first h r) {i : Side} {u : Up}
    {rest : List Up} (hu : r.up.get i = u :: rest) {request : LobbyReady} (hmsg : u.msg = .lobbyReady (some request))
    (peerAddr : PeerAddr) (tick : Tick) :
    Standing first (room.taken r (.serve i peerAddr tick) :: h) (r.serve i peerAddr tick).1 := by
  have hhome := hI.home.serve hu peerAddr tick
  rw [firstAfter, hmsg] at hhome
  have htable : (r.serve i peerAddr tick).1.server.table =
      afterPlayer r.server.table (seatOf first i) (r.clients.get i).cid (r.incoming i u peerAddr tick) := by
    rw [← hI.home.joined.table_serve hu peerAddr tick, Room.serve_cons hu, Room.post_server]
  have hheard : heard r (.serve i peerAddr tick) = some (i, .lobbyReady (some request)) := by simp [heard, hu, hmsg]
  have hstands : ∀ j, stands (room.taken r (.serve i peerAddr tick) :: h) j =
      if i = j then request.ready && !stands h j.other else stands h j && !request.ready := by
    intro j
    simp only [stands, Machine.taken, hheard]
  have hmet : met (room.taken r (.serve i peerAddr tick) :: h) = (met h || request.ready && stands h i.other) := by
    simp only [met, Machine.taken, hheard]
  simp only [afterPlayer, Room.incoming, hmsg] at htable
  cases hready : request.ready with
  | true =>
    rw [if_pos hready] at htable
    refine ⟨hhome, fun j hj => ?_, fun hm => ?_⟩
    · rw [hstands, hready] at hj
      rcases Side.eq_or_other i j with rfl | rfl
      · rw [htable]
        exact (Table.marked_ready ..).2 (.inl rfl)
      · simp [(Side.other_ne i).symm] at hj
    · rw [hmet, hready, Bool.true_and, Bool.or_eq_true_iff] at hm
      rw [htable, Table.called_ready, Bool.or_eq_true_iff]
      apply hm.imp hI.called
      intro hother
      -- the other ready stands, so now both seats are marked
      refine MatchData.isAllReady_iff.2 fun side => (Table.marked_ready ..).2 ?_
      rcases Side.eq_or_other (seatOf first i) side with rfl | rfl
      · exact .inl rfl
      · rw [← seatOf_other_right]
        exact .inr (hI.marks _ hother)
  | false =>
    rw [if_neg (by simp [hready])] at htable
    refine ⟨hhome, fun j hj => ?_, fun hm => ?_⟩
    · rw [hstands, hready] at hj
      rcases Side.eq_or_other i j with rfl | rfl
      · simp at hj
      · rw [if_neg (Side.other_ne i).symm, Bool.not_false, Bool.and_true] at hj
        have hmark := hI.marks _ hj
        rw [htable]
        split
        · exact hmark
        · simpa [Table.unready, MatchData.marked] using hmark
    · rw [hmet, hready, Bool.false_and, Bool.or_false] at hm
      rw [htable]
      split
      · exact hI.called hm
      · exact hI.called hm

theorem standing_serve {first : Side} {h : Story} {r : Room} (hI : Standing first h r) (i : Side)
    (peerAddr : PeerAddr) (tick : Tick) (hC : OnTime h r (.serve i peerAddr tick)) :
    ∃ first', Standing first' (room.taken r (.serve i peerAddr tick) :: h) (r.serve i peerAddr tick).1 := by
  cases hu : r.up.get i with
  | nil =>
    have hno : ∀ j request, heard r (.serve i peerAddr tick) ≠ some (j, .lobbyReady (some request)) := by
      simp [heard, hu]
    rw [Room.serve_nil hu]
    exact ⟨first, hI.home, fun j hj => hI.marks j (stands_of_not_ready hno hj), fun hm =>
      hI.called (met_of_not_ready hno hm)⟩
  | cons u rest =>
    have hheard : heard r (.serve i peerAddr tick) = some (i, u.msg) := by simp [heard, hu]
    by_cases hready : ∃ request, u.msg = .lobbyReady (some request)
    · obtain ⟨request, hmsg⟩ := hready
      exact ⟨first, standing_ready hI hu hmsg peerAddr tick⟩
    · have hhome := hI.home.serve hu peerAddr tick
      have htable : (r.serve i peerAddr tick).1.server.table =
          afterPlayer r.server.table (seatOf first i) (r.clients.get i).cid (r.incoming i u peerAddr tick) := by
        rw [← hI.home.joined.table_serve hu peerAddr tick, Room.serve_cons hu, Room.post_server]
      have hno : ∀ j request, heard r (.serve i peerAddr tick) ≠ some (j, .lobbyReady (some request)) := by
        intro j request hj
        rw [hheard] at hj
        exact hready ⟨request, (Prod.mk.inj (Option.some.inj hj)).2⟩
      refine ⟨_, hhome, fun j hj => ?_, fun hm => ?_⟩
      · have hold := stands_of_not_ready hno hj
        have hresult : ∀ loser, u.msg ≠ .reportResults (some loser) := by
          intro loser hmsg
          rw [hmsg] at hheard
          exact Bool.false_ne_true ((hC (by rw [handlesResult, hheard]) j).symm.trans hold)
        rw [firstAfter_of_not_result hresult, htable, MatchData.marked,
          marks_afterPlayer _ _ _ (fun request hmsg => hready ⟨request, hmsg⟩) hresult]
        exact hI.marks j hold
      · rw [htable, called_afterPlayer _ _ _ fun request hmsg => hready ⟨request, hmsg⟩]
        exact hI.called (met_of_not_ready hno hm)

theorem standing_next {first : Side} {h : Story} {r : Room} (hI : Standing first h r) (m : Move)
    (hC : OnTime h r m) : ∃ first', Standing first' (room.taken r m :: h) (room.next r m).1 := by
  cases m with
  | serve i peerAddr tick => exact standing_serve hI i peerAddr tick hC
  | endStep tick =>
    refine ⟨first, hI.home.endStep tick, fun j hj => ?_, fun hm => ?_⟩
    · show (r.endStep tick).1.server.table.matchData.marked (seatOf first j)
      rw [hI.home.table_endStep]
      exact hI.marks j (stands_of_not_ready (by simp [Machine.taken, heard]) hj)
    · simp [met, Machine.taken] at hm
  | deliver i =>
    have hno : ∀ j request, heard r (.deliver i) ≠ some (j, .lobbyReady (some request)) := by simp [heard]
    refine ⟨first, hI.home.deliver i, fun j hj => ?_, fun hm => ?_⟩
    · show (r.deliver i).1.server.table.matchData.marked (seatOf first j)
      rw [Room.server_deliver]
      exact hI.marks j (stands_of_not_ready hno hj)
    · show (r.deliver i).1.server.table.called = true
      rw [Room.server_deliver]
      exact hI.called (met_of_not_ready hno hm)
  | perform i d =>
    have hno : ∀ j request, heard r (.perform i d) ≠ some (j, .lobbyReady (some request)) := by simp [heard]
    exact ⟨first, hI.home.perform i d, fun j hj => hI.marks j (stands_of_not_ready hno hj), fun hm =>
      hI.called (met_of_not_ready hno hm)⟩

/-! ## The two directions -/

theorem noLostReady_of_standing {first : Side} {h : Story} {r : Room} (hI : Standing first h r) {m : Move}
    (hC : OnTime h r m) : NoLostReady h r m := by
  obtain ⟨first', hI'⟩ := standing_next hI m hC
  refine ⟨fun i hi => ⟨seatOf first' i, ?_, hI'.marks i hi⟩, ?_⟩
  · rw [← hI.home.joined.conn_next m i]
    exact hI'.home.joined.occupant i
  · rintro tick rfl hm
    have hcalled : r.server.bSendLobbyAllReady = true := hI.called hm
    have hout := finish_allReady r.server tick
    rw [hcalled] at hout
    obtain ⟨o, ho, hall⟩ := List.any_eq_true.1 hout
    exact ⟨o, List.mem_map_of_mem ho, hall⟩

/-- A result clears the marks of the readies that stand. -/
theorem onTime_of_noLostReady {first : Side} {h : Story} {r : Room} (hJ : Joined r first) {m : Move}
    (hD : NoLostReady h r m) : OnTime h r m := by
  intro hresult j
  cases m with
  | endStep tick => cases hresult
  | deliver k => cases hresult
  | perform k d => cases hresult
  | serve i peerAddr tick =>
    unfold handlesResult at hresult
    split at hresult
    · rename_i k loser hheard
      cases hu : r.up.get i with
      | nil => simp [heard, hu] at hheard
      | cons u rest =>
        simp only [heard, hu, List.head?_cons, Option.map_some, Option.some.injEq, Prod.mk.injEq] at hheard
        obtain ⟨rfl, hmsg⟩ := hheard
        cases hs : stands h j with
        | false => rfl
        | true =>
          have hstill : stands (room.taken r (.serve i peerAddr tick) :: h) j = true := by
            simp [stands, Machine.taken, heard, hu, hmsg, comesBack, hs]
          obtain ⟨side, -, hmark⟩ := hD.kept j hstill
          have htable : (room.next r (.serve i peerAddr tick)).1.server.table = r.server.table.result loser.toInt := by
            show (r.serve i peerAddr tick).1.server.table = _
            rw [Room.serve_cons hu, Room.post_server, hJ.table_serve hu peerAddr tick]
            simp only [afterPlayer, Room.incoming, hmsg]
          rw [htable] at hmark
          exact (unmarked_result _ _ _ hmark).elim
    · cases hresult

/-- From any room in which the clients are in the player seats: no ready is lost
if and only if no result is handled while a ready stands. -/
theorem ready_kept_iff {r : Room} {first : Side} (hhome : AtHome r first) (moves : List Move) :
    room.Meets NoLostReady r [] moves ↔ room.Meets OnTime r [] moves := by
  constructor
  · exact Machine.meets_of_inv (fun _ r => ∃ first, Joined r first)
      (fun _ r m hJ _ => hJ.elim fun _ hJ => hJ.next m)
      (fun _ _ _ hJ hD => hJ.elim fun _ hJ => onTime_of_noLostReady hJ hD) ⟨first, hhome.joined⟩
  · exact Machine.meets_of_inv (fun h r => ∃ first, Standing first h r)
      (fun _ _ m hI hC => hI.elim fun _ hI => standing_next hI m hC)
      (fun _ _ _ hI hC => hI.elim fun _ hI => noLostReady_of_standing hI hC)
      ⟨first, hhome, by simp [stands], by simp [met]⟩

namespace Sample

theorem atHome_wonByOne : AtHome wonByOne 0 := ⟨joined_wonByOne, by decide +kernel⟩

/-- The result is handled before anybody presses READY again. -/
def rematch : List Move :=
  back 0 ++ back 1 ++ [serve 0, endStep, .deliver 0, .deliver 1, .perform 0 (.ready (choice 7)), serve 0, serve 0,
    endStep, .deliver 0, .perform 1 (.ready (choice 9)), serve 1, serve 1, serve 1, serve 1, endStep]

/-- The loser is ready again before the winner returns. -/
def readyTooSoon : List Move :=
  back 0 ++ [serve 0, endStep, .deliver 0, .deliver 1, .perform 0 (.ready (choice 7)), serve 0, serve 0, endStep] ++
    back 1

end Sample

/-- The result comes first, and the two readies call the next match. -/
theorem ready_kept_rematch :
    room.Meets NoLostReady Sample.wonByOne [] Sample.rematch ∧
      stands (room.hist Sample.wonByOne [] (Sample.rematch.take 13)) 0 = true ∧
      met (room.hist Sample.wonByOne [] Sample.rematch.dropLast) = true :=
  ⟨(ready_kept_iff Sample.atHome_wonByOne Sample.rematch).2 (by decide +kernel), by decide +kernel, by decide +kernel⟩

/-- The winner's late result takes the loser's ready away. -/
theorem ready_lost_to_a_late_result :
    ¬ ∀ (r : Room) (first : Side), AtHome r first → ∀ moves : List Move, room.Meets NoLostReady r [] moves := by
  intro h
  have hrun := h Sample.wonByOne 0 Sample.atHome_wonByOne (Sample.readyTooSoon ++ [Sample.serve 1])
  obtain ⟨side, -, hmark⟩ := (Machine.meets_append.1 hrun).2.1.kept 0 (by decide +kernel)
  have hnone : ∀ side, ¬(room.next (room.run Sample.wonByOne Sample.readyTooSoon)
      (Sample.serve 1)).1.server.table.matchData.marked side := by decide +kernel
  exact hnone side hmark

end Sf4e.Netplay
