import Sf4e.Netplay.Room
/-!
# Two clients in the player seats

`Joined`: both clients are at the server, one in each seat. Every move of the
room keeps it; only a result that seat 0 lost makes them change seats.
-/
open Sf4e.Lib Sf4e.Session

namespace Sf4e.Netplay

/-- The seat of client `i`, when client `first` is in seat 0. -/
def seatOf (first i : Side) : Side := if i = first then 0 else 1

@[simp] theorem seatOf_self (i : Side) : seatOf i i = 0 := by simp [seatOf]

@[simp] theorem seatOf_zero (i : Side) : seatOf 0 i = i := by
  revert i; decide

theorem seatOf_surj (first side : Side) : ∃ i, side = seatOf first i := by
  revert first side; decide

@[simp] theorem seatOf_other_left (first i : Side) : seatOf first.other i = (seatOf first i).other := by
  revert first i; decide

@[simp] theorem seatOf_other_right (first i : Side) : seatOf first i.other = (seatOf first i).other := by
  revert first i; decide

/-- The two clients sit in the player seats, client `first` in seat 0, and what
is on its way is what such clients and their server send. -/
structure Joined (r : Room) (first : Side) : Prop where
  seated : r.server.server.WellSeated
  apart : (r.clients.get 0).conn ≠ (r.clients.get 1).conn
  known : ∀ i, r.server.server.cidMap.find (r.clients.get i).conn = some (r.clients.get i).cid
  seats : r.server.table.roster.map (·.conn) = [(r.clients.get first).conn, (r.clients.get first.other).conn]
  players : ∀ i, (r.clients.get i).spectator = false ∧ (r.clients.get i).connected = true
  up : ∀ i, ∀ u ∈ r.up.get i, FromPlayer u.msg
  down : ∀ i, ∀ d ∈ r.down.get i, FromServer d.msg

namespace Joined

variable {r : Room} {first : Side}

theorem conn_ne (h : Joined r first) {i j : Side} (hij : i ≠ j) : (r.clients.get i).conn ≠ (r.clients.get j).conn := by
  rcases Side.eq_or_other i j with rfl | rfl
  · exact (hij rfl).elim
  · match i with
    | 0 => exact h.apart
    | 1 => exact h.apart.symm

theorem occupant (h : Joined r first) (i : Side) :
    r.server.table.occupant (seatOf first i) = some (r.clients.get i).conn := by
  rw [Table.occupant_eq, h.seats]
  rcases Side.eq_or_other first i with rfl | rfl
  · simp
  · simp [seatOf, Side.other_ne]

/-- The server knows a client by its identity. -/
theorem cid (h : Joined r first) (i : Side) :
    (r.clients.get i).cid = r.server.server.cidOf (r.clients.get i).conn :=
  h.seated.cids _ _ (h.known i)

theorem cid_ne (h : Joined r first) : (r.clients.get 0).cid ≠ (r.clients.get 1).cid := by
  rw [h.cid 0, h.cid 1]
  exact fun hc => h.apart (SessionServer.cidOf_inj hc)

/-- The identities in the seats. -/
theorem cids (h : Joined r first) :
    r.server.table.roster.map (·.connId) = [(r.clients.get first).cid, (r.clients.get first.other).cid] := by
  have hids : r.server.table.roster.map (·.connId) =
      (r.server.table.roster.map (·.conn)).map r.server.server.cidOf := by
    rw [List.map_map]
    apply List.map_congr_left
    intro seat hseat
    obtain ⟨m, hm, rfl⟩ := List.mem_map.1 hseat
    exact h.seated.ids m (List.mem_filter.1 hm).1
  rw [hids, h.seats, h.cid first, h.cid first.other]
  rfl

/-- A pick that belongs to the client in its seat. -/
theorem sameOwner (h : Joined r first) {i : Side}
    (howner : r.server.table.charaOwner.get (seatOf first i) = (r.clients.get i).cid) :
    r.server.table.sameOwner (seatOf first i) = true := by
  have hget : (r.server.table.seatAt (seatOf first i)).map (·.connId) = some (r.clients.get i).cid := by
    rw [Table.seatAt, ← List.getElem?_map, h.cids]
    rcases Side.eq_or_other first i with rfl | rfl
    · simp
    · simp [seatOf, Side.other_ne]
  obtain ⟨seat, hs, hc⟩ := Option.map_eq_some_iff.1 hget
  simp [Table.sameOwner, hs, howner, hc]

/-- The server finds a client in its seat. -/
theorem sideOf (h : Joined r first) (i : Side) :
    ∃ e, r.server.server.sideOf (r.clients.get i).conn = some (seatOf first i, e) ∧
      e.data.connId = (r.clients.get i).cid := by
  obtain ⟨e, he, -, hc⟩ := entry_of_occupant h.seated (h.occupant i)
  have hid : e.data.connId = (r.clients.get i).cid := by
    rw [h.seated.ids e (List.mem_of_getElem? he), hc, h.cid i]
  refine ⟨e, ?_, hid⟩
  cases hside : r.server.server.sideOf (r.clients.get i).conn with
  | none => exact (not_seated_of_sideOf h.seated hside _ (h.occupant i)).elim
  | some found =>
    obtain ⟨side, e'⟩ := found
    obtain ⟨he', hc'⟩ := SessionServer.sideOf_some hside
    have hsame : side = seatOf first i := by
      apply (Side.eq_or_other _ side).resolve_right
      intro hother
      obtain ⟨e'', he'', -, hc''⟩ := entry_of_occupant h.seated (h.occupant i.other)
      rw [seatOf_other_right, ← hother, he'] at he''
      cases he''
      exact h.conn_ne (Side.other_ne i) (hc''.symm.trans hc')
    subst hsame
    rw [he] at he'
    cases he'
    rfl

end Joined

/-! ## Moves -/

/-- The players change seats on this message. -/
def rotates : ClientMsg → Bool
  | .reportResults (some loser) => loser.toInt = 0
  | _ => false

/-- The client in seat 0 after a message. -/
def firstAfter (first : Side) (msg : ClientMsg) : Side := if rotates msg then first.other else first

theorem firstAfter_of_not_result {msg : ClientMsg} (h : ∀ loser, msg ≠ .reportResults (some loser)) (first : Side) :
    firstAfter first msg = first := by
  have hr : rotates msg = false := by
    unfold rotates
    split
    · rename_i loser
      exact (h loser rfl).elim
    · rfl
  rw [firstAfter, hr]
  rfl

theorem conns_afterPlayer {t : Table} {a b : Conn} (h : t.roster.map (·.conn) = [a, b]) (side : Side)
    (cid : ConnectionID) (m : IncomingMsg) :
    (afterPlayer t side cid m).roster.map (·.conn) = if rotates m.msg then [b, a] else [a, b] := by
  have hstay : ∀ T : Table, T.roster.map (·.conn) = [a, b] → rotates m.msg = false →
      T.roster.map (·.conn) = if rotates m.msg then [b, a] else [a, b] := by
    intro T hT hr
    rw [hr]
    exact hT
  unfold afterPlayer
  split
  · rename_i hmsg
    exact hstay _ (by split <;> exact h) (by rw [hmsg]; rfl)
  · rename_i hmsg
    exact hstay _ (by split <;> exact h) (by rw [hmsg]; rfl)
  · rename_i hmsg
    exact hstay _ (by split <;> exact h) (by rw [hmsg]; rfl)
  · rename_i hmsg
    refine hstay _ ?_ (by rw [hmsg]; rfl)
    repeat' split
    · rw [Table.conns_ready]
      exact h
    · exact h
    · exact h
  · rename_i loser hmsg
    have hlen : t.roster.length = 2 := by simpa using congrArg List.length h
    by_cases h0 : loser.toInt = 0
    · simp [hmsg, rotates, Table.result, Table.rotates, hlen, h0, Table.clearMarks, Table.swapSeats, h]
    · simp [hmsg, rotates, Table.result, Table.rotates, h0, Table.clearMarks, h]
  · rename_i hmsg
    refine hstay _ ?_ (by rw [hmsg]; rfl)
    rw [Table.conns_load]
    exact h
  · rename_i _ _ _ _ hno _
    refine hstay _ h ?_
    cases hmsg : m.msg with
    | reportResults loser =>
      cases loser with
      | none => rfl
      | some loser => exact (hno loser hmsg).elim
    | _ => rfl

/-- A pick stays with its player, unless the player makes another. -/
theorem picks_afterPlayer {t : Table} (hlen : t.roster.length = 2) (first i j : Side) (cid : ConnectionID)
    (m : IncomingMsg) :
    let t' := afterPlayer t (seatOf first i) cid m
    let seat := seatOf (firstAfter first m.msg) j
    (t'.matchData.chara.get seat = t.matchData.chara.get (seatOf first j) ∧
        t'.charaOwner.get seat = t.charaOwner.get (seatOf first j)) ∨
      (∃ chara, m.msg = .setChara (some chara)) ∧ j = i ∧ t'.charaOwner.get seat = cid := by
  have hstay : ∀ t' : Table, t'.matchData.chara = t.matchData.chara → t'.charaOwner = t.charaOwner →
      rotates m.msg = false →
      t'.matchData.chara.get (seatOf (firstAfter first m.msg) j) = t.matchData.chara.get (seatOf first j) ∧
        t'.charaOwner.get (seatOf (firstAfter first m.msg) j) = t.charaOwner.get (seatOf first j) := by
    intro t' hchara howner hr
    rw [firstAfter, hr, hchara, howner]
    exact ⟨rfl, rfl⟩
  intro t' seat
  unfold t' seat afterPlayer
  split
  · rename_i chara hmsg
    have hr : rotates m.msg = false := by rw [hmsg]; rfl
    split
    · rw [firstAfter, hr]
      rcases Side.eq_or_other i j with rfl | rfl
      · exact .inr ⟨⟨chara, hmsg⟩, rfl, by simp [Table.pick]⟩
      · exact .inl (by simp [Table.pick])
    · exact .inl (hstay _ rfl rfl hr)
  · rename_i hmsg
    refine .inl (hstay _ ?_ ?_ (by rw [hmsg]; rfl))
    · split <;> rfl
    · split <;> rfl
  · rename_i hmsg
    refine .inl (hstay _ ?_ ?_ (by rw [hmsg]; rfl))
    · split <;> rfl
    · split <;> rfl
  · rename_i hmsg
    refine .inl (hstay _ ?_ ?_ (by rw [hmsg]; rfl))
    · repeat' split
      · exact (Table.picks_ready ..).1
      · rfl
      · rfl
    · repeat' split
      · exact (Table.picks_ready ..).2
      · rfl
      · rfl
  · rename_i loser hmsg
    refine .inl ?_
    by_cases h0 : loser.toInt = 0
    · simp [hmsg, firstAfter, rotates, Table.result, Table.rotates, hlen, h0, Table.clearMarks, Table.swapSeats]
    · simp [hmsg, firstAfter, rotates, Table.result, Table.rotates, h0, Table.clearMarks]
  · rename_i hmsg
    exact .inl (hstay _ rfl rfl (by rw [hmsg]; rfl))
  · rename_i _ _ _ _ hno _
    refine .inl (hstay _ rfl rfl ?_)
    unfold rotates
    split
    · rename_i loser hmsg
      exact (hno loser hmsg).elim
    · rfl

/-- Only a ready calls a match. -/
theorem called_afterPlayer (t : Table) (side : Side) (cid : ConnectionID) {m : IncomingMsg}
    (hm : ∀ request, m.msg ≠ .lobbyReady (some request)) : (afterPlayer t side cid m).called = t.called := by
  unfold afterPlayer
  split
  · split <;> rfl
  · split <;> rfl
  · split <;> rfl
  · rename_i request hmsg
    exact (hm request hmsg).elim
  · unfold Table.result
    split <;> rfl
  · rfl
  · rfl

namespace Joined

variable {r : Room} {first : Side}

theorem table_serve (h : Joined r first) {i : Side} {u : Up} {rest : List Up} (hu : r.up.get i = u :: rest)
    (peerAddr : PeerAddr) (tick : Tick) :
    (handleMessage r.server (r.incoming i u peerAddr tick)).1.table =
      afterPlayer r.server.table (seatOf first i) (r.clients.get i).cid (r.incoming i u peerAddr tick) := by
  obtain ⟨e, hside, hid⟩ := h.sideOf i
  exact table_player h.seated (h.known i) hside hid (h.up i u (hu ▸ List.mem_cons_self))

/-- The message is from someone the server knows. -/
theorem handleMessage_eq (h : Joined r first) (i : Side) (u : Up) (peerAddr : PeerAddr) (tick : Tick) :
    handleMessage r.server (r.incoming i u peerAddr tick) =
      handleKnown r.server (r.incoming i u peerAddr tick) (r.clients.get i).cid := by
  unfold handleMessage
  rw [show r.server.server.cidMap.find (r.incoming i u peerAddr tick).conn = some (r.clients.get i).cid
    from h.known i]

/-- What the server adds to the channels while it handles a message. -/
theorem serve_down (h : Joined r first) {i : Side} {u : Up} {rest : List Up} (hu : r.up.get i = u :: rest)
    (peerAddr : PeerAddr) (tick : Tick) (j : Side) :
    ∀ d ∈ (r.serve i peerAddr tick).1.down.get j,
      d ∈ r.down.get j ∨ d.battle = u.battle ∧ ∃ report, u.msg = .desyncReport (some report) ∧
        d.msg = .desyncReport { report with diff := report.diff.take 512 } := by
  intro d hd
  rw [Room.serve_cons hu, Room.post_down] at hd
  apply (List.mem_append.1 hd).imp id
  intro hd
  obtain ⟨msg, hmsg, rfl⟩ := List.mem_map.1 hd
  have hknown : (r.server.server.cidMap.find (r.incoming i u peerAddr tick).conn).isSome = true := by
    rw [show r.server.server.cidMap.find (r.incoming i u peerAddr tick).conn = some (r.clients.get i).cid
      from h.known i]
    rfl
  exact ⟨rfl, player_sent (h.up i u (hu ▸ List.mem_cons_self)) hknown _ msg hmsg⟩

theorem endStep_down (h : Joined r first) (tick : Tick) (j : Side) :
    ∀ d ∈ (r.endStep tick).1.down.get j, d ∈ r.down.get j ∨ AtEnd r.server d.msg := by
  intro d hd
  rw [Room.endStep, Room.post_down] at hd
  apply (List.mem_append.1 hd).imp id
  intro hd
  obtain ⟨msg, hmsg, rfl⟩ := List.mem_map.1 hd
  exact finish_sent h.seated tick _ msg hmsg

theorem serve (h : Joined r first) {i : Side} {u : Up} {rest : List Up} (hu : r.up.get i = u :: rest)
    (peerAddr : PeerAddr) (tick : Tick) : Joined (r.serve i peerAddr tick).1 (firstAfter first u.msg) := by
  have hdown := h.serve_down hu peerAddr tick
  rw [Room.serve_cons hu] at hdown ⊢
  refine ⟨?_, h.apart, ?_, ?_, h.players, ?_, ?_⟩
  · exact wellSeated_message h.seated _
  · intro j
    have hids := congrArg Prod.snd
      (identities_known r.server (r.incoming i u peerAddr tick) (r.clients.get i).cid)
    simp only [Room.post_server, Room.post_clients, h.handleMessage_eq]
    rw [show (handleKnown r.server (r.incoming i u peerAddr tick) (r.clients.get i).cid).1.server.cidMap =
      r.server.server.cidMap from hids]
    exact h.known j
  · have hconns := conns_afterPlayer h.seats (seatOf first i) (r.clients.get i).cid (r.incoming i u peerAddr tick)
    rw [← h.table_serve hu] at hconns
    cases hr : rotates u.msg with
    | true =>
      rw [if_pos (show rotates (r.incoming i u peerAddr tick).msg = true from hr)] at hconns
      simpa [firstAfter, hr] using hconns
    | false =>
      rw [if_neg (by simp [Room.incoming, hr])] at hconns
      simpa [firstAfter, hr] using hconns
  · intro j v hv
    exact h.up j v (Room.mem_up_taken hu hv)
  · intro j d hd
    rcases hdown j d hd with hd | ⟨-, report, -, hmsg⟩
    · exact h.down j d hd
    · rw [hmsg]
      trivial

theorem endStep (h : Joined r first) (tick : Tick) : Joined (r.endStep tick).1 first := by
  refine ⟨?_, h.apart, ?_, ?_, h.players, h.up, ?_⟩
  · exact wellSeated_finish h.seated tick
  · intro i
    have hids := congrArg Prod.snd (identities_finish r.server tick)
    show (finishStep r.server tick).1.server.cidMap.find _ = _
    rw [show (finishStep r.server tick).1.server.cidMap = r.server.server.cidMap from hids]
    exact h.known i
  · show (finishStep r.server tick).1.table.roster.map (·.conn) = _
    rw [table_finish h.seated, Table.roster_finish]
    exact h.seats
  · intro i d hd
    rcases h.endStep_down tick i d hd with hd | hend
    · exact h.down i d hd
    · cases hmsg : d.msg <;> rw [hmsg] at hend <;> trivial

/-- A client that keeps its badge, and sends what players send. -/
theorem put (h : Joined r first) {i : Side} {c : SessionClient} {sent : List Up}
    (hc : c.badge = (r.clients.get i).badge) (hsent : ∀ u ∈ sent, FromPlayer u.msg) :
    Joined (r.put i c sent) first := by
  have hbadge := Room.badge_put hc sent
  have hconn : ∀ j, ((r.put i c sent).clients.get j).conn = (r.clients.get j).conn := fun j =>
    congrArg Prod.fst (hbadge j)
  have hcid : ∀ j, ((r.put i c sent).clients.get j).cid = (r.clients.get j).cid := fun j =>
    congrArg (·.2.1) (hbadge j)
  refine ⟨h.seated, ?_, ?_, ?_, ?_, ?_, h.down⟩
  · rw [hconn, hconn]
    exact h.apart
  · intro j
    rw [hconn, hcid]
    exact h.known j
  · rw [hconn, hconn]
    exact h.seats
  · intro j
    have hflags := congrArg (·.2.2) (hbadge j)
    simp only [SessionClient.badge, Prod.mk.injEq] at hflags
    rw [hflags.1, hflags.2]
    exact h.players j
  · intro j u hu
    rcases Room.mem_up_put hu with hu | hu
    · exact h.up j u hu
    · exact hsent u hu

theorem badge_deliver (h : Joined r first) (i j : Side) :
    ((r.deliver i).1.clients.get j).badge = (r.clients.get j).badge := by
  cases hd : r.down.get i with
  | nil => rw [Room.deliver_nil hd]
  | cons d rest =>
    rw [Room.deliver_cons hd]
    exact Room.badge_put (receive_keeps (h.down i d (hd ▸ List.mem_cons_self))).1 _ j

theorem deliver (h : Joined r first) (i : Side) : Joined (r.deliver i).1 first := by
  unfold Room.deliver
  cases hd : r.down.get i with
  | nil => exact h
  | cons d rest =>
    obtain ⟨hc, hsent⟩ := receive_keeps (c := r.clients.get i) (h.down i d (hd ▸ List.mem_cons_self))
    have hrest : Joined { r with down := r.down.set i rest } first := by
      refine ⟨h.seated, h.apart, h.known, h.seats, h.players, h.up, fun j d' hd' => ?_⟩
      rcases Side.eq_or_other i j with rfl | rfl
      · rw [Sides.get_set_self] at hd'
        exact h.down _ d' (hd ▸ List.mem_cons_of_mem _ hd')
      · rw [Sides.get_set_other] at hd'
        exact h.down _ d' hd'
    apply hrest.put hc
    intro u hu
    rw [hsent] at hu
    cases hu

theorem perform (h : Joined r first) (i : Side) (d : Doing) : Joined (r.perform i d).1 first := by
  apply h.put ((r.clients.get i).perform_keeps d).1
  intro u hu
  exact fromPlayer_perform _ d u hu

theorem next (h : Joined r first) (m : Move) : ∃ first', Joined (room.next r m).1 first' := by
  cases m with
  | serve i peerAddr tick =>
    show ∃ first', Joined (r.serve i peerAddr tick).1 first'
    cases hu : r.up.get i with
    | nil =>
      rw [Room.serve_nil hu]
      exact ⟨first, h⟩
    | cons u rest => exact ⟨_, h.serve hu peerAddr tick⟩
  | endStep tick => exact ⟨first, h.endStep tick⟩
  | deliver i => exact ⟨first, h.deliver i⟩
  | perform i d => exact ⟨first, h.perform i d⟩

theorem conn_next (h : Joined r first) (m : Move) (i : Side) :
    ((room.next r m).1.clients.get i).conn = (r.clients.get i).conn := by
  cases m with
  | serve j peerAddr tick =>
    show ((r.serve j peerAddr tick).1.clients.get i).conn = _
    cases hu : r.up.get j with
    | nil => rw [Room.serve_nil hu]
    | cons u rest => rw [Room.serve_cons hu, Room.post_clients]
  | endStep tick => rfl
  | deliver j => exact congrArg (·.1) (h.badge_deliver j i)
  | perform j d => exact congrArg (·.1) (Room.badge_put ((r.clients.get j).perform_keeps d).1 _ i)

end Joined

namespace Sample

/-- Client 1 has won the first match. -/
def wonByOne : Room :=
  room.run lobby (joining ++ readying ++ loading ++ [.perform 0 (.matchResult 1), .perform 1 (.matchResult 1)])

theorem joined_wonByOne : Joined wonByOne 0 := by
  refine ⟨by unfold wonByOne; exact wellSeated_lobby _, by decide +kernel, by decide +kernel, by decide +kernel,
    by decide +kernel, ?_, ?_⟩
  · have hnone : ∀ i, wonByOne.up.get i = [] := by decide +kernel
    intro i u hu
    rw [hnone i] at hu
    cases hu
  · have hnone : ∀ i, wonByOne.down.get i = [] := by decide +kernel
    intro i d hd
    rw [hnone i] at hd
    cases hd

end Sample

end Sf4e.Netplay
