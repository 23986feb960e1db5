import Sf4e.Session.Readiness
/-!
# Whose pick is shown

A pick is written for a side and remembered with its owner; the end of a Step
drops the picks whose owner is not in the seat. `PicksOwned` is what the updates
then show.
-/
open Sf4e.Lib

namespace Sf4e.Session

/-- The valid SETCHARA that `conn` sends in this action, if it does. -/
def sendsPick (t : Taken Stepping Act Out) (conn : Conn) : Option CharaConditions :=
  match t.act with
  | .message m => match m.msg with
    | .setChara (some chara) => if m.conn = conn && charaConditionsValid chara then some chara else none
    | _ => none
  | _ => none

/-- The last valid SETCHARA that `conn` has sent. -/
def lastPick (h : Past) (conn : Conn) : Option CharaConditions := h.findSome? fun t => sendsPick t conn

/-- The identity an update shows in a player seat. -/
def LobbyData.player (d : LobbyData) (side : Side) : Option ConnectionID :=
  ((d.members.filter fun d => !d.spectator).map (·.connId))[side.val]?

/-- Each side of every update shows nothing, or the last pick of the connection
in that seat. -/
def PicksOwned (h : Past) (p : Stepping) (a : Act) : Prop :=
  ∀ o ∈ (sessionServer.next p a).2, ∀ u ∈ o.update?, ∀ side,
    u.2.chara.get side = .zero ∨
      ∃ conn ∈ (sessionServer.next p a).1.table.occupant side,
        u.1.player side = some ((sessionServer.next p a).1.server.cidOf conn) ∧
          lastPick h conn = some (u.2.chara.get side)

instance (h : Past) (p : Stepping) (a : Act) : Decidable (PicksOwned h p a) := by
  unfold PicksOwned
  infer_instance

/-! ## When a pick can be lost track of -/

/-- The seat is the connection's, or it is free and the connection not seated
on the other side. -/
def Stepping.mayShow (p : Stepping) (conn : Conn) (side : Side) : Prop :=
  p.table.occupant side = some conn ∨
    p.table.occupant side = none ∧ p.table.occupant side.other ≠ some conn

instance (p : Stepping) (conn : Conn) (side : Side) : Decidable (p.mayShow conn side) :=
  inferInstanceAs (Decidable (_ ∨ _))

/-- The side a SETCHARA is written to. -/
def writesPick (p : Stepping) (m : IncomingMsg) : Option Side :=
  if registered p m then (p.server.sideOf m.conn).map (·.1) else none

/-- The end of a Step finds no pick of character 0 that it should drop and does
not see; nobody takes a second seat; and a SETCHARA leaves no other pick of its
sender behind at a seat where it may show. -/
def PicksKept (p : Stepping) (a : Act) : Prop :=
  match a with
  | .endStep _ =>
    ∀ side, p.server.sameOwner side = false → (p.server.matchData.chara.get side).charaID = 0 →
      p.server.matchData.chara.get side = .zero
  | .message m =>
    match m.msg with
    | .joinReq (some request) =>
      registered p m = true → request.spectator = false → p.server.joinRefusal request = none →
        m.conn ∉ p.table.roster.map (·.conn)
    | .setChara (some chara) =>
      charaConditionsValid chara = true → ∀ side, writesPick p m ≠ some side →
        p.server.charaOwner.get side = p.server.cidOf m.conn → p.mayShow m.conn side →
          p.server.matchData.chara.get side = .zero
    | _ => True
  | .event _ => True

instance (p : Stepping) (a : Act) : Decidable (PicksKept p a) := by
  induction a using Act.casesOn with
  | endStep tick => exact inferInstanceAs (Decidable (∀ side : Side, _ → _ → _ = _))
  | message m =>
    obtain ⟨conn, msg, num, peerAddr, tick⟩ := m
    induction msg using ClientMsg.casesOn with
    | joinReq request =>
      induction request using Option.casesOn with
      | none => exact .isTrue trivial
      | some request => exact inferInstanceAs (Decidable (_ → _ → _ → _ ∉ _))
    | setChara chara =>
      induction chara using Option.casesOn with
      | none => exact .isTrue trivial
      | some chara => exact inferInstanceAs (Decidable (_ → ∀ side : Side, _ → _ → _ → _ = _))
    | _ => exact .isTrue trivial
  | event e => exact .isTrue trivial

/-! ## The invariant -/

/-- A pick with an owner is the owner's last; inside a Step, only as far as it
may still show. -/
structure PickInv (h : Past) (p : Stepping) : Prop where
  seated : p.server.WellSeated
  apart : (p.table.roster.map (·.conn)).Nodup
  own : ∀ side conn, p.server.charaOwner.get side = p.server.cidOf conn →
    (midStep h = true → p.mayShow conn side) →
      p.server.matchData.chara.get side = .zero ∨ lastPick h conn = some (p.server.matchData.chara.get side)

theorem lastPick_keep {t : Taken Stepping Act Out} {h : Past} {conn : Conn} (hs : sendsPick t conn = none) :
    lastPick (t :: h) conn = lastPick h conn := by
  simp only [lastPick, List.findSome?_cons, hs]

theorem lastPick_new {t : Taken Stepping Act Out} {h : Past} {conn : Conn} {chara : CharaConditions}
    (hs : sendsPick t conn = some chara) : lastPick (t :: h) conn = some chara := by
  simp only [lastPick, List.findSome?_cons, hs]

/-- A message that is no SETCHARA sends no pick. -/
theorem no_pick_of_msg {p : Stepping} {m : IncomingMsg} (hm : ∀ chara, m.msg ≠ .setChara (some chara))
    (conn : Conn) : sendsPick (sessionServer.taken p (.message m)) conn = none := by
  simp only [sendsPick, Machine.taken]

theorem pick_of_sends {p : Stepping} {m : IncomingMsg} {conn : Conn} {chara : CharaConditions}
    (h : sendsPick (sessionServer.taken p (.message m)) conn = some chara) :
    m.msg = .setChara (some chara) ∧ m.conn = conn ∧ charaConditionsValid chara = true := by
  simp only [sendsPick, Machine.taken] at h
  split at h
  · rename_i chara' hmsg
    split at h
    · rename_i hc
      cases h
      rw [Bool.and_eq_true, decide_eq_true_eq] at hc
      exact ⟨hmsg, hc.1, hc.2⟩
    · cases h
  · cases h

/-- Nothing moves and no pick is written. -/
theorem PickInv.still {h : Past} {p q : Stepping} (hI : PickInv h p) {t : Taken Stepping Act Out}
    (hw : q.server.WellSeated) (hid : q.server.identity = p.server.identity)
    (hroster : q.table.roster.map (·.conn) = p.table.roster.map (·.conn))
    (hchara : q.table.matchData.chara = p.table.matchData.chara) (howner : q.table.charaOwner = p.table.charaOwner)
    (hmid : midStep h = true → midStep (t :: h) = true)
    (hpick : ∀ side conn, p.server.charaOwner.get side = p.server.cidOf conn →
      (midStep (t :: h) = true → p.mayShow conn side) → p.server.matchData.chara.get side ≠ .zero →
        sendsPick t conn = none) : PickInv (t :: h) q where
  seated := hw
  apart := by rw [hroster]; exact hI.apart
  own := by
    intro side conn ho hmay
    have hocc : ∀ side, q.table.occupant side = p.table.occupant side := Table.occupant_congr hroster
    have ho' : p.server.charaOwner.get side = p.server.cidOf conn := by
      have : q.server.charaOwner = p.server.charaOwner := howner
      rw [← this, ho, SessionServer.cidOf, SessionServer.cidOf, hid]
    have hmay' : midStep (t :: h) = true → p.mayShow conn side := by
      intro hm
      have := hmay hm
      unfold Stepping.mayShow at this ⊢
      rwa [hocc, hocc] at this
    have hc : q.server.matchData.chara = p.server.matchData.chara := hchara
    rw [hc]
    by_cases hz : p.server.matchData.chara.get side = .zero
    · exact .inl hz
    · rw [lastPick_keep (hpick side conn ho' hmay' hz)]
      exact hI.own side conn ho' fun hm => hmay' (hmid hm)

theorem PickInv.still_message {h : Past} {p : Stepping} (hI : PickInv h p) {m : IncomingMsg} {T : Table}
    (hT : (sessionServer.next p (.message m)).1.table = T)
    (hroster : T.roster.map (·.conn) = p.table.roster.map (·.conn))
    (hchara : T.matchData.chara = p.table.matchData.chara) (howner : T.charaOwner = p.table.charaOwner)
    (hmsg : ∀ chara, m.msg ≠ .setChara (some chara)) :
    PickInv (sessionServer.taken p (.message m) :: h) (sessionServer.next p (.message m)).1 := by
  subst hT
  exact hI.still (wellSeated_next hI.seated _) (identity_next p _) hroster hchara howner (fun _ => rfl)
    fun _ conn _ _ _ => no_pick_of_msg hmsg conn

/-- A SETCHARA the server ignores leaves no pick of its sender to show. -/
theorem PickInv.idle {h : Past} {p : Stepping} (hI : PickInv h p) {a : Act} (hidle : Idle p a)
    (hT : (sessionServer.next p a).1.table = p.table) (hC : PicksKept p a) (hB : Between h p a) :
    PickInv (sessionServer.taken p a :: h) (sessionServer.next p a).1 := by
  refine hI.still (wellSeated_next hI.seated a) (identity_next p a) (by rw [hT]) (by rw [hT]) (by rw [hT]) ?_ ?_
  · cases a with
    | message m => exact fun _ => rfl
    | endStep tick => exact hidle.elim
    | event e =>
      intro hm
      rw [show midStep h = false from hB] at hm
      cases hm
  · intro side conn howner hmay hne
    cases a with
    | endStep tick => rfl
    | event e => rfl
    | message m =>
      cases hs : sendsPick (sessionServer.taken p (.message m)) conn with
      | none => rfl
      | some chara =>
        obtain ⟨hmsg, rfl, hvalid⟩ := pick_of_sends hs
        simp only [PicksKept, hmsg] at hC
        refine absurd (hC hvalid side ?_ howner (hmay rfl)) hne
        have hnone : writesPick p m = none := by
          unfold writesPick
          rcases hidle with hno | hidle
          · simp [registered, hno]
          · rw [hmsg] at hidle
            rcases hidle with hno | hno
            · simp [hno]
            · rw [hvalid] at hno
              cases hno
        rw [hnone]
        simp

theorem PickInv.sit {h : Past} {p : Stepping} (hI : PickInv h p) {m : IncomingMsg} {cid : ConnectionID}
    {request : SessionJoinRequest} (hmsg : m.msg = .joinReq (some request))
    (hnew : m.conn ∉ p.table.roster.map (·.conn))
    (hT : (sessionServer.next p (.message m)).1.table = p.table.sit ⟨m.conn, cid, false⟩) :
    PickInv (sessionServer.taken p (.message m) :: h) (sessionServer.next p (.message m)).1 where
  seated := wellSeated_next hI.seated _
  apart := by
    rw [hT]
    simp only [Table.sit, List.map_append, List.map_cons, List.map_nil]
    exact List.nodup_append.2 ⟨hI.apart, by simp, by simpa using hnew⟩
  own := by
    intro side conn howner hmay
    have howner' : p.server.charaOwner.get side = p.server.cidOf conn := by
      have h1 : (sessionServer.next p (.message m)).1.server.charaOwner = p.server.charaOwner :=
        congrArg Table.charaOwner hT
      have h2 := identity_next p (.message m)
      rw [← h1, howner, SessionServer.cidOf, SessionServer.cidOf, h2]
    have hchara : (sessionServer.next p (.message m)).1.server.matchData = p.server.matchData :=
      congrArg Table.matchData hT
    rw [hchara, lastPick_keep (no_pick_of_msg (by simp [hmsg]) conn)]
    apply hI.own side conn howner'
    intro _
    -- the newcomer shows in the seat it has taken, and might have before
    have hocc : ∀ side, (sessionServer.next p (.message m)).1.table.occupant side =
        (p.table.roster.map (·.conn) ++ [m.conn])[side.val]? := by
      intro side
      rw [Table.occupant_eq, hT]
      simp [Table.sit]
    have hkeep : ∀ side c, p.table.occupant side = some c →
        (sessionServer.next p (.message m)).1.table.occupant side = some c := by
      intro side c ho
      rw [Table.occupant_eq] at ho
      rw [hocc, List.getElem?_append_left (List.getElem?_eq_some_iff.1 ho).1, ho]
    have hold : ∀ side c, (sessionServer.next p (.message m)).1.table.occupant side = some c →
        p.table.occupant side = some c ∨ p.table.occupant side = none ∧ c = m.conn := by
      intro side c ho
      cases hside : p.table.occupant side with
      | some c' => exact .inl (by rw [← hkeep side c' hside, ho])
      | none =>
        refine .inr ⟨rfl, ?_⟩
        rw [hocc] at ho
        rw [Table.occupant_eq] at hside
        have hmem := List.mem_of_getElem? ho
        rw [List.getElem?_append_right (List.getElem?_eq_none_iff.1 hside)] at ho
        have := List.mem_of_getElem? ho
        simpa using this
    rcases hmay rfl with hsome | ⟨hnone, hother⟩
    · rcases hold side conn hsome with ho | ⟨hfree, rfl⟩
      · exact .inl ho
      · refine .inr ⟨hfree, fun ho => hnew ?_⟩
        rw [Table.occupant_eq] at ho
        exact List.mem_of_getElem? ho
    · refine .inr ⟨?_, fun ho => hother (hkeep _ _ ho)⟩
      cases hside : p.table.occupant side with
      | none => rfl
      | some c =>
        rw [hkeep side c hside] at hnone
        cases hnone

theorem PickInv.pick {h : Past} {p : Stepping} (hI : PickInv h p) {m : IncomingMsg} {cid : ConnectionID}
    {chara : CharaConditions} {side : Side} {e : SessionMember} (hcid : p.server.cidMap.find m.conn = some cid)
    (hmsg : m.msg = .setChara (some chara)) (hside : p.server.sideOf m.conn = some (side, e))
    (hvalid : charaConditionsValid chara = true) (hC : PicksKept p (.message m))
    (hT : (sessionServer.next p (.message m)).1.table = p.table.pick side e.data.connId chara) :
    PickInv (sessionServer.taken p (.message m) :: h) (sessionServer.next p (.message m)).1 where
  seated := wellSeated_next hI.seated _
  apart := by rw [hT]; exact hI.apart
  own := by
    intro s conn howner hmay
    obtain ⟨he, hconn⟩ := SessionServer.sideOf_some hside
    have hid := identity_next p (.message m)
    have hcids : ∀ c, (sessionServer.next p (.message m)).1.server.cidOf c = p.server.cidOf c := by
      intro c
      rw [SessionServer.cidOf, SessionServer.cidOf, hid]
    have howners : (sessionServer.next p (.message m)).1.server.charaOwner =
        p.server.charaOwner.set side (p.server.cidOf m.conn) := by
      rw [← hconn, ← hI.seated.ids e (List.mem_of_getElem? he)]
      exact congrArg Table.charaOwner hT
    have hcharas : (sessionServer.next p (.message m)).1.server.matchData.chara =
        p.server.matchData.chara.set side chara :=
      congrArg (fun T => T.matchData.chara) hT
    have hsends : sendsPick (sessionServer.taken p (.message m)) m.conn = some chara := by
      simp [sendsPick, Machine.taken, hmsg, hvalid]
    rw [howners, hcids] at howner
    rw [hcharas]
    by_cases hs : s = side
    · subst hs
      rw [Sides.get_set_self] at howner ⊢
      rw [← SessionServer.cidOf_inj howner]
      exact .inr (lastPick_new hsends)
    · rw [Sides.get_set_ne _ _ hs] at howner ⊢
      have hmay' : p.mayShow conn s := by
        have hroster : (sessionServer.next p (.message m)).1.table.roster = p.table.roster := by rw [hT]; rfl
        have hocc : ∀ s, (sessionServer.next p (.message m)).1.table.occupant s = p.table.occupant s :=
          fun s => Table.occupant_congr (congrArg (List.map _) hroster) s
        have := hmay rfl
        unfold Stepping.mayShow at this ⊢
        rwa [hocc, hocc] at this
      by_cases hc : conn = m.conn
      · -- another pick of the sender
        subst hc
        simp only [PicksKept, hmsg] at hC
        refine .inl (hC hvalid s ?_ howner hmay')
        simp only [writesPick, registered, hcid, Option.isSome_some, if_true, hside, Option.map_some]
        simpa using fun h => hs h.symm
      · have hno : sendsPick (sessionServer.taken p (.message m)) conn = none := by
          have hc' : m.conn ≠ conn := fun h => hc h.symm
          simp [sendsPick, Machine.taken, hmsg, hc']
        rw [lastPick_keep hno]
        exact hI.own s conn howner fun _ => hmay'

/-- The picks change sides with the players. -/
theorem PickInv.result {h : Past} {p : Stepping} (hI : PickInv h p) {m : IncomingMsg} {loser : Int32}
    (hmsg : m.msg = .reportResults (some loser))
    (hT : (sessionServer.next p (.message m)).1.table = p.table.result loser.toInt) :
    PickInv (sessionServer.taken p (.message m) :: h) (sessionServer.next p (.message m)).1 := by
  by_cases hrot : p.table.rotates loser.toInt
  · have hres : p.table.result loser.toInt = p.table.swapSeats.clearMarks := by rw [Table.result, if_pos hrot]
    rw [hres] at hT
    have hroster : (sessionServer.next p (.message m)).1.table.roster = p.table.roster.reverse :=
      congrArg Table.roster hT
    refine ⟨wellSeated_next hI.seated _, ?_, ?_⟩
    · rw [hroster, List.map_reverse]
      exact (List.reverse_perm _).nodup_iff.2 hI.apart
    · intro side conn howner hmay
      have h1 : (sessionServer.next p (.message m)).1.server.charaOwner = p.server.charaOwner.swap :=
        congrArg Table.charaOwner hT
      have h2 : (sessionServer.next p (.message m)).1.server.matchData.chara = p.server.matchData.chara.swap :=
        congrArg (fun T => T.matchData.chara) hT
      have h3 := identity_next p (.message m)
      have howner' : p.server.charaOwner.get side.other = p.server.cidOf conn := by
        rw [h1, Sides.get_swap] at howner
        rw [howner, SessionServer.cidOf, SessionServer.cidOf, h3]
      rw [h2, Sides.get_swap, lastPick_keep (no_pick_of_msg (by simp [hmsg]) conn)]
      apply hI.own side.other conn howner'
      intro _
      -- both seats are taken, and change their players
      have hocc : ∀ side, (sessionServer.next p (.message m)).1.table.occupant side = p.table.occupant side.other := by
        intro side
        obtain ⟨a, b, hab⟩ := List.length_eq_two.1 hrot.1
        rw [Table.occupant_eq, Table.occupant_eq, hroster, hab]
        cases side using Side.cases with
        | zero => rfl
        | one => rfl
      have := hmay rfl
      unfold Stepping.mayShow at this ⊢
      rwa [hocc, hocc] at this
  · have hres : p.table.result loser.toInt = p.table.clearMarks := by rw [Table.result, if_neg hrot]
    exact hI.still_message (hT.trans hres) rfl rfl rfl (by simp [hmsg])

/-! ## The end of a Step -/

theorem sameOwner_dropPick (t : Table) (side s : Side) (hs : s ≠ side) :
    (t.dropPick side).sameOwner s = t.sameOwner s ∧
      (t.dropPick side).matchData.chara.get s = t.matchData.chara.get s ∧
      (t.dropPick side).charaOwner.get s = t.charaOwner.get s := by
  unfold Table.dropPick
  split
  · refine ⟨?_, Sides.get_set_ne _ _ hs, Sides.get_set_ne _ _ hs⟩
    simp only [Table.sameOwner, Table.seatAt, Sides.get_set_ne _ _ hs]
  · exact ⟨rfl, rfl, rfl⟩

/-- What is left of a side's pick after the drop. -/
theorem pick_dropPick (t : Table) (side : Side) :
    (t.dropPick side).matchData.chara.get side = .zero ∨
      (t.dropPick side = t ∧ (t.sameOwner side = true ∨ (t.matchData.chara.get side).charaID = 0)) := by
  unfold Table.dropPick
  split
  · exact .inl (Sides.get_set_self _ _ _)
  · rename_i hno
    refine .inr ⟨rfl, ?_⟩
    simp only [Bool.and_eq_true, Bool.not_eq_true', decide_eq_true_eq, not_and, not_not] at hno
    cases ho : t.sameOwner side with
    | true => exact .inl rfl
    | false => exact .inr (hno ho)

/-- The end of a Step drops a pick, or keeps it with its owner. -/
theorem pick_finish (t : Table) (side : Side) :
    t.finish.matchData.chara.get side = .zero ∨
      (t.finish.matchData.chara.get side = t.matchData.chara.get side ∧
        t.finish.charaOwner.get side = t.charaOwner.get side ∧
          (t.sameOwner side = true ∨ (t.matchData.chara.get side).charaID = 0)) := by
  show ((t.dropPick 0).dropPick 1).matchData.chara.get side = .zero ∨
    (((t.dropPick 0).dropPick 1).matchData.chara.get side = t.matchData.chara.get side ∧
      ((t.dropPick 0).dropPick 1).charaOwner.get side = t.charaOwner.get side ∧
        (t.sameOwner side = true ∨ (t.matchData.chara.get side).charaID = 0))
  match side with
  | 0 =>
    obtain ⟨-, hchara, howner⟩ := sameOwner_dropPick (t.dropPick 0) 1 0 (by decide)
    rw [hchara, howner]
    rcases pick_dropPick t 0 with hz | ⟨he, hown⟩
    · exact .inl hz
    · rw [he]
      exact .inr ⟨rfl, rfl, hown⟩
  | 1 =>
    obtain ⟨hsame, hchara, howner⟩ := sameOwner_dropPick t 0 1 (by decide)
    rcases pick_dropPick (t.dropPick 0) 1 with hz | ⟨he, hown⟩
    · exact .inl hz
    · rw [hsame, hchara] at hown
      rw [he, hchara, howner]
      exact .inr ⟨rfl, rfl, hown⟩

theorem occupant_finish (t : Table) (side : Side) : t.finish.occupant side = t.occupant side := by
  rw [Table.occupant, Table.seatAt, Table.roster_finish]
  rfl

theorem seat_of_occupant {p : Stepping} (hw : p.server.WellSeated) {side : Side} {conn : Conn}
    (h : p.table.occupant side = some conn) :
    ∃ seat, p.table.seatAt side = some seat ∧ seat.connId = p.server.cidOf conn := by
  obtain ⟨seat, hseat, hc⟩ := Option.map_eq_some_iff.1 h
  obtain ⟨e, he, -, rfl⟩ := SessionServer.entry_of_seatAt hw hseat
  refine ⟨_, hseat, ?_⟩
  rw [← hc]
  exact hw.ids e (List.mem_of_getElem? he)

/-- At the end of a Step, a side shows nothing or the last pick of its player. -/
theorem shown_finish {h : Past} {p : Stepping} (hI : PickInv h p) {tick : Tick} (hC : PicksKept p (.endStep tick))
    (side : Side) :
    p.table.finish.matchData.chara.get side = .zero ∨
      ∃ conn, p.table.occupant side = some conn ∧
        p.table.finish.charaOwner.get side = p.server.cidOf conn ∧
        lastPick h conn = some (p.table.finish.matchData.chara.get side) := by
  have hdrop : p.table.sameOwner side = false → (p.table.matchData.chara.get side).charaID = 0 →
      p.table.matchData.chara.get side = .zero := by
    intro ho
    have hsame := sameOwner_table hI.seated p.bSendLobbyAllReady p.bSendBattleSynced side
    exact hC side (hsame.symm.trans ho)
  rcases pick_finish p.table side with hz | ⟨hchara, howner, hown⟩
  · exact .inl hz
  · rw [hchara, howner]
    cases ho : p.table.sameOwner side with
    | false => exact .inl (hdrop ho (hown.resolve_left (by simp [ho])))
    | true =>
      -- the owner sits in the seat
      obtain ⟨seat, hseat, hid⟩ := (Option.any_eq_true _ _).1 ho
      rw [decide_eq_true_eq] at hid
      obtain ⟨e, he, -, rfl⟩ := SessionServer.entry_of_seatAt hI.seated hseat
      have hocc : p.table.occupant side = some e.conn := by
        rw [Table.occupant, hseat]
        rfl
      have howns : p.server.charaOwner.get side = p.server.cidOf e.conn :=
        hid.trans (hI.seated.ids e (List.mem_of_getElem? he))
      rcases hI.own side e.conn howns fun _ => .inl hocc with hz | hpick
      · exact .inl hz
      · exact .inr ⟨e.conn, hocc, howns, hpick⟩

theorem PickInv.finish {h : Past} {p : Stepping} (hI : PickInv h p) {tick : Tick} (hC : PicksKept p (.endStep tick))
    (hT : (sessionServer.next p (.endStep tick)).1.table = p.table.finish) :
    PickInv (sessionServer.taken p (.endStep tick) :: h) (sessionServer.next p (.endStep tick)).1 where
  seated := wellSeated_next hI.seated _
  apart := by
    rw [hT, Table.roster_finish]
    exact hI.apart
  own := by
    intro side conn howner _
    have h1 : (sessionServer.next p (.endStep tick)).1.server.charaOwner = p.table.finish.charaOwner :=
      congrArg Table.charaOwner hT
    have h2 : (sessionServer.next p (.endStep tick)).1.server.matchData = p.table.finish.matchData :=
      congrArg Table.matchData hT
    have h3 := identity_next p (.endStep tick)
    rw [h2, lastPick_keep rfl]
    rcases shown_finish hI hC side with hz | ⟨c, -, hown, hpick⟩
    · exact .inl hz
    · refine .inr ?_
      rw [h1, hown, SessionServer.cidOf, SessionServer.cidOf, h3] at howner
      rw [← SessionServer.cidOf_inj (s := p.server) howner]
      exact hpick

/-! ## Runs -/

theorem pickInv_step {h : Past} {p : Stepping} {a : Act} (hI : PickInv h p)
    (hC : PicksKept p a ∧ Between h p a) :
    PickInv (sessionServer.taken p a :: h) (sessionServer.next p a).1 := by
  have he := effect_of hI.seated a
  generalize hT : (sessionServer.next p a).1.table = T at he
  -- an event comes between Steps, when every pick with an owner is the owner's last
  have hevent : ∀ e, a = .event e → T.matchData.chara = p.table.matchData.chara ∨ T.matchData.chara = ⟨.zero, .zero⟩ →
      T.charaOwner = p.table.charaOwner → (T.roster.map (·.conn)).Nodup →
        PickInv (sessionServer.taken p a :: h) (sessionServer.next p a).1 := by
    rintro e rfl hchara howner hapart
    subst hT
    refine ⟨wellSeated_next hI.seated _, hapart, fun side conn ho _ => ?_⟩
    rcases hchara with hc | hc
    · have h1 : (sessionServer.next p (.event e)).1.server.matchData.chara = p.server.matchData.chara := hc
      have h2 : (sessionServer.next p (.event e)).1.server.charaOwner = p.server.charaOwner := howner
      have h3 := identity_next p (.event e)
      rw [h2, SessionServer.cidOf, h3] at ho
      rw [h1, lastPick_keep rfl]
      apply hI.own side conn ho
      intro hm
      rw [show midStep h = false from hC.2] at hm
      cases hm
    · have h1 : (sessionServer.next p (.event e)).1.server.matchData.chara = ⟨.zero, .zero⟩ := hc
      rw [h1]
      cases side using Side.cases with
      | zero => exact .inl rfl
      | one => exact .inl rfl
  cases he with
  | idle hidle => exact hI.idle hidle hT hC.1 hC.2
  | @sit m cid request hcid hmsg hrole hok =>
    have hnew := hC.1
    simp only [PicksKept, hmsg] at hnew
    exact hI.sit hmsg (hnew (by simp [registered, hcid]) hrole hok) hT
  | pick hcid hmsg hside hvalid => exact hI.pick hcid hmsg hside hvalid hC.1 hT
  | seed hcid hmsg hside => exact hI.still_message hT rfl rfl rfl (by simp [hmsg])
  | stage hcid hmsg hside hvalid => exact hI.still_message hT rfl rfl rfl (by simp [hmsg])
  | load hcid hmsg => exact hI.still_message hT (Table.conns_load _ _) rfl rfl (by simp [hmsg])
  | @ready m cid request side e hcid hmsg hside hready =>
    refine hI.still_message hT (by rw [Table.conns_ready]) ?_ ?_ (by simp [hmsg])
    · unfold Table.ready Table.stamp
      split <;> rfl
    · unfold Table.ready Table.stamp
      split <;> rfl
  | unready hcid hmsg hside hready hopen => exact hI.still_message hT rfl rfl rfl (by simp [hmsg])
  | result hcid hmsg => exact hI.result hmsg hT
  | @leave conn =>
    refine hevent _ rfl (.inl rfl) rfl ?_
    exact hI.apart.sublist (List.eraseP_sublist.map _)
  | create | release => exact hevent _ rfl (.inr rfl) rfl (by simp [Table.clear])
  | unload =>
    refine hevent _ rfl (.inl rfl) rfl ?_
    rw [Table.conns_unload]
    exact hI.apart
  | finish => exact hI.finish hC.1 hT

theorem pickInv_start (cfg : HostConfig) : PickInv [] (start cfg) where
  seated := wellSeated_start cfg
  apart := List.nodup_nil
  own := by
    intro side conn _ _
    match side with
    | 0 => exact .inl rfl
    | 1 => exact .inl rfl

/-- While no pick is lost track of, every update shows each side the last pick of
its player, or none. -/
theorem picks_owned (cfg : HostConfig) (calls : List Call)
    (h : sessionServer.Meets (fun _ p a => PicksKept p a) (start cfg) [] (acts calls)) :
    sessionServer.Meets PicksOwned (start cfg) [] (acts calls) := by
  refine Machine.meets_of_inv PickInv (fun _ _ _ hI hC => pickInv_step hI hC) ?_ (pickInv_start cfg)
    (h.and (meets_between _ _ rfl calls))
  intro past p a hI hC o ho u hu side
  cases a with
  | message m =>
    have hno := Out.no_update (message_quiet p m o ho)
    rw [hno] at hu
    cases hu
  | event e =>
    have hno := Out.no_update (event_quiet p e o ho)
    rw [hno] at hu
    cases hu
  | endStep tick =>
    obtain ⟨hdata, hseats⟩ := finish_updates hI.seated tick ho hu
    have htable := table_finish hI.seated tick
    rw [hdata]
    rcases shown_finish hI hC.1 side with hz | ⟨conn, hocc, -, hpick⟩
    · exact .inl hz
    · refine .inr ⟨conn, ?_, ?_, hpick⟩
      · rw [next_endStep, htable, occupant_finish]
        exact hocc
      · obtain ⟨seat, hseat, hid⟩ := seat_of_occupant hI.seated hocc
        have hcid : (finishStep p tick).1.server.cidOf conn = p.server.cidOf conn := by
          rw [SessionServer.cidOf, SessionServer.cidOf, ← next_endStep, identity_next]
        rw [next_endStep, hcid, LobbyData.player, hseats, Table.roster_finish, List.getElem?_map]
        show (p.table.seatAt side).map (·.connId) = _
        rw [hseat, ← hid]
        rfl

namespace Sample

def pickOf (charaID costume : UInt8) : ClientMsg := .setChara (some ⟨charaID, costume, 0, 0, 0, 0, 0, 0, 0⟩)

/-- Both players pick, and seat 0 loses. -/
def picked : List Call :=
  twoPlayers ++ [step [say 1 (pickOf 3 1), say 2 (pickOf 7 0)], step [say 1 (loses 0)]]

end Sample

/-- Two players pick and change seats: each pick moves with its player. -/
theorem picks_owned_after_a_swap :
    sessionServer.Meets PicksOwned (start (lobbyHost 0)) [] (acts Sample.picked) ∧
      (sessionServer.run (start (lobbyHost 0)) (acts Sample.picked)).server.matchData.chara.s0.charaID = 7 :=
  ⟨picks_owned _ _ (by decide +kernel), by decide +kernel⟩

/-- Connection 2 picks character 0 in its second costume and leaves; connection 3
takes the seat and is shown in that costume. -/
theorem pick_of_the_departed :
    ¬ ∀ (cfg : HostConfig) (calls : List Call), sessionServer.Meets PicksOwned (start cfg) [] (acts calls) := by
  intro h
  have hrun := h (lobbyHost 0)
    (Sample.twoPlayers ++ [Sample.step [Sample.say 2 (Sample.pickOf 0 1)], .event (.closed 2 true)] ++
      Sample.enter 3 "C" false)
  exact absurd hrun (by decide +kernel)

end Sf4e.Session
