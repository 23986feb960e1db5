import Sf4e.Session.Seating
/-!
# The table

What the players share: the two seats, the match data, the picks' owners and
the two flags of the Step. `Effect` says what each action of the server does to
it; the theorems about runs are case analyses over `Effect`.
-/
open Sf4e.Lib

namespace Sf4e.Session

@[ext]
structure Table where
  roster : List Seat
  matchData : MatchData
  charaOwner : Sides ConnectionID
  readyRequest : Sides LobbyReady
  called : Bool
  synced : Bool

def Stepping.table (p : Stepping) : Table where
  roster := p.server.roster
  matchData := p.server.matchData
  charaOwner := p.server.charaOwner
  readyRequest := p.server.readyRequest
  called := p.bSendLobbyAllReady
  synced := p.bSendBattleSynced

namespace Table

def seatAt (t : Table) (side : Side) : Option Seat := t.roster[side.val]?

/-- The connection in a player seat. -/
def occupant (t : Table) (side : Side) : Option Conn := (t.seatAt side).map (·.conn)

def sit (t : Table) (seat : Seat) : Table := { t with roster := t.roster ++ [seat] }

def leave (t : Table) (conn : Conn) : Table :=
  { t with roster := t.roster.eraseP fun seat => seat.conn = conn }

def pick (t : Table) (side : Side) (owner : ConnectionID) (chara : CharaConditions) : Table :=
  { t with
    matchData := { t.matchData with chara := t.matchData.chara.set side chara }
    charaOwner := t.charaOwner.set side owner }

def setSeed (t : Table) (rngSeed : UInt32) : Table := { t with matchData := { t.matchData with rngSeed } }

def setStage (t : Table) (stageID : Int) : Table := { t with matchData := { t.matchData with stageID } }

/-- Every player's loaded flag is set. -/
def allLoaded (t : Table) : Bool := t.roster.all (·.loaded)

def load (t : Table) (conn : Conn) : Table :=
  let roster := t.roster.map fun seat => if seat.conn = conn then { seat with loaded := true } else seat
  { t with roster, synced := roster.all (·.loaded) }

def mark (t : Table) (side : Side) (messageNumber : Nat) (request : LobbyReady) : Table :=
  { t with
    matchData := { t.matchData with
      readyMessageNum := t.matchData.readyMessageNum.set side messageNumber
      inputDelay := t.matchData.inputDelay.set side request.inputDelay }
    readyRequest := t.readyRequest.set side request }

def stamp (t : Table) : Table :=
  if t.matchData.isAllReady then
    let shared := SessionServer.sharedInputDelay t.readyRequest
    { t with matchData := { t.matchData with inputDelay := ⟨shared, shared⟩ } }
  else t

def ready (t : Table) (side : Side) (messageNumber : Nat) (request : LobbyReady) : Table :=
  let t := (t.mark side messageNumber request).stamp
  { t with called := t.called || t.matchData.isAllReady }

def unready (t : Table) (side : Side) : Table :=
  { t with
    matchData := { t.matchData with
      readyMessageNum := t.matchData.readyMessageNum.set side (-1)
      inputDelay := t.matchData.inputDelay.set side (-1) }
    readyRequest := t.readyRequest.set side .default }

/-- The result makes the players change seats. -/
def rotates (t : Table) (loser : Int) : Prop := t.roster.length = 2 ∧ loser = 0

instance (t : Table) (loser : Int) : Decidable (t.rotates loser) := inferInstanceAs (Decidable (_ ∧ _))

def swapSeats (t : Table) : Table :=
  { t with
    roster := t.roster.reverse
    matchData := { t.matchData with chara := t.matchData.chara.swap }
    charaOwner := t.charaOwner.swap }

def clearMarks (t : Table) : Table := { t with matchData := { t.matchData with readyMessageNum := ⟨-1, -1⟩ } }

def result (t : Table) (loser : Int) : Table := (if t.rotates loser then t.swapSeats else t).clearMarks

def clear (t : Table) : Table := { t with roster := [], matchData := .clear }

def unload (t : Table) : Table := { t with roster := t.roster.map fun seat => { seat with loaded := false } }

/-- The seat's pick belongs to the connection in the seat. -/
def sameOwner (t : Table) (side : Side) : Bool :=
  (t.seatAt side).any fun seat => t.charaOwner.get side = seat.connId

def dropPick (t : Table) (side : Side) : Table :=
  if !t.sameOwner side && (t.matchData.chara.get side).charaID ≠ 0 then
    { t with
      matchData := { t.matchData with
        chara := t.matchData.chara.set side .zero
        readyMessageNum := t.matchData.readyMessageNum.set side (-1) }
      charaOwner := t.charaOwner.set side .null }
  else t

def dropPicks (t : Table) : Table := (t.dropPick 0).dropPick 1

def finish (t : Table) : Table := { t.dropPicks with called := false, synced := false }

end Table

/-! ## Occupants -/

namespace Table

theorem occupant_eq (t : Table) (side : Side) : t.occupant side = (t.roster.map (·.conn))[side.val]? := by
  rw [occupant, seatAt, List.getElem?_map]

theorem occupant_congr {t t' : Table} (h : t'.roster.map (·.conn) = t.roster.map (·.conn)) (side : Side) :
    t'.occupant side = t.occupant side := by
  rw [occupant_eq, occupant_eq, h]

theorem two_of_occupant {t : Table} {conn : Conn} (h : t.occupant 1 = some conn) : 2 ≤ t.roster.length := by
  rw [occupant_eq] at h
  have := (List.getElem?_eq_some_iff.1 h).1
  simp only [List.length_map] at this
  exact this

theorem conns_load (t : Table) (conn : Conn) : (t.load conn).roster.map (·.conn) = t.roster.map (·.conn) := by
  simp only [load, List.map_map]
  apply List.map_congr_left
  intro seat _
  simp only [Function.comp]
  split <;> rfl

theorem conns_unload (t : Table) : t.unload.roster.map (·.conn) = t.roster.map (·.conn) := by
  simp only [unload, List.map_map]
  rfl

theorem conns_ready (t : Table) (side : Side) (num : Nat) (request : LobbyReady) :
    (t.ready side num request).roster = t.roster := by
  unfold ready stamp
  split <;> rfl

theorem picks_ready (t : Table) (side : Side) (num : Nat) (request : LobbyReady) :
    (t.ready side num request).matchData.chara = t.matchData.chara ∧
      (t.ready side num request).charaOwner = t.charaOwner := by
  unfold ready stamp
  split <;> exact ⟨rfl, rfl⟩

theorem roster_dropPick (t : Table) (side : Side) : (t.dropPick side).roster = t.roster := by
  unfold dropPick
  split <;> rfl

theorem roster_finish (t : Table) : t.finish.roster = t.roster := by
  show ((t.dropPick 0).dropPick 1).roster = t.roster
  rw [roster_dropPick, roster_dropPick]

/-- A mark at the end of a Step was there before. -/
theorem marked_dropPick {t : Table} {side s : Side} (h : (t.dropPick side).matchData.marked s) :
    t.matchData.marked s := by
  unfold dropPick at h
  split at h
  · unfold MatchData.marked at h ⊢
    rcases Side.eq_or_other side s with rfl | rfl
    · simp at h
    · simpa using h
  · exact h

theorem marked_finish {t : Table} {s : Side} (h : t.finish.matchData.marked s) : t.matchData.marked s :=
  marked_dropPick (marked_dropPick h)

theorem marked_ready (t : Table) (side : Side) (num : Nat) (request : LobbyReady) (s : Side) :
    (t.ready side num request).matchData.marked s ↔ s = side ∨ t.matchData.marked s := by
  have hnum : (t.ready side num request).matchData.readyMessageNum =
      t.matchData.readyMessageNum.set side (num : Int) := by
    unfold ready stamp
    split <;> rfl
  unfold MatchData.marked
  rw [hnum]
  rcases Side.eq_or_other side s with rfl | rfl
  · have : (num : Int) ≠ -1 := by omega
    simp [this]
  · simp [Side.other_ne]

/-- Picks that belong to the players in their seats stay. -/
theorem dropPicks_owned {t : Table}
    (h : ∀ side, t.sameOwner side = true ∨ (t.matchData.chara.get side).charaID = 0) : t.dropPicks = t := by
  have hdrop : ∀ side, t.dropPick side = t := by
    intro side
    rcases h side with hs | hs <;> simp [dropPick, hs]
  rw [dropPicks, hdrop 0, hdrop 1]

theorem called_ready (t : Table) (side : Side) (num : Nat) (request : LobbyReady) :
    (t.ready side num request).called = (t.called || (t.ready side num request).matchData.isAllReady) := by
  unfold ready stamp
  split <;> rfl

end Table

/-! ## Finding the sender's seat -/

namespace SessionServer

theorem entry_eq (s : SessionServer) (side : Side) : s.entry side = s.clients[side.val]? := rfl

theorem roster_getElem? {s : SessionServer} (i : Nat) : s.roster[i]? = s.players[i]?.map (·.seat) := by
  rw [roster, List.getElem?_map]

/-- A player at entry 0 or 1 is the player of that side. -/
theorem seatAt_of_entry {s : SessionServer} (h : WellSeated s) {side : Side} {m : SessionMember}
    (he : s.entry side = some m) (hp : m.isPlayer = true) : s.roster[side.val]? = some m.seat := by
  rw [roster_getElem?, players, (h.front.getElem?_filter side.val m).2 ⟨he, hp⟩]
  rfl

theorem entry_of_seatAt {s : SessionServer} (h : WellSeated s) {side : Side} {seat : Seat}
    (hs : s.roster[side.val]? = some seat) :
    ∃ m, s.entry side = some m ∧ m.isPlayer = true ∧ m.seat = seat := by
  rw [roster_getElem?] at hs
  obtain ⟨m, hm, rfl⟩ := Option.map_eq_some_iff.1 hs
  obtain ⟨he, hp⟩ := (h.front.getElem?_filter side.val m).1 hm
  exact ⟨m, he, hp, rfl⟩

/-- A spectator at entry 0 or 1 stands where no player sits. -/
theorem no_seat_of_entry {s : SessionServer} (h : WellSeated s) {side : Side} {m : SessionMember}
    (he : s.entry side = some m) (hp : m.isPlayer = false) : s.roster[side.val]? = none := by
  cases hs : s.roster[side.val]? with
  | none => rfl
  | some seat =>
    obtain ⟨m', he', hp', _⟩ := entry_of_seatAt h hs
    rw [he] at he'
    cases he'
    rw [hp] at hp'
    cases hp'

theorem sideOf_some {s : SessionServer} {conn : Conn} {side : Side} {m : SessionMember}
    (h : s.sideOf conn = some (side, m)) : s.entry side = some m ∧ m.conn = conn := by
  unfold sideOf at h
  cases h0 : s.entry 0 with
  | none => rw [h0] at h; cases h
  | some a =>
    rw [h0] at h
    by_cases ha : a.conn = conn
    · simp only [ha, if_true, Option.some.injEq, Prod.mk.injEq] at h
      obtain ⟨rfl, rfl⟩ := h
      exact ⟨h0, ha⟩
    · cases h1 : s.entry 1 with
      | none => simp [ha, h1] at h
      | some b =>
        by_cases hb : b.conn = conn
        · simp only [ha, h1, hb, if_true, if_false, Option.some.injEq, Prod.mk.injEq] at h
          obtain ⟨rfl, rfl⟩ := h
          exact ⟨h1, hb⟩
        · simp [ha, h1, hb] at h

/-- The side found for a sender is the first of its entries. -/
theorem sideOf_one {s : SessionServer} {conn : Conn} {m : SessionMember} (h : s.sideOf conn = some (1, m)) :
    ∃ a, s.entry 0 = some a ∧ a.conn ≠ conn := by
  unfold sideOf at h
  cases h0 : s.entry 0 with
  | none => rw [h0] at h; cases h
  | some a =>
    refine ⟨a, rfl, fun hc => ?_⟩
    rw [h0] at h
    simp [hc] at h

theorem sideOf_none {s : SessionServer} (hw : WellSeated s) {conn : Conn} (h : s.sideOf conn = none) :
    ∀ seat ∈ s.roster, seat.conn ≠ conn := by
  have hentry : ∀ side m, s.entry side = some m → m.conn ≠ conn := by
    intro side m hm hc
    unfold sideOf at h
    match side with
    | 0 => rw [hm] at h; simp [hc] at h
    | 1 =>
      rw [hm] at h
      cases h0 : s.entry 0 with
      | none =>
        -- an entry 1 has an entry 0 before it
        rw [entry_eq, List.getElem?_eq_none_iff] at h0
        have := (List.getElem?_eq_some_iff.1 (entry_eq s 1 ▸ hm)).1
        simp only [Fin.val_zero, Fin.val_one] at h0 this
        omega
      | some a =>
        rw [h0] at h
        by_cases ha : a.conn = conn
        · simp [ha] at h
        · simp [ha, hc] at h
  intro seat hs
  obtain ⟨i, hi, rfl⟩ := List.getElem_of_mem hs
  have h2 := hw.two
  have hlt : i < 2 := by omega
  have hget : s.roster[(⟨i, hlt⟩ : Side).val]? = some s.roster[i] := List.getElem?_eq_getElem hi
  obtain ⟨m, he, _, hseat⟩ := entry_of_seatAt hw hget
  rw [← hseat]
  exact hentry _ m he

end SessionServer

/-! ## The sender at the table -/

theorem occupant_of_sideOf {p : Stepping} (hw : p.server.WellSeated) {conn : Conn} {side : Side} {e : SessionMember}
    (h : p.server.sideOf conn = some (side, e)) (hp : e.isPlayer = true) : p.table.occupant side = some conn := by
  obtain ⟨he, hc⟩ := SessionServer.sideOf_some h
  have hs : p.table.seatAt side = some e.seat := SessionServer.seatAt_of_entry hw he hp
  rw [Table.occupant, hs]
  exact congrArg some hc

theorem no_occupant_of_sideOf {p : Stepping} (hw : p.server.WellSeated) {conn : Conn} {side : Side}
    {e : SessionMember} (h : p.server.sideOf conn = some (side, e)) (hp : e.isPlayer = false) :
    p.table.seatAt side = none :=
  SessionServer.no_seat_of_entry hw (SessionServer.sideOf_some h).1 hp

theorem entry_of_occupant {p : Stepping} (hw : p.server.WellSeated) {conn : Conn} {side : Side}
    (h : p.table.occupant side = some conn) :
    ∃ e, p.server.entry side = some e ∧ e.isPlayer = true ∧ e.conn = conn := by
  simp only [Table.occupant, Option.map_eq_some_iff] at h
  obtain ⟨seat, hs, rfl⟩ := h
  obtain ⟨e, he, hp, rfl⟩ := SessionServer.entry_of_seatAt hw hs
  exact ⟨e, he, hp, rfl⟩

/-- A sender that holds no entry 0 or 1 is no player. -/
theorem not_seated_of_sideOf {p : Stepping} (hw : p.server.WellSeated) {conn : Conn}
    (h : p.server.sideOf conn = none) (side : Side) : p.table.occupant side ≠ some conn := by
  intro ho
  simp only [Table.occupant, Option.map_eq_some_iff] at ho
  obtain ⟨seat, hs, hc⟩ := ho
  exact SessionServer.sideOf_none hw h seat (List.mem_of_getElem? hs) hc

/-- A sender found at side 1 does not sit at side 0. -/
theorem sideOf_one_ne {p : Stepping} (hw : p.server.WellSeated) {conn : Conn} {e : SessionMember}
    (h : p.server.sideOf conn = some (1, e)) : p.table.occupant 0 ≠ some conn := by
  intro h0
  obtain ⟨a, ha, -, hc⟩ := entry_of_occupant hw h0
  obtain ⟨a', ha', hne⟩ := SessionServer.sideOf_one h
  rw [ha] at ha'
  cases ha'
  exact hne hc

end Sf4e.Session
