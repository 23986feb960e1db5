import Sf4e.Session.Runs
/-!
# Ready marks and the match call

A LobbyAllReady should answer two readies, one from each player. `stands` is
that notion, read off the history. The marks the server keeps belong to seats:
`leftover` says which of them no longer speak for the player in the seat.
-/
open Sf4e.Lib

namespace Sf4e.Session

/-- The connection sits in this player seat. -/
def Stepping.sits (p : Stepping) (conn : Conn) (side : Side) : Bool := p.table.occupant side = some conn

/-- The seat carries a ready mark. -/
def Stepping.marked (p : Stepping) (side : Side) : Prop := p.server.matchData.marked side

instance (p : Stepping) (side : Side) : Decidable (p.marked side) :=
  inferInstanceAs (Decidable (p.server.matchData.marked side))

/-- `hello` has given the sender an identity. -/
def registered (p : Stepping) (m : IncomingMsg) : Bool := (p.server.cidMap.find m.conn).isSome

def callsMatch (t : Taken Stepping Act Out) : Bool := t.out.any Out.isAllReady

def appliesResult (t : Taken Stepping Act Out) : Bool :=
  match t.act with
  | .message m => match m.msg with
    | .reportResults (some _) => registered t.pre m
    | _ => false
  | _ => false

/-- The LobbyReady the server takes from `conn` in this action, if it does. -/
def takesReady (t : Taken Stepping Act Out) (conn : Conn) : Option Bool :=
  match t.act with
  | .message m => match m.msg with
    | .lobbyReady (some request) => if m.conn = conn && registered t.pre m then some request.ready else none
    | _ => none
  | _ => none

/-- `conn` has sent ready since it took the seat, since the previous
LobbyAllReady and since the previous result, and has not withdrawn it. -/
def stands : Past → Conn → Side → Bool
  | [], _, _ => false
  | t :: h, conn, side =>
    if !t.pre.sits conn side || !t.post.sits conn side then false
    else if callsMatch t || appliesResult t then false
    else match takesReady t conn with
      | some ready => ready
      | none => stands h conn side

/-- A LobbyAllReady finds two different players seated whose readies stand. -/
def ReadyPair (h : Past) (p : Stepping) : Prop :=
  match p.table.roster.map (·.conn) with
  | [a, b] => a ≠ b ∧ stands h a 0 = true ∧ stands h b 1 = true
  | _ => False

instance (h : Past) (p : Stepping) : Decidable (ReadyPair h p) := by
  unfold ReadyPair
  split <;> infer_instance

/-- If the action broadcasts LobbyAllReady, both readies stand. -/
def CalledByBoth (h : Past) (p : Stepping) (a : Act) : Prop :=
  callsMatch (sessionServer.taken p a) = true → ReadyPair h p

instance (h : Past) (p : Stepping) (a : Act) : Decidable (CalledByBoth h p a) :=
  inferInstanceAs (Decidable (_ → _))

/-! ## When a mark is left over -/

/-- The seat whose mark a ready sets, if the action is one. -/
def setsMark (t : Taken Stepping Act Out) : Option Side :=
  match t.act with
  | .message m => match m.msg with
    | .lobbyReady (some request) =>
      if request.ready && registered t.pre m then (t.pre.server.sideOf m.conn).map (·.1) else none
    | _ => none
  | _ => none

/-- The seat's latest mark came from a spectator, or the seat has changed hands
since, or the mark has called a match already. -/
def leftover : Past → Side → Bool
  | [], _ => false
  | t :: h, side =>
    if setsMark t = some side then t.pre.table.occupant side = none
    else if callsMatch t || t.pre.table.occupant side ≠ t.post.table.occupant side then true
    else leftover h side

/-- A ready that completes the pair comes from a player and finds no leftover
mark at the other seat; after it, the rest of the Step brings no withdrawal and
no result. -/
def FreshMessage (h : Past) (p : Stepping) (m : IncomingMsg) : Prop :=
  match m.msg, p.server.sideOf m.conn with
  | .lobbyReady (some request), some (side, e) =>
    if request.ready then p.marked side.other → e.data.spectator = false ∧ leftover h side.other = false
    else p.bSendLobbyAllReady = false
  | .reportResults (some _), _ => p.bSendLobbyAllReady = false
  | _, _ => True

instance (h : Past) (p : Stepping) (m : IncomingMsg) : Decidable (FreshMessage h p m) := by
  unfold FreshMessage
  repeat' split
  all_goals infer_instance

def FreshReady (h : Past) (p : Stepping) (a : Act) : Prop :=
  match a with
  | .message m => registered p m = true → FreshMessage h p m
  | _ => True

instance (h : Past) (p : Stepping) (a : Act) : Decidable (FreshReady h p a) := by
  unfold FreshReady
  split <;> infer_instance

/-! ## The invariant -/

theorem readyPair_iff {h : Past} {p : Stepping} :
    ReadyPair h p ↔ ∃ a b, p.table.roster.map (·.conn) = [a, b] ∧ a ≠ b ∧ stands h a 0 = true ∧ stands h b 1 = true := by
  unfold ReadyPair
  split
  · rename_i a b hr
    rw [hr]
    exact ⟨fun hp => ⟨a, b, rfl, hp⟩, fun ⟨a', b', he, hp⟩ => by cases he; exact hp⟩
  · rename_i hno
    exact ⟨False.elim, fun ⟨a, b, he, _⟩ => hno a b he⟩

theorem eq_pair_of_getElem? {α : Type} {l : List α} {a b : α} (hl : l.length = 2) (ha : l[0]? = some a)
    (hb : l[1]? = some b) : l = [a, b] := by
  obtain ⟨x, y, rfl⟩ := List.length_eq_two.1 hl
  simp at ha hb
  rw [ha, hb]

structure ReadyInv (h : Past) (p : Stepping) : Prop where
  seated : p.server.WellSeated
  mid : p.bSendLobbyAllReady = true → midStep h = true
  live : ∀ side, p.marked side → leftover h side = false →
    ∃ conn, p.table.occupant side = some conn ∧ stands h conn side = true ∧
      (side = 1 → p.table.occupant 0 ≠ some conn)
  spent : p.server.matchData.isAllReady = true → p.bSendLobbyAllReady = false → ∀ side, leftover h side = true
  called : p.bSendLobbyAllReady = true → ReadyPair h p

theorem stands_keep {t : Taken Stepping Act Out} {h : Past} {conn : Conn} {side : Side}
    (hpre : t.pre.table.occupant side = some conn) (hpost : t.post.table.occupant side = some conn)
    (hcall : callsMatch t = false) (hres : appliesResult t = false)
    (htake : takesReady t conn = none ∨ takesReady t conn = some true)
    (hs : stands h conn side = true ∨ takesReady t conn = some true) : stands (t :: h) conn side = true := by
  have h1 : t.pre.sits conn side = true := by simp [Stepping.sits, hpre]
  have h2 : t.post.sits conn side = true := by simp [Stepping.sits, hpost]
  simp only [stands, h1, h2, hcall, hres, Bool.not_true, Bool.or_self, Bool.false_eq_true, if_false]
  rcases htake with ht | ht
  · rw [ht] at hs ⊢
    exact hs.resolve_right (by simp)
  · rw [ht]

theorem leftover_keep {t : Taken Stepping Act Out} {h : Past} {side : Side} (hset : setsMark t ≠ some side)
    (hl : leftover (t :: h) side = false) :
    t.pre.table.occupant side = t.post.table.occupant side ∧ leftover h side = false := by
  simp only [leftover, if_neg hset] at hl
  split at hl
  · cases hl
  · rename_i hno
    simp only [Bool.or_eq_true, decide_eq_true_eq, not_or, not_not] at hno
    exact ⟨hno.2, hl⟩

theorem leftover_stays {t : Taken Stepping Act Out} {h : Past} {side : Side} (hset : setsMark t ≠ some side)
    (hl : leftover h side = true) : leftover (t :: h) side = true := by
  simp only [leftover, if_neg hset]
  split
  · rfl
  · exact hl

/-- The latest ready of the player at `conn`, carried over an action that takes
no withdrawal from it. -/
theorem pair_keep {t : Taken Stepping Act Out} {h : Past} (hr : t.post.table.roster.map (·.conn) = t.pre.table.roster.map (·.conn))
    (hcall : callsMatch t = false) (hres : appliesResult t = false)
    (htake : ∀ side conn, t.pre.table.occupant side = some conn → takesReady t conn ≠ some false)
    (hp : ReadyPair h t.pre) : ReadyPair (t :: h) t.post := by
  obtain ⟨a, b, hab, hne, ha, hb⟩ := readyPair_iff.1 hp
  refine readyPair_iff.2 ⟨a, b, hr.trans hab, hne, ?_, ?_⟩
  all_goals
    have hpre0 : t.pre.table.occupant 0 = some a := by rw [Table.occupant_eq, hab]; rfl
    have hpre1 : t.pre.table.occupant 1 = some b := by rw [Table.occupant_eq, hab]; rfl
    have htake' : ∀ side conn, t.pre.table.occupant side = some conn →
        takesReady t conn = none ∨ takesReady t conn = some true := by
      intro side conn hc
      have := htake side conn hc
      cases htr : takesReady t conn with
      | none => exact .inl rfl
      | some ready => cases ready <;> simp_all
  · exact stands_keep hpre0 ((Table.occupant_congr hr 0).trans hpre0) hcall hres (htake' 0 a hpre0) (.inl ha)
  · exact stands_keep hpre1 ((Table.occupant_congr hr 1).trans hpre1) hcall hres (htake' 1 b hpre1) (.inl hb)

/-- An action that touches no mark and takes no ready from a seated player. -/
structure Calm (t : Taken Stepping Act Out) : Prop where
  marks : t.post.server.matchData.readyMessageNum = t.pre.server.matchData.readyMessageNum
  latch : t.post.bSendLobbyAllReady = t.pre.bSendLobbyAllReady
  call : callsMatch t = false
  result : appliesResult t = false
  set : setsMark t = none
  take : ∀ side conn, t.pre.table.occupant side = some conn → takesReady t conn = none
  front : ∀ conn, t.pre.table.occupant 1 = some conn → t.post.table.occupant 1 = some conn →
    t.post.table.occupant 0 = t.pre.table.occupant 0
  full : t.pre.bSendLobbyAllReady = true → t.pre.table.roster.length = 2 →
    t.post.table.roster.map (·.conn) = t.pre.table.roster.map (·.conn)

theorem marked_of_marks {p q : Stepping}
    (hm : q.server.matchData.readyMessageNum = p.server.matchData.readyMessageNum) (side : Side) :
    q.marked side ↔ p.marked side := by
  unfold Stepping.marked MatchData.marked
  rw [hm]

theorem isAllReady_of_marks {d d' : MatchData} (hm : d'.readyMessageNum = d.readyMessageNum) :
    d'.isAllReady = d.isAllReady := by
  simp only [MatchData.isAllReady, hm]

theorem ReadyInv.calm {t : Taken Stepping Act Out} {h : Past} (hI : ReadyInv h t.pre) (hc : Calm t)
    (hw : t.post.server.WellSeated) (hmid : t.post.bSendLobbyAllReady = true → midStep (t :: h) = true) :
    ReadyInv (t :: h) t.post where
  seated := hw
  mid := hmid
  live := by
    intro side hm hl
    have hset : setsMark t ≠ some side := by rw [hc.set]; simp
    obtain ⟨hocc, hl'⟩ := leftover_keep hset hl
    obtain ⟨conn, ho, hs, h1⟩ := hI.live side ((marked_of_marks hc.marks side).1 hm) hl'
    have hpost : t.post.table.occupant side = some conn := hocc ▸ ho
    refine ⟨conn, hpost, stands_keep ho hpost hc.call hc.result (.inl (hc.take side conn ho)) (.inl hs), ?_⟩
    intro he
    subst he
    rw [hc.front conn ho hpost]
    exact h1 rfl
  spent := by
    intro hall hlatch side
    have hset : setsMark t ≠ some side := by rw [hc.set]; simp
    exact leftover_stays hset
      (hI.spent (isAllReady_of_marks hc.marks ▸ hall) (hc.latch ▸ hlatch) side)
  called := by
    intro hlatch
    have hpre := hc.latch ▸ hlatch
    have hp := hI.called hpre
    obtain ⟨a, b, hab, -⟩ := readyPair_iff.1 hp
    have hlen : t.pre.table.roster.length = 2 := by
      rw [← List.length_map (f := (·.conn)), hab]
      rfl
    refine pair_keep (hc.full hpre hlen) hc.call hc.result (fun side conn ho => ?_) hp
    rw [hc.take side conn ho]
    simp

/-! ## One step -/

theorem call_message (p : Stepping) (m : IncomingMsg) :
    callsMatch (sessionServer.taken p (.message m)) = false :=
  List.any_eq_false.2 fun o ho => by simp [Out.not_allReady (message_quiet p m o ho)]

theorem call_event (p : Stepping) (e : Event) : callsMatch (sessionServer.taken p (.event e)) = false :=
  List.any_eq_false.2 fun o ho => by simp [Out.not_allReady (event_quiet p e o ho)]

theorem call_endStep (p : Stepping) (tick : Tick) :
    callsMatch (sessionServer.taken p (.endStep tick)) = p.bSendLobbyAllReady := finish_allReady p tick

/-- A message that is no LobbyReady takes none. -/
theorem take_of_msg {p : Stepping} {m : IncomingMsg} (hm : ∀ request, m.msg ≠ .lobbyReady (some request)) :
    setsMark (sessionServer.taken p (.message m)) = none ∧
      ∀ conn, takesReady (sessionServer.taken p (.message m)) conn = none := by
  constructor
  · simp only [setsMark, Machine.taken]
  · intro conn
    simp only [takesReady, Machine.taken]

theorem result_of_msg {p : Stepping} {m : IncomingMsg} (hm : ∀ loser, m.msg ≠ .reportResults (some loser)) :
    appliesResult (sessionServer.taken p (.message m)) = false := by
  simp only [appliesResult, Machine.taken]

/-- A message that keeps every seat and every mark. -/
theorem calm_message {p : Stepping} {m : IncomingMsg} {T : Table}
    (hT : (sessionServer.next p (.message m)).1.table = T)
    (hmarks : T.matchData.readyMessageNum = p.table.matchData.readyMessageNum) (hcalled : T.called = p.table.called)
    (hroster : T.roster.map (·.conn) = p.table.roster.map (·.conn))
    (hres : appliesResult (sessionServer.taken p (.message m)) = false)
    (hset : setsMark (sessionServer.taken p (.message m)) = none)
    (htake : ∀ side conn, p.table.occupant side = some conn →
      takesReady (sessionServer.taken p (.message m)) conn = none) :
    Calm (sessionServer.taken p (.message m)) where
  marks := by subst hT; exact hmarks
  latch := by subst hT; exact hcalled
  call := call_message p m
  result := hres
  set := hset
  take := htake
  front := by subst hT; exact fun _ _ _ => Table.occupant_congr hroster 0
  full := by subst hT; exact fun _ _ => hroster

theorem ReadyInv.other_message {h : Past} {p : Stepping} (hI : ReadyInv h p) {m : IncomingMsg} {T : Table}
    (hT : (sessionServer.next p (.message m)).1.table = T)
    (hmarks : T.matchData.readyMessageNum = p.table.matchData.readyMessageNum) (hcalled : T.called = p.table.called)
    (hroster : T.roster.map (·.conn) = p.table.roster.map (·.conn))
    (hnoready : ∀ request, m.msg ≠ .lobbyReady (some request))
    (hnoresult : ∀ loser, m.msg ≠ .reportResults (some loser)) :
    ReadyInv (sessionServer.taken p (.message m) :: h) (sessionServer.next p (.message m)).1 := by
  obtain ⟨hset, htake⟩ := take_of_msg (p := p) hnoready
  have hcalm := calm_message hT hmarks hcalled hroster (result_of_msg hnoresult) hset fun _ conn _ => htake conn
  exact hI.calm hcalm (wellSeated_next hI.seated _) fun _ => rfl

theorem ReadyInv.idle_message {h : Past} {p : Stepping} (hI : ReadyInv h p) {m : IncomingMsg}
    (hidle : Idle p (.message m)) (hT : (sessionServer.next p (.message m)).1.table = p.table)
    (hC : FreshReady h p (.message m)) :
    ReadyInv (sessionServer.taken p (.message m) :: h) (sessionServer.next p (.message m)).1 := by
  have hw := wellSeated_next hI.seated (.message m)
  have hres : appliesResult (sessionServer.taken p (.message m)) = false := by
    simp only [appliesResult, Machine.taken]
    split
    · rename_i loser he
      rcases hidle with hno | hidle
      · simp [registered, hno]
      · rw [he] at hidle
        exact hidle.elim
    · rfl
  by_cases hready : ∃ request, m.msg = .lobbyReady (some request)
  · obtain ⟨request, hmsg⟩ := hready
    rcases hidle with hno | hidle
    · -- the sender has no identity
      refine ReadyInv.calm hI (calm_message hT rfl rfl rfl hres ?_ fun side conn _ => ?_) hw fun _ => rfl
      · simp [setsMark, Machine.taken, hmsg, registered, hno]
      · simp [takesReady, Machine.taken, hmsg, registered, hno]
    · rw [hmsg] at hidle
      rcases hidle with hside | ⟨hfalse, hall⟩
      · -- the sender has no seat
        refine ReadyInv.calm hI (calm_message hT rfl rfl rfl hres ?_ fun side conn ho => ?_) hw fun _ => rfl
        · simp [setsMark, Machine.taken, hmsg, hside]
        · have hne : m.conn ≠ conn := fun hc => not_seated_of_sideOf hI.seated hside side (hc ▸ ho)
          simp [takesReady, Machine.taken, hmsg, hne]
      · by_cases hreg : registered p m = true ∧ p.server.sideOf m.conn ≠ none
        · -- a withdrawal that comes too late: every mark is left over already
          have hlatch : p.bSendLobbyAllReady = false := by
            have := hC hreg.1
            unfold FreshMessage at this
            rw [hmsg] at this
            cases hside : p.server.sideOf m.conn with
            | none => exact absurd hside hreg.2
            | some found =>
              rw [hside] at this
              simpa [hfalse] using this
          have hset : ∀ side, setsMark (sessionServer.taken p (.message m)) ≠ some side := by
            intro side
            simp [setsMark, Machine.taken, hmsg, hfalse]
          have hspent := hI.spent hall hlatch
          have hlo : ∀ side, leftover (sessionServer.taken p (.message m) :: h) side = true :=
            fun side => leftover_stays (hset side) (hspent side)
          have hcalled : (sessionServer.next p (.message m)).1.bSendLobbyAllReady = false :=
            (congrArg Table.called hT).trans hlatch
          exact ⟨hw, fun _ => rfl, fun side _ hl => by simp [hlo side] at hl, fun _ _ => hlo,
            fun hl => by rw [hcalled] at hl; cases hl⟩
        · refine ReadyInv.calm hI (calm_message hT rfl rfl rfl hres ?_ fun side conn ho => ?_) hw fun _ => rfl
          · simp [setsMark, Machine.taken, hmsg, hfalse]
          · rcases not_and_or.1 hreg with hreg | hside
            · simp [takesReady, Machine.taken, hmsg, hreg]
            · have hne : m.conn ≠ conn :=
                fun hc => not_seated_of_sideOf hI.seated (not_not.1 hside) side (hc ▸ ho)
              simp [takesReady, Machine.taken, hmsg, hne]
  · have htake := take_of_msg (p := p) (m := m) fun request he => hready ⟨request, he⟩
    exact ReadyInv.calm hI (calm_message hT rfl rfl rfl hres htake.1 fun _ conn _ => htake.2 conn) hw fun _ => rfl

theorem ReadyInv.ready {h : Past} {p : Stepping} (hI : ReadyInv h p) {m : IncomingMsg} {cid : ConnectionID}
    {request : LobbyReady} {side : Side} {e : SessionMember} (hcid : p.server.cidMap.find m.conn = some cid)
    (hmsg : m.msg = .lobbyReady (some request)) (hside : p.server.sideOf m.conn = some (side, e))
    (hready : request.ready = true)
    (hT : (sessionServer.next p (.message m)).1.table = p.table.ready side m.messageNumber request)
    (hC : FreshReady h p (.message m)) :
    ReadyInv (sessionServer.taken p (.message m) :: h) (sessionServer.next p (.message m)).1 := by
  have hw := wellSeated_next hI.seated (.message m)
  have hreg : registered p m = true := by simp [registered, hcid]
  have hcall := call_message p m
  have hres : appliesResult (sessionServer.taken p (.message m)) = false :=
    result_of_msg fun loser he => by rw [hmsg] at he; cases he
  have hset : setsMark (sessionServer.taken p (.message m)) = some side := by
    simp [setsMark, Machine.taken, hmsg, hready, hreg, hside]
  have htake : ∀ conn, takesReady (sessionServer.taken p (.message m)) conn = none ∨
      takesReady (sessionServer.taken p (.message m)) conn = some true := by
    intro conn
    by_cases hc : m.conn = conn
    · exact .inr (by simp [takesReady, Machine.taken, hmsg, hc, hreg, hready])
    · exact .inl (by simp [takesReady, Machine.taken, hmsg, hc])
  have hocc : ∀ s, (sessionServer.next p (.message m)).1.table.occupant s = p.table.occupant s := by
    intro s
    rw [hT]
    exact Table.occupant_congr (by rw [Table.conns_ready]) s
  have hmarked : ∀ s, (sessionServer.next p (.message m)).1.marked s ↔ s = side ∨ p.marked s := by
    intro s
    have := Table.marked_ready p.table side m.messageNumber request s
    rw [← hT] at this
    exact this
  -- the mark just set, and the one at the other seat
  have hlive : ∀ s, (sessionServer.next p (.message m)).1.marked s →
      leftover (sessionServer.taken p (.message m) :: h) s = false →
      ∃ conn, (sessionServer.next p (.message m)).1.table.occupant s = some conn ∧
        stands (sessionServer.taken p (.message m) :: h) conn s = true ∧
        (s = 1 → (sessionServer.next p (.message m)).1.table.occupant 0 ≠ some conn) := by
    intro s hm hl
    rcases Side.eq_or_other side s with rfl | rfl
    · have hsome : p.table.occupant s ≠ none := by
        simp only [leftover, if_pos hset, decide_eq_false_iff_not] at hl
        exact hl
      have hmine : p.table.occupant s = some m.conn := by
        cases hp : e.isPlayer with
        | true => exact occupant_of_sideOf hI.seated hside hp
        | false => exact absurd (by rw [Table.occupant, no_occupant_of_sideOf hI.seated hside hp]; rfl) hsome
      refine ⟨m.conn, (hocc s).trans hmine, ?_, ?_⟩
      · exact stands_keep hmine ((hocc s).trans hmine) hcall hres (htake m.conn)
          (.inr (by simp [takesReady, Machine.taken, hmsg, hreg, hready]))
      · intro h1
        subst h1
        rw [hocc]
        exact sideOf_one_ne hI.seated hside
    · have hne : setsMark (sessionServer.taken p (.message m)) ≠ some side.other := by
        rw [hset]
        intro he
        exact Side.other_ne side (Option.some.inj he).symm
      obtain ⟨-, hl'⟩ := leftover_keep hne hl
      have hm' : p.marked side.other := ((hmarked side.other).1 hm).resolve_left (Side.other_ne side)
      obtain ⟨conn, ho, hs, h1⟩ := hI.live side.other hm' hl'
      refine ⟨conn, (hocc _).trans ho, ?_, fun he => by rw [hocc]; exact h1 he⟩
      exact stands_keep ho ((hocc _).trans ho) hcall hres (htake conn) (.inl hs)
  refine ⟨hw, fun _ => rfl, hlive, ?_, ?_⟩
  · intro hall hlatch
    have hcalled := Table.called_ready p.table side m.messageNumber request
    rw [← hT] at hcalled
    have : (sessionServer.next p (.message m)).1.bSendLobbyAllReady =
        (p.bSendLobbyAllReady || (sessionServer.next p (.message m)).1.server.matchData.isAllReady) := hcalled
    rw [hlatch, hall, Bool.or_true] at this
    cases this
  · intro hlatch
    have hcalled : (sessionServer.next p (.message m)).1.bSendLobbyAllReady =
        (p.bSendLobbyAllReady || (sessionServer.next p (.message m)).1.server.matchData.isAllReady) := by
      have := Table.called_ready p.table side m.messageNumber request
      rw [← hT] at this
      exact this
    by_cases hpre : p.bSendLobbyAllReady = true
    · refine pair_keep (by rw [show (sessionServer.taken p (.message m)).post.table = _ from hT, Table.conns_ready]; rfl)
        hcall hres (fun s conn _ => ?_) (hI.called hpre)
      rcases htake conn with ht | ht <;> rw [ht] <;> simp
    · -- this ready completes the pair
      have hall : (sessionServer.next p (.message m)).1.server.matchData.isAllReady = true := by
        have hpre' : p.bSendLobbyAllReady = false := by simpa using hpre
        rw [hlatch, hpre', Bool.false_or] at hcalled
        exact hcalled.symm
      have hmarks : ∀ s, (sessionServer.next p (.message m)).1.marked s := MatchData.isAllReady_iff.1 hall
      have hother : p.marked side.other :=
        ((hmarked side.other).1 (hmarks side.other)).resolve_left (Side.other_ne side)
      have hfresh : e.data.spectator = false ∧ leftover h side.other = false := by
        have := hC hreg
        simp only [FreshMessage, hmsg, hside, hready, if_true] at this
        exact this hother
      have hplayer : e.isPlayer = true := by simp [SessionMember.isPlayer, hfresh.1]
      have hmine : p.table.occupant side = some m.conn := occupant_of_sideOf hI.seated hside hplayer
      have hl : ∀ s, leftover (sessionServer.taken p (.message m) :: h) s = false := by
        intro s
        rcases Side.eq_or_other side s with rfl | rfl
        · simp only [leftover, if_pos hset, decide_eq_false_iff_not]
          exact fun hn => by rw [show p.table.occupant s = none from hn] at hmine; cases hmine
        · have hne : setsMark (sessionServer.taken p (.message m)) ≠ some side.other := by
            rw [hset]
            intro he
            exact Side.other_ne side (Option.some.inj he).symm
          have hsame : (sessionServer.taken p (.message m)).pre.table.occupant side.other =
              (sessionServer.taken p (.message m)).post.table.occupant side.other := (hocc _).symm
          simp only [leftover, if_neg hne, hcall, hsame, Bool.false_or, ne_eq, not_true, decide_false,
            Bool.false_eq_true, if_false]
          exact hfresh.2
      obtain ⟨a, ha, hsa, -⟩ := hlive 0 (hmarks 0) (hl 0)
      obtain ⟨b, hb, hsb, hne⟩ := hlive 1 (hmarks 1) (hl 1)
      refine readyPair_iff.2 ⟨a, b, ?_, fun he => hne rfl (he ▸ ha), hsa, hsb⟩
      have htwo := Table.two_of_occupant hb
      have hle := hw.two
      have hlen : (sessionServer.next p (.message m)).1.table.roster.length = 2 := Nat.le_antisymm hle htwo
      rw [Table.occupant_eq] at ha hb
      exact eq_pair_of_getElem? (by simpa using hlen) ha hb

theorem ReadyInv.unready {h : Past} {p : Stepping} (hI : ReadyInv h p) {m : IncomingMsg} {cid : ConnectionID}
    {request : LobbyReady} {side : Side} {e : SessionMember} (hcid : p.server.cidMap.find m.conn = some cid)
    (hmsg : m.msg = .lobbyReady (some request)) (hside : p.server.sideOf m.conn = some (side, e))
    (hready : request.ready = false)
    (hT : (sessionServer.next p (.message m)).1.table = p.table.unready side)
    (hC : FreshReady h p (.message m)) :
    ReadyInv (sessionServer.taken p (.message m) :: h) (sessionServer.next p (.message m)).1 := by
  have hw := wellSeated_next hI.seated (.message m)
  have hreg : registered p m = true := by simp [registered, hcid]
  have hres : appliesResult (sessionServer.taken p (.message m)) = false :=
    result_of_msg fun loser he => by rw [hmsg] at he; cases he
  have hlatch : p.bSendLobbyAllReady = false := by
    have := hC hreg
    simpa [FreshMessage, hmsg, hside, hready] using this
  have hcalled : (sessionServer.next p (.message m)).1.bSendLobbyAllReady = false :=
    (congrArg Table.called hT).trans hlatch
  have hmd : (sessionServer.next p (.message m)).1.server.matchData.readyMessageNum =
      p.server.matchData.readyMessageNum.set side (-1) := congrArg (fun T => T.matchData.readyMessageNum) hT
  have hgone : ¬ (sessionServer.next p (.message m)).1.marked side := by
    simp [Stepping.marked, MatchData.marked, hmd]
  have hset : setsMark (sessionServer.taken p (.message m)) = none := by
    simp [setsMark, Machine.taken, hmsg, hready]
  have hocc : ∀ s, (sessionServer.next p (.message m)).1.table.occupant s = p.table.occupant s :=
    fun s => by rw [hT]; rfl
  refine ⟨hw, fun _ => rfl, ?_, ?_, fun hl => by rw [hcalled] at hl; cases hl⟩
  · intro s hm hl
    rcases Side.eq_or_other side s with rfl | rfl
    · exact absurd hm hgone
    · have hm' : p.marked side.other := by
        simpa [Stepping.marked, MatchData.marked, hmd] using hm
      have hne : setsMark (sessionServer.taken p (.message m)) ≠ some side.other := by rw [hset]; simp
      obtain ⟨-, hl'⟩ := leftover_keep hne hl
      obtain ⟨conn, ho, hs, h1⟩ := hI.live side.other hm' hl'
      -- the sender is not the player of the other seat
      have hconn' : m.conn ≠ conn := by
        rintro rfl
        cases side using Side.cases with
        | zero =>
          cases hp : e.isPlayer with
          | true => exact h1 rfl (occupant_of_sideOf hI.seated hside hp)
          | false =>
            have h2 : 2 ≤ p.server.roster.length := Table.two_of_occupant ho
            have h0 : p.server.roster[0]? = none := no_occupant_of_sideOf hI.seated hside hp
            have := List.getElem?_eq_none_iff.1 h0
            omega
        | one => exact sideOf_one_ne hI.seated hside ho
      have htake : takesReady (sessionServer.taken p (.message m)) conn = none := by
        simp [takesReady, Machine.taken, hmsg, hconn']
      exact ⟨conn, (hocc _).trans ho,
        stands_keep ho ((hocc _).trans ho) (call_message p m) hres (.inl htake) (.inl hs),
        fun he => by rw [hocc]; exact h1 he⟩
  · intro hall _
    exact absurd (MatchData.isAllReady_iff.1 hall side) hgone

/-- No mark is left: nothing to say about any. -/
theorem ReadyInv.unmarked {t : Taken Stepping Act Out} {h : Past} (hw : t.post.server.WellSeated)
    (hm : t.post.server.matchData.readyMessageNum = ⟨-1, -1⟩) (hl : t.post.bSendLobbyAllReady = false) :
    ReadyInv (t :: h) t.post := by
  have hno : ∀ side, ¬ t.post.marked side := by
    intro side
    unfold Stepping.marked MatchData.marked
    rw [hm]
    match side with
    | 0 => simp
    | 1 => simp
  refine ⟨hw, ?_, fun side hs => absurd hs (hno side), ?_, ?_⟩
  · intro hl'
    rw [hl] at hl'
    cases hl'
  · intro hall _
    exact absurd (MatchData.isAllReady_iff.1 hall 0) (hno 0)
  · intro hl'
    rw [hl] at hl'
    cases hl'

theorem ReadyInv.finish {h : Past} {p : Stepping} (hI : ReadyInv h p) {tick : Tick}
    (hT : (sessionServer.next p (.endStep tick)).1.table = p.table.finish) :
    ReadyInv (sessionServer.taken p (.endStep tick) :: h) (sessionServer.next p (.endStep tick)).1 := by
  have hw := wellSeated_next hI.seated (.endStep tick)
  have hcalled : (sessionServer.next p (.endStep tick)).1.bSendLobbyAllReady = false := congrArg Table.called hT
  have hset : ∀ side, setsMark (sessionServer.taken p (.endStep tick)) ≠ some side := fun side he => by cases he
  have hocc : ∀ s, (sessionServer.next p (.endStep tick)).1.table.occupant s = p.table.occupant s := by
    intro s
    rw [hT]
    exact Table.occupant_congr (by rw [Table.roster_finish]) s
  have hmarked : ∀ s, (sessionServer.next p (.endStep tick)).1.marked s → p.marked s := by
    intro s hm
    have hm' : (sessionServer.next p (.endStep tick)).1.table.matchData.marked s := hm
    rw [hT] at hm'
    exact Table.marked_finish hm'
  have hno : ∀ {P : Prop}, (sessionServer.next p (.endStep tick)).1.bSendLobbyAllReady = true → P := by
    intro P hl
    rw [hcalled] at hl
    cases hl
  refine ⟨hw, hno, ?_, ?_, hno⟩
  · intro s hm hl
    obtain ⟨-, hl'⟩ := leftover_keep (hset s) hl
    obtain ⟨conn, ho, hs, h1⟩ := hI.live s (hmarked s hm) hl'
    have hcall : callsMatch (sessionServer.taken p (.endStep tick)) = false := by
      simp only [leftover, if_neg (hset s)] at hl
      split at hl
      · cases hl
      · rename_i hno
        simp only [Bool.or_eq_true, not_or, Bool.not_eq_true] at hno
        exact hno.1
    exact ⟨conn, (hocc s).trans ho, stands_keep ho ((hocc s).trans ho) hcall rfl (.inl rfl) (.inl hs),
      fun he => by rw [hocc]; exact h1 he⟩
  · intro hall _ side
    cases hpre : p.bSendLobbyAllReady with
    | true =>
      -- the marks have just called a match
      simp only [leftover, if_neg (hset side), call_endStep, hpre, Bool.true_or, if_true]
    | false =>
      have hall' : p.server.matchData.isAllReady = true :=
        MatchData.isAllReady_iff.2 fun s => hmarked s (MatchData.isAllReady_iff.1 hall s)
      exact leftover_stays (hset side) (hI.spent hall' hpre side)

theorem ReadyInv.event {h : Past} {p : Stepping} (hI : ReadyInv h p) {e : Event}
    (hB : Between h p (.event e))
    (hmarks : (sessionServer.next p (.event e)).1.table.matchData.readyMessageNum =
      p.table.matchData.readyMessageNum)
    (hcalled : (sessionServer.next p (.event e)).1.table.called = p.table.called)
    (hfront : ∀ conn, p.table.occupant 1 = some conn →
      (sessionServer.next p (.event e)).1.table.occupant 1 = some conn →
      (sessionServer.next p (.event e)).1.table.occupant 0 = p.table.occupant 0) :
    ReadyInv (sessionServer.taken p (.event e) :: h) (sessionServer.next p (.event e)).1 := by
  -- between Steps no call is pending
  have hrest : p.bSendLobbyAllReady = false := by
    cases hl : p.bSendLobbyAllReady with
    | false => rfl
    | true => exact absurd (hI.mid hl) (by rw [show midStep h = false from hB]; simp)
  refine ReadyInv.calm hI ⟨hmarks, hcalled, call_event p e, rfl, rfl, fun _ _ _ => rfl, hfront, ?_⟩
    (wellSeated_next hI.seated _) ?_
  · intro hl
    rw [show (sessionServer.taken p (.event e)).pre.bSendLobbyAllReady = false from hrest] at hl
    cases hl
  · intro hl
    rw [show (sessionServer.taken p (.event e)).post.bSendLobbyAllReady = false from hcalled.trans hrest] at hl
    cases hl

/-- Taking a player out either moves the second seat or leaves both alone. -/
theorem occupant_leave {t : Table} (h2 : t.roster.length ≤ 2) {gone conn : Conn}
    (hpost : (t.leave gone).occupant 1 = some conn) :
    (t.leave gone).occupant 0 = t.occupant 0 := by
  have hlen := Table.two_of_occupant hpost
  have hkeep : (t.leave gone).roster = t.roster := by
    refine List.Sublist.eq_of_length_le List.eraseP_sublist ?_
    exact Nat.le_trans h2 hlen
  exact Table.occupant_congr (congrArg _ hkeep) 0

theorem readyInv_step {h : Past} {p : Stepping} {a : Act} (hI : ReadyInv h p)
    (hC : FreshReady h p a ∧ Between h p a) :
    ReadyInv (sessionServer.taken p a :: h) (sessionServer.next p a).1 := by
  have hw := wellSeated_next hI.seated a
  have he := effect_of hI.seated a
  generalize hT : (sessionServer.next p a).1.table = T at he
  cases he with
  | idle hidle =>
    cases a with
    | message m => exact hI.idle_message hidle hT hC.1
    | endStep tick => exact hidle.elim
    | event e => exact hI.event hC.2 (by rw [hT]) (by rw [hT]) (fun _ _ _ => by rw [hT])
  | @sit m cid request hcid hmsg hrole hok =>
    have hroom := SessionServer.room_of_joinRefusal hok hrole
    have hone : ∀ conn, p.table.occupant 1 ≠ some conn := by
      intro conn ho
      have : 2 ≤ p.server.roster.length := Table.two_of_occupant ho
      omega
    have htake := take_of_msg (p := p) (m := m) fun r he => by rw [hmsg] at he; cases he
    have hres := result_of_msg (p := p) (m := m) fun r he => by rw [hmsg] at he; cases he
    refine hI.calm ⟨congrArg (fun T => T.matchData.readyMessageNum) hT, congrArg Table.called hT,
      call_message p m, hres, htake.1, fun _ conn _ => htake.2 conn, fun conn ho => absurd ho (hone conn), ?_⟩
      hw fun _ => rfl
    intro _ hlen
    have : p.server.roster.length = 2 := hlen
    omega
  | @pick m cid chara side e hcid hmsg hside hvalid =>
    exact hI.other_message hT rfl rfl rfl (by simp [hmsg]) (by simp [hmsg])
  | @seed m cid rngSeed e hcid hmsg hside =>
    exact hI.other_message hT rfl rfl rfl (by simp [hmsg]) (by simp [hmsg])
  | @stage m cid stageID e hcid hmsg hside hvalid =>
    exact hI.other_message hT rfl rfl rfl (by simp [hmsg]) (by simp [hmsg])
  | @load m cid hcid hmsg =>
    exact hI.other_message hT rfl rfl (Table.conns_load _ _) (by simp [hmsg]) (by simp [hmsg])
  | ready hcid hmsg hside hready => exact hI.ready hcid hmsg hside hready hT hC.1
  | unready hcid hmsg hside hready hopen => exact hI.unready hcid hmsg hside hready hT hC.1
  | @result m cid loser hcid hmsg =>
    have hlatch : p.bSendLobbyAllReady = false := by
      have := hC.1 (by simp [registered, hcid])
      simpa [FreshMessage, hmsg] using this
    refine ReadyInv.unmarked hw (congrArg (fun T => T.matchData.readyMessageNum) hT) ?_
    have hcalled : (p.table.result loser.toInt).called = p.table.called := by
      unfold Table.result
      split <;> rfl
    exact ((congrArg Table.called hT).trans hcalled).trans hlatch
  | @leave conn =>
    apply hI.event hC.2 (by rw [hT]; rfl) (by rw [hT]; rfl)
    intro c _ hpost
    rw [hT] at hpost ⊢
    exact occupant_leave hI.seated.two hpost
  | create | release =>
    refine ReadyInv.unmarked hw (congrArg (fun T => T.matchData.readyMessageNum) hT) ?_
    refine (congrArg Table.called hT).trans ?_
    show p.bSendLobbyAllReady = false
    cases hl : p.bSendLobbyAllReady with
    | false => rfl
    | true => exact absurd (hI.mid hl) (by rw [show midStep h = false from hC.2]; simp)
  | unload =>
    apply hI.event hC.2 (by rw [hT]; rfl) (by rw [hT]; rfl)
    intro c _ _
    rw [hT]
    exact Table.occupant_congr (Table.conns_unload _) 0
  | finish => exact hI.finish hT

theorem readyInv_start (cfg : HostConfig) : ReadyInv [] (start cfg) where
  seated := wellSeated_start cfg
  mid hl := by cases hl
  live side hm := by
    match side with
    | 0 => exact absurd rfl hm
    | 1 => exact absurd rfl hm
  spent hall := by cases hall
  called hl := by cases hl

/-! ## The match call -/

/-- In a run whose readies are all fresh, every LobbyAllReady answers a standing
ready of each of the two seated players. -/
theorem allReady_answers_both (cfg : HostConfig) (calls : List Call)
    (h : sessionServer.Meets FreshReady (start cfg) [] (acts calls)) :
    sessionServer.Meets CalledByBoth (start cfg) [] (acts calls) := by
  refine Machine.meets_of_inv ReadyInv (fun _ _ _ hI hC => readyInv_step hI hC) ?_ (readyInv_start cfg)
    (h.and (meets_between _ _ rfl calls))
  intro past p a hI _ hcall
  cases a with
  | message m => rw [call_message] at hcall; cases hcall
  | event e => rw [call_event] at hcall; cases hcall
  | endStep tick =>
    rw [call_endStep] at hcall
    exact hI.called hcall

/-- Two players sit down and both ready up in one Step: the match is called. -/
theorem allReady_answers_both_once :
    (sessionServer.outs (start (lobbyHost 0)) (acts Sample.bothReady)).any Out.isAllReady = true ∧
      sessionServer.Meets CalledByBoth (start (lobbyHost 0)) [] (acts Sample.bothReady) :=
  ⟨by decide +kernel, allReady_answers_both _ _ (by decide +kernel)⟩

/-- Connection 2 readies and leaves, connection 3 takes the seat, and the ready
of connection 1 calls a match connection 3 never agreed to. -/
theorem allReady_for_an_heir :
    ¬ ∀ (cfg : HostConfig) (calls : List Call), sessionServer.Meets CalledByBoth (start cfg) [] (acts calls) := by
  intro h
  have hrun := h (lobbyHost 0)
    (Sample.twoPlayers ++ [Sample.step [Sample.say 2 Sample.ready], .event (.closed 2 true)] ++
      Sample.enter 3 "C" false ++ [Sample.step [Sample.say 1 Sample.ready]])
  exact absurd hrun (by decide +kernel)

end Sf4e.Session
