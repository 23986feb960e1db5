import Sf4e.Session.Picks
/-!
# The parameters of a called match

Each client configures the match from the latest update it has. From the call
of a match to its end, all updates should therefore carry the same parameters.
A report does not say which match it is about; `late` stands for the answer, and
the theorem holds whatever it is.
-/
open Sf4e.Lib

namespace Sf4e.Session

/-- What a client reads off an update when it configures a match. -/
structure Params where
  picks : Sides CharaConditions
  stageID : Int
  rngSeed : UInt32
  inputDelay : Sides Int32
  seats : List ConnectionID
  deriving DecidableEq

def paramsOf (u : LobbyData × MatchData) : Params where
  picks := u.2.chara
  stageID := u.2.stageID
  rngSeed := u.2.rngSeed
  inputDelay := u.2.inputDelay
  seats := (u.1.members.filter fun d => !d.spectator).map (·.connId)

/-- The updates broadcast in an action. -/
def updates (out : List Out) : List (LobbyData × MatchData) := out.filterMap Out.update?

/-- The parameters of the update sent with LobbyAllReady. -/
def calledWith (t : Taken Stepping Act Out) : Option Params :=
  if callsMatch t then (updates t.out).getLast?.map paramsOf else none

section

variable (late : Past → IncomingMsg → Bool)

/-- The match called before is over: its result is applied, or a seated player leaves. -/
def endsMatch (t : Taken Stepping Act Out) (h : Past) : Bool :=
  match t.act with
  | .message m => match m.msg with
    | .reportResults (some _) => registered t.pre m && !late h m
    | _ => false
  | .event (.closed conn true) => t.pre.table.roster.any fun seat => seat.conn = conn
  | .event (.create _ _ _) => t.pre.table.roster ≠ []
  | .event .release => t.pre.table.roster ≠ []
  | _ => false

/-- The parameters of the calls that are not over yet. -/
def openCalls : Past → List Params
  | [] => []
  | t :: h => (calledWith t).toList ++ if endsMatch late t h then [] else openCalls h

/-- Every update carries the parameters of every call that is not over. -/
def ParamsFrozen (h : Past) (p : Stepping) (a : Act) : Prop :=
  ∀ u ∈ updates (sessionServer.next p a).2, ∀ params ∈ openCalls late (sessionServer.taken p a :: h),
    paramsOf u = params

instance (h : Past) (p : Stepping) (a : Act) : Decidable (ParamsFrozen late h p a) := by
  unfold ParamsFrozen
  infer_instance

/-- The delays after a ready are the delays before it. -/
def DelaysKept (p : Stepping) (side : Side) (request : LobbyReady) : Prop :=
  if p.marked side.other then
    ∀ s, p.server.matchData.inputDelay.get s =
      SessionServer.sharedInputDelay (p.server.readyRequest.set side request)
  else p.server.matchData.inputDelay.get side = request.inputDelay

instance (p : Stepping) (side : Side) (request : LobbyReady) : Decidable (DelaysKept p side request) := by
  unfold DelaysKept
  infer_instance

/-- While a call is not over: nobody takes a player seat, no setting and no delay
changes, no late report makes the players change seats, and the host does not
reset the lobby when no player is left. -/
def Quiet (h : Past) (p : Stepping) (a : Act) : Prop :=
  openCalls late h ≠ [] →
    match a with
    | .message m => registered p m = true →
      match m.msg with
      | .lobbyReady (some request) =>
        ∀ found ∈ p.server.sideOf m.conn,
          if request.ready then DelaysKept p found.1 request
          else p.server.matchData.isAllReady = false → p.server.matchData.inputDelay.get found.1 = -1
      | .reportResults (some loser) => late h m = true → ¬ p.table.rotates loser.toInt
      | msg => SettingsKept p m.conn msg
    | .event (.create _ _ _) => p.table.roster ≠ []
    | .event .release => p.table.roster ≠ []
    | _ => True

instance (h : Past) (p : Stepping) (a : Act) : Decidable (Quiet late h p a) := by
  induction a using Act.casesOn with
  | message m =>
    obtain ⟨conn, msg, num, peerAddr, tick⟩ := m
    induction msg using ClientMsg.casesOn with
    | lobbyReady request =>
      induction request using Option.casesOn with
      | none => exact inferInstanceAs (Decidable (_ → _ → SettingsKept p conn _))
      | some request =>
        exact inferInstanceAs (Decidable (_ → _ → ∀ found ∈ p.server.sideOf conn,
          if request.ready then DelaysKept p found.1 request else _ → _ = _))
    | reportResults loser =>
      induction loser using Option.casesOn with
      | none => exact inferInstanceAs (Decidable (_ → _ → SettingsKept p conn _))
      | some loser => exact inferInstanceAs (Decidable (_ → _ → _ → ¬ Table.rotates _ _))
    | _ => exact inferInstanceAs (Decidable (_ → _ → SettingsKept p conn _))
  | event e =>
    induction e using Event.casesOn with
    | create hash secret isPublic => exact inferInstanceAs (Decidable (_ → _ ≠ _))
    | release => exact inferInstanceAs (Decidable (_ → _ ≠ _))
    | _ => exact inferInstanceAs (Decidable (_ → True))
  | endStep tick => exact inferInstanceAs (Decidable (_ → True))

end

/-! ## The invariant -/

def Table.params (t : Table) : Params where
  picks := t.matchData.chara
  stageID := t.matchData.stageID
  rngSeed := t.matchData.rngSeed
  inputDelay := t.matchData.inputDelay
  seats := t.roster.map (·.connId)

theorem params_describes {u : LobbyData × MatchData} {t : Table} (h : Describes u t) : paramsOf u = t.params := by
  obtain ⟨hd, hs⟩ := h
  simp only [paramsOf, Table.params, hd, hs]

/-- The end of a Step would drop no pick. -/
def Table.PicksSettled (t : Table) : Prop :=
  ∀ side, t.sameOwner side = true ∨ (t.matchData.chara.get side).charaID = 0

theorem Table.sameOwner_eq (t : Table) (side : Side) :
    t.sameOwner side = ((t.roster.map (·.connId))[side.val]?).any fun id => t.charaOwner.get side = id := by
  rw [List.getElem?_map, Option.any_map]
  rfl

theorem Table.PicksSettled.same {t t' : Table} (h : t.PicksSettled)
    (hr : t'.roster.map (·.connId) = t.roster.map (·.connId)) (hc : t'.matchData.chara = t.matchData.chara)
    (ho : t'.charaOwner = t.charaOwner) : t'.PicksSettled := by
  intro side
  rw [t'.sameOwner_eq, hr, ho, ← t.sameOwner_eq, hc]
  exact h side

theorem Table.PicksSettled.dropPick {t : Table} (h : t.PicksSettled) (side : Side) : t.dropPick side = t := by
  unfold Table.dropPick
  rcases h side with hs | hs
  · simp [hs]
  · simp [hs]

theorem Table.PicksSettled.finish {t : Table} (h : t.PicksSettled) : t.finish = { t with called := false, synced := false } := by
  unfold Table.finish Table.dropPicks
  rw [h.dropPick 0, h.dropPick 1]

/-- After a Step there is nothing left to drop. -/
theorem picksSettled_finish (t : Table) : t.finish.PicksSettled := by
  intro side
  rcases pick_finish t side with hz | ⟨hchara, howner, hown⟩
  · exact .inr (by rw [hz]; rfl)
  · have hsame : t.finish.sameOwner side = t.sameOwner side := by
      simp only [Table.sameOwner, Table.seatAt, Table.roster_finish, howner]
    rw [hsame, hchara]
    exact hown

structure FrozenInv (late : Past → IncomingMsg → Bool) (h : Past) (p : Stepping) : Prop where
  seated : p.server.WellSeated
  frozen : ∀ params ∈ openCalls late h, params = p.table.params ∧ p.table.PicksSettled

theorem FrozenInv.keep {late : Past → IncomingMsg → Bool} {h : Past} {p q : Stepping} (hI : FrozenInv late h p)
    {t : Taken Stepping Act Out} (hw : q.server.WellSeated) (hcall : callsMatch t = false)
    (hkeep : endsMatch late t h = false → openCalls late h ≠ [] →
      q.table.params = p.table.params ∧ (p.table.PicksSettled → q.table.PicksSettled)) :
    FrozenInv late (t :: h) q where
  seated := hw
  frozen := by
    intro params hmem
    have hnone : calledWith t = none := by simp [calledWith, hcall]
    simp only [openCalls, hnone, Option.toList_none, List.nil_append] at hmem
    cases hends : endsMatch late t h with
    | true => simp [hends] at hmem
    | false =>
      rw [hends, if_neg (by simp)] at hmem
      obtain ⟨hparams, hsettled⟩ := hI.frozen params hmem
      obtain ⟨hp, hs⟩ := hkeep hends (List.ne_nil_of_mem hmem)
      exact ⟨hparams.trans hp.symm, hs hsettled⟩

/-! ## One action -/

theorem params_load (t : Table) (conn : Conn) :
    (t.load conn).params = t.params ∧ (t.PicksSettled → (t.load conn).PicksSettled) := by
  have hids : (t.load conn).roster.map (·.connId) = t.roster.map (·.connId) := by
    simp only [Table.load, List.map_map]
    apply List.map_congr_left
    intro seat _
    simp only [Function.comp]
    split <;> rfl
  refine ⟨?_, fun h => h.same hids rfl rfl⟩
  simp only [Table.params, hids]
  rfl

/-- A pick that is there already. -/
theorem params_pick {p : Stepping} (hw : p.server.WellSeated) {conn : Conn} {side : Side} {e : SessionMember}
    {chara : CharaConditions} (hside : p.server.sideOf conn = some (side, e))
    (hsame : p.server.matchData.chara.get side = chara) :
    (p.table.pick side e.data.connId chara).params = p.table.params ∧
      (p.table.PicksSettled → (p.table.pick side e.data.connId chara).PicksSettled) := by
  have hset : p.server.matchData.chara.set side chara = p.server.matchData.chara := Sides.set_eq_self.2 hsame
  constructor
  · show Params.mk (p.server.matchData.chara.set side chara) _ _ _ _ = _
    rw [hset]
    rfl
  · intro h s
    have hchara : (p.table.pick side e.data.connId chara).matchData.chara = p.table.matchData.chara := hset
    rw [hchara]
    by_cases hs : s = side
    · subst hs
      cases hp : e.isPlayer with
      | true =>
        -- the sender's own seat
        have hseat : p.table.seatAt s = some e.seat :=
          SessionServer.seatAt_of_entry hw (SessionServer.sideOf_some hside).1 hp
        have hown : (p.table.pick s e.data.connId chara).sameOwner s = true := by
          show (p.table.seatAt s).any _ = true
          rw [hseat]
          simp [Table.pick, SessionMember.seat]
        exact .inl hown
      | false =>
        have hseat := no_occupant_of_sideOf hw hside hp
        have hno : p.table.sameOwner s = false := by
          rw [Table.sameOwner, hseat]
          rfl
        exact .inr ((h s).resolve_left (by simp [hno]))
    · have hown : (p.table.pick side e.data.connId chara).sameOwner s = p.table.sameOwner s := by
        simp only [Table.sameOwner, Table.seatAt, Table.pick, Sides.get_set_ne _ _ hs]
      rw [hown]
      exact h s

theorem params_ready {p : Stepping} {side : Side} {num : Nat} {request : LobbyReady} (hkeep : DelaysKept p side request) :
    (p.table.ready side num request).params = p.table.params ∧
      (p.table.PicksSettled → (p.table.ready side num request).PicksSettled) := by
  have hall : (p.table.mark side num request).matchData.isAllReady = true ↔ p.marked side.other := by
    rw [MatchData.isAllReady_iff]
    have hself : (p.table.mark side num request).matchData.marked side := by
      simp only [Table.mark, MatchData.marked, Sides.get_set_self]
      omega
    have hother : (p.table.mark side num request).matchData.marked side.other ↔ p.marked side.other := by
      simp only [Table.mark, MatchData.marked, Sides.get_set_other]
      rfl
    constructor
    · exact fun h => hother.1 (h side.other)
    · intro h s
      rcases Side.eq_or_other side s with rfl | rfl
      · exact hself
      · exact hother.2 h
  have hdelay : (p.table.ready side num request).matchData.inputDelay = p.table.matchData.inputDelay := by
    unfold DelaysKept at hkeep
    unfold Table.ready Table.stamp
    split at hkeep
    · rename_i hm
      rw [if_pos (hall.2 hm)]
      apply Sides.ext_get
      intro s
      refine Eq.trans ?_ (hkeep s).symm
      cases s using Side.cases with
      | zero => rfl
      | one => rfl
    · rename_i hm
      rw [if_neg fun h => hm (hall.1 h)]
      exact Sides.set_eq_self.2 hkeep
  have hrest : (p.table.ready side num request).matchData.chara = p.table.matchData.chara ∧
      (p.table.ready side num request).matchData.stageID = p.table.matchData.stageID ∧
      (p.table.ready side num request).matchData.rngSeed = p.table.matchData.rngSeed ∧
      (p.table.ready side num request).charaOwner = p.table.charaOwner := by
    unfold Table.ready Table.stamp
    split <;> exact ⟨rfl, rfl, rfl, rfl⟩
  obtain ⟨hchara, hstage, hseed, howner⟩ := hrest
  have hroster := Table.conns_ready p.table side num request
  refine ⟨?_, fun h => h.same (by rw [hroster]) hchara howner⟩
  simp only [Table.params, hchara, hstage, hseed, hdelay, hroster]

theorem frozenInv_step {late : Past → IncomingMsg → Bool} {h : Past} {p : Stepping} {a : Act}
    (hI : FrozenInv late h p) (hC : Quiet late h p a) :
    FrozenInv late (sessionServer.taken p a :: h) (sessionServer.next p a).1 := by
  have hw := wellSeated_next hI.seated a
  have he := effect_of hI.seated a
  generalize hT : (sessionServer.next p a).1.table = T at he
  cases he with
  | idle hidle =>
    cases a with
    | endStep tick => exact hidle.elim
    | event e => exact hI.keep hw (call_event p e) fun _ _ => by rw [hT]; exact ⟨rfl, id⟩
    | message m => exact hI.keep hw (call_message p m) fun _ _ => by rw [hT]; exact ⟨rfl, id⟩
  | @sit m cid request hcid hmsg hrole hok =>
    apply hI.keep hw (call_message p m)
    intro _ hopen
    have hset := hC hopen (by simp [registered, hcid])
    rw [hmsg] at hset
    rcases hset with hspec | href
    · rw [hrole] at hspec
      cases hspec
    · rw [hok] at href
      cases href
  | @pick m cid chara side e hcid hmsg hside hvalid =>
    apply hI.keep hw (call_message p m)
    intro _ hopen
    have hset := hC hopen (by simp [registered, hcid])
    rw [hmsg] at hset
    rw [hT]
    exact params_pick hI.seated hside (hset (side, e) hside hvalid)
  | @seed m cid rngSeed e hcid hmsg hside =>
    apply hI.keep hw (call_message p m)
    intro _ hopen
    have hset := hC hopen (by simp [registered, hcid])
    rw [hmsg] at hset
    have hsame : p.table.setSeed rngSeed = p.table := by
      show { p.table with matchData := { p.server.matchData with rngSeed } } = p.table
      rw [← hset (0, e) hside rfl]
      rfl
    rw [hT, hsame]
    exact ⟨rfl, id⟩
  | @stage m cid stageID e hcid hmsg hside hvalid =>
    apply hI.keep hw (call_message p m)
    intro _ hopen
    have hset := hC hopen (by simp [registered, hcid])
    rw [hmsg] at hset
    have hsame : p.table.setStage stageID.toInt = p.table := by
      show { p.table with matchData := { p.server.matchData with stageID := stageID.toInt } } = p.table
      rw [← hset (0, e) hside rfl hvalid]
      rfl
    rw [hT, hsame]
    exact ⟨rfl, id⟩
  | @load m cid hcid hmsg =>
    apply hI.keep hw (call_message p m)
    intro _ _
    rw [hT]
    exact params_load p.table m.conn
  | @ready m cid request side e hcid hmsg hside hready =>
    apply hI.keep hw (call_message p m)
    intro _ hopen
    have hset := hC hopen (by simp [registered, hcid])
    rw [hmsg] at hset
    have hkeep := hset (side, e) hside
    rw [if_pos hready] at hkeep
    rw [hT]
    exact params_ready hkeep
  | @unready m cid request side e hcid hmsg hside hready hopen =>
    apply hI.keep hw (call_message p m)
    intro _ hcalls
    have hset := hC hcalls (by simp [registered, hcid])
    rw [hmsg] at hset
    have hkeep := hset (side, e) hside
    rw [if_neg (by simp [hready])] at hkeep
    have hdelay : p.server.matchData.inputDelay.set side (-1) = p.server.matchData.inputDelay :=
      Sides.set_eq_self.2 (hkeep hopen)
    rw [hT]
    refine ⟨?_, fun hs => hs.same rfl rfl rfl⟩
    show Params.mk _ _ _ (p.server.matchData.inputDelay.set side (-1)) _ = _
    rw [hdelay]
    rfl
  | @result m cid loser hcid hmsg =>
    have hreg : registered p m = true := by simp [registered, hcid]
    apply hI.keep hw (call_message p m)
    intro hends hopen
    -- only a late report leaves the call open
    have hlate : late h m = true := by
      simpa [endsMatch, Machine.taken, hmsg, hreg] using hends
    have hset := hC hopen hreg
    rw [hmsg] at hset
    rw [hT, Table.result, if_neg (hset hlate)]
    exact ⟨rfl, fun hs => hs.same rfl rfl rfl⟩
  | @leave conn =>
    apply hI.keep hw (call_event p _)
    intro hends _
    have hnone : ∀ seat ∈ p.table.roster, ¬ seat.conn = conn := by
      have hany : (p.table.roster.any fun seat => seat.conn = conn) = false := hends
      simpa using hany
    have hleave : p.table.leave conn = p.table := by
      show { p.table with roster := p.table.roster.eraseP fun seat => seat.conn = conn } = p.table
      rw [List.eraseP_of_forall_not (by simpa using hnone)]
    rw [hT, hleave]
    exact ⟨rfl, id⟩
  | create | release =>
    apply hI.keep hw (call_event p _)
    intro hends hopen
    have hempty : p.table.roster = [] := by
      have hd : decide (p.table.roster ≠ []) = false := hends
      simpa using hd
    exact absurd hempty (hC hopen)
  | unload =>
    apply hI.keep hw (call_event p _)
    intro _ _
    have hids : p.table.unload.roster.map (·.connId) = p.table.roster.map (·.connId) := by
      simp only [Table.unload, List.map_map]
      rfl
    rw [hT]
    refine ⟨?_, fun hs => hs.same hids rfl rfl⟩
    simp only [Table.params, hids]
    rfl
  | @finish tick =>
    refine ⟨hw, fun params hmem => ?_⟩
    rw [hT]
    refine ⟨?_, picksSettled_finish p.table⟩
    rcases List.mem_append.1 hmem with hnew | hold
    · -- the call this Step makes
      rw [Option.mem_toList] at hnew
      unfold calledWith at hnew
      split at hnew
      · obtain ⟨u, hu, rfl⟩ := Option.map_eq_some_iff.1 hnew
        obtain ⟨o, ho, hupd⟩ := List.mem_filterMap.1 (List.mem_of_getLast? hu)
        exact params_describes (finish_updates hI.seated tick ho hupd)
      · cases hnew
    · obtain ⟨hparams, hsettled⟩ := hI.frozen params hold
      rw [hsettled.finish]
      exact hparams

/-- While the calls that are not over stay quiet, every update carries their
parameters. -/
theorem params_frozen (late : Past → IncomingMsg → Bool) (cfg : HostConfig) (calls : List Call)
    (h : sessionServer.Meets (Quiet late) (start cfg) [] (acts calls)) :
    sessionServer.Meets (ParamsFrozen late) (start cfg) [] (acts calls) := by
  refine Machine.meets_of_inv (FrozenInv late) (fun _ _ _ hI hC => frozenInv_step hI hC) ?_
    ⟨wellSeated_start cfg, fun _ hmem => by cases hmem⟩ h
  intro past p a hI hC u hu params hmem
  obtain ⟨o, ho, hupd⟩ := List.mem_filterMap.1 hu
  cases a with
  | message m =>
    rw [Out.no_update (message_quiet p m o ho)] at hupd
    cases hupd
  | event e =>
    rw [Out.no_update (event_quiet p e o ho)] at hupd
    cases hupd
  | endStep tick =>
    have hparams := ((frozenInv_step hI hC).frozen params hmem).1
    rw [hparams, next_endStep, table_finish hI.seated]
    exact params_describes (finish_updates hI.seated tick ho hupd)

namespace Sample

/-- A match is called, somebody asks for the stage that is set already, and the
result comes in. -/
def playedOut : List Call :=
  twoPlayers ++ [step [say 1 (.setStage (some 5)), say 1 (pickOf 3 1)], step [say 2 ready, say 1 ready],
    step [say 1 (.setStage (some 5)), say 1 (pickOf 3 1)], step [say 1 (loses 0)]]

def neverLate : Past → IncomingMsg → Bool := fun _ _ => false

end Sample

/-- A match in which nobody changes anything. -/
theorem params_frozen_once :
    sessionServer.Meets (ParamsFrozen Sample.neverLate) (start (lobbyHost 0)) [] (acts Sample.playedOut) ∧
      openCalls Sample.neverLate
        (sessionServer.hist (start (lobbyHost 0)) [] (acts (Sample.playedOut.dropLast))) ≠ [] :=
  ⟨params_frozen _ _ _ (by decide +kernel), by decide +kernel⟩

/-- A player picks another character after the match is called: the next update
tells the clients so. -/
theorem params_thawed_by_a_pick :
    ¬ ∀ (late : Past → IncomingMsg → Bool) (cfg : HostConfig) (calls : List Call),
      sessionServer.Meets (ParamsFrozen late) (start cfg) [] (acts calls) := by
  intro h
  have hrun := h Sample.neverLate (lobbyHost 0)
    (Sample.bothReady ++ [Sample.step [Sample.say 1 (Sample.pickOf 3 1)]])
  exact absurd hrun (by decide +kernel)

end Sf4e.Session
