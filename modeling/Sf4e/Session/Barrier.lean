import Sf4e.Session.Readiness
/-!
# The start barrier

BattleSynced lets both players begin at the same frame. It should answer a
BATTLE_LOADED of each, sent for the match at hand. The loaded flags belong to
members and outlive a match; `LoadedFresh` says when that does not show.
-/
open Sf4e.Lib

namespace Sf4e.Session

/-- The host throws everybody out. -/
def emptiesLobby (t : Taken Stepping Act Out) : Bool :=
  match t.act with
  | .event (.create _ _ _) => true
  | .event .release => true
  | _ => false

/-- The server takes a BATTLE_LOADED from `conn` in this action. -/
def takesLoaded (t : Taken Stepping Act Out) (conn : Conn) : Bool :=
  match t.act with
  | .message m => match m.msg with
    | .battleLoaded => m.conn = conn && registered t.pre m
    | _ => false
  | _ => false

/-- A match has been called in this lobby. -/
def matchCalled : Past → Bool
  | [] => false
  | t :: h => if callsMatch t then true else if emptiesLobby t then false else matchCalled h

/-- `conn` has sent BATTLE_LOADED since the latest LobbyAllReady. -/
def loadedSince : Past → Conn → Bool
  | [], _ => false
  | t :: h, conn =>
    if callsMatch t || emptiesLobby t then false
    else if takesLoaded t conn then matchCalled h
    else loadedSince h conn

def startsMatch (t : Taken Stepping Act Out) : Bool := t.out.any Out.isSynced

/-- The two player seats are held by two connections. -/
def Table.twoSeated (t : Table) : Prop :=
  match t.roster.map (·.conn) with
  | [a, b] => a ≠ b
  | _ => False

instance (t : Table) : Decidable t.twoSeated := by
  unfold Table.twoSeated
  split <;> infer_instance

/-- If the action broadcasts BattleSynced, two players are seated, and both have
loaded the match called last. -/
def SyncedByBoth (h : Past) (p : Stepping) (a : Act) : Prop :=
  startsMatch (sessionServer.taken p a) = true →
    callsMatch (sessionServer.taken p a) = false ∧ p.table.twoSeated ∧
      ∀ seat ∈ p.table.roster, loadedSince h seat.conn = true

instance (h : Past) (p : Stepping) (a : Act) : Decidable (SyncedByBoth h p a) :=
  inferInstanceAs (Decidable (_ → _))

/-- No flag is set when a match is called; and the BATTLE_LOADED that completes
the players comes when there are two of them and a match has been called. -/
def LoadedFresh (h : Past) (p : Stepping) (a : Act) : Prop :=
  match a with
  | .endStep _ => p.bSendLobbyAllReady = true → ∀ seat ∈ p.table.roster, seat.loaded = false
  | .message m =>
    match m.msg with
    | .battleLoaded =>
      registered p m = true → (∀ seat ∈ p.table.roster, seat.conn ≠ m.conn → seat.loaded = true) →
        p.table.twoSeated ∧ matchCalled h = true
    | _ => True
  | .event _ => True

instance (h : Past) (p : Stepping) (a : Act) : Decidable (LoadedFresh h p a) := by
  induction a using Act.casesOn with
  | endStep tick => exact inferInstanceAs (Decidable (_ → ∀ seat ∈ _, _))
  | message m =>
    obtain ⟨conn, msg, num, peerAddr, tick⟩ := m
    induction msg using ClientMsg.casesOn with
    | battleLoaded => exact inferInstanceAs (Decidable (_ → (∀ seat ∈ _, _ → _) → _ ∧ _))
    | _ => exact .isTrue trivial
  | event e => exact .isTrue trivial

/-! ## The invariant -/

structure LoadInv (h : Past) (p : Stepping) : Prop where
  seated : p.server.WellSeated
  fresh : matchCalled h = true → ∀ seat ∈ p.table.roster, seat.loaded = true → loadedSince h seat.conn = true
  mid : p.bSendBattleSynced = true → midStep h = true
  synced : p.bSendBattleSynced = true → p.table.twoSeated ∧ matchCalled h = true ∧ p.table.allLoaded = true

theorem Table.twoSeated_iff {t : Table} :
    t.twoSeated ↔ ∃ a b, t.roster.map (·.conn) = [a, b] ∧ a ≠ b := by
  unfold twoSeated
  split
  · rename_i a b hr
    rw [hr]
    exact ⟨fun hne => ⟨a, b, rfl, hne⟩, fun ⟨a', b', he, hne⟩ => by cases he; exact hne⟩
  · rename_i hno
    exact ⟨False.elim, fun ⟨a, b, he, _⟩ => hno a b he⟩

/-- An action that neither calls a match nor empties the lobby. -/
theorem called_keep {t : Taken Stepping Act Out} {h : Past} (hc : callsMatch t = false)
    (he : emptiesLobby t = false) : matchCalled (t :: h) = matchCalled h := by
  simp only [matchCalled, hc, he, Bool.false_eq_true, if_false]

theorem loaded_keep {t : Taken Stepping Act Out} {h : Past} {conn : Conn} (hc : callsMatch t = false)
    (he : emptiesLobby t = false) (hl : takesLoaded t conn = false) :
    loadedSince (t :: h) conn = loadedSince h conn := by
  simp only [loadedSince, hc, he, hl, Bool.or_self, Bool.false_eq_true, if_false]

/-- Nobody loads and nobody sits down: the players stay, perhaps in another order. -/
theorem LoadInv.keep {h : Past} {p q : Stepping} (hI : LoadInv h p) {t : Taken Stepping Act Out}
    (hw : q.server.WellSeated) (hc : callsMatch t = false) (he : emptiesLobby t = false)
    (hl : ∀ conn, takesLoaded t conn = false) (hmem : ∀ seat ∈ q.table.roster, seat.loaded = true →
      seat ∈ p.table.roster)
    (hsync : q.bSendBattleSynced = true → midStep (t :: h) = true ∧ p.bSendBattleSynced = true ∧
      (q.table.roster = p.table.roster ∨ q.table.roster = p.table.roster.reverse)) :
    LoadInv (t :: h) q where
  seated := hw
  fresh := by
    intro hcalled seat hseat hloaded
    rw [called_keep hc he] at hcalled
    rw [loaded_keep hc he (hl _)]
    exact hI.fresh hcalled seat (hmem seat hseat hloaded) hloaded
  mid := fun hs => (hsync hs).1
  synced := by
    intro hs
    obtain ⟨-, hp, hroster⟩ := hsync hs
    obtain ⟨htwo, hcalled, hall⟩ := hI.synced hp
    rw [called_keep hc he]
    rcases hroster with hr | hr
    · refine ⟨?_, hcalled, ?_⟩
      · rw [Table.twoSeated, hr]
        exact htwo
      · rw [Table.allLoaded, hr]
        exact hall
    · obtain ⟨a, b, hab, hne⟩ := Table.twoSeated_iff.1 htwo
      refine ⟨Table.twoSeated_iff.2 ⟨b, a, ?_, hne.symm⟩, hcalled, ?_⟩
      · rw [hr, List.map_reverse, hab]
        rfl
      · rw [Table.allLoaded, hr, List.all_reverse]
        exact hall

theorem no_load_of_msg {p : Stepping} {m : IncomingMsg} (hm : m.msg ≠ .battleLoaded) (conn : Conn) :
    takesLoaded (sessionServer.taken p (.message m)) conn = false := by
  simp only [takesLoaded, Machine.taken]

/-- A message that is no BATTLE_LOADED and seats nobody. -/
theorem LoadInv.other_message {h : Past} {p : Stepping} (hI : LoadInv h p) {m : IncomingMsg} {T : Table}
    (hT : (sessionServer.next p (.message m)).1.table = T)
    (hroster : T.roster = p.table.roster ∨ T.roster = p.table.roster.reverse) (hsynced : T.synced = p.table.synced)
    (hload : ∀ conn, takesLoaded (sessionServer.taken p (.message m)) conn = false) :
    LoadInv (sessionServer.taken p (.message m) :: h) (sessionServer.next p (.message m)).1 := by
  subst hT
  refine hI.keep (wellSeated_next hI.seated _) (call_message p m) rfl hload ?_ ?_
  · intro seat hseat _
    rcases hroster with hr | hr
    · rwa [hr] at hseat
    · rw [hr] at hseat
      exact List.mem_reverse.1 hseat
  · intro hs
    exact ⟨rfl, hsynced.symm.trans hs, hroster⟩

theorem LoadInv.event {h : Past} {p : Stepping} (hI : LoadInv h p) {e : Event} (hB : midStep h = false)
    (hsynced : (sessionServer.next p (.event e)).1.table.synced = p.table.synced)
    (he : emptiesLobby (sessionServer.taken p (.event e)) = false)
    (hmem : ∀ seat ∈ (sessionServer.next p (.event e)).1.table.roster, seat.loaded = true → seat ∈ p.table.roster) :
    LoadInv (sessionServer.taken p (.event e) :: h) (sessionServer.next p (.event e)).1 := by
  apply hI.keep (wellSeated_next hI.seated _) (call_event p e) he (fun _ => rfl) hmem
  intro hs
  have hmid := hI.mid (hsynced.symm.trans hs)
  rw [hB] at hmid
  cases hmid

theorem LoadInv.load {h : Past} {p : Stepping} (hI : LoadInv h p) {m : IncomingMsg} {cid : ConnectionID}
    (hcid : p.server.cidMap.find m.conn = some cid) (hmsg : m.msg = .battleLoaded)
    (hC : LoadedFresh h p (.message m))
    (hT : (sessionServer.next p (.message m)).1.table = p.table.load m.conn) :
    LoadInv (sessionServer.taken p (.message m) :: h) (sessionServer.next p (.message m)).1 := by
  have hreg : registered p m = true := by simp [registered, hcid]
  have hc := call_message p m
  have he : emptiesLobby (sessionServer.taken p (.message m)) = false := rfl
  have hroster : (sessionServer.next p (.message m)).1.table.roster =
      p.table.roster.map fun seat => if seat.conn = m.conn then { seat with loaded := true } else seat :=
    congrArg Table.roster hT
  refine ⟨wellSeated_next hI.seated _, ?_, fun _ => rfl, ?_⟩
  · intro hcalled seat hseat hloaded
    rw [called_keep hc he] at hcalled
    rw [hroster] at hseat
    obtain ⟨seat₀, hseat₀, rfl⟩ := List.mem_map.1 hseat
    by_cases hconn : seat₀.conn = m.conn
    · have htake : takesLoaded (sessionServer.taken p (.message m)) m.conn = true := by
        simp [takesLoaded, Machine.taken, hmsg, hreg]
      simp only [hconn, if_true]
      simp only [loadedSince, hc, he, htake, Bool.or_self, Bool.false_eq_true, if_false, if_true]
      exact hcalled
    · have htake : takesLoaded (sessionServer.taken p (.message m)) seat₀.conn = false := by
        have hne : m.conn ≠ seat₀.conn := fun hh => hconn hh.symm
        simp [takesLoaded, Machine.taken, hmsg, hne]
      rw [if_neg hconn] at hloaded ⊢
      rw [loaded_keep hc he htake]
      exact hI.fresh hcalled seat₀ hseat₀ hloaded
  · intro hs
    have hall : (p.table.load m.conn).roster.all (·.loaded) = true :=
      (congrArg Table.synced hT).symm.trans hs
    -- everybody else had loaded before
    have hothers : ∀ seat ∈ p.table.roster, seat.conn ≠ m.conn → seat.loaded = true := by
      intro seat hseat hne
      have := List.all_eq_true.1 hall _ (List.mem_map_of_mem hseat)
      rwa [if_neg hne] at this
    simp only [LoadedFresh, hmsg] at hC
    obtain ⟨htwo, hcalled⟩ := hC hreg hothers
    refine ⟨?_, (called_keep hc he).trans hcalled, ?_⟩
    · rw [Table.twoSeated, hT, Table.conns_load]
      exact htwo
    · rw [hT]
      exact hall

theorem loadInv_step {h : Past} {p : Stepping} {a : Act} (hI : LoadInv h p)
    (hC : LoadedFresh h p a ∧ Between h p a) :
    LoadInv (sessionServer.taken p a :: h) (sessionServer.next p a).1 := by
  have he := effect_of hI.seated a
  generalize hT : (sessionServer.next p a).1.table = T at he
  cases he with
  | idle hidle =>
    cases a with
    | endStep tick => exact hidle.elim
    | event e =>
      refine hI.event hC.2 (by rw [hT]) ?_ (by rw [hT]; exact fun seat hseat _ => hseat)
      cases e <;> first | rfl | exact hidle.elim
    | message m =>
      apply hI.other_message hT (.inl rfl) rfl
      intro conn
      -- an idle BATTLE_LOADED comes from a sender without an identity
      by_cases hmsg : m.msg = .battleLoaded
      · rcases hidle with hno | hidle
        · simp [takesLoaded, Machine.taken, hmsg, registered, hno]
        · rw [hmsg] at hidle
          exact hidle.elim
      · exact no_load_of_msg hmsg conn
  | @sit m cid request hcid hmsg hrole hok =>
    have hroom := SessionServer.room_of_joinRefusal hok hrole
    refine hI.keep (wellSeated_next hI.seated _) (call_message p m) rfl (no_load_of_msg (by simp [hmsg])) ?_ ?_
    · intro seat hseat hloaded
      rw [hT] at hseat
      rcases List.mem_append.1 hseat with hmem | hnew
      · exact hmem
      · rw [List.mem_singleton.1 hnew] at hloaded
        cases hloaded
    · -- a start is pending only with both seats taken
      intro hs
      have hp : p.bSendBattleSynced = true := (congrArg Table.synced hT).symm.trans hs
      obtain ⟨a, b, hab, -⟩ := Table.twoSeated_iff.1 (hI.synced hp).1
      have hlen : p.server.roster.length = 2 := by
        have := congrArg List.length hab
        rwa [List.length_map] at this
      omega
  | pick hcid hmsg hside hvalid => exact hI.other_message hT (.inl rfl) rfl (no_load_of_msg (by simp [hmsg]))
  | seed hcid hmsg hside => exact hI.other_message hT (.inl rfl) rfl (no_load_of_msg (by simp [hmsg]))
  | stage hcid hmsg hside hvalid => exact hI.other_message hT (.inl rfl) rfl (no_load_of_msg (by simp [hmsg]))
  | load hcid hmsg => exact hI.load hcid hmsg hC.1 hT
  | ready hcid hmsg hside hready =>
    refine hI.other_message hT (.inl (Table.conns_ready _ _ _ _)) ?_ (no_load_of_msg (by simp [hmsg]))
    unfold Table.ready Table.stamp
    split <;> rfl
  | unready hcid hmsg hside hready hopen => exact hI.other_message hT (.inl rfl) rfl (no_load_of_msg (by simp [hmsg]))
  | @result m cid loser hcid hmsg =>
    by_cases hrot : p.table.rotates loser.toInt
    · refine hI.other_message hT (.inr ?_) ?_ (no_load_of_msg (by simp [hmsg]))
      · rw [Table.result, if_pos hrot]
        rfl
      · rw [Table.result, if_pos hrot]
        rfl
    · refine hI.other_message hT (.inl ?_) ?_ (no_load_of_msg (by simp [hmsg]))
      · rw [Table.result, if_neg hrot]
        rfl
      · rw [Table.result, if_neg hrot]
        rfl
  | leave =>
    refine hI.event hC.2 (by rw [hT]; rfl) rfl ?_
    rw [hT]
    exact fun seat hseat _ => List.mem_of_mem_eraseP hseat
  | create | release =>
    refine ⟨wellSeated_next hI.seated _, ?_, ?_, ?_⟩
    · intro _ seat hseat
      rw [hT] at hseat
      cases hseat
    · intro hs
      have hmid := hI.mid ((congrArg Table.synced hT).symm.trans hs)
      rw [show midStep h = false from hC.2] at hmid
      cases hmid
    · intro hs
      have hmid := hI.mid ((congrArg Table.synced hT).symm.trans hs)
      rw [show midStep h = false from hC.2] at hmid
      cases hmid
  | unload =>
    refine hI.event hC.2 (by rw [hT]; rfl) rfl ?_
    rw [hT]
    intro seat hseat hloaded
    obtain ⟨seat₀, -, rfl⟩ := List.mem_map.1 hseat
    cases hloaded
  | @finish tick =>
    have hroster : (sessionServer.next p (.endStep tick)).1.table.roster = p.table.roster := by
      rw [hT, Table.roster_finish]
    have hnosync : (sessionServer.next p (.endStep tick)).1.bSendBattleSynced = true → False := by
      intro hs
      have := (congrArg Table.synced hT).symm.trans hs
      cases this
    refine ⟨wellSeated_next hI.seated _, ?_, fun hs => (hnosync hs).elim, fun hs => (hnosync hs).elim⟩
    intro hcalled seat hseat hloaded
    rw [hroster] at hseat
    cases hcall : p.bSendLobbyAllReady with
    | true =>
      rw [hC.1 hcall seat hseat] at hloaded
      cases hloaded
    | false =>
      have hc : callsMatch (sessionServer.taken p (.endStep tick)) = false := (call_endStep p tick).trans hcall
      rw [called_keep hc rfl] at hcalled
      rw [loaded_keep hc rfl rfl]
      exact hI.fresh hcalled seat hseat hloaded

theorem loadInv_start (cfg : HostConfig) : LoadInv [] (start cfg) where
  seated := wellSeated_start cfg
  fresh hcalled := by cases hcalled
  mid hs := by cases hs
  synced hs := by cases hs

/-- While the flags are fresh, every BattleSynced finds two players who have both
loaded the match called last. -/
theorem synced_by_both (cfg : HostConfig) (calls : List Call)
    (h : sessionServer.Meets LoadedFresh (start cfg) [] (acts calls)) :
    sessionServer.Meets SyncedByBoth (start cfg) [] (acts calls) := by
  refine Machine.meets_of_inv LoadInv (fun _ _ _ hI hC => loadInv_step hI hC) ?_ (loadInv_start cfg)
    (h.and (meets_between _ _ rfl calls))
  intro past p a hI hC hstart
  cases a with
  | message m =>
    have hno : startsMatch (sessionServer.taken p (.message m)) = false :=
      List.any_eq_false.2 fun o ho => by simp [Out.not_synced (message_quiet p m o ho)]
    rw [hno] at hstart
    cases hstart
  | event e =>
    have hno : startsMatch (sessionServer.taken p (.event e)) = false :=
      List.any_eq_false.2 fun o ho => by simp [Out.not_synced (event_quiet p e o ho)]
    rw [hno] at hstart
    cases hstart
  | endStep tick =>
    have hs : p.bSendBattleSynced = true := (finish_synced p tick).symm.trans hstart
    obtain ⟨htwo, hcalled, hall⟩ := hI.synced hs
    have hloaded : ∀ seat ∈ p.table.roster, seat.loaded = true := fun seat hseat => List.all_eq_true.1 hall seat hseat
    refine ⟨?_, htwo, fun seat hseat => hI.fresh hcalled seat hseat (hloaded seat hseat)⟩
    rw [call_endStep]
    cases hcall : p.bSendLobbyAllReady with
    | false => rfl
    | true =>
      -- a match called in this Step would find the flags clear
      obtain ⟨a, b, hab, -⟩ := Table.twoSeated_iff.1 htwo
      have hne : p.table.roster ≠ [] := by
        intro hnil
        rw [hnil] at hab
        cases hab
      obtain ⟨seat, hseat⟩ := List.exists_mem_of_ne_nil _ hne
      have := hC.1 hcall seat hseat
      rw [hloaded seat hseat] at this
      cases this

namespace Sample

/-- A match is called and both players load. -/
def bothLoaded : List Call :=
  bothReady ++ [step [say 1 .battleLoaded], step [say 2 .battleLoaded]]

end Sample

/-- The first match of a lobby starts when both have loaded. -/
theorem synced_by_both_once :
    (sessionServer.outs (start (lobbyHost 0)) (acts Sample.bothLoaded)).any Out.isSynced = true ∧
      sessionServer.Meets SyncedByBoth (start (lobbyHost 0)) [] (acts Sample.bothLoaded) :=
  ⟨by decide +kernel, synced_by_both _ _ (by decide +kernel)⟩

/-- In the second match, one BATTLE_LOADED is enough. -/
theorem synced_by_one_in_a_rematch :
    ¬ ∀ (cfg : HostConfig) (calls : List Call), sessionServer.Meets SyncedByBoth (start cfg) [] (acts calls) := by
  intro h
  have hrun := h (lobbyHost 0)
    (Sample.bothLoaded ++ [Sample.step [Sample.say 1 (Sample.loses 1)],
      Sample.step [Sample.say 2 Sample.ready, Sample.say 1 Sample.ready], Sample.step [Sample.say 1 .battleLoaded]])
  exact absurd hrun (by decide +kernel)

end Sf4e.Session
