import Sf4e.Battle.Sounds
/-!
# What `SyncState` makes of the real manager

Pass by pass over the real manager: `keeps_afterStops` for the queued stops,
`Stopped` while the unclaimed sounds are stopped, and `Reconciled` while the
last pass goes over the stubs, with a `place` that says where each stub's sound
is by then.
-/

namespace Sf4e.Battle

open Sf4e.Lib

variable {game : SoundGame}

namespace SoundPlayerManager

variable {m : SoundPlayerManager}

/-! ## Stops -/

/-- What `StopSound` does to a sound's own adapter. -/
theorem stopSound_own (h : m.Owned) {i : ℕ} (hi : i ∈ m.live) (criParam : Bool) :
    (m.StopSound game (m.current i).currentAdapterHandle criParam).current =
      Function.update m.current i { m.current i with bLive := false } := by
  obtain ⟨hlt, hlive⟩ := mem_live.1 hi
  show (m.endSound (m.current i).currentAdapterHandle.index).current = _
  rw [h i hlt hlive]
  rfl

theorem keeps_stopQueued (game : SoundGame) (real : SoundPlayerManager) (stopped : DeferredSoundRequest) :
    real.Keeps (real.stopQueued game stopped) := by
  unfold stopQueued
  split
  · exact real.keeps_stopSound game _ _
  · exact .refl real

theorem keeps_afterStops (game : SoundGame) (stub real : SoundPlayerManager) : real.Keeps (afterStops game stub real) :=
  .foldl (keeps_stopQueued game) real stub.queuedStops

end SoundPlayerManager

/-- The call stops what an adapter plays, or starts something on it. -/
def SoundCall.touches : SoundCall → ℕ → Bool
  | .PlaySound _ out, i => out.index == i
  | .StopSound h _, i => h.index == i
  | .Update, _ => false

namespace SoundPlayerManager

/-- The calls between two states of one manager. -/
def callsSince (before after : SoundPlayerManager) : List SoundCall := after.calls.drop before.calls.length

/-- The live sounds of one request. -/
def soundsOf (m : SoundPlayerManager) (r : SoundRequest) : Finset ℕ :=
  m.live.filter fun i => (m.current i).toSoundRequest = r

/-- The sounds of one request that go on playing without a restart. -/
def keptPlaying (before after : SoundPlayerManager) (r : SoundRequest) : Finset ℕ :=
  (before.soundsOf r).filter fun i => i ∈ after.live ∧ (before.callsSince after).any (·.touches i) = false

/-- The manager `before` with the unclaimed sounds of its first `k` adapters stopped. -/
structure Stopped (before : SoundPlayerManager) (pairing : SoundPairing) (k : ℕ) (real : SoundPlayerManager) : Prop where
  count : real.numAdapters = before.numAdapters
  isReal : real.isStub = before.isStub
  owned : real.Owned
  silenced : ∀ i < k, pairing.realPaired i = false → (real.current i).bLive = false
  spared : ∀ i, k ≤ i ∨ pairing.realPaired i = true → real.current i = before.current i
  calls : ∃ later, real.calls = before.calls ++ later ∧
    ∀ i ∈ before.live, later.any (·.touches i) = true ↔ i < k ∧ pairing.realPaired i = false

theorem stopped_next {before real : SoundPlayerManager} {pairing : SoundPairing} {k : ℕ}
    (h : Stopped before pairing k real) (hk : k < before.numAdapters) :
    Stopped before pairing (k + 1) (real.stopUnclaimed game pairing k) := by
  obtain ⟨later, hcalls, htouched⟩ := h.calls
  have hcurrent : real.current k = before.current k := h.spared k (.inl le_rfl)
  unfold stopUnclaimed
  split
  · rename_i hstop
    rw [Bool.and_eq_true, Bool.not_eq_true'] at hstop
    obtain ⟨hlive, hfree⟩ := hstop
    have hkreal : k ∈ real.live := mem_live.2 ⟨h.count ▸ hk, hlive⟩
    have hindex : (real.current k).currentAdapterHandle.index = k := h.owned k (h.count ▸ hk) hlive
    refine ⟨h.count, h.isReal, (keeps_stopSound game _ _ _).owned h.owned, fun i hi hunpaired => ?_, fun i hi => ?_,
      later ++ [.StopSound (real.current k).currentAdapterHandle true], ?_, fun i hi => ?_⟩
    · rw [stopSound_own h.owned hkreal]
      by_cases hik : i = k
      · rw [hik, Function.update_self]
      · rw [Function.update_of_ne hik]
        exact h.silenced i (by omega) hunpaired
    · have hik : i ≠ k := by
        rintro rfl
        rcases hi with hi | hi
        · omega
        · rw [hfree] at hi
          cases hi
      rw [stopSound_own h.owned hkreal, Function.update_of_ne hik]
      exact h.spared i (hi.imp_left (by omega))
    · show real.calls ++ _ = _
      rw [hcalls, List.append_assoc]
    · rw [List.any_append, Bool.or_eq_true, htouched i hi]
      simp only [List.any_cons, List.any_nil, Bool.or_false, SoundCall.touches, hindex, beq_iff_eq]
      constructor
      · rintro (⟨hlt, hi⟩ | rfl)
        exacts [⟨by omega, hi⟩, ⟨Nat.lt_succ_self _, hfree⟩]
      · rintro ⟨hlt, hi⟩
        by_cases hik : k = i
        exacts [.inr hik, .inl ⟨by omega, hi⟩]
  · rename_i hstay
    -- Nothing to stop here: the sound is claimed, or the adapter silent.
    have hstay : (real.current k).bLive = true → pairing.realPaired k = true := by
      intro hlive
      rw [hlive, Bool.true_and, Bool.not_eq_true, Bool.not_eq_false'] at hstay
      exact hstay
    refine ⟨h.count, h.isReal, h.owned, fun i hi hunpaired => ?_, fun i hi => h.spared i (hi.imp_left (by omega)), later,
      hcalls, fun i hi => ?_⟩
    · by_cases hik : i = k
      · subst hik
        cases hlive : (real.current i).bLive with
        | false => rfl
        | true => rw [hstay hlive] at hunpaired; cases hunpaired
      · exact h.silenced i (by omega) hunpaired
    · rw [htouched i hi]
      refine ⟨fun hlt => ⟨by omega, hlt.2⟩, fun hlt => ⟨?_, hlt.2⟩⟩
      have hik : i ≠ k := by
        rintro rfl
        rw [hstay (hcurrent ▸ (mem_live.1 hi).2)] at hlt
        cases hlt.2
      omega

theorem stopped_all (game : SoundGame) {before : SoundPlayerManager} (hown : before.Owned) (pairing : SoundPairing) :
    Stopped before pairing before.numAdapters
      ((List.range before.numAdapters).foldl (stopUnclaimed game pairing) before) := by
  have hprefix : ∀ k ≤ before.numAdapters,
      Stopped before pairing k ((List.range k).foldl (stopUnclaimed game pairing) before) := by
    intro k
    induction k with
    | zero =>
      exact fun _ => ⟨rfl, rfl, hown, nofun, fun _ _ => rfl, [], (List.append_nil _).symm, fun i hi => by simp⟩
    | succ k ih =>
      intro hk
      rw [List.range_succ, List.foldl_append, List.foldl_cons, List.foldl_nil]
      exact stopped_next (ih (by omega)) (by omega)
  exact hprefix _ le_rfl

/-! ## Starts -/

end SoundPlayerManager

/-- The game's own `PlaySound` always finds an adapter with no live sound, among `n`, while there is one. -/
def SoundGame.PlaysOnFree (game : SoundGame) (n : ℕ) : Prop :=
  ∀ m r, m.isStub = false → m.numAdapters = n → (∃ i < n, (m.current i).bLive = false) →
    (game.playSound m r).1 ≠ noPlayer ∧ (game.playSound m r).1.index < n ∧
      (m.current (game.playSound m r).1.index).bLive = false

namespace SoundPlayerManager

/-- With an adapter free, a sound starts there and nothing else changes. -/
theorem playSound_free {m : SoundPlayerManager} (hserve : game.PlaysOnFree m.numAdapters) (hreal : m.isStub = false)
    (hfree : ∃ i < m.numAdapters, (m.current i).bLive = false) (r : SoundRequest) :
    let out := (m.PlaySound game r).1
    out ≠ noPlayer ∧ out.index < m.numAdapters ∧ (m.current out.index).bLive = false ∧
      (m.PlaySound game r).2 = { m with
        adapters := (game.playSound m r).2
        calls := m.calls ++ [.PlaySound r out]
        current := Function.update m.current out.index
          { r with bLive := true, nFrame := game.numFramesSimulated, currentAdapterHandle := out } } := by
  obtain ⟨hplayed, hlt, hsilent⟩ := hserve m r hreal rfl hfree
  have hroom : m.playOrMakeRoom game r = m.rPlaySound game r := if_neg hplayed
  have hplay : m.PlaySound game r =
      ((game.playSound m r).1, (m.rPlaySound game r).2.noteSound game r (game.playSound m r).1) := by
    unfold PlaySound
    rw [hroom]
    exact if_neg hplayed
  have hnote : (m.rPlaySound game r).2.noteSound game r (game.playSound m r).1 =
      (m.rPlaySound game r).2.setCurrent (game.playSound m r).1.index
        { r with bLive := true, nFrame := game.numFramesSimulated, currentAdapterHandle := (game.playSound m r).1 } := by
    unfold noteSound
    rw [if_neg]
    rw [Bool.not_eq_true]
    exact hsilent
  rw [hplay, hnote]
  exact ⟨hplayed, hlt, hsilent, rfl⟩

/-- The real manager when the last pass has done the first `k` stubs, `place` being where each
stub's sound is. -/
structure Reconciled (stub before : SoundPlayerManager) (pairing : SoundPairing) (k : ℕ) (real : SoundPlayerManager)
    (place : ℕ → Option ℕ) : Prop where
  count : real.numAdapters = before.numAdapters
  isReal : real.isStub = before.isStub
  owned : real.Owned
  matching : Matching stub.live real.live
    (fun i j => (stub.current i).toSoundRequest = (real.current j).toSoundRequest) place
  onto : ∀ j ∈ real.live, ∃ i, place i = some j
  done : ∀ i ∈ stub.live, i < k → ∃ j, place i = some j ∧ (real.current j).nFrame = (stub.current i).nFrame
  rest : ∀ i, k ≤ i → place i = pairing.realForStub i
  paired : ∀ i j, pairing.realForStub i = some j → place i = some j
  calls : ∃ later, real.calls = before.calls ++ later ∧
    ∀ i ∈ before.live, later.any (·.touches i) = true ↔ pairing.realPaired i = false

variable {stub before real : SoundPlayerManager} {pairing : SoundPairing} {k : ℕ} {place : ℕ → Option ℕ}

/-- A stub without a partner leaves an adapter free. -/
theorem Reconciled.room (h : Reconciled stub before pairing k real place) (hcount : stub.numAdapters = real.numAdapters)
    (hk : k ∈ stub.live) (hnone : place k = none) : ∃ i < real.numAdapters, (real.current i).bLive = false := by
  by_contra hfull
  push Not at hfull
  have hall : real.live = Finset.range real.numAdapters := by
    ext i
    rw [mem_live, Finset.mem_range]
    refine ⟨fun hi => hi.1, fun hi => ⟨hi, ?_⟩⟩
    simpa using hfull i hi
  have hless : real.live.card < stub.live.card := h.matching.card_lt h.onto hk hnone
  have hmost : stub.live.card ≤ (Finset.range stub.numAdapters).card := Finset.card_filter_le _ _
  rw [hall, ← hcount] at hless
  omega

/-- A paired stub hands its frame and parameters to the sound it claimed. -/
theorem Reconciled.carry (h : Reconciled stub before pairing k real place) {t : ℕ} (hplace : place k = some t)
    (player : CriPlayerAdapter) : Reconciled stub before pairing (k + 1) (real.takeOver t (stub.current k) player) place := by
  have hcurrent : (real.takeOver t (stub.current k) player).current =
      Function.update real.current t { real.current t with nFrame := (stub.current k).nFrame } := rfl
  have hentry : ∀ i, ((real.takeOver t (stub.current k) player).current i).bLive = (real.current i).bLive ∧
      ((real.takeOver t (stub.current k) player).current i).toSoundRequest = (real.current i).toSoundRequest ∧
      ((real.takeOver t (stub.current k) player).current i).currentAdapterHandle = (real.current i).currentAdapterHandle := by
    intro i
    rw [hcurrent]
    by_cases hit : i = t
    · subst hit
      rw [Function.update_self]
      exact ⟨rfl, rfl, rfl⟩
    · rw [Function.update_of_ne hit]
      exact ⟨rfl, rfl, rfl⟩
  have hlive : (real.takeOver t (stub.current k) player).live = real.live := by
    ext i
    rw [mem_live, mem_live, (hentry i).1]
    rfl
  refine ⟨h.count, h.isReal, fun i hi hlive => ?_, ?_, fun j hj => h.onto j (hlive ▸ hj), fun i hi hlt => ?_,
    fun i hi => h.rest i (by omega), h.paired, h.calls⟩
  · rw [(hentry i).2.2]
    exact h.owned i hi ((hentry i).1 ▸ hlive)
  · rw [hlive]
    exact h.matching.mono (Finset.Subset.refl _) (Finset.Subset.refl _) fun _ hfits => hfits.trans (hentry _).2.1.symm
  · rw [hcurrent]
    by_cases hik : i = k
    · subst hik
      exact ⟨t, hplace, by rw [Function.update_self]⟩
    · obtain ⟨j, hj, hframe⟩ := h.done i hi (by omega)
      have hjt : j ≠ t := by
        rintro rfl
        exact hik (h.matching.apart hj hplace)
      exact ⟨j, hj, by rw [Function.update_of_ne hjt, hframe]⟩

/-- A new sound, on an adapter that was free. -/
theorem Reconciled.start (h : Reconciled stub before pairing k real place)
    (hclaimed : ∀ j, pairing.realPaired j = true → ∃ i, pairing.realForStub i = some j) (hk : k ∈ stub.live)
    (hnone : place k = none)
    {real' : SoundPlayerManager} {out : SoundHandle} {entry : DeferredSoundRequest}
    (hfree : (real.current out.index).bLive = false) (hlt : out.index < real.numAdapters)
    (hcount : real'.numAdapters = real.numAdapters) (hstub : real'.isStub = real.isStub)
    (hcurrent : real'.current = Function.update real.current out.index entry)
    (hcalls : real'.calls = real.calls ++ [.PlaySound (stub.current k).toSoundRequest out])
    (hlive : entry.bLive = true) (hrequest : entry.toSoundRequest = (stub.current k).toSoundRequest)
    (hframe : entry.nFrame = (stub.current k).nFrame) (hhandle : entry.currentAdapterHandle = out) :
    Reconciled stub before pairing (k + 1) real' (Function.update place k (some out.index)) := by
  have hunplaced : ∀ i, place i ≠ some out.index := fun i hi => by
    have hlive := (mem_live.1 (h.matching.right hi)).2
    rw [hfree] at hlive
    cases hlive
  have hother : ∀ {i j}, place i = some j → real'.current j = real.current j := by
    intro i j hij
    rw [hcurrent, Function.update_of_ne]
    rintro rfl
    exact hunplaced i hij
  have hmem : ∀ {i}, i ∈ real'.live ↔ i = out.index ∨ i ∈ real.live := by
    intro i
    rw [mem_live, mem_live, hcount, hcurrent]
    by_cases hi : i = out.index
    · subst hi
      simp [hlt, hlive]
    · rw [Function.update_of_ne hi]
      exact ⟨.inr, fun hor => hor.resolve_left hi⟩
  have hgrown : Matching stub.live real'.live
      (fun i j => (stub.current i).toSoundRequest = (real'.current j).toSoundRequest) place :=
    ⟨h.matching.left, fun hp => hmem.2 (.inr (h.matching.right hp)),
      fun hp => (hother hp).symm ▸ h.matching.fits hp, h.matching.apart⟩
  obtain ⟨later, hlater, htouched⟩ := h.calls
  refine ⟨hcount.trans h.count, hstub.trans h.isReal, fun i hi hplaying => ?_, ?_, fun j hj => ?_, fun i hi hik => ?_,
    fun i hi => ?_, fun i j hij => ?_, later ++ [.PlaySound (stub.current k).toSoundRequest out], ?_, fun i hi => ?_⟩
  · rw [hcurrent] at hplaying ⊢
    by_cases hio : i = out.index
    · subst hio
      rw [Function.update_self, hhandle]
    · rw [Function.update_of_ne hio] at hplaying ⊢
      exact h.owned i (hcount ▸ hi) hplaying
  · refine hgrown.insert hk (hmem.2 (.inl rfl)) ?_ hunplaced
    rw [hcurrent, Function.update_self, hrequest]
  · rcases hmem.1 hj with rfl | hold
    · exact (Matching.partner_insert hnone _).2 (.inl rfl)
    · exact (Matching.partner_insert hnone _).2 (.inr (h.onto j hold))
  · by_cases hikk : i = k
    · subst hikk
      refine ⟨out.index, Function.update_self _ _ _, ?_⟩
      rw [hcurrent, Function.update_self, hframe]
    · obtain ⟨j, hj, hjframe⟩ := h.done i hi (by omega)
      refine ⟨j, by rw [Function.update_of_ne hikk, hj], ?_⟩
      rw [hother hj, hjframe]
  · rw [Function.update_of_ne (by omega)]
    exact h.rest i (by omega)
  · have hik : i ≠ k := by
      rintro rfl
      rw [← h.rest i le_rfl, hnone] at hij
      cases hij
    rw [Function.update_of_ne hik]
    exact h.paired i j hij
  · rw [hcalls, hlater, List.append_assoc]
  · rw [List.any_append, Bool.or_eq_true, htouched i hi]
    simp only [List.any_cons, List.any_nil, Bool.or_false, SoundCall.touches, beq_iff_eq]
    refine ⟨fun hor => hor.elim id ?_, .inl⟩
    -- A claimed adapter is live, so the game did not return it.
    rintro rfl
    by_contra hpaired
    obtain ⟨i, hi⟩ := hclaimed _ (by simpa using hpaired)
    exact hunplaced i (h.paired i _ hi)

/-- One stub of the last pass. -/
theorem reconciled_next (h : Reconciled stub before pairing k real place) (hserve : game.PlaysOnFree real.numAdapters)
    (hreal : real.isStub = false) (hcount : stub.numAdapters = real.numAdapters) (hk : k < stub.numAdapters)
    (hclaimed : ∀ j, pairing.realPaired j = true → ∃ i, pairing.realForStub i = some j) :
    ∃ place', Reconciled stub before pairing (k + 1) (reconcile game stub pairing real k) place' := by
  unfold reconcile
  split
  · rename_i hsilent
    have hskip : ∀ i ∈ stub.live, i ≠ k := by
      rintro i hi rfl
      rw [(mem_live.1 hi).2] at hsilent
      cases hsilent
    exact ⟨place, h.count, h.isReal, h.owned, h.matching, h.onto,
      fun i hi hik => h.done i hi (by have := hskip i hi; omega), fun i hi => h.rest i (by omega), h.paired, h.calls⟩
  · rename_i hlive
    have hmem : k ∈ stub.live := mem_live.2 ⟨hk, by simpa using hlive⟩
    split
    · rename_i t ht
      exact ⟨place, h.carry ((h.rest k le_rfl).trans ht) _⟩
    · rename_i hunpaired
      have hnone : place k = none := (h.rest k le_rfl).trans hunpaired
      obtain ⟨hplayed, hlt, hsilent, heq⟩ := playSound_free hserve hreal (h.room hcount hmem hnone)
        (stub.current k).toSoundRequest
      generalize hout : (real.PlaySound game (stub.current k).toSoundRequest).1 = out at *
      refine ⟨Function.update place k (some out.index), ?_⟩
      have hcurrent : ((real.PlaySound game (stub.current k).toSoundRequest).2.takeOver out.index (stub.current k)
          (stub.adapters k)).current = Function.update real.current out.index { (stub.current k).toSoundRequest with
            bLive := true, nFrame := (stub.current k).nFrame, currentAdapterHandle := out } := by
        rw [heq]
        show Function.update (Function.update _ _ _) _ _ = _
        rw [Function.update_idem]
        simp only [Function.update_self]
      dsimp only
      rw [hout, if_neg hplayed, if_neg (by rw [heq]; exact not_le.2 hlt)]
      exact h.start hclaimed hmem hnone hsilent hlt (by rw [heq]; rfl) (by rw [heq]; rfl) hcurrent (by rw [heq]; rfl)
        rfl rfl rfl rfl

/-! ## What `SyncState` comes to -/

/-- A stub manager and its real one, as `Factory` makes them and the hooks keep them. -/
structure Shadowed (stub real : SoundPlayerManager) : Prop where
  isStub : stub.isStub = true
  isReal : real.isStub = false
  count : stub.numAdapters = real.numAdapters
  stubOwned : stub.Owned
  realOwned : real.Owned

theorem pairing_pairs (stub real : SoundPlayerManager) :
    (pairSounds stub real).Pairs stub.numAdapters real.numAdapters (fun i => (stub.current i).bLive)
      (fun i => (real.current i).bLive) fun i j => (stub.current i).IsEqual (real.current j) :=
  pairLiveSounds_pairs _ _ _ _ _

/-- The pairing is a matching by request. -/
theorem pairing_matching (stub real : SoundPlayerManager) :
    Matching stub.live real.live (fun i j => (stub.current i).toSoundRequest = (real.current j).toSoundRequest)
      (pairSounds stub real).realForStub :=
  (pairing_pairs stub real).matching.mono (Finset.Subset.refl _) (Finset.Subset.refl _)
    fun _ hsame => DeferredSoundRequest.isEqual_iff.1 hsame

theorem pairing_full (stub real : SoundPlayerManager) :
    Matching.Full stub.live real.live (fun i j => (stub.current i).toSoundRequest = (real.current j).toSoundRequest)
      (pairSounds stub real).realForStub :=
  fun i hi hnone j hj hsame => (pairing_pairs stub real).full i hi hnone j hj (DeferredSoundRequest.isEqual_iff.2 hsame)

/-- Once the unclaimed sounds are stopped, the live real sounds are those paired. -/
theorem reconciled_zero (h : Stopped before (pairSounds stub before) before.numAdapters real) :
    Reconciled stub before (pairSounds stub before) 0 real (pairSounds stub before).realForStub := by
  have hpairs := pairing_pairs stub before
  have hmatching := pairing_matching stub before
  obtain ⟨later, hcalls, htouched⟩ := h.calls
  have hmem : ∀ {j}, j ∈ real.live ↔ j ∈ before.live ∧ (pairSounds stub before).realPaired j = true := by
    intro j
    rw [mem_live, mem_live, h.count]
    cases hp : (pairSounds stub before).realPaired j with
    | true => simp [h.spared j (.inr hp)]
    | false => simpa using fun hj => h.silenced j hj hp
  refine ⟨h.count, h.isReal, h.owned, ⟨hmatching.left, fun hp => ?_, fun hp => ?_, hmatching.apart⟩, fun j hj => ?_, nofun,
    fun i hi => rfl, fun i j hij => hij, later, hcalls, fun i hi => ?_⟩
  · exact hmem.2 ⟨hmatching.right hp, (hpairs.claimed _).2 ⟨_, hp⟩⟩
  · rw [h.spared _ (.inr ((hpairs.claimed _).2 ⟨_, hp⟩))]
    exact hmatching.fits hp
  · exact (hpairs.claimed j).1 (hmem.1 hj).2
  · rw [htouched i hi]
    exact ⟨fun hand => hand.2, fun hp => ⟨(mem_live.1 hi).1, hp⟩⟩

theorem reconciled_all (hcount : stub.numAdapters = real.numAdapters) (hserve : game.PlaysOnFree real.numAdapters)
    (hreal : real.isStub = false) (hstart : Reconciled stub before (pairSounds stub before) 0 real place) :
    ∃ place', Reconciled stub before (pairSounds stub before) stub.numAdapters
      ((List.range stub.numAdapters).foldl (reconcile game stub (pairSounds stub before)) real) place' := by
  have hprefix : ∀ k ≤ stub.numAdapters, ∃ place', Reconciled stub before (pairSounds stub before) k
      ((List.range k).foldl (reconcile game stub (pairSounds stub before)) real) place' := by
    intro k
    induction k with
    | zero => exact fun _ => ⟨place, hstart⟩
    | succ k ih =>
      intro hk
      obtain ⟨place', hplace⟩ := ih (by omega)
      have hsame : (((List.range k).foldl (reconcile game stub (pairSounds stub before)) real)).numAdapters = real.numAdapters :=
        hplace.count.trans hstart.count.symm
      rw [List.range_succ, List.foldl_append, List.foldl_cons, List.foldl_nil]
      exact reconciled_next hplace (hsame.symm ▸ hserve) (hplace.isReal.trans (hstart.isReal.symm.trans hreal))
        (hcount.trans hsame.symm) (by omega) fun j hj => ((pairing_pairs stub before).claimed j).1 hj
  exact hprefix _ le_rfl

/-- `SyncState` leaves the real manager reconciled, and then updates it. -/
theorem reconciled_syncState (h : Shadowed stub real) (hserve : game.PlaysOnFree real.numAdapters) :
    ∃ last place, (SyncState game stub real).2 = last.rUpdate game ∧
      Reconciled stub (afterStops game stub real) (pairSounds stub (afterStops game stub real)) stub.numAdapters last place := by
  obtain ⟨hcount, hstub, hown⟩ := keeps_afterStops game stub real
  have hstopped := stopped_all game (hown h.realOwned) (pairSounds stub (afterStops game stub real))
  have hsame := hstopped.count.trans hcount
  have hfree := hserve
  rw [← hsame] at hfree
  obtain ⟨place, hplace⟩ := reconciled_all (h.count.trans hsame.symm) hfree
    (hstopped.isReal.trans (hstub.trans h.isReal)) (reconciled_zero hstopped)
  exact ⟨_, place, rfl, hplace⟩

/-- `SyncState` keeps what it rests on, so it can be called again. -/
theorem shadowed_syncState (h : Shadowed stub real) (hserve : game.PlaysOnFree real.numAdapters) :
    Shadowed (SyncState game stub real).1 (SyncState game stub real).2 := by
  obtain ⟨last, place, hlast, hplace⟩ := reconciled_syncState h hserve
  obtain ⟨hcount, hstub, -⟩ := keeps_afterStops game stub real
  rw [hlast]
  exact ⟨h.isStub, hplace.isReal.trans (hstub.trans h.isReal), h.count.trans (hplace.count.trans hcount).symm, h.stubOwned,
    hplace.owned⟩

/-- Where the last stub is done, the live real sounds are those of the stub. -/
theorem Reconciled.playing (h : Reconciled stub before pairing stub.numAdapters real place) :
    real.playing = stub.playing := by
  have hplaced : ∀ i ∈ stub.live, place i = some ((place i).getD 0) ∧
      (real.current ((place i).getD 0)).nFrame = (stub.current i).nFrame := by
    intro i hi
    obtain ⟨j, hj, hframe⟩ := h.done i hi (mem_live.1 hi).1
    rw [hj]
    exact ⟨rfl, hframe⟩
  refine labels_eq_of_image (fun i => (place i).getD 0) (fun i hi i' hi' heq => ?_) ?_ fun i hi => ?_
  · exact h.matching.apart (hplaced i hi).1 (heq ▸ (hplaced i' hi').1)
  · ext j
    rw [Finset.mem_image]
    constructor
    · rintro ⟨i, hi, rfl⟩
      exact h.matching.right (hplaced i hi).1
    · intro hj
      obtain ⟨i, hi⟩ := h.onto j hj
      exact ⟨i, h.matching.left hi, by rw [hi]; rfl⟩
  · exact Prod.ext (h.matching.fits (hplaced i hi).1).symm (hplaced i hi).2

theorem playing_syncState (h : Shadowed stub real) (hserve : game.PlaysOnFree real.numAdapters) :
    (SyncState game stub real).2.playing = (SyncState game stub real).1.playing := by
  obtain ⟨last, place, hlast, hplace⟩ := reconciled_syncState h hserve
  rw [hlast]
  exact hplace.playing

/-- The real sounds kept are those claimed. -/
theorem Reconciled.keptPlaying_eq (h : Reconciled stub before (pairSounds stub before) k real place) (r : SoundRequest) :
    before.keptPlaying (real.rUpdate game) r =
      before.live.filter fun j => (before.current j).toSoundRequest = r ∧ (pairSounds stub before).realPaired j = true := by
  obtain ⟨later, hcalls, htouched⟩ := h.calls
  have hsince : before.callsSince (real.rUpdate game) = later ++ [.Update] := by
    unfold callsSince rUpdate
    dsimp only
    rw [hcalls, List.append_assoc, List.drop_left]
  unfold keptPlaying soundsOf
  rw [hsince, Finset.filter_filter]
  refine Finset.filter_congr fun j hj => and_congr_right fun _ => ?_
  have huntouched : (later ++ [SoundCall.Update]).any (·.touches j) = false ↔ (pairSounds stub before).realPaired j = true := by
    have hupdate : [SoundCall.Update].any (·.touches j) = false := rfl
    rw [List.any_append, hupdate, Bool.or_false, ← Bool.not_eq_true, htouched j hj, Bool.not_eq_false]
  rw [huntouched]
  refine ⟨fun hand => hand.2, fun hp => ⟨?_, hp⟩⟩
  obtain ⟨i, hi⟩ := ((pairing_pairs stub before).claimed j).1 hp
  exact h.matching.right (h.paired i j hi)

/-- After `SyncState` the real manager plays what the stub plays. No real sound was claimed twice, and of
each request as many go on as both sides had. -/
theorem syncState_reconciles (h : Shadowed stub real) (hserve : game.PlaysOnFree real.numAdapters) :
    let stopped := afterStops game stub real
    let after := SyncState game stub real
    after.2.playing = after.1.playing ∧ after.1.playing = stub.playing ∧ after.1.queuedStops = [] ∧
      (∀ i i' j, (pairSounds stub stopped).realForStub i = some j → (pairSounds stub stopped).realForStub i' = some j → i = i') ∧
      ∀ r, (stopped.keptPlaying after.2 r).card = min (stub.soundsOf r).card (stopped.soundsOf r).card := by
  obtain ⟨last, place, hlast, hplace⟩ := reconciled_syncState h hserve
  have hmatching := pairing_matching stub (afterStops game stub real)
  refine ⟨playing_syncState h hserve, rfl, rfl, fun i i' j => hmatching.apart, fun r => ?_⟩
  rw [hlast, hplace.keptPlaying_eq]
  exact hmatching.card_taken (pairing_full _ _) r _ (pairing_pairs stub (afterStops game stub real)).claimed

/-! ## Two jabs at once -/

def jab : SoundRequest := ⟨0x00010001, 7, 1, 4, 0⟩

/-- A game that plays on the first of two adapters that is free. -/
def firstFree : SoundGame where
  numFramesSimulated := 10
  playSound m _ := (if (m.current 0).bLive then 0x00010001 else 0x00000001, m.adapters)
  stopSound m _ _ := m.adapters
  update m := m.adapters

/-- A manager of two adapters that play a jab each from its frame on, or nothing. -/
def jabs (isStub : Bool) (frame : ℕ → Option ℤ) : SoundPlayerManager where
  isStub := isStub
  numAdapters := 2
  adapters _ := ⟨0, 0, 0, 0, 0, 0, 0⟩
  current i := { jab with
    bLive := (frame i).isSome, nFrame := (frame i).getD 0, currentAdapterHandle := if i = 0 then 0x00000001 else 0x00010001 }
  queuedStops := []
  calls := []

theorem firstFree_playsOnFree : firstFree.PlaysOnFree 2 := by
  intro m r _ _ hfree
  cases hzero : (m.current 0).bLive with
  | false => simp [firstFree, hzero, noPlayer, SoundHandle.index]
  | true =>
    obtain ⟨i, hi, hsilent⟩ := hfree
    obtain rfl : i = 1 := by
      by_contra hne
      obtain rfl : i = 0 := by omega
      rw [hzero] at hsilent
      cases hsilent
    simp [firstFree, hzero, hsilent, noPlayer, SoundHandle.index]

theorem jabs_owned (isStub : Bool) (frame : ℕ → Option ℤ) : (jabs isStub frame).Owned := by
  intro i hi _
  obtain rfl | rfl : i = 0 ∨ i = 1 := by simp only [jabs] at hi; omega
  · show SoundHandle.index 0x00000001 = 0
    decide
  · show SoundHandle.index 0x00010001 = 1
    decide

/-- The stub plays two. -/
def twoJabs : SoundPlayerManager := jabs true fun i => if i = 0 then some 5 else some 9

/-- The real manager plays one, from another frame. -/
def oneJab : SoundPlayerManager := jabs false fun i => if i = 0 then none else some 3

/-- The one that plays goes on, and the other is started next to it. -/
theorem syncState_reconciles_jabs :
    (SyncState firstFree twoJabs oneJab).2.playing = {(jab, 5), (jab, 9)} ∧
      ((afterStops firstFree twoJabs oneJab).keptPlaying (SyncState firstFree twoJabs oneJab).2 jab).card = 1 := by
  have hshadowed : Shadowed twoJabs oneJab := ⟨rfl, rfl, rfl, jabs_owned _ _, jabs_owned _ _⟩
  obtain ⟨hreal, hstub, -, -, hkept⟩ := syncState_reconciles hshadowed firstFree_playsOnFree
  refine ⟨(hreal.trans hstub).trans ?_, (hkept jab).trans ?_⟩
  · decide
  · decide

end SoundPlayerManager

end Sf4e.Battle
