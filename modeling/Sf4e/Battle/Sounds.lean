import Mathlib.Data.Multiset.MapFold
import Mathlib.Logic.Function.Basic
import Sf4e.Lib.Matching
/-!
# Pure sounds

While the game simulates and rolls back it plays its sounds on a stub manager,
whose players are silent. The real manager next to it is brought in line by
`SyncState`: what the stub was told to stop is stopped, live sounds are paired,
real sounds nobody claims are stopped, and the rest is started.

What is said here is with `bUsePureSounds` on, which is when `SyncState` is called.
-/

namespace Sf4e.Battle

open Sf4e.Lib

/-! ## Managers -/

/-- `SoundHandle`, with `SoundReference::FromHandle(h).index`. -/
abbrev SoundHandle := UInt32

def SoundHandle.index (h : SoundHandle) : ℕ := ((h &&& 0xffff0000) >>> 0x10).toNat

/-- What a failed `PlaySound` returns. -/
def noPlayer : SoundHandle := 0xffffffff

/-- The arguments of `PlaySound`; `position` is the pointer. -/
structure SoundRequest where
  cueSheetHandle : SoundHandle
  cueIdx : UInt32
  type : UInt32
  flags : UInt32
  position : UInt32
  deriving DecidableEq

/-- `DeferredSoundRequest`. -/
structure DeferredSoundRequest extends SoundRequest where
  bLive : Bool
  nFrame : ℤ
  currentAdapterHandle : SoundHandle
  deriving DecidableEq

def DeferredSoundRequest.IsEqual (lhs rhs : DeferredSoundRequest) : Bool :=
  lhs.cueIdx == rhs.cueIdx && lhs.cueSheetHandle == rhs.cueSheetHandle && lhs.flags == rhs.flags &&
    lhs.type == rhs.type && lhs.position == rhs.position

/-- The game's own `CriPlayerAdapter`. -/
structure CriPlayerAdapter where
  playerHandle : SoundHandle
  flags : UInt32
  position : UInt32
  volume : UInt32
  fadeScale : UInt32
  playState : UInt32
  field6_0x18 : UInt32
  deriving DecidableEq

/-- A call of one of the game's own methods on a manager, which is what can be heard. -/
inductive SoundCall where
  | PlaySound (request : SoundRequest) (out : SoundHandle)
  | StopSound (adapterHandle : SoundHandle) (criParam : Bool)
  | Update
  deriving DecidableEq

/-- A manager, with what `adapterToCurrentSound` and `queuedStops` hold for it, whether it is a key
of `shadowManagerMap`, and the calls it has been given. -/
structure SoundPlayerManager where
  isStub : Bool
  numAdapters : ℕ
  adapters : ℕ → CriPlayerAdapter
  current : ℕ → DeferredSoundRequest
  queuedStops : List DeferredSoundRequest
  calls : List SoundCall

/-- The game around a manager: the frame it is on, and what its own methods return and make of the
adapters. -/
structure SoundGame where
  numFramesSimulated : ℤ
  playSound : SoundPlayerManager → SoundRequest → SoundHandle × (ℕ → CriPlayerAdapter)
  stopSound : SoundPlayerManager → SoundHandle → Bool → (ℕ → CriPlayerAdapter)
  update : SoundPlayerManager → (ℕ → CriPlayerAdapter)

namespace SoundPlayerManager

def rPlaySound (game : SoundGame) (m : SoundPlayerManager) (r : SoundRequest) : SoundHandle × SoundPlayerManager :=
  let out := game.playSound m r
  (out.1, { m with adapters := out.2, calls := m.calls ++ [.PlaySound r out.1] })

def rStopSound (game : SoundGame) (m : SoundPlayerManager) (h : SoundHandle) (criParam : Bool) : SoundPlayerManager :=
  { m with adapters := game.stopSound m h criParam, calls := m.calls ++ [.StopSound h criParam] }

def rUpdate (game : SoundGame) (m : SoundPlayerManager) : SoundPlayerManager :=
  { m with adapters := game.update m, calls := m.calls ++ [.Update] }

/-! ## The hooks -/

/-- Only stub managers queue stops. -/
def queueStop (m : SoundPlayerManager) (stopped : DeferredSoundRequest) : SoundPlayerManager :=
  { m with queuedStops := if m.isStub then m.queuedStops ++ [stopped] else m.queuedStops }

def setCurrent (m : SoundPlayerManager) (i : ℕ) (entry : DeferredSoundRequest) : SoundPlayerManager :=
  { m with current := Function.update m.current i entry }

/-- The metadata of `StopSound` and `StopAll`, for one adapter. -/
def endSound (m : SoundPlayerManager) (i : ℕ) : SoundPlayerManager :=
  let stopped := { m.current i with bLive := false }
  (m.setCurrent i stopped).queueStop stopped

def StopSound (game : SoundGame) (m : SoundPlayerManager) (h : SoundHandle) (criParam : Bool) : SoundPlayerManager :=
  (m.endSound h.index).rStopSound game h criParam

def StopAll (m : SoundPlayerManager) : SoundPlayerManager := (List.range m.numAdapters).foldl endSound m

/-- The search of `PlaySound` for the sound that started first. -/
def oldestReq (m : SoundPlayerManager) : Option DeferredSoundRequest :=
  (List.range m.numAdapters).foldl (fun oldest i =>
    if !(m.current i).bLive then oldest
    else match oldest with
      | none => some (m.current i)
      | some req => if (m.current i).nFrame < req.nFrame then some (m.current i) else some req) none

/-- What `PlaySound` notes down when the game plays a sound. -/
def noteSound (game : SoundGame) (m : SoundPlayerManager) (r : SoundRequest) (out : SoundHandle) : SoundPlayerManager :=
  -- A live adapter was interrupted, and that counts as a stop.
  (if (m.current out.index).bLive then m.queueStop (m.current out.index) else m).setCurrent out.index
    { r with bLive := true, nFrame := game.numFramesSimulated, currentAdapterHandle := out }

/-- The game's own `PlaySound`, tried again without the oldest sound when there is no player. -/
def playOrMakeRoom (game : SoundGame) (m : SoundPlayerManager) (r : SoundRequest) : SoundHandle × SoundPlayerManager :=
  let played := m.rPlaySound game r
  if played.1 = noPlayer then
    match played.2.oldestReq with
    | some req => (played.2.StopSound game req.currentAdapterHandle true).rPlaySound game r
    | none => played
  else played

def PlaySound (game : SoundGame) (m : SoundPlayerManager) (r : SoundRequest) : SoundHandle × SoundPlayerManager :=
  let played := m.playOrMakeRoom game r
  if played.1 = noPlayer then played else (played.1, played.2.noteSound game r played.1)

end SoundPlayerManager

/-! ## `PairLiveSounds` -/

/-- Which real player each live stub sound owns, and which are claimed. -/
structure SoundPairing where
  realForStub : ℕ → Option ℕ
  realPaired : ℕ → Bool

/-- What one stub of `PairLiveSounds` takes: the first real player that is live, the same and free. -/
def SoundPairing.pair (realCount : ℕ) (stubLive realLive : ℕ → Bool) (same : ℕ → ℕ → Bool) (pairing : SoundPairing)
    (stub : ℕ) : SoundPairing :=
  if !stubLive stub then pairing
  else
    match (List.range realCount).find? fun real => !pairing.realPaired real && realLive real && same stub real with
    | none => pairing
    | some real =>
      ⟨Function.update pairing.realForStub stub (some real), Function.update pairing.realPaired real true⟩

def PairLiveSounds (stubCount realCount : ℕ) (stubLive realLive : ℕ → Bool) (same : ℕ → ℕ → Bool) : SoundPairing :=
  (List.range stubCount).foldl (SoundPairing.pair realCount stubLive realLive same) ⟨fun _ => none, fun _ => false⟩

/-! ## `SyncState` -/

namespace SoundPlayerManager

/-- The first live real sound that is the stopped one, started on the same frame. -/
def stopQueued (game : SoundGame) (real : SoundPlayerManager) (stoppedSound : DeferredSoundRequest) : SoundPlayerManager :=
  match (List.range real.numAdapters).find? fun i =>
      (real.current i).bLive && stoppedSound.IsEqual (real.current i) &&
        decide ((real.current i).nFrame = stoppedSound.nFrame) with
  | some i => real.StopSound game (real.current i).currentAdapterHandle true
  | none => real

/-- The real manager once the queued stops are done. -/
def afterStops (game : SoundGame) (stub real : SoundPlayerManager) : SoundPlayerManager :=
  stub.queuedStops.foldl (stopQueued game) real

def pairSounds (stub real : SoundPlayerManager) : SoundPairing :=
  PairLiveSounds stub.numAdapters real.numAdapters (fun i => (stub.current i).bLive) (fun i => (real.current i).bLive)
    fun i j => (stub.current i).IsEqual (real.current j)

def stopUnclaimed (game : SoundGame) (pairing : SoundPairing) (real : SoundPlayerManager) (i : ℕ) : SoundPlayerManager :=
  if (real.current i).bLive && !pairing.realPaired i then real.StopSound game (real.current i).currentAdapterHandle true
  else real

/-- The real player takes the stub's start frame and parameters. -/
def takeOver (real : SoundPlayerManager) (targetAdapter : ℕ) (stubSound : DeferredSoundRequest)
    (stubPlayer : CriPlayerAdapter) : SoundPlayerManager :=
  { real.setCurrent targetAdapter { real.current targetAdapter with nFrame := stubSound.nFrame } with
    adapters := Function.update real.adapters targetAdapter
      { stubPlayer with playerHandle := (real.adapters targetAdapter).playerHandle } }

/-- What one stub of the last pass does to the real manager. -/
def reconcile (game : SoundGame) (stub : SoundPlayerManager) (pairing : SoundPairing) (real : SoundPlayerManager) (i : ℕ) :
    SoundPlayerManager :=
  if !(stub.current i).bLive then real
  else
    match pairing.realForStub i with
    | some targetAdapter => real.takeOver targetAdapter (stub.current i) (stub.adapters i)
    | none =>
      let played := real.PlaySound game (stub.current i).toSoundRequest
      if played.1 = noPlayer then played.2
      else if played.2.numAdapters ≤ played.1.index then played.2
      else played.2.takeOver played.1.index (stub.current i) (stub.adapters i)

/-- `SyncState`, for one entry of `shadowManagerMap`: the stub manager and the real one after it. -/
def SyncState (game : SoundGame) (stub real : SoundPlayerManager) : SoundPlayerManager × SoundPlayerManager :=
  let real := afterStops game stub real
  let pairing := pairSounds stub real
  let real := (List.range real.numAdapters).foldl (stopUnclaimed game pairing) real
  let real := (List.range stub.numAdapters).foldl (reconcile game stub pairing) real
  ({ stub with queuedStops := [] }, real.rUpdate game)

end SoundPlayerManager

/-! ## What is paired -/

theorem DeferredSoundRequest.isEqual_iff {lhs rhs : DeferredSoundRequest} :
    lhs.IsEqual rhs = true ↔ lhs.toSoundRequest = rhs.toSoundRequest := by
  obtain ⟨⟨sheet, cue, type, flags, position⟩, -, -, -⟩ := lhs
  obtain ⟨⟨sheet', cue', type', flags', position'⟩, -, -, -⟩ := rhs
  simp only [IsEqual, Bool.and_eq_true, beq_iff_eq, SoundRequest.mk.injEq]
  tauto

/-- The first `count` players that are live. -/
def liveBelow (count : ℕ) (isLive : ℕ → Bool) : Finset ℕ := (Finset.range count).filter fun i => isLive i = true

theorem mem_liveBelow {count : ℕ} {isLive : ℕ → Bool} {i : ℕ} :
    i ∈ liveBelow count isLive ↔ i < count ∧ isLive i = true := by
  rw [liveBelow, Finset.mem_filter, Finset.mem_range]

theorem liveBelow_succ_subset (count : ℕ) (isLive : ℕ → Bool) : liveBelow count isLive ⊆ liveBelow (count + 1) isLive :=
  fun _ hi => mem_liveBelow.2 ⟨Nat.lt_succ_of_lt (mem_liveBelow.1 hi).1, (mem_liveBelow.1 hi).2⟩

/-- A pairing of the first `stubCount` stubs that leaves no two of them unpaired without need. -/
structure SoundPairing.Pairs (pairing : SoundPairing) (stubCount realCount : ℕ) (stubLive realLive : ℕ → Bool)
    (same : ℕ → ℕ → Bool) : Prop where
  matching : Matching (liveBelow stubCount stubLive) (liveBelow realCount realLive) (fun i j => same i j = true)
    pairing.realForStub
  full : Matching.Full (liveBelow stubCount stubLive) (liveBelow realCount realLive) (fun i j => same i j = true)
    pairing.realForStub
  claimed : ∀ j, pairing.realPaired j = true ↔ ∃ i, pairing.realForStub i = some j

theorem SoundPairing.Pairs.pair {pairing : SoundPairing} {stubCount realCount : ℕ} {stubLive realLive : ℕ → Bool}
    {same : ℕ → ℕ → Bool} (h : pairing.Pairs stubCount realCount stubLive realLive same) :
    (pairing.pair realCount stubLive realLive same stubCount).Pairs (stubCount + 1) realCount stubLive realLive same := by
  have hgrown := h.matching.mono (liveBelow_succ_subset stubCount stubLive) (Finset.Subset.refl _) fun _ hs => hs
  have hnew : pairing.realForStub stubCount = none := by
    refine Option.eq_none_iff_forall_ne_some.2 fun j hj => ?_
    exact absurd (mem_liveBelow.1 (h.matching.left hj)).1 (lt_irrefl _)
  -- Whoever was left without a partner before has still nobody free.
  have hold : ∀ i ∈ liveBelow (stubCount + 1) stubLive, i ≠ stubCount → pairing.realForStub i = none →
      ∀ j ∈ liveBelow realCount realLive, same i j = true → ∃ i', pairing.realForStub i' = some j := by
    intro i hi hne hnone
    have hlt : i < stubCount := Nat.lt_of_le_of_ne (Nat.lt_succ_iff.1 (mem_liveBelow.1 hi).1) hne
    exact h.full i (mem_liveBelow.2 ⟨hlt, (mem_liveBelow.1 hi).2⟩) hnone
  unfold SoundPairing.pair
  split
  · rename_i hlive
    refine ⟨hgrown, fun i hi hnone => hold i hi ?_ hnone, h.claimed⟩
    rintro rfl
    rw [(mem_liveBelow.1 hi).2] at hlive
    cases hlive
  · rename_i hlive
    have hlive : stubLive stubCount = true := by simpa using hlive
    split
    · rename_i hnone
      refine ⟨hgrown, fun i hi hpartner j hj hsame => ?_, h.claimed⟩
      by_cases hi' : i = stubCount
      · subst hi'
        have hfree := List.find?_eq_none.1 hnone j (List.mem_range.2 (mem_liveBelow.1 hj).1)
        rw [(mem_liveBelow.1 hj).2, hsame, Bool.and_true, Bool.and_true, Bool.not_eq_true, Bool.not_eq_false'] at hfree
        exact (h.claimed j).1 hfree
      · exact hold i hi hi' hpartner j hj hsame
    · rename_i real hfound
      have hreal := List.find?_some hfound
      have hlt := List.mem_range.1 (List.mem_of_find?_eq_some hfound)
      simp only [Bool.and_eq_true, Bool.not_eq_true'] at hreal
      obtain ⟨⟨hfree, hrealLive⟩, hsame⟩ := hreal
      have hunclaimed : ∀ i, pairing.realForStub i ≠ some real := fun i hi => by
        rw [(h.claimed real).2 ⟨i, hi⟩] at hfree
        cases hfree
      refine ⟨hgrown.insert (mem_liveBelow.2 ⟨Nat.lt_succ_self _, hlive⟩) (mem_liveBelow.2 ⟨hlt, hrealLive⟩) hsame hunclaimed,
        fun i hi hpartner j hj hfits => ?_, fun j => ?_⟩
      · dsimp only at hpartner
        have hne : i ≠ stubCount := by
          rintro rfl
          rw [Function.update_self] at hpartner
          cases hpartner
        rw [Function.update_of_ne hne] at hpartner
        exact (Matching.partner_insert hnew j).2 (.inr (hold i hi hne hpartner j hj hfits))
      · show Function.update pairing.realPaired real true j = true ↔ _
        rw [Matching.partner_insert hnew, ← h.claimed]
        by_cases hj : j = real
        · simp [hj]
        · rw [Function.update_of_ne hj]
          exact ⟨.inr, fun hor => hor.resolve_left hj⟩

theorem pairLiveSounds_pairs (stubCount realCount : ℕ) (stubLive realLive : ℕ → Bool) (same : ℕ → ℕ → Bool) :
    (PairLiveSounds stubCount realCount stubLive realLive same).Pairs stubCount realCount stubLive realLive same := by
  unfold PairLiveSounds
  induction stubCount with
  | zero =>
    refine ⟨.empty _ _ _, fun i hi => ?_, fun j => ?_⟩
    · exact absurd (mem_liveBelow.1 hi).1 (Nat.not_lt_zero _)
    · simp
  | succ n ih =>
    rw [List.range_succ, List.foldl_append, List.foldl_cons, List.foldl_nil]
    exact ih.pair

/-! ## What the hooks keep -/

namespace SoundPlayerManager

variable {m : SoundPlayerManager}

/-- The adapters with a live sound. -/
def live (m : SoundPlayerManager) : Finset ℕ := liveBelow m.numAdapters fun i => (m.current i).bLive

theorem mem_live {i : ℕ} : i ∈ m.live ↔ i < m.numAdapters ∧ (m.current i).bLive = true := mem_liveBelow

/-- The live sounds, with the frame they started on. -/
def playing (m : SoundPlayerManager) : Multiset (SoundRequest × ℤ) :=
  m.live.val.map fun i => ((m.current i).toSoundRequest, (m.current i).nFrame)

/-- Each live entry carries its own adapter's handle. -/
def Owned (m : SoundPlayerManager) : Prop :=
  ∀ i < m.numAdapters, (m.current i).bLive = true → (m.current i).currentAdapterHandle.index = i

/-- One hook or several leave the same manager, its live entries with their own handles. -/
structure Keeps (m m' : SoundPlayerManager) : Prop where
  count : m'.numAdapters = m.numAdapters
  isStub : m'.isStub = m.isStub
  owned : m.Owned → m'.Owned

theorem Keeps.refl (m : SoundPlayerManager) : m.Keeps m := ⟨rfl, rfl, id⟩

theorem Keeps.trans {m₁ m₂ m₃ : SoundPlayerManager} (h : m₁.Keeps m₂) (h' : m₂.Keeps m₃) : m₁.Keeps m₃ :=
  ⟨h'.count.trans h.count, h'.isStub.trans h.isStub, fun hown => h'.owned (h.owned hown)⟩

/-- A step that keeps the manager may be taken for each element of a list. -/
theorem Keeps.foldl {α : Type} {f : SoundPlayerManager → α → SoundPlayerManager} (hf : ∀ m a, Keeps m (f m a))
    (m : SoundPlayerManager) (as : List α) : m.Keeps (as.foldl f m) := by
  induction as generalizing m with
  | nil => exact .refl m
  | cons a as ih => exact (hf m a).trans (ih (f m a))

/-- The game's own methods change no entry. -/
theorem keeps_rPlaySound (game : SoundGame) (m : SoundPlayerManager) (r : SoundRequest) :
    m.Keeps (m.rPlaySound game r).2 := ⟨rfl, rfl, id⟩

theorem keeps_queueStop (m : SoundPlayerManager) (stopped : DeferredSoundRequest) : m.Keeps (m.queueStop stopped) :=
  ⟨rfl, rfl, id⟩

theorem keeps_setCurrent (m : SoundPlayerManager) {i : ℕ} {entry : DeferredSoundRequest}
    (hentry : entry.bLive = true → entry.currentAdapterHandle.index = i) : m.Keeps (m.setCurrent i entry) := by
  refine ⟨rfl, rfl, fun h j hj hlive => ?_⟩
  unfold setCurrent at hlive ⊢
  by_cases hji : j = i
  · subst hji
    simp only [Function.update_self] at hlive ⊢
    exact hentry hlive
  · simp only [Function.update_of_ne hji] at hlive ⊢
    exact h j hj hlive

theorem keeps_endSound (m : SoundPlayerManager) (i : ℕ) : m.Keeps (m.endSound i) := by
  have hended : ({ m.current i with bLive := false } : DeferredSoundRequest).bLive = true →
      (m.current i).currentAdapterHandle.index = i := nofun
  exact (m.keeps_setCurrent hended).trans (keeps_queueStop _ _)

theorem keeps_stopSound (game : SoundGame) (m : SoundPlayerManager) (h : SoundHandle) (criParam : Bool) :
    m.Keeps (m.StopSound game h criParam) :=
  (m.keeps_endSound h.index).trans ⟨rfl, rfl, id⟩

theorem keeps_stopAll (m : SoundPlayerManager) : m.Keeps m.StopAll := .foldl keeps_endSound m _

theorem keeps_noteSound (game : SoundGame) (m : SoundPlayerManager) (r : SoundRequest) (out : SoundHandle) :
    m.Keeps (m.noteSound game r out) := by
  unfold noteSound
  refine .trans ?_ (keeps_setCurrent _ fun _ => rfl)
  split
  · exact m.keeps_queueStop _
  · exact .refl m

theorem keeps_playOrMakeRoom (game : SoundGame) (m : SoundPlayerManager) (r : SoundRequest) :
    m.Keeps (m.playOrMakeRoom game r).2 := by
  have hplayed := m.keeps_rPlaySound game r
  unfold playOrMakeRoom
  dsimp only
  split
  · split
    · exact (hplayed.trans (keeps_stopSound game _ _ _)).trans (keeps_rPlaySound game _ r)
    · exact hplayed
  · exact hplayed

/-- The entry a sound gets is the one its handle names, whatever the game returned. -/
theorem keeps_playSound (game : SoundGame) (m : SoundPlayerManager) (r : SoundRequest) :
    m.Keeps (m.PlaySound game r).2 := by
  have hroom := m.keeps_playOrMakeRoom game r
  unfold PlaySound
  dsimp only
  split
  · exact hroom
  · exact hroom.trans (keeps_noteSound game _ r _)

end SoundPlayerManager

end Sf4e.Battle
