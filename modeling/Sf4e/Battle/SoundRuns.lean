import Sf4e.Battle.SoundSync
import Sf4e.Lib.Machine
/-!
# The sounds of a battle

A stub manager and its real one from `Factory` on: the game plays and stops sounds, saves, rolls
back and syncs. What `SyncState` rests on is kept by every step, so after each `SyncState` of a run
the real manager plays what the stub plays: `synced_throughout`.
-/
open Sf4e.Lib

namespace Sf4e.Battle

open SoundPlayerManager

/-- A manager as `Factory` leaves it, with no sound on any adapter. -/
def SoundPlayerManager.fresh (isStub : Bool) (numAdapters : ℕ) (adapters : ℕ → CriPlayerAdapter) :
    SoundPlayerManager where
  isStub := isStub
  numAdapters := numAdapters
  adapters := adapters
  current _ := ⟨⟨0, 0, 0, 0, 0⟩, false, 0, 0⟩
  queuedStops := []
  calls := []

/-- A stub manager, its real one, and what `criPlayerState` of each save state holds of the stub's. -/
structure SoundBattle where
  stub : SoundPlayerManager
  real : SoundPlayerManager
  saved : ℕ → Option (ℕ → DeferredSoundRequest)

/-- What the game does to the manager it was given, which is the stub. -/
inductive SoundAct where
  | PlaySound (game : SoundGame) (request : SoundRequest)
  | StopSound (game : SoundGame) (adapterHandle : SoundHandle) (criParam : Bool)
  | StopAll
  | Update (game : SoundGame)
  | Save (slot : ℕ)
  | Clear (slot : ℕ)
  /-- The pool of the adapters is loaded too; `adapters` is what it leaves in them. -/
  | Load (slot : ℕ) (adapters : ℕ → CriPlayerAdapter)
  | SyncState (game : SoundGame)

namespace SoundBattle

def Factory (numAdapters : ℕ) (stubAdapters realAdapters : ℕ → CriPlayerAdapter) : SoundBattle where
  stub := .fresh true numAdapters stubAdapters
  real := .fresh false numAdapters realAdapters
  saved _ := none

/-- A load drops the queued stops, and leaves alone what the state did not record. -/
def load (b : SoundBattle) (slot : ℕ) (adapters : ℕ → CriPlayerAdapter) : SoundBattle :=
  { b with stub := { b.stub with
      queuedStops := []
      current := (b.saved slot).getD b.stub.current
      adapters := adapters } }

def take (b : SoundBattle) : SoundAct → SoundBattle
  | .PlaySound game request => { b with stub := (b.stub.PlaySound game request).2 }
  | .StopSound game adapterHandle criParam => { b with stub := b.stub.StopSound game adapterHandle criParam }
  | .StopAll => { b with stub := b.stub.StopAll }
  | .Update game => { b with stub := b.stub.rUpdate game }
  | .Save slot => { b with saved := Function.update b.saved slot (some b.stub.current) }
  | .Clear slot => { b with saved := Function.update b.saved slot none }
  | .Load slot adapters => b.load slot adapters
  | .SyncState game =>
    let (stub, real) := SyncState game b.stub b.real
    { b with stub, real }

end SoundBattle

def soundBattle : Machine SoundBattle SoundAct Empty where
  next b a := (b.take a, [])

namespace SoundBattle

/-- Where the run syncs, the game finds an adapter for each sound while one is free. -/
def PlaysOnFree (b : SoundBattle) : SoundAct → Prop
  | .SyncState game => game.PlaysOnFree b.real.numAdapters
  | _ => True

/-- What every step keeps: the managers as `SyncState` needs them, and the same of the saved entries. -/
structure Kept (b : SoundBattle) : Prop where
  shadowed : Shadowed b.stub b.real
  saved : ∀ slot current, b.saved slot = some current → Owned { b.stub with current }

variable {b : SoundBattle}

/-- A hook on the stub. -/
theorem Kept.hook (h : b.Kept) {stub : SoundPlayerManager} (hkeeps : b.stub.Keeps stub) : Kept { b with stub } := by
  obtain ⟨⟨hstub, hreal, hcount, hstubOwned, hrealOwned⟩, hsaved⟩ := h
  refine ⟨⟨hkeeps.isStub.trans hstub, hreal, hkeeps.count.trans hcount, hkeeps.owned hstubOwned, hrealOwned⟩, ?_⟩
  intro slot current hslot i hi hlive
  exact hsaved slot current hslot i (hkeeps.count ▸ hi) hlive

theorem Kept.save (h : b.Kept) (slot : ℕ) : Kept (b.take (.Save slot)) := by
  refine ⟨h.shadowed, fun slot' current hslot => ?_⟩
  by_cases heq : slot' = slot
  · subst heq
    obtain rfl : b.stub.current = current := by simpa [take] using hslot
    exact h.shadowed.stubOwned
  · exact h.saved slot' current (by simpa [take, heq] using hslot)

theorem Kept.clear (h : b.Kept) (slot : ℕ) : Kept (b.take (.Clear slot)) := by
  refine ⟨h.shadowed, fun slot' current hslot => ?_⟩
  by_cases heq : slot' = slot
  · subst heq
    simp [take] at hslot
  · exact h.saved slot' current (by simpa [take, heq] using hslot)

theorem Kept.load (h : b.Kept) (slot : ℕ) (adapters : ℕ → CriPlayerAdapter) : Kept (b.load slot adapters) := by
  have hkeeps : b.stub.Keeps (b.load slot adapters).stub := by
    refine ⟨rfl, rfl, fun hown => ?_⟩
    unfold SoundBattle.load
    cases hslot : b.saved slot with
    | none => exact hown
    | some current => exact h.saved slot current hslot
  exact h.hook hkeeps

theorem kept_next (h : b.Kept) (a : SoundAct) (hfree : b.PlaysOnFree a) : (b.take a).Kept := by
  cases a with
  | PlaySound game request => exact h.hook (b.stub.keeps_playSound game request)
  | StopSound game adapterHandle criParam => exact h.hook (b.stub.keeps_stopSound game adapterHandle criParam)
  | StopAll => exact h.hook b.stub.keeps_stopAll
  | Update game => exact h.hook ⟨rfl, rfl, id⟩
  | Save slot => exact h.save slot
  | Clear slot => exact h.clear slot
  | Load slot adapters => exact h.load slot adapters
  | SyncState game => exact ⟨shadowed_syncState h.shadowed hfree, h.saved⟩

theorem kept_factory (numAdapters : ℕ) (stubAdapters realAdapters : ℕ → CriPlayerAdapter) :
    (Factory numAdapters stubAdapters realAdapters).Kept :=
  ⟨⟨rfl, rfl, rfl, nofun, nofun⟩, nofun⟩

/-- The real manager plays what the stub plays once `SyncState` is over. -/
def InTune (b : SoundBattle) : SoundAct → Prop
  | .SyncState game => (b.take (.SyncState game)).real.playing = (b.take (.SyncState game)).stub.playing
  | _ => True

theorem inTune_next (h : b.Kept) (a : SoundAct) (hfree : b.PlaysOnFree a) : b.InTune a := by
  cases a with
  | SyncState game => exact playing_syncState h.shadowed hfree
  | _ => trivial

/-- Whatever was played, stopped and rolled back before, each `SyncState` of a battle leaves the real
manager playing what the stub plays. -/
theorem synced_throughout {numAdapters : ℕ} {stubAdapters realAdapters : ℕ → CriPlayerAdapter} {as : List SoundAct}
    (h : soundBattle.Meets (fun _ => PlaysOnFree) (Factory numAdapters stubAdapters realAdapters) [] as) :
    soundBattle.Meets (fun _ => InTune) (Factory numAdapters stubAdapters realAdapters) [] as :=
  Machine.meets_of_inv (fun _ => Kept) (fun _ _ a hkept hfree => kept_next hkept a hfree)
    (fun _ _ a hkept hfree => inTune_next hkept a hfree) (kept_factory numAdapters stubAdapters realAdapters) h

end SoundBattle

end Sf4e.Battle
