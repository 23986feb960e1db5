import Sf4e.Battle.SaveState
import Sf4e.Lib.Ledger
import Sf4e.Lib.Machine
/-!
# Who owns a memento buffer

`System.ledger` counts what the tracked keys and the slots hold, and what the
game has freed. `Tidy` is what every call keeps, and `Goes` says that a call
loses no buffer; only `Reclaim` of a slot with records does.

`save_states_owned`: over any run a buffer has one holder at most, is freed once
at most, and is lost only in `Reclaim`.
-/
open Sf4e.Lib

namespace Sf4e.Battle

variable {κ φ γ : Type} {n : ℕ}

/-! ## Holdings -/

def MementoKey.held (key : MementoKey) : Multiset ℕ := ↑key.mementos.toList

def recordsHeld (keys : List (κ × MementoKey)) : Multiset ℕ := (keys.map fun e => e.2.held).sum

theorem held_zero : MementoKey.zero.held = 0 := rfl

theorem held_eq_zero {key : MementoKey} (h : key.mementos = none) : key.held = 0 := by
  rw [MementoKey.held, h]
  rfl

theorem mem_held {key : MementoKey} {p : Payload} : p ∈ key.held ↔ key.mementos = some p := by
  simp [MementoKey.held]

theorem recordsHeld_append (keys more : List (κ × MementoKey)) :
    recordsHeld (keys ++ more) = recordsHeld keys + recordsHeld more := by
  rw [recordsHeld, recordsHeld, recordsHeld, List.map_append, List.sum_append]

theorem recordsHeld_eq (keys : List (κ × MementoKey)) : recordsHeld keys = ↑(System.buffers keys) := by
  induction keys with
  | nil => rfl
  | cons e keys ih =>
    have hcons : recordsHeld (e :: keys) = e.2.held + recordsHeld keys := List.sum_cons
    rw [hcons, ih]
    rfl

theorem mem_recordsHeld {keys : List (κ × MementoKey)} {p : Payload} :
    p ∈ recordsHeld keys ↔ ∃ e ∈ keys, e.2.mementos = some p := by
  simp [recordsHeld_eq, System.buffers]

def slotsHeld (saveStates : Fin n → SaveState κ φ γ) : Multiset ℕ := ∑ i, recordsHeld (saveStates i).keys

/-- The sum over the slots when one of them changes. -/
theorem slotsHeld_update (saveStates : Fin n → SaveState κ φ γ) (i : Fin n) (state : SaveState κ φ γ) :
    recordsHeld (saveStates i).keys + slotsHeld (Function.update saveStates i state) =
      recordsHeld state.keys + slotsHeld saveStates := by
  have hupdate : (fun j => recordsHeld (Function.update saveStates i state j).keys) =
      Function.update (fun j => recordsHeld (saveStates j).keys) i (recordsHeld state.keys) := by
    funext j
    exact Function.apply_update (fun _ (st : SaveState κ φ γ) => recordsHeld st.keys) saveStates i state j
  rw [slotsHeld, slotsHeld, hupdate]
  exact sum_holdings_update (f := fun j => recordsHeld (saveStates j).keys) (Finset.mem_univ i) _

/-- What a slot held is what it holds no more when it is emptied. -/
theorem slotsHeld_emptied [Inhabited φ] (saveStates : Fin n → SaveState κ φ γ) (i : Fin n) :
    ↑(System.buffers (saveStates i).keys) + slotsHeld (Function.update saveStates i (System.emptied (saveStates i))) =
      slotsHeld saveStates := by
  have hempty : recordsHeld (System.emptied (saveStates i)).keys = 0 := rfl
  rw [← recordsHeld_eq, slotsHeld_update, hempty, zero_add]

/-- What every slot keeps, of one that has been changed. -/
theorem forall_slots {P : SaveState κ φ γ → Prop} {saveStates : Fin n → SaveState κ φ γ} (h : ∀ i, P (saveStates i))
    {i : Fin n} {state : SaveState κ φ γ} (hstate : P state) (j : Fin n) : P (Function.update saveStates i state j) :=
  (Function.forall_update_iff saveStates fun _ st => P st).2 ⟨hstate, fun j _ => h j⟩ j

theorem freed_held (s : System κ φ γ n) (k : κ) :
    (↑(s.freed ++ (s.live k).mementos.toList) : Multiset ℕ) = ↑s.freed + (s.live k).held :=
  (Multiset.coe_add _ _).symm

variable [DecidableEq κ]

def keysHeld (m : Memory κ) (ks : List κ) : Multiset ℕ := ∑ k ∈ ks.toFinset, (m k).held

theorem keysHeld_congr {m m' : Memory κ} {ks : List κ} (h : ∀ k ∈ ks, m' k = m k) : keysHeld m' ks = keysHeld m ks :=
  Finset.sum_congr rfl fun k hk => by rw [h k (List.mem_toFinset.1 hk)]

/-- The records of distinct keys hold what the keys hold. -/
theorem recordsHeld_of_keys {ks : List κ} (h : ks.Nodup) (m : Memory κ) :
    recordsHeld (ks.map fun k => (k, m k)) = keysHeld m ks := by
  rw [keysHeld, List.sum_toFinset _ h, recordsHeld, List.map_map]
  rfl

theorem keysHeld_update_of_notMem (m : Memory κ) {ks : List κ} {k : κ} (hk : k ∉ ks) (key : MementoKey) :
    keysHeld (Function.update m k key) ks = keysHeld m ks := by
  refine keysHeld_congr fun k' hk' => Function.update_of_ne ?_ _ _
  rintro rfl
  exact hk hk'

/-- One key gets another value, and may become tracked by it. -/
theorem keysHeld_insert (m : Memory κ) {ks : List κ} (k : κ) (key : MementoKey)
    (huntracked : k ∉ ks → (m k).mementos = none) :
    (m k).held + keysHeld (Function.update m k key) (ks.insert k) = key.held + keysHeld m ks := by
  by_cases hk : k ∈ ks
  · have hupdate : (fun k' => (Function.update m k key k').held) =
        Function.update (fun k' => (m k').held) k key.held := by
      funext k'
      exact Function.apply_update (fun _ => MementoKey.held) m k key k'
    rw [List.insert_of_mem hk, keysHeld, keysHeld, hupdate]
    exact sum_holdings_update (f := fun k' => (m k').held) (List.mem_toFinset.2 hk) key.held
  · have hinsert : keysHeld (Function.update m k key) (ks.insert k) = key.held + keysHeld m ks := by
      rw [← keysHeld_update_of_notMem m hk key, keysHeld, List.insert_of_not_mem hk, List.toFinset_cons,
        Finset.sum_insert (by simpa using hk), Function.update_self]
      rfl
    rw [hinsert, held_eq_zero (huntracked hk), zero_add]

/-- A key loses its buffer. -/
theorem keysHeld_clear (m : Memory κ) {ks : List κ} (k : κ) (huntracked : k ∉ ks → (m k).mementos = none) :
    (m k).held + keysHeld (Function.update m k { m k with mementos := none }) ks = keysHeld m ks := by
  by_cases hk : k ∈ ks
  · have hnone : MementoKey.held { m k with mementos := none } = 0 := held_eq_zero rfl
    have hinsert := keysHeld_insert m k { m k with mementos := none } huntracked
    rw [List.insert_of_mem hk, hnone, zero_add] at hinsert
    exact hinsert
  · rw [keysHeld_update_of_notMem m hk, held_eq_zero (huntracked hk), zero_add]

/-- A tracked key without a buffer may as well not be tracked. -/
theorem keysHeld_erase {m : Memory κ} {ks : List κ} (h : ks.Nodup) {k : κ} (hk : (m k).mementos = none) :
    keysHeld m (ks.erase k) = keysHeld m ks := by
  refine Finset.sum_subset (fun k' hk' => ?_) fun k' hmem hgone => ?_
  · exact List.mem_toFinset.2 (List.mem_of_mem_erase (List.mem_toFinset.1 hk'))
  · rw [List.mem_toFinset] at hmem hgone
    have hsame : k' = k := by
      by_contra hne
      exact hgone ((List.Nodup.mem_erase_iff h).2 ⟨hne, hmem⟩)
    rw [hsame, held_eq_zero hk]

/-! ## The ledger -/

namespace System

/-- The buffers of the tracked keys and of the slots, and those the game has freed. -/
def ledger (s : System κ φ γ n) : Ledger where
  next := s.allocated
  held := keysHeld s.live s.trackedKeys + slotsHeld s.saveStates
  freed := ↑s.freed

/-- What every call keeps. -/
structure Tidy (s : System κ φ γ n) : Prop where
  tracked : s.trackedKeys.Nodup
  untracked : ∀ k, k ∉ s.trackedKeys → (s.live k).mementos = none
  owns : ∀ i, (s.saveStates i).ownsKeys = true
  unused : ∀ i, (s.saveStates i).used = false → (s.saveStates i).keys = []
  sound : s.ledger.Sound

theorem Tidy.mem_tracked {s : System κ φ γ n} (h : s.Tidy) {k : κ} {p : Payload} (hk : (s.live k).mementos = some p) :
    k ∈ s.trackedKeys := by
  by_contra hno
  rw [h.untracked k hno] at hk
  cases hk

/-- One slot has changed, and the buffers are in order. -/
theorem Tidy.with_slot {s s' : System κ φ γ n} (h : s.Tidy) {i : Fin n} {state : SaveState κ φ γ}
    (hslots : s'.saveStates = Function.update s.saveStates i state) (howns : state.ownsKeys = true)
    (hunused : state.used = false → state.keys = []) (htracked : s'.trackedKeys = s.trackedKeys)
    (huntracked : ∀ k, k ∉ s.trackedKeys → (s'.live k).mementos = none) (hsound : s'.ledger.Sound) : s'.Tidy where
  tracked := by
    rw [htracked]
    exact h.tracked
  untracked := by
    rw [htracked]
    exact huntracked
  owns := by
    rw [hslots]
    exact forall_slots (P := fun st => st.ownsKeys = true) h.owns howns
  unused := by
    rw [hslots]
    exact forall_slots (P := fun st => st.used = false → st.keys = []) h.unused hunused
  sound := hsound

/-- A call that leaves everything in order and loses nothing. -/
structure Goes (s s' : System κ φ γ n) : Prop where
  tidy : s'.Tidy
  kept : s.ledger.Kept s'.ledger

theorem Goes.refl {s : System κ φ γ n} (h : s.Tidy) : Goes s s := ⟨h, .refl _⟩

theorem Goes.trans {a b c : System κ φ γ n} (hab : Goes a b) (hbc : Goes b c) : Goes a c :=
  ⟨hbc.tidy, hab.kept.trans hbc.kept⟩

theorem Goes.mem_freed {s s' : System κ φ γ n} (h : Goes s s') {p : Payload} (hp : p ∈ s.freed) : p ∈ s'.freed :=
  Multiset.mem_coe.1 (Multiset.mem_of_le h.kept.freed (Multiset.mem_coe.2 hp))

/-- Calls in a row. -/
theorem Goes.foldl {α : Type} {f : System κ φ γ n → α → System κ φ γ n} (hf : ∀ s a, s.Tidy → Goes s (f s a))
    {s : System κ φ γ n} (h : s.Tidy) (as : List α) : Goes s (as.foldl f s) := by
  induction as generalizing s with
  | nil => exact .refl h
  | cons a as ih => exact (hf s a h).trans (ih (hf s a h).tidy)

end System

/-! ## The calls -/

namespace System

/-- The game's own `ClearKey` frees what the key holds. -/
theorem goes_rClearKey {s : System κ φ γ n} (h : s.Tidy) (k : κ) : Goes s (s.rClearKey k) := by
  have hkept : s.ledger.Kept (s.rClearKey k).ledger := by
    have hbefore : s.ledger =
        ⟨s.allocated, (s.live k).held + (keysHeld (s.rClearKey k).live s.trackedKeys + slotsHeld s.saveStates),
          ↑s.freed⟩ := by
      rw [ledger, ← keysHeld_clear s.live k (h.untracked k), add_assoc]
      rfl
    rw [hbefore, ledger]
    simp only [rClearKey, poke, freed_held]
    exact Ledger.kept_free _ _ _ _
  refine ⟨⟨h.tracked, fun k' hk' => ?_, h.owns, h.unused, h.sound.kept hkept⟩, hkept⟩
  show (Function.update s.live k _ k').mementos = none
  by_cases hne : k' = k
  · rw [hne, Function.update_self]
  · rw [Function.update_of_ne hne]
    exact h.untracked k' hk'

/-- A key without a buffer gets a new one, and is tracked. -/
theorem goes_alloc {s : System κ φ γ n} (h : s.Tidy) {k : κ} (hk : (s.live k).mementos = none) (object : ℕ) :
    Goes s { s with
      live := Function.update s.live k ⟨object, some s.allocated⟩
      trackedKeys := s.trackedKeys.insert k
      allocated := s.allocated + 1 } := by
  generalize hs' : ({ s with
      live := Function.update s.live k ⟨object, some s.allocated⟩
      trackedKeys := s.trackedKeys.insert k
      allocated := s.allocated + 1 } : System κ φ γ n) = s'
  have hkept : s.ledger.Kept s'.ledger := by
    have hkeys := keysHeld_insert s.live k ⟨object, some s.allocated⟩ (h.untracked k)
    have hnew : MementoKey.held ⟨object, some s.allocated⟩ = {s.allocated} := rfl
    rw [held_eq_zero hk, zero_add, hnew] at hkeys
    have hafter : s'.ledger = ⟨s.ledger.next + 1, s.ledger.held + {s.ledger.next}, s.ledger.freed⟩ := by
      rw [← hs']
      simp only [ledger, hkeys]
      congr 1
      ac_rfl
    rw [hafter]
    exact Ledger.kept_alloc _
  subst hs'
  refine ⟨⟨h.tracked.insert, fun k' hk' => ?_, h.owns, h.unused, h.sound.kept hkept⟩, hkept⟩
  obtain ⟨hne, hold⟩ : k' ≠ k ∧ k' ∉ s.trackedKeys := by simpa [not_or] using hk'
  show (Function.update s.live k _ k').mementos = none
  rw [Function.update_of_ne hne]
  exact h.untracked k' hold

/-- A key without a buffer need not be tracked. -/
theorem goes_untrack {s : System κ φ γ n} (h : s.Tidy) {k : κ} (hk : (s.live k).mementos = none) :
    Goes s { s with trackedKeys := s.trackedKeys.erase k } := by
  have hledger : System.ledger { s with trackedKeys := s.trackedKeys.erase k } = s.ledger := by
    simp only [ledger, keysHeld_erase h.tracked hk]
  refine ⟨⟨h.tracked.erase k, fun k' hk' => ?_, h.owns, h.unused, hledger ▸ h.sound⟩, hledger ▸ .refl _⟩
  by_cases hne : k' = k
  · rw [hne]
    exact hk
  · exact h.untracked k' fun hmem => hk' ((List.mem_erase_of_ne hne).2 hmem)

theorem cleared (s : System κ φ γ n) (k : κ) : ((s.rClearKey k).live k).mementos = none := by
  simp [rClearKey, poke]

/-- The game makes a key: its old buffer is freed, and the new one is its. -/
theorem goes_initKey {s : System κ φ γ n} (h : s.Tidy) (k : κ) (object : ℕ) : Goes s (s.initKey k object) :=
  (goes_rClearKey h k).trans (goes_alloc (goes_rClearKey h k).tidy (s.cleared k) object)

/-- The game clears a key: its buffer is freed, and it is tracked no more. -/
theorem goes_clearKey {s : System κ φ γ n} (h : s.Tidy) (k : κ) : Goes s (s.clearKey k) :=
  (goes_rClearKey h k).trans (goes_untrack (goes_rClearKey h k).tidy (s.cleared k))

theorem goes_recordAll {s : System κ φ γ n} (h : s.Tidy) (recorded : List (κ × ℕ)) : Goes s (s.recordAll recorded) :=
  Goes.foldl (fun _ e hs => goes_initKey hs e.1 e.2) h recorded

/-- `Save` marks its slot first. -/
theorem goes_marked {s : System κ φ γ n} (h : s.Tidy) (i : Fin n) :
    Goes s (s.setSlot i { s.saveStates i with used := true }) := by
  have hslots : slotsHeld (Function.update s.saveStates i { s.saveStates i with used := true }) =
      slotsHeld s.saveStates :=
    add_left_cancel (slotsHeld_update s.saveStates i { s.saveStates i with used := true })
  have hledger : (s.setSlot i { s.saveStates i with used := true }).ledger = s.ledger := by
    simp only [ledger, setSlot, hslots]
  exact ⟨h.with_slot rfl (h.owns i) (fun hf => by cases hf) rfl h.untracked (hledger ▸ h.sound), hledger ▸ .refl _⟩

/-- Buffers move from the tracked keys to the slot. -/
theorem goes_save {s : System κ φ γ n} (h : s.Tidy) (dst : Fin n) (recorded : List (κ × ℕ)) :
    Goes s (s.save dst recorded) := by
  have hmarked := goes_marked h dst
  have hrecorded := hmarked.trans (goes_recordAll hmarked.tidy recorded)
  generalize h₁ : (s.setSlot dst { s.saveStates dst with used := true }).recordAll recorded = s₁ at hrecorded
  have h₁' := hrecorded.tidy
  refine hrecorded.trans ?_
  rw [save_eq h₁ h₁'.tracked]
  have hslot : s₁.saveStates dst = { s.saveStates dst with used := true } := by
    rw [← h₁, saveStates_marked, Function.update_self]
  have hledger : System.ledger ({ s₁ with live := s₁.live.zeroAll s₁.trackedKeys }.setSlot dst
      (s₁.stored (s.saveStates dst))) = s₁.ledger := by
    have hzeroed : keysHeld (s₁.live.zeroAll s₁.trackedKeys) s₁.trackedKeys = 0 := by
      refine Finset.sum_eq_zero fun k hk => ?_
      rw [Memory.zeroAll_apply, if_pos (List.mem_toFinset.1 hk), held_zero]
    have hslots := slotsHeld_update s₁.saveStates dst (s₁.stored (s.saveStates dst))
    have hkeys : (s₁.stored (s.saveStates dst)).keys =
        (s₁.saveStates dst).keys ++ s₁.trackedKeys.map fun k => (k, s₁.live k) := by
      rw [hslot]
      rfl
    rw [hkeys, recordsHeld_append, recordsHeld_of_keys h₁'.tracked, add_assoc] at hslots
    simp only [ledger, setSlot, hzeroed, zero_add, add_left_cancel hslots]
  refine ⟨h₁'.with_slot rfl (h.owns dst) (fun hf => by cases hf) rfl (fun k hk => ?_) (hledger ▸ h₁'.sound),
    hledger ▸ .refl _⟩
  show (s₁.live.zeroAll s₁.trackedKeys k).mementos = none
  rw [Memory.zeroAll_apply, if_neg hk]
  exact h₁'.untracked k hk

/-- A load leaves every buffer where it was. -/
theorem goes_load {s : System κ φ γ n} (h : s.Tidy) (i : Fin n) : Goes s (s.load i).1 := by
  have hlive := load_live h.tracked i
  rw [load_eq]
  generalize (s.load i).1.live = live at hlive
  have hledger : System.ledger { s with
      live
      flow := (s.saveStates i).flow
      gameManager := (s.saveStates i).gameManager } = s.ledger := by
    simp only [ledger]
    rw [keysHeld_congr fun k hk => by rw [hlive, if_pos hk]]
  refine ⟨⟨h.tracked, fun k hk => ?_, h.owns, h.unused, hledger ▸ h.sound⟩, hledger ▸ .refl _⟩
  dsimp only at hk ⊢
  rw [hlive, if_neg hk]
  split
  · rfl
  · exact h.untracked k hk

variable [Inhabited φ]

/-- The buffers of the slot are freed. -/
theorem goes_free {s : System κ φ γ n} (h : s.Tidy) (i : Fin n) : Goes s (s.free i) := by
  rw [free_eq (h.owns i)]
  have hkept : s.ledger.Kept (System.ledger
      { s.setSlot i (emptied (s.saveStates i)) with freed := s.freed ++ buffers (s.saveStates i).keys }) := by
    have hbefore : s.ledger =
        ⟨s.allocated, ↑(buffers (s.saveStates i).keys) + (keysHeld s.live s.trackedKeys +
          slotsHeld (Function.update s.saveStates i (emptied (s.saveStates i)))), ↑s.freed⟩ := by
      rw [ledger, ← slotsHeld_emptied s.saveStates i]
      congr 1
      ac_rfl
    rw [hbefore]
    simp only [ledger, ← Multiset.coe_add]
    exact Ledger.kept_free _ _ _ _
  exact ⟨h.with_slot rfl rfl (fun _ => rfl) rfl h.untracked (h.sound.kept hkept), hkept⟩

theorem goes_freeUsed {s : System κ φ γ n} (h : s.Tidy) : Goes s s.freeUsed := by
  refine Goes.foldl (fun s i hs => ?_) h _
  split
  · exact goes_free hs i
  · exact .refl hs

/-- A reclaimed slot forgets its buffers. -/
theorem tidy_reclaim {s : System κ φ γ n} (h : s.Tidy) (i : Fin n) : (s.reclaim i).Tidy := by
  rw [reclaim_eq]
  split
  · exact h
  · have hle : keysHeld s.live s.trackedKeys + slotsHeld (Function.update s.saveStates i (emptied (s.saveStates i))) ≤
        s.ledger.held := by
      refine add_le_add_right ?_ _
      rw [← slotsHeld_emptied s.saveStates i]
      exact Multiset.le_add_left _ _
    exact h.with_slot rfl rfl (fun _ => rfl) rfl h.untracked (h.sound.forget hle)

/-- The sweep leaves no slot in use. -/
theorem used_freeUsed {s : System κ φ γ n} (h : s.Tidy) (i : Fin n) : (s.freeUsed.saveStates i).used = false := by
  suffices hgo : ∀ (l : List (Fin n)) (s : System κ φ γ n), s.Tidy →
      ((l.foldl (fun s i => if (s.saveStates i).used then s.free i else s) s).saveStates i).used = true →
      (s.saveStates i).used = true ∧ i ∉ l by
    rw [← Bool.not_eq_true]
    exact fun hused => (hgo _ s h hused).2 (List.mem_finRange i)
  intro l
  induction l with
  | nil => exact fun s _ hused => ⟨hused, List.not_mem_nil⟩
  | cons j l ih =>
    intro s hs hused
    rw [List.foldl_cons] at hused
    cases hj : (s.saveStates j).used with
    | false =>
      rw [hj, if_neg (by simp)] at hused
      obtain ⟨hi, hl⟩ := ih s hs hused
      refine ⟨hi, List.not_mem_cons_of_ne_of_not_mem ?_ hl⟩
      rintro rfl
      rw [hj] at hi
      cases hi
    | true =>
      rw [hj, if_pos rfl] at hused
      obtain ⟨hi, hl⟩ := ih _ (goes_free hs j).tidy hused
      rw [free_eq (hs.owns j)] at hi
      by_cases hne : i = j
      · -- the slot has just been emptied
        subst hne
        simp [setSlot, emptied] at hi
      · refine ⟨?_, List.not_mem_cons_of_ne_of_not_mem hne hl⟩
        simpa [setSlot, Function.update_of_ne hne] using hi

/-- After the sweep there is nothing to reclaim. -/
theorem closeBattle_eq {s : System κ φ γ n} (h : s.Tidy) : s.closeBattle = s.freeUsed := by
  have hkept : ∀ i, s.freeUsed.reclaim i = s.freeUsed := by
    intro i
    have hused := used_freeUsed h i
    rw [reclaim_eq, hused, (goes_freeUsed h).tidy.unused i hused]
    rfl
  rw [closeBattle]
  generalize s.freeUsed = swept at hkept ⊢
  induction List.finRange n with
  | nil => rfl
  | cons i l ih => rw [List.foldl_cons, hkept, ih]

end System

/-! ## Runs -/

/-- What is called on the pool. The game makes and clears keys and plays on between the calls. -/
inductive PoolAct (κ φ γ : Type) (n : ℕ) where
  | initKey (k : κ) (object : ℕ)
  | clearKey (k : κ)
  | simulate (flow : φ) (gameManager : γ)
  | save (dst : Fin n) (recorded : List (κ × ℕ))
  | load (src : Fin n)
  | free (victim : Fin n)
  | reclaim (victim : Fin n)
  | closeBattle
  | abortMatchStart

variable [Inhabited φ]

/-- The pool, one call at a time. A load puts out the keys that the restore finds. -/
def pool : Machine (System κ φ γ n) (PoolAct κ φ γ n) (Memory κ) where
  next s
    | .initKey k object => (s.initKey k object, [])
    | .clearKey k => (s.clearKey k, [])
    | .simulate flow gameManager => ({ s with flow, gameManager }, [])
    | .save dst recorded => (s.save dst recorded, [])
    | .load src =>
      let (s, found) := s.load src
      (s, [found])
    | .free victim => (s.free victim, [])
    | .reclaim victim => (s.reclaim victim, [])
    | .closeBattle => (s.closeBattle, [])
    | .abortMatchStart => (s.abortMatchStart, [])

/-- Every call but a reclaim goes on without losing a buffer. -/
theorem goes_next {s : System κ φ γ n} (h : s.Tidy) {a : PoolAct κ φ γ n} (ha : ∀ i, a ≠ .reclaim i) :
    s.Goes (pool.next s a).1 := by
  cases a with
  | initKey k object => exact System.goes_initKey h k object
  | clearKey k => exact System.goes_clearKey h k
  | simulate flow gameManager => exact ⟨⟨h.tracked, h.untracked, h.owns, h.unused, h.sound⟩, .refl _⟩
  | save dst recorded => exact System.goes_save h dst recorded
  | load src => exact System.goes_load h src
  | free victim => exact System.goes_free h victim
  | reclaim victim => exact absurd rfl (ha victim)
  | closeBattle =>
    show s.Goes s.closeBattle
    rw [System.closeBattle_eq h]
    exact System.goes_freeUsed h
  | abortMatchStart => exact System.goes_freeUsed h

theorem tidy_next {s : System κ φ γ n} (h : s.Tidy) (a : PoolAct κ φ γ n) : (pool.next s a).1.Tidy := by
  cases a with
  | reclaim victim => exact System.tidy_reclaim h victim
  | _ => exact (goes_next h fun i hi => by cases hi).tidy

/-! ## Holders -/

/-- A buffer is held by a live key or by a slot. -/
inductive Holder (κ : Type) (n : ℕ) where
  | key (k : κ)
  | slot (i : Fin n)

/-- The key holds the buffer, or a record of the slot does. -/
def System.Holds (s : System κ φ γ n) (p : Payload) : Holder κ n → Prop
  | .key k => (s.live k).mementos = some p
  | .slot i => ∃ e ∈ (s.saveStates i).keys, e.2.mementos = some p

/-- The buffers are in order: each has one holder at most, has been freed once at most and is not
held any more then, and an unused slot has no records. -/
structure System.Owned (s : System κ φ γ n) : Prop where
  one : ∀ p holder holder', s.Holds p holder → s.Holds p holder' → holder = holder'
  gone : ∀ p holder, s.Holds p holder → p ∉ s.freed
  once : s.freed.Nodup
  unused : ∀ i, (s.saveStates i).used = false → (s.saveStates i).keys = []

/-- Between two states, a buffer that was held or is new is held or has been freed. -/
def System.NothingLost (s s' : System κ φ γ n) : Prop :=
  ∀ p, (∃ holder, s.Holds p holder) ∨ (s.allocated ≤ p ∧ p < s'.allocated) → (∃ holder, s'.Holds p holder) ∨ p ∈ s'.freed

/-- What a call on the pool does. -/
structure Safe (s : System κ φ γ n) (a : PoolAct κ φ γ n) : Prop where
  owned : (pool.next s a).1.Owned
  lost : (∀ i, a ≠ .reclaim i) → s.NothingLost (pool.next s a).1
  swept : a = .closeBattle → ∀ i p, ¬(pool.next s a).1.Holds p (.slot i)
  live : (∃ i, a = .load i ∨ a = .free i) → ∀ k ∈ s.trackedKeys, (pool.next s a).1.live k = s.live k

namespace System

omit [Inhabited φ]

variable {s : System κ φ γ n}

theorem Tidy.mem_keysHeld (h : s.Tidy) {p : Payload} :
    p ∈ keysHeld s.live s.trackedKeys ↔ ∃ k, s.Holds p (.key k) := by
  constructor
  · intro hp
    obtain ⟨k, -, hk⟩ := Multiset.mem_sum.1 hp
    exact ⟨k, mem_held.1 hk⟩
  · rintro ⟨k, hk⟩
    exact Multiset.mem_sum.2 ⟨k, List.mem_toFinset.2 (h.mem_tracked hk), mem_held.2 hk⟩

omit [DecidableEq κ] in
theorem mem_slotsHeld {p : Payload} : p ∈ slotsHeld s.saveStates ↔ ∃ i, s.Holds p (.slot i) := by
  simp [slotsHeld, Multiset.mem_sum, mem_recordsHeld, Holds]

/-- The ledger's holdings are what keys and slots hold. -/
theorem Tidy.mem_ledger (h : s.Tidy) {p : Payload} : p ∈ s.ledger.held ↔ ∃ holder, s.Holds p holder := by
  rw [ledger, Multiset.mem_add, h.mem_keysHeld, mem_slotsHeld]
  constructor
  · rintro (⟨k, hk⟩ | ⟨i, hi⟩)
    · exact ⟨.key k, hk⟩
    · exact ⟨.slot i, hi⟩
  · rintro ⟨k | i, hp⟩
    · exact .inl ⟨k, hp⟩
    · exact .inr ⟨i, hp⟩

theorem Tidy.owned (h : s.Tidy) : s.Owned where
  one := by
    have hnodup : (keysHeld s.live s.trackedKeys + slotsHeld s.saveStates).Nodup := h.sound.held_nodup
    obtain ⟨hkeys, hslots, hapart⟩ := Multiset.nodup_add.1 hnodup
    have hdisjoint : ∀ p k i, s.Holds p (.key k) → ¬s.Holds p (.slot i) := fun p k i hk hi =>
      Multiset.disjoint_left.1 hapart (h.mem_keysHeld.2 ⟨k, hk⟩) (mem_slotsHeld.2 ⟨i, hi⟩)
    rintro p (k | i) (k' | i') hp hp'
    · congr 1
      exact holder_unique hkeys (List.mem_toFinset.2 (h.mem_tracked hp)) (List.mem_toFinset.2 (h.mem_tracked hp'))
        (mem_held.2 hp) (mem_held.2 hp')
    · exact absurd hp' (hdisjoint p k i' hp)
    · exact absurd hp (hdisjoint p k' i hp')
    · congr 1
      exact holder_unique hslots (Finset.mem_univ i) (Finset.mem_univ i') (mem_recordsHeld.2 hp) (mem_recordsHeld.2 hp')
  gone p holder hp := by
    have hgone := h.sound.not_freed (h.mem_ledger.2 ⟨holder, hp⟩)
    simpa [ledger] using hgone
  once := Multiset.coe_nodup.1 h.sound.freed_nodup
  unused := h.unused

theorem Goes.nothingLost {s' : System κ φ γ n} (h : s.Tidy) (hgoes : Goes s s') : s.NothingLost s' := by
  intro p hp
  have hsrc : p ∈ s.ledger.held ∨ s.ledger.next ≤ p := by
    rcases hp with hheld | hnew
    · exact .inl (h.mem_ledger.2 hheld)
    · exact .inr hnew.1
  have hnext : p < s'.ledger.next := by
    rcases hp with hheld | hnew
    · exact (h.sound.lt_next (h.mem_ledger.2 hheld)).trans_le hgoes.kept.next
    · exact hnew.2
  rcases hgoes.kept.accounted hnext hsrc with hheld | hfreed
  · exact .inl (hgoes.tidy.mem_ledger.1 hheld)
  · exact .inr (by simpa [ledger] using hfreed)

end System

/-! ## Every run -/

/-- The value of a tracked key survives a load and a free. -/
theorem live_kept {s : System κ φ γ n} (h : s.Tidy) {a : PoolAct κ φ γ n} (ha : ∃ i, a = .load i ∨ a = .free i) {k : κ}
    (hk : k ∈ s.trackedKeys) : (pool.next s a).1.live k = s.live k := by
  obtain ⟨i, rfl | rfl⟩ := ha
  · exact (System.load_live h.tracked i k).trans (if_pos hk)
  · show (s.free i).live k = s.live k
    rw [System.free_eq (h.owns i)]
    rfl

theorem safe_of_tidy {s : System κ φ γ n} (h : s.Tidy) (a : PoolAct κ φ γ n) : Safe s a where
  owned := (tidy_next h a).owned
  lost ha := (goes_next h ha).nothingLost h
  swept := by
    rintro rfl i p ⟨e, he, -⟩
    have hclosed : (pool.next s .closeBattle).1 = s.freeUsed := System.closeBattle_eq h
    rw [hclosed, (System.goes_freeUsed h).tidy.unused i (System.used_freeUsed h i)] at he
    cases he
  live ha _ hk := live_kept h ha hk

theorem tidy_new [Inhabited γ] (flow : φ) (gameManager : γ) : (System.new flow gameManager : System κ φ γ n).Tidy where
  tracked := List.nodup_nil
  untracked _ _ := rfl
  owns _ := rfl
  unused _ _ := rfl
  sound := by
    have hslots : slotsHeld (System.new flow gameManager : System κ φ γ n).saveStates = 0 :=
      Finset.sum_eq_zero fun _ _ => rfl
    show keysHeld _ [] + slotsHeld _ + 0 ≤ 0
    rw [hslots]
    exact le_rfl

/-- Whatever is called on the pool in whatever order, every buffer has one holder at most, none is
freed twice or held after it was freed, only a reclaim loses one, an unused slot has no records, no
slot holds a buffer once the battle is closed, and a load or a free leaves every tracked key as it was. -/
theorem save_states_owned [Inhabited γ] (flow : φ) (gameManager : γ) (as : List (PoolAct κ φ γ n)) :
    pool.Meets (fun _ => Safe) (System.new flow gameManager) [] as :=
  Machine.meets_of_inv (C := fun _ _ _ => True) (fun _ s => s.Tidy) (fun _ _ a h _ => tidy_next h a)
    (fun _ _ a h _ => safe_of_tidy h a) (tidy_new flow gameManager) Machine.meets_true

end Sf4e.Battle
