import Mathlib.Data.List.FinRange
import Mathlib.Logic.Function.Basic
import Mathlib.Data.List.Nodup
/-!
# The pool of save states

A save state copies the game's memento keys bit for bit, with the buffers they
point at. The game frees whatever buffer is installed in a key that is cleared
or recorded again, so every call takes keys away, puts them in place and zeroes
them around the game's own calls.

Each call is given as the source has it, and then by what it comes to: `free_eq`,
`reclaim_eq`, `load_eq` and `save_eq`.
-/

namespace Sf4e.Battle

/-! ## Memento keys -/

/-- A buffer of mementos, numbered in the order the game allocates them. -/
abbrev Payload := ℕ

/-- A `GameMementoKey`: the object it records and its buffer. -/
structure MementoKey where
  mementoableObject : ℕ
  mementos : Option Payload
  deriving DecidableEq

/-- `memset(key, 0, sizeof(rKey))`. -/
def MementoKey.zero : MementoKey := ⟨0, none⟩

/-- The game's keys, by their address. -/
abbrev Memory (κ : Type) := κ → MementoKey

namespace Memory

variable {κ : Type} [DecidableEq κ]

/-- `*record.first = record.second`, for each of the records. -/
def place (m : Memory κ) (records : List (κ × MementoKey)) : Memory κ :=
  records.foldl (fun m e => Function.update m e.1 e.2) m

def zeroAll (m : Memory κ) (ks : List κ) : Memory κ := ks.foldl (fun m k => Function.update m k .zero) m

/-- Each of the keys is copied, and then zeroed. -/
def takeAll (m : Memory κ) (ks : List κ) : Memory κ × List (κ × MementoKey) :=
  ks.foldl (fun taken k => (Function.update taken.1 k .zero, taken.2 ++ [(k, taken.1 k)])) (m, [])

end Memory

/-! ## The pool -/

/-- A `SaveState`. Of what is not a key, `flow` is the part that `Clear` resets. -/
structure SaveState (κ φ γ : Type) where
  used : Bool
  ownsKeys : Bool
  keys : List (κ × MementoKey)
  flow : φ
  gameManager : γ

/-- The keys of the game, those the detours track, how many buffers the game has allocated and
which it has freed, the rest of the battle, and the pool. -/
structure System (κ φ γ : Type) (n : ℕ) where
  live : Memory κ
  trackedKeys : List κ
  allocated : ℕ
  freed : List Payload
  flow : φ
  gameManager : γ
  saveStates : Fin n → SaveState κ φ γ

namespace System

variable {κ φ γ : Type} {n : ℕ} [DecidableEq κ] [Inhabited φ]

def poke (s : System κ φ γ n) (k : κ) (key : MementoKey) : System κ φ γ n :=
  { s with live := Function.update s.live k key }

def setSlot (s : System κ φ γ n) (i : Fin n) (state : SaveState κ φ γ) : System κ φ γ n :=
  { s with saveStates := Function.update s.saveStates i state }

/-- The game's own `ClearKey`, which frees the buffer of the key. -/
def rClearKey (s : System κ φ γ n) (k : κ) : System κ φ γ n :=
  { s.poke k { s.live k with mementos := none } with freed := s.freed ++ (s.live k).mementos.toList }

/-- The game's own `Initialize`: the key gets a new buffer, and the one it has is freed. -/
def rInitialize (s : System κ φ γ n) (k : κ) (object : ℕ) : System κ φ γ n :=
  { (s.rClearKey k).poke k ⟨object, some s.allocated⟩ with allocated := s.allocated + 1 }

/-- `fKey::Initialize`. -/
def initKey (s : System κ φ γ n) (k : κ) (object : ℕ) : System κ φ γ n :=
  let s := s.rInitialize k object
  { s with trackedKeys := s.trackedKeys.insert k }

/-- `fKey::ClearKey`. -/
def clearKey (s : System κ φ γ n) (k : κ) : System κ φ γ n :=
  let s := s.rClearKey k
  { s with trackedKeys := s.trackedKeys.erase k }

/-- `RecordAllToInternalMementos`: the game records these objects, each into its key. -/
def recordAll (s : System κ φ γ n) (recorded : List (κ × ℕ)) : System κ φ γ n :=
  recorded.foldl (fun s e => s.initKey e.1 e.2) s

/-- `SaveState::Save`. -/
def save (s : System κ φ γ n) (dst : Fin n) (recorded : List (κ × ℕ)) : System κ φ γ n :=
  let s := (s.setSlot dst { s.saveStates dst with used := true }).recordAll recorded
  let (live, taken) := s.live.takeAll s.trackedKeys
  { s with live }.setSlot dst { s.saveStates dst with
    keys := (s.saveStates dst).keys ++ taken
    flow := s.flow
    gameManager := s.gameManager }

/-- `CopyIntoPlace`, up to the restore. -/
def copyIntoPlace (s : System κ φ γ n) (src : SaveState κ φ γ) : System κ φ γ n :=
  { s with flow := src.flow, gameManager := src.gameManager, live := s.live.place src.keys }

/-- `SaveState::Load`, and the keys that `RestoreAllFromInternalMementos` finds. -/
def load (s : System κ φ γ n) (i : Fin n) : System κ φ γ n × Memory κ :=
  let src := s.saveStates i
  let (live, tmpVec) := s.live.takeAll s.trackedKeys
  let placed := { s with live }.copyIntoPlace src
  ({ placed with live := (placed.live.zeroAll (src.keys.map (·.1))).place tmpVec }, placed.live)

/-- `Clear`. -/
def clear (s : System κ φ γ n) (i : Fin n) : System κ φ γ n :=
  let victim := s.saveStates i
  let s := if victim.ownsKeys then victim.keys.foldl (fun s e => (s.rClearKey e.1).poke e.1 .zero) s else s
  s.setSlot i { victim with keys := [], ownsKeys := true, used := false, flow := default }

/-- A record's key is installed just long enough to release its buffer. -/
def release (s : System κ φ γ n) (e : κ × MementoKey) : System κ φ γ n :=
  let live := s.live e.1
  ((s.poke e.1 e.2).rClearKey e.1).poke e.1 live

/-- `SaveState::Free`. -/
def free (s : System κ φ γ n) (i : Fin n) : System κ φ γ n :=
  let victim := s.saveStates i
  let s := if victim.ownsKeys then victim.keys.foldl release s else s
  (s.setSlot i { victim with ownsKeys := false }).clear i

/-- `SaveState::Reclaim`. -/
def reclaim (s : System κ φ γ n) (i : Fin n) : System κ φ γ n :=
  let victim := s.saveStates i
  if !victim.used && victim.keys.isEmpty then s
  else (s.setSlot i { victim with ownsKeys := false }).clear i

/-- The sweep over the slots in use. -/
def freeUsed (s : System κ φ γ n) : System κ φ γ n :=
  (List.finRange n).foldl (fun s i => if (s.saveStates i).used then s.free i else s) s

/-- The sweeps of `CloseBattle`. -/
def closeBattle (s : System κ φ γ n) : System κ φ γ n :=
  (List.finRange n).foldl (fun s i => s.reclaim i) s.freeUsed

/-- The sweep of `AbortMatchStart`. -/
def abortMatchStart (s : System κ φ γ n) : System κ φ γ n := s.freeUsed

/-- Before the first battle. -/
def new [Inhabited γ] (flow : φ) (gameManager : γ) : System κ φ γ n where
  live _ := .zero
  trackedKeys := []
  allocated := 0
  freed := []
  flow := flow
  gameManager := gameManager
  saveStates _ := ⟨false, true, [], default, default⟩

end System

/-! ## What the loops over keys do -/

namespace Memory

variable {κ : Type} [DecidableEq κ]

theorem place_cons (m : Memory κ) (e : κ × MementoKey) (records : List (κ × MementoKey)) :
    m.place (e :: records) = place (Function.update m e.1 e.2) records := rfl

/-- A key that is in no record is left alone. -/
theorem place_of_notMem {records : List (κ × MementoKey)} {k : κ} (h : k ∉ records.map (·.1)) (m : Memory κ) :
    m.place records k = m k := by
  induction records generalizing m with
  | nil => rfl
  | cons e records ih =>
    rw [List.map_cons, List.mem_cons, not_or] at h
    rw [place_cons, ih h.2, Function.update_of_ne h.1]

/-- Records that agree with `f` put its value into every key they name. -/
theorem place_of_mem {records : List (κ × MementoKey)} {f : κ → MementoKey} (hf : ∀ e ∈ records, e.2 = f e.1) {k : κ}
    (h : k ∈ records.map (·.1)) (m : Memory κ) : m.place records k = f k := by
  induction records generalizing m with
  | nil => cases h
  | cons e records ih =>
    rw [List.forall_mem_cons] at hf
    rw [place_cons]
    by_cases hk : k ∈ records.map (·.1)
    · exact ih hf.2 hk _
    · -- this is the last record of the key
      rw [place_of_notMem hk]
      rw [List.map_cons, List.mem_cons] at h
      obtain rfl : k = e.1 := h.resolve_right hk
      rw [Function.update_self, hf.1]

/-- Each of some records of distinct keys is in its place. -/
theorem place_record {records : List (κ × MementoKey)} (h : (records.map (·.1)).Nodup) {e : κ × MementoKey}
    (he : e ∈ records) (m : Memory κ) : m.place records e.1 = e.2 := by
  induction records generalizing m with
  | nil => cases he
  | cons first records ih =>
    obtain ⟨hfirst, hrest⟩ := List.nodup_cons.1 h
    rw [place_cons]
    rcases List.mem_cons.1 he with rfl | hmem
    · rw [place_of_notMem hfirst, Function.update_self]
    · exact ih hrest hmem _

/-- Each of some keys gets its value of `f`. -/
theorem place_keys (m : Memory κ) (f : κ → MementoKey) (ks : List κ) (k : κ) :
    m.place (ks.map fun k => (k, f k)) k = if k ∈ ks then f k else m k := by
  have hkeys : (ks.map fun k => (k, f k)).map (·.1) = ks := by simp [Function.comp_def]
  split
  · rename_i hmem
    refine place_of_mem (fun e he => ?_) (by rwa [hkeys]) m
    obtain ⟨_, -, rfl⟩ := List.mem_map.1 he
    rfl
  · rename_i hno
    exact place_of_notMem (by rwa [hkeys]) m

theorem zeroAll_apply (m : Memory κ) (ks : List κ) (k : κ) : m.zeroAll ks k = if k ∈ ks then .zero else m k := by
  have hplace : m.zeroAll ks = m.place (ks.map fun k => (k, .zero)) := by
    rw [zeroAll, place, List.foldl_map]
  rw [hplace, place_keys]

/-- Of distinct keys, each is copied as it was, and all are zero afterwards. -/
theorem takeAll_eq {ks : List κ} (h : ks.Nodup) (m : Memory κ) :
    m.takeAll ks = (m.zeroAll ks, ks.map fun k => (k, m k)) := by
  suffices hgo : ∀ (m : Memory κ) (taken : List (κ × MementoKey)), ks.Nodup →
      ks.foldl (fun taken k => (Function.update taken.1 k .zero, taken.2 ++ [(k, taken.1 k)])) (m, taken) =
        (m.zeroAll ks, taken ++ ks.map fun k => (k, m k)) by
    have hall := hgo m [] h
    rw [List.nil_append] at hall
    exact hall
  clear h m
  induction ks with
  | nil => simp [zeroAll]
  | cons k ks ih =>
    intro m taken hnodup
    obtain ⟨hk, hks⟩ := List.nodup_cons.1 hnodup
    -- the keys after this one are not it
    have hsame : (ks.map fun k' => (k', Function.update m k .zero k')) = ks.map fun k' => (k', m k') := by
      refine List.map_congr_left fun k' hk' => ?_
      rw [Function.update_of_ne]
      rintro rfl
      exact hk hk'
    rw [List.foldl_cons, ih _ _ hks, hsame]
    simp [zeroAll]

end Memory

/-! ## What the calls do -/

namespace System

variable {κ φ γ : Type} {n : ℕ} [DecidableEq κ]

/-- Releasing a record frees its buffer and leaves the live key as it was. -/
theorem release_eq (s : System κ φ γ n) (e : κ × MementoKey) :
    s.release e = { s with freed := s.freed ++ e.2.mementos.toList } := by
  simp [release, rClearKey, poke]

/-- The buffers of some records, in order. -/
def buffers (keys : List (κ × MementoKey)) : List Payload := keys.flatMap fun e => e.2.mementos.toList

theorem foldl_release (s : System κ φ γ n) (keys : List (κ × MementoKey)) :
    keys.foldl release s = { s with freed := s.freed ++ buffers keys } := by
  induction keys generalizing s with
  | nil => simp [buffers]
  | cons e keys ih =>
    rw [List.foldl_cons, ih, release_eq]
    simp [buffers]

/-- What `Load` leaves in a key: tracked keys are as they were, others the state names are zeroed. -/
theorem load_live {s : System κ φ γ n} (h : s.trackedKeys.Nodup) (i : Fin n) (k : κ) :
    (s.load i).1.live k =
      if k ∈ s.trackedKeys then s.live k
      else if k ∈ (s.saveStates i).keys.map (·.1) then .zero
      else s.live k := by
  have hlive : (s.load i).1.live =
      (((s.live.zeroAll s.trackedKeys).place (s.saveStates i).keys).zeroAll
        ((s.saveStates i).keys.map (·.1))).place (s.trackedKeys.map fun k => (k, s.live k)) := by
    simp only [load, Memory.takeAll_eq h, copyIntoPlace]
  rw [hlive, Memory.place_keys]
  split
  · rfl
  · rename_i hno
    rw [Memory.zeroAll_apply]
    split
    · rfl
    · rename_i hrecord
      rw [Memory.place_of_notMem hrecord, Memory.zeroAll_apply, if_neg hno]

/-- The rest of what `Load` does. -/
theorem load_eq (s : System κ φ γ n) (i : Fin n) :
    (s.load i).1 =
      { s with
        live := (s.load i).1.live
        flow := (s.saveStates i).flow
        gameManager := (s.saveStates i).gameManager } := rfl

theorem saveStates_recordAll (s : System κ φ γ n) (recorded : List (κ × ℕ)) :
    (s.recordAll recorded).saveStates = s.saveStates := by
  induction recorded generalizing s with
  | nil => rfl
  | cons e recorded ih => exact ih _

/-- The slot once it is marked and everything is recorded. -/
theorem saveStates_marked (s : System κ φ γ n) (dst : Fin n) (recorded : List (κ × ℕ)) :
    ((s.setSlot dst { s.saveStates dst with used := true }).recordAll recorded).saveStates =
      Function.update s.saveStates dst { s.saveStates dst with used := true } := by
  rw [saveStates_recordAll]
  rfl

/-- What `Save` makes of the slot, with the tracked keys as they are. -/
def stored (s : System κ φ γ n) (state : SaveState κ φ γ) : SaveState κ φ γ :=
  { state with
    used := true
    keys := state.keys ++ s.trackedKeys.map fun k => (k, s.live k)
    flow := s.flow
    gameManager := s.gameManager }

/-- `Save` takes the tracked keys into the slot, once everything is recorded. -/
theorem save_eq {s : System κ φ γ n} {dst : Fin n} {recorded : List (κ × ℕ)} {s₁ : System κ φ γ n}
    (h₁ : (s.setSlot dst { s.saveStates dst with used := true }).recordAll recorded = s₁)
    (hnodup : s₁.trackedKeys.Nodup) :
    s.save dst recorded =
      { s₁ with live := s₁.live.zeroAll s₁.trackedKeys }.setSlot dst (s₁.stored (s.saveStates dst)) := by
  have hslot : s₁.saveStates dst = { s.saveStates dst with used := true } := by
    rw [← h₁, saveStates_marked, Function.update_self]
  simp only [save, h₁, Memory.takeAll_eq hnodup, hslot, stored]

variable [Inhabited φ]

/-- An emptied slot. -/
def emptied (state : SaveState κ φ γ) : SaveState κ φ γ :=
  { state with keys := [], ownsKeys := true, used := false, flow := default }

/-- `Clear` of a slot that does not own its records drops them. -/
theorem clear_disowned (s : System κ φ γ n) (i : Fin n) :
    (s.setSlot i { s.saveStates i with ownsKeys := false }).clear i = s.setSlot i (emptied (s.saveStates i)) := by
  simp [clear, setSlot, emptied]

/-- `Free` of a slot that owns its records frees each of their buffers and empties the slot. -/
theorem free_eq {s : System κ φ γ n} {i : Fin n} (h : (s.saveStates i).ownsKeys = true) :
    s.free i =
      { s.setSlot i (emptied (s.saveStates i)) with freed := s.freed ++ buffers (s.saveStates i).keys } := by
  have hclear := clear_disowned { s with freed := s.freed ++ buffers (s.saveStates i).keys } i
  simp only [free, h, if_true, foldl_release]
  exact hclear

theorem reclaim_eq (s : System κ φ γ n) (i : Fin n) :
    s.reclaim i =
      if !(s.saveStates i).used && (s.saveStates i).keys.isEmpty then s
      else s.setSlot i (emptied (s.saveStates i)) := by
  simp only [reclaim, clear_disowned]

end System

end Sf4e.Battle
