import Sf4e.Battle.Ownership
/-!
# GGPO's frames in the pool

GGPO is handed pointers to slots of the pool and passes them back to load or to
free a frame. The extended save and load requests of the overlay use slot 0 of
the same pool.

`saved_frames_kept`: while no extended save is served over a slot that GGPO
holds, every frame stays what it was until GGPO frees it, and every load restores
it. `broken_over_held` is the other case: the save frees the frame's buffers.
-/
open Sf4e.Lib

namespace Sf4e.Battle

/-- The pool with its two users: the frames GGPO holds, each with what was recorded, and the
two requests. -/
structure Rollback (κ φ γ : Type) (n : ℕ) where
  system : System κ φ γ (n + 1)
  held : List (Fin (n + 1) × SaveState κ φ γ)
  extendedLoadRequest : Bool
  extendedSaveRequest : Bool

/-- GGPO passes back a buffer it holds, by its place in `held`, or null. `battle` says whether there
is a battle system. -/
inductive RollbackAct (κ φ γ : Type) where
  | initKey (k : κ) (object : ℕ)
  | clearKey (k : κ)
  | simulate (flow : φ) (gameManager : γ)
  | saveGameState (battle : Bool) (recorded : List (κ × ℕ))
  | loadGameState (battle : Bool) (buffer : ℕ)
  | freeBuffer (buffer : ℕ)
  | extendedSave
  | extendedLoad
  | trainingModeFeatures (recorded : List (κ × ℕ))

variable {κ φ γ : Type} {n : ℕ} [DecidableEq κ]

section

variable [Inhabited φ]

namespace Rollback

/-- `ggpo_save_game_state_callback`: the frame goes into the first unused slot. -/
def saveGameState (s : Rollback κ φ γ n) (battle : Bool) (recorded : List (κ × ℕ)) : Rollback κ φ γ n :=
  if !battle then s
  else
    match (List.finRange (n + 1)).find? fun i => !(s.system.saveStates i).used with
    | none => s
    | some i =>
      let system := s.system.save i recorded
      { s with system, held := s.held ++ [(i, system.saveStates i)] }

/-- `ggpo_load_game_state_callback`. -/
def loadGameState (s : Rollback κ φ γ n) (battle : Bool) (buffer : ℕ) : Rollback κ φ γ n × List (Memory κ) :=
  match s.held[buffer]? with
  | none => (s, [])
  | some (i, _) =>
    if battle then
      let (system, found) := s.system.load i
      ({ s with system }, [found])
    else (s, [])

/-- `ggpo_free_buffer`. -/
def freeBuffer (s : Rollback κ φ γ n) (buffer : ℕ) : Rollback κ φ γ n :=
  match s.held[buffer]? with
  | none => s
  | some (i, _) => { s with system := s.system.free i, held := s.held.eraseIdx buffer }

/-- The extended load of `SysMain_HandleTrainingModeFeatures`. -/
def serveLoad (s : Rollback κ φ γ n) : Rollback κ φ γ n × List (Memory κ) :=
  if s.extendedLoadRequest then
    if (s.system.saveStates 0).used then
      let (system, found) := s.system.load 0
      ({ s with system, extendedLoadRequest := false }, [found])
    else ({ s with extendedLoadRequest := false }, [])
  else (s, [])

/-- The extended save. -/
def serveSave (s : Rollback κ φ γ n) (recorded : List (κ × ℕ)) : Rollback κ φ γ n :=
  if s.extendedSaveRequest then
    let system := if (s.system.saveStates 0).used then s.system.free 0 else s.system
    { s with system := system.save 0 recorded, extendedSaveRequest := false }
  else s

/-- Before the first frame. -/
def new [Inhabited γ] (flow : φ) (gameManager : γ) : Rollback κ φ γ n := ⟨.new flow gameManager, [], false, false⟩

end Rollback

/-- GGPO's callbacks, the overlay's requests and the game, one call at a time. The outputs are the
keys each restore finds. -/
def rollback : Machine (Rollback κ φ γ n) (RollbackAct κ φ γ) (Memory κ) where
  next s
    | .initKey k object => ({ s with system := s.system.initKey k object }, [])
    | .clearKey k => ({ s with system := s.system.clearKey k }, [])
    | .simulate flow gameManager => ({ s with system := { s.system with flow, gameManager } }, [])
    | .saveGameState battle recorded => (s.saveGameState battle recorded, [])
    | .loadGameState battle buffer => s.loadGameState battle buffer
    | .freeBuffer buffer => (s.freeBuffer buffer, [])
    | .extendedSave => ({ s with extendedSaveRequest := true }, [])
    | .extendedLoad => ({ s with extendedLoadRequest := true }, [])
    | .trainingModeFeatures recorded =>
      let (s, found) := s.serveLoad
      (s.serveSave recorded, found)

/-! ## Frames -/

/-- Every frame GGPO holds is as it was recorded, and none of its buffers has been freed. -/
def Rollback.Intact (s : Rollback κ φ γ n) : Prop :=
  ∀ frame ∈ s.held, s.system.saveStates frame.1 = frame.2 ∧ ∀ p ∈ System.buffers frame.2.keys, p ∉ s.system.freed

/-- The battle after a restore is the frame's, and the restore has found its keys. -/
structure Restores (s : System κ φ γ (n + 1)) (found : List (Memory κ)) (frame : SaveState κ φ γ) : Prop where
  flow : s.flow = frame.flow
  gameManager : s.gameManager = frame.gameManager
  keys : ∃ m, found = [m] ∧ ∀ e ∈ frame.keys, m e.1 = e.2

/-- What a step does to the frames GGPO holds. -/
structure KeepsFrames (s : Rollback κ φ γ n) (a : RollbackAct κ φ γ) : Prop where
  intact : (rollback.next s a).1.Intact
  restores : ∀ buffer i frame, a = .loadGameState true buffer → s.held[buffer]? = some (i, frame) →
    Restores (rollback.next s a).1.system (rollback.next s a).2 frame

/-- No extended save is served while GGPO holds slot 0. -/
def NotOverHeld (s : Rollback κ φ γ n) : RollbackAct κ φ γ → Prop
  | .trainingModeFeatures _ => s.extendedSaveRequest = true → ∀ frame ∈ s.held, frame.1 ≠ 0
  | _ => True

instance (s : Rollback κ φ γ n) (a : RollbackAct κ φ γ) : Decidable (NotOverHeld s a) :=
  match a with
  | .trainingModeFeatures _ => inferInstanceAs (Decidable (s.extendedSaveRequest = true → ∀ frame ∈ s.held, frame.1 ≠ 0))
  | .initKey .. | .clearKey .. | .simulate .. | .saveGameState .. | .loadGameState .. | .freeBuffer .. | .extendedSave
  | .extendedLoad => .isTrue trivial

end

/-! ## One step -/

namespace System

/-- `Save` into a slot without records writes that slot alone, one record for a key at most. -/
theorem save_slots {s : System κ φ γ n} (h : s.Tidy) {dst : Fin n} (hempty : (s.saveStates dst).keys = [])
    (recorded : List (κ × ℕ)) :
    ∃ state : SaveState κ φ γ, (s.save dst recorded).saveStates = Function.update s.saveStates dst state ∧
      state.used = true ∧ (state.keys.map (·.1)).Nodup := by
  generalize h₁ : (s.setSlot dst { s.saveStates dst with used := true }).recordAll recorded = s₁
  have htracked : s₁.trackedKeys.Nodup := h₁ ▸ (goes_recordAll (goes_marked h dst).tidy recorded).tidy.tracked
  refine ⟨s₁.stored (s.saveStates dst), ?_, rfl, ?_⟩
  · have hmarked : s₁.saveStates = Function.update s.saveStates dst { s.saveStates dst with used := true } := by
      rw [← h₁, saveStates_marked]
    rw [save_eq h₁ htracked]
    simp only [setSlot, hmarked, Function.update_idem]
  · simpa [stored, hempty, Function.comp_def] using htracked

/-- A restore finds every record of the slot in its key. -/
theorem found_load {s : System κ φ γ n} {i : Fin n} (hnamed : ((s.saveStates i).keys.map (·.1)).Nodup)
    {e : κ × MementoKey} (he : e ∈ (s.saveStates i).keys) : (s.load i).2 e.1 = e.2 := by
  have hfound : (s.load i).2 = ((s.live.takeAll s.trackedKeys).1).place (s.saveStates i).keys := rfl
  rw [hfound]
  exact Memory.place_record hnamed he _

end System

namespace Rollback

/-- The slots of GGPO's frames are apart, in use and as they were recorded. -/
structure Framed (s : Rollback κ φ γ n) : Prop where
  tidy : s.system.Tidy
  named : ∀ i, ((s.system.saveStates i).keys.map (·.1)).Nodup
  frames : ∀ frame ∈ s.held, s.system.saveStates frame.1 = frame.2
  used : ∀ frame ∈ s.held, frame.2.used = true
  apart : (s.held.map (·.1)).Nodup

/-- Frames are intact because a buffer that a slot holds has not been freed. -/
theorem Framed.intact {s : Rollback κ φ γ n} (h : s.Framed) : s.Intact := by
  intro frame hframe
  have hslot := h.frames frame hframe
  refine ⟨hslot, fun p hp => h.tidy.owned.gone p (.slot frame.1) ?_⟩
  rw [← hslot, System.buffers, List.mem_flatMap] at hp
  obtain ⟨e, he, hp⟩ := hp
  exact ⟨e, he, by simpa using hp⟩

/-- What leaves the slots alone leaves the frames alone. -/
theorem Framed.of_slots {s s' : Rollback κ φ γ n} (h : s.Framed) (htidy : s'.system.Tidy)
    (hslots : s'.system.saveStates = s.system.saveStates) (hheld : s'.held = s.held) : s'.Framed where
  tidy := htidy
  named := by
    rw [hslots]
    exact h.named
  frames := by
    rw [hslots, hheld]
    exact h.frames
  used := by
    rw [hheld]
    exact h.used
  apart := by
    rw [hheld]
    exact h.apart

/-- A slot changes that holds none of the frames that are left. -/
theorem Framed.of_update {s : Rollback κ φ γ n} (h : s.Framed) {s' : Rollback κ φ γ n} (htidy : s'.system.Tidy)
    {i : Fin (n + 1)} {state : SaveState κ φ γ}
    (hslots : s'.system.saveStates = Function.update s.system.saveStates i state)
    (hnamed : (state.keys.map (·.1)).Nodup) (hheld : s'.held.Sublist s.held)
    (hother : ∀ frame ∈ s'.held, frame.1 ≠ i) : s'.Framed where
  tidy := htidy
  named := by
    rw [hslots]
    exact forall_slots (P := fun st => (st.keys.map (·.1)).Nodup) h.named hnamed
  frames frame hframe := by
    rw [hslots, Function.update_of_ne (hother frame hframe)]
    exact h.frames frame (hheld.subset hframe)
  used frame hframe := h.used frame (hheld.subset hframe)
  apart := h.apart.sublist (hheld.map _)

/-- GGPO's save takes a slot that holds no frame. -/
theorem framed_saveGameState {s : Rollback κ φ γ n} (h : s.Framed) (battle : Bool) (recorded : List (κ × ℕ)) :
    (s.saveGameState battle recorded).Framed := by
  unfold saveGameState
  split
  · exact h
  · split
    · exact h
    · rename_i i hfind
      have hunused : (s.system.saveStates i).used = false := by simpa using List.find?_some hfind
      obtain ⟨state, hslots, hused, hnamed⟩ := System.save_slots h.tidy (h.tidy.unused i hunused) recorded
      have hstate : (s.system.save i recorded).saveStates i = state := by rw [hslots, Function.update_self]
      have hfresh : ∀ frame ∈ s.held, frame.1 ≠ i := by
        rintro frame hframe rfl
        rw [h.frames frame hframe, h.used frame hframe] at hunused
        cases hunused
      refine ⟨(System.goes_save h.tidy i recorded).tidy, ?_, ?_, ?_, ?_⟩
      · dsimp only
        rw [hslots]
        exact forall_slots (P := fun st => (st.keys.map (·.1)).Nodup) h.named hnamed
      · intro frame hframe
        rcases List.mem_append.1 hframe with hold | hnew
        · dsimp only
          rw [hslots, Function.update_of_ne (hfresh frame hold)]
          exact h.frames frame hold
        · rw [List.mem_singleton.1 hnew]
      · intro frame hframe
        rcases List.mem_append.1 hframe with hold | hnew
        · exact h.used frame hold
        · rw [List.mem_singleton.1 hnew, hstate, hused]
      · rw [List.map_append, List.map_singleton]
        refine List.nodup_append.2 ⟨h.apart, List.nodup_singleton _, fun j hj j' hj' => ?_⟩
        obtain ⟨frame, hframe, rfl⟩ := List.mem_map.1 hj
        rw [List.mem_singleton.1 hj']
        exact hfresh frame hframe

theorem framed_loadGameState {s : Rollback κ φ γ n} (h : s.Framed) (battle : Bool) (buffer : ℕ) :
    (s.loadGameState battle buffer).1.Framed := by
  unfold loadGameState
  split
  · exact h
  · split
    · exact h.of_slots (System.goes_load h.tidy _).tidy rfl rfl
    · exact h

theorem serveLoad_kept (s : Rollback κ φ γ n) :
    s.serveLoad.1.held = s.held ∧ s.serveLoad.1.extendedSaveRequest = s.extendedSaveRequest := by
  unfold serveLoad
  repeat' split
  all_goals exact ⟨rfl, rfl⟩

theorem framed_serveLoad {s : Rollback κ φ γ n} (h : s.Framed) : s.serveLoad.1.Framed := by
  unfold serveLoad
  split
  · split
    · exact h.of_slots (System.goes_load h.tidy 0).tidy rfl rfl
    · exact h.of_slots h.tidy rfl rfl
  · exact h

variable [Inhabited φ]

theorem free_slots {s : System κ φ γ n} (h : s.Tidy) (i : Fin n) :
    (s.free i).saveStates = Function.update s.saveStates i (System.emptied (s.saveStates i)) := by
  rw [System.free_eq (h.owns i)]
  rfl

theorem framed_freeBuffer {s : Rollback κ φ γ n} (h : s.Framed) (buffer : ℕ) : (s.freeBuffer buffer).Framed := by
  unfold freeBuffer
  split
  · exact h
  · rename_i i frame hframe
    refine h.of_update (System.goes_free h.tidy i).tidy (free_slots h.tidy i) List.nodup_nil
      (List.eraseIdx_sublist _ _) fun other hother hsame => ?_
    -- the frame that goes is the only one in its slot
    obtain ⟨j, hj, hat⟩ := List.mem_eraseIdx_iff_getElem?.1 hother
    have hslot : (s.held.map (·.1))[j]? = (s.held.map (·.1))[buffer]? := by simp [hat, hframe, hsame]
    have hbound : j < (s.held.map (·.1)).length := by
      rw [List.length_map]
      exact (List.getElem?_eq_some_iff.1 hat).1
    exact hj ((List.getElem?_inj hbound h.apart).1 hslot)

theorem framed_serveSave {s : Rollback κ φ γ n} (h : s.Framed) (recorded : List (κ × ℕ))
    (hother : s.extendedSaveRequest = true → ∀ frame ∈ s.held, frame.1 ≠ 0) : (s.serveSave recorded).Framed := by
  unfold serveSave
  split
  · rename_i hrequest
    have hcleared : ∀ system : System κ φ γ (n + 1), system.Tidy → (system.saveStates 0).keys = [] →
        (∀ j, j ≠ 0 → system.saveStates j = s.system.saveStates j) →
        Framed { s with system := system.save 0 recorded, extendedSaveRequest := false } := by
      intro system htidy hempty hsame
      obtain ⟨state, hslots, -, hnamed⟩ := System.save_slots htidy hempty recorded
      have hall : (system.save 0 recorded).saveStates = Function.update s.system.saveStates 0 state := by
        rw [hslots]
        funext j
        by_cases hj : j = 0
        · rw [hj, Function.update_self, Function.update_self]
        · rw [Function.update_of_ne hj, Function.update_of_ne hj, hsame j hj]
      exact h.of_update (System.goes_save htidy 0 recorded).tidy hall hnamed (List.Sublist.refl _) (hother hrequest)
    dsimp only
    split
    · refine hcleared _ (System.goes_free h.tidy 0).tidy ?_ fun j hj => ?_
      · rw [free_slots h.tidy, Function.update_self]
        rfl
      · rw [free_slots h.tidy, Function.update_of_ne hj]
    · rename_i hunused
      exact hcleared _ h.tidy (h.tidy.unused 0 (by simpa using hunused)) fun _ _ => rfl
  · exact h

end Rollback

variable [Inhabited φ]

theorem framed_next {s : Rollback κ φ γ n} (h : s.Framed) {a : RollbackAct κ φ γ} (ha : NotOverHeld s a) :
    (rollback.next s a).1.Framed := by
  cases a with
  | initKey k object => exact h.of_slots (System.goes_initKey h.tidy k object).tidy rfl rfl
  | clearKey k => exact h.of_slots (System.goes_clearKey h.tidy k).tidy rfl rfl
  | simulate flow gameManager =>
    exact h.of_slots (tidy_next (a := .simulate flow gameManager) h.tidy) rfl rfl
  | saveGameState battle recorded => exact Rollback.framed_saveGameState h battle recorded
  | loadGameState battle buffer => exact Rollback.framed_loadGameState h battle buffer
  | freeBuffer buffer => exact Rollback.framed_freeBuffer h buffer
  | extendedSave => exact h.of_slots h.tidy rfl rfl
  | extendedLoad => exact h.of_slots h.tidy rfl rfl
  | trainingModeFeatures recorded =>
    obtain ⟨hheld, hrequest⟩ := s.serveLoad_kept
    refine Rollback.framed_serveSave (Rollback.framed_serveLoad h) recorded ?_
    rw [hheld, hrequest]
    exact ha

/-- A load restores the frame of its buffer. -/
theorem restores_next {s : Rollback κ φ γ n} (h : s.Framed) {buffer : ℕ} {i : Fin (n + 1)} {frame : SaveState κ φ γ}
    (hframe : s.held[buffer]? = some (i, frame)) :
    Restores (rollback.next s (.loadGameState true buffer)).1.system (rollback.next s (.loadGameState true buffer)).2
      frame := by
  have hslot : s.system.saveStates i = frame := h.frames (i, frame) (List.mem_of_getElem? hframe)
  have hload : rollback.next s (.loadGameState true buffer) =
      ({ s with system := (s.system.load i).1 }, [(s.system.load i).2]) := by
    simp only [rollback, Rollback.loadGameState, hframe, if_true]
  rw [hload]
  refine ⟨?_, ?_, _, rfl, fun e he => ?_⟩
  · rw [← hslot]
    rfl
  · rw [← hslot]
    rfl
  · rw [← hslot] at he
    exact System.found_load (h.named i) he

theorem keepsFrames_of_framed {s : Rollback κ φ γ n} (h : s.Framed) {a : RollbackAct κ φ γ} (ha : NotOverHeld s a) :
    KeepsFrames s a where
  intact := (framed_next h ha).intact
  restores := by
    rintro buffer i frame rfl hframe
    exact restores_next h hframe

/-- An extended save over a frame with a buffer frees the buffer under GGPO. -/
theorem broken_over_held {s : Rollback κ φ γ n} (h : s.Framed) (hrequest : s.extendedSaveRequest = true)
    {frame : Fin (n + 1) × SaveState κ φ γ} (hframe : frame ∈ s.held) (hslot : frame.1 = 0)
    (hbuffer : System.buffers frame.2.keys ≠ []) (recorded : List (κ × ℕ)) :
    ¬(rollback.next s (.trainingModeFeatures recorded)).1.Intact := by
  intro hintact
  have hnext : (rollback.next s (.trainingModeFeatures recorded)).1 = s.serveLoad.1.serveSave recorded := rfl
  rw [hnext] at hintact
  obtain ⟨hheld, hkept⟩ := s.serveLoad_kept
  have hloaded := Rollback.framed_serveLoad h
  generalize s.serveLoad.1 = loaded at hheld hkept hloaded hintact
  rw [← hheld] at hframe
  have hstate : loaded.system.saveStates 0 = frame.2 := hslot ▸ hloaded.frames frame hframe
  have hused : (loaded.system.saveStates 0).used = true := by
    rw [hstate]
    exact hloaded.used frame hframe
  have hsave : loaded.serveSave recorded =
      { loaded with system := (loaded.system.free 0).save 0 recorded, extendedSaveRequest := false } := by
    simp only [Rollback.serveSave, hkept, hrequest, hused, if_true]
  obtain ⟨p, hp⟩ := List.exists_mem_of_ne_nil _ hbuffer
  have hfreed : p ∈ (loaded.system.free 0).freed := by
    rw [System.free_eq (hloaded.tidy.owns 0), hstate]
    exact List.mem_append_right _ hp
  have hgone := (System.goes_save (System.goes_free hloaded.tidy 0).tidy 0 recorded).mem_freed hfreed
  rw [hsave] at hintact
  exact (hintact frame hframe).2 p hp hgone

/-! ## Every run -/

/-- In every run in which no extended save is served while GGPO holds slot 0, every frame GGPO
holds stays what was recorded, and every load restores the frame of its buffer. -/
theorem saved_frames_kept [Inhabited γ] (flow : φ) (gameManager : γ) (as : List (RollbackAct κ φ γ))
    (h : (rollback (n := n)).Meets (fun _ => NotOverHeld) (.new flow gameManager) [] as) :
    (rollback (n := n)).Meets (fun _ => KeepsFrames) (.new flow gameManager) [] as := by
  have hnew : (Rollback.new flow gameManager : Rollback κ φ γ n).Framed :=
    ⟨tidy_new flow gameManager, fun _ => List.nodup_nil, nofun, nofun, List.nodup_nil⟩
  exact Machine.meets_of_inv (fun _ s => s.Framed) (fun _ _ _ hs ha => framed_next hs ha)
    (fun _ _ _ hs ha => keepsFrames_of_framed hs ha) hnew h

namespace Sample

/-- A battle with one object, recorded in every frame. -/
def frame : List (ℕ × ℕ) := [(7, 70)]

/-- The overlay takes slot 0 first, and GGPO the next. -/
def overlayFirst : List (RollbackAct ℕ ℕ ℕ) :=
  [.extendedSave, .trainingModeFeatures frame, .saveGameState true frame, .simulate 2 2, .extendedSave,
    .trainingModeFeatures frame, .loadGameState true 0]

/-- GGPO takes slot 0 first. -/
def overlaySecond : List (RollbackAct ℕ ℕ ℕ) :=
  [.saveGameState true frame, .simulate 2 2, .extendedSave, .trainingModeFeatures frame, .loadGameState true 0]

end Sample

/-- With the overlay's save in slot 0, GGPO's frame in slot 1 is restored. -/
theorem saved_frames_kept_apart :
    (rollback (n := 1)).Meets (fun _ => KeepsFrames) (.new 1 1) [] Sample.overlayFirst :=
  saved_frames_kept 1 1 Sample.overlayFirst (by decide +kernel)

/-- An extended save over GGPO's frame: the load restores what was saved later. -/
theorem overlay_overwrites :
    ¬ ∀ (flow gameManager : ℕ) (as : List (RollbackAct ℕ ℕ ℕ)),
      (rollback (n := 1)).Meets (fun _ => KeepsFrames) (.new flow gameManager) [] as := by
  intro h
  obtain ⟨-, -, -, -, hload, -⟩ := h 1 1 Sample.overlaySecond
  have hrestored := (hload.restores 0 0 _ rfl rfl).flow
  exact absurd hrestored (by decide +kernel)

end Sf4e.Battle
