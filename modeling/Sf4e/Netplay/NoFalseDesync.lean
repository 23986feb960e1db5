import Sf4e.Netplay.Snapshots
import Sf4e.Lib.Machine
/-!
# No false desync

Two players' clients in one battle, with GGPO under both. A snapshot is compared
as soon as it arrives, however young the frame is; it is sent only when its frame
is 60 frames old. `compares_final` says why that is enough: whoever is that far
ahead has the other one's inputs, so the other one is past the frame for good.
-/
open Sf4e.Lib

namespace Sf4e.Netplay

variable {σ : Type}

/-! ## Two clients and their links -/

/-- A player's PC. `confirmed` is the last frame whose inputs have all arrived. -/
structure Peer (σ : Type) where
  confirmed : Nat
  client : SnapshotClient σ

/-- The battle; `link` is what is on its way to each side, oldest first. -/
structure Battle (σ : Type) where
  peers : Sides (Peer σ)
  link : Sides (List (StateSnapshot σ))

/-- What happens in a battle. -/
inductive Play (σ : Type) where
  | simulate (i : Side) (state : σ)
  | rollback (i : Side) (frame : Nat) (states : List σ)
  | inputs (i : Side) (confirmed : Nat)
  | step (i : Side) (depth : Option Int)
  | deliver (i : Side)

def Seen.sent? : Seen σ → Option (StateSnapshot σ)
  | .sent s => some s
  | _ => none

def Seen.captured? : Seen σ → Option (StateSnapshot σ)
  | .captured s => some s
  | _ => none

/-- The frame of a comparison. -/
def Seen.compared? : Seen σ → Option Int
  | .compared mine _ => some mine.frameIdx
  | _ => none

namespace Battle

def client (b : Battle σ) (i : Side) : SnapshotClient σ := (b.peers.get i).client

def confirmed (b : Battle σ) (i : Side) : Nat := (b.peers.get i).confirmed

def frames (b : Battle σ) (i : Side) : Nat := (b.client i).framesSimulated

/-- Side `i`'s client does something; what it sends goes to the other side. -/
def onClient (b : Battle σ) (i : Side) (r : SnapshotClient σ × List (Seen σ)) :
    Battle σ × List (Side × Seen σ) :=
  (⟨b.peers.set i ⟨b.confirmed i, r.1⟩, b.link.set i.other (b.link.get i.other ++ r.2.filterMap Seen.sent?)⟩,
    r.2.map fun e => (i, e))

end Battle

/-- One battle between two players. -/
def battle [DecidableEq σ] : Machine (Battle σ) (Play σ) (Side × Seen σ) where
  next b
    | .simulate i state => b.onClient i ((b.client i).advanceFrame state)
    | .rollback i frame states => b.onClient i ((b.client i).rollback frame states)
    | .inputs i confirmed => ({ b with peers := b.peers.set i ⟨confirmed, b.client i⟩ }, [])
    | .step i depth => b.onClient i ((b.client i).step depth)
    | .deliver i =>
      match b.link.get i with
      | [] => (b, [])
      | m :: rest => ({ b with link := b.link.set i rest } : Battle σ).onClient i ((b.client i).receiveSnapshot m)

/-- Both battles have just begun. -/
def Battle.start : Battle σ :=
  let peer := ⟨0, (SnapshotClient.connected false).beginBattle true⟩
  ⟨⟨peer, peer⟩, ⟨[], []⟩⟩

/-- What GGPO promises, with an input delay of `delay` frames. A side simulates at
most 20 frames past the last one whose inputs have all arrived, and runs no frame
up to that one again. The inputs for a frame are given `delay` frames ahead, when
the frame after the last one is about to run. -/
def Ggpo (delay : Nat) (b : Battle σ) : Play σ → Prop
  | .simulate i _ => b.frames i + 1 ≤ b.confirmed i + 20 ∧ b.frames i + 1 < 32768
  | .rollback i frame states => b.confirmed i ≤ frame ∧ frame + states.length = b.frames i
  | .inputs i confirmed => b.confirmed i ≤ confirmed ∧ confirmed ≤ b.frames i.other + 1 + delay
  | .step .. => True
  | .deliver _ => True

instance (delay : Nat) (b : Battle σ) : (m : Play σ) → Decidable (Ggpo delay b m)
  | .simulate .. => inferInstanceAs (Decidable (_ ∧ _))
  | .rollback .. => inferInstanceAs (Decidable (_ ∧ _))
  | .inputs .. => inferInstanceAs (Decidable (_ ∧ _))
  | .step .. => .isTrue trivial
  | .deliver _ => .isTrue trivial

/-! ## Reading what has happened -/

/-- What side `i` has done. -/
def doneBy (i : Side) (o : List (Side × Seen σ)) : List (Seen σ) := (o.filter fun e => e.1 = i).map (·.2)

/-- The frames whose snapshots have been sent, one for each sending. -/
def sentFrames (l : List (Seen σ)) : List Int := (l.filterMap Seen.sent?).map (·.frameIdx)

/-- The frames that have been compared, one for each comparison. -/
def comparedFrames (l : List (Seen σ)) : List Int := l.filterMap Seen.compared?

/-- The last snapshot taken of a frame. -/
def finalSnapshot (f : Int) (l : List (Seen σ)) : Option (StateSnapshot σ) :=
  ((l.filterMap Seen.captured?).filter fun s => s.frameIdx = f).getLast?

theorem doneBy_append (i : Side) (o o' : List (Side × Seen σ)) :
    doneBy i (o ++ o') = doneBy i o ++ doneBy i o' := by
  simp [doneBy]

theorem doneBy_self (i : Side) (l : List (Seen σ)) : doneBy i (l.map fun e => (i, e)) = l := by
  simp [doneBy, List.filter_map, Function.comp_def]

theorem doneBy_ne {i j : Side} (h : j ≠ i) (l : List (Seen σ)) : doneBy j (l.map fun e => (i, e)) = [] := by
  simp [doneBy, List.filter_map, Function.comp_def, h.symm]

theorem mem_doneBy {i : Side} {e : Seen σ} {o : List (Side × Seen σ)} : e ∈ doneBy i o ↔ (i, e) ∈ o := by
  simp [doneBy]

@[simp] theorem sentFrames_append (l l' : List (Seen σ)) : sentFrames (l ++ l') = sentFrames l ++ sentFrames l' := by
  simp [sentFrames]

@[simp] theorem comparedFrames_append (l l' : List (Seen σ)) :
    comparedFrames (l ++ l') = comparedFrames l ++ comparedFrames l' := by
  simp [comparedFrames]

theorem finalSnapshot_append_none {f : Int} {l l' : List (Seen σ)}
    (h : ∀ s ∈ l'.filterMap Seen.captured?, s.frameIdx ≠ f) :
    finalSnapshot f (l ++ l') = finalSnapshot f l := by
  have : (l'.filterMap Seen.captured?).filter (fun s => s.frameIdx = f) = [] :=
    List.filter_eq_nil_iff.2 fun s hs => by simpa using h s hs
  simp only [finalSnapshot, List.filterMap_append, List.filter_append, this, List.append_nil]

theorem finalSnapshot_captured (l : List (Seen σ)) (s : StateSnapshot σ) :
    finalSnapshot s.frameIdx (l ++ [.captured s]) = some s := by
  simp [finalSnapshot, Seen.captured?]

/-! ## One client -/

/-- What one client knows of its own frames, when it has simulated `N` of them and
the inputs of `conf` have all arrived. Whatever was sent or compared is old. -/
structure Keeping (conf N : Nat) (l : List (Seen σ)) (c : SnapshotClient σ) : Prop where
  short : N < 32768
  window : N ≤ conf + 20
  player : c.spectator = false
  enabled : c.snapshotsEnabled = true
  pending : c.pendingRemoteSnapshots = .empty
  held : ∀ f e, c.snapshotMap.find f = some e →
    e.1.frameIdx = f ∧ finalSnapshot f l = some e.1 ∧ 1 ≤ f ∧ f ≤ N ∧ 60 ∣ f ∧
      (e.2.sent = true ↔ f ∈ sentFrames l) ∧ (e.2.confirmed = true ↔ f ∈ comparedFrames l)
  covered : ∀ f : Int, 1 ≤ f → f ≤ N → 60 ∣ f → c.snapshotMap.find f = none → f ∈ comparedFrames l
  settled : ∀ f ∈ sentFrames l, 1 ≤ f ∧ 60 ∣ f ∧ f + 60 ≤ N
  once : (sentFrames l).Nodup
  early : ∀ f ∈ comparedFrames l, f ≤ conf ∧ f ≤ N

namespace Keeping
variable {conf N : Nat} {l : List (Seen σ)} {c : SnapshotClient σ}

theorem frames (h : Keeping conf N l c) (n : Nat) : Keeping conf N l { c with framesSimulated := n } :=
  ⟨h.short, h.window, h.player, h.enabled, h.pending, h.held, h.covered, h.settled, h.once, h.early⟩

theorem confirm (h : Keeping conf N l c) {conf' : Nat} (hle : conf ≤ conf') : Keeping conf' N l c where
  short := h.short
  window := Nat.le_trans h.window (by omega)
  player := h.player
  enabled := h.enabled
  pending := h.pending
  held := h.held
  covered := h.covered
  settled := h.settled
  once := h.once
  early f hf := ⟨Int.le_trans (h.early f hf).1 (by omega), (h.early f hf).2⟩

/-- Whatever was sent is past for good. -/
theorem sent_le (h : Keeping conf N l c) {f : Int} (hf : f ∈ sentFrames l) : f + 40 ≤ conf := by
  have := (h.settled f hf).2.2
  have := h.window
  omega

/-! ### A frame runs -/

/-- A frame that is new, or that is above `conf`, has neither been sent nor compared. -/
theorem capture (h : Keeping conf N l c) {k : Nat} (hlo : min conf N < k) (hwin : k ≤ conf + 20) (hhi : k ≤ N + 1)
    (hshort : k < 32768) {snapshot : StateSnapshot σ} (hk : snapshot.frameIdx = k) (hdvd : (60 : Int) ∣ k) :
    Keeping conf (max N k) (l ++ [.captured snapshot])
      { c with snapshotMap := (c.snapshotMap.erase k).insertOrAssign k (snapshot, ⟨false, false⟩) } := by
  have hfind : ∀ f : Int, ((c.snapshotMap.erase k).insertOrAssign k (snapshot, ⟨false, false⟩)).find f =
      if f = k then some (snapshot, ⟨false, false⟩) else c.snapshotMap.find f := by
    intro f
    rw [IntMap.find_insertOrAssign, IntMap.find_erase]
    split <;> rfl
  have hsent : sentFrames (l ++ [.captured snapshot]) = sentFrames l := by
    simp [sentFrames, Seen.sent?]
  have hcompared : comparedFrames (l ++ [.captured snapshot]) = comparedFrames l := by
    simp [comparedFrames, Seen.compared?]
  refine ⟨?_, ?_, h.player, h.enabled, h.pending, ?_, ?_, ?_, ?_, ?_⟩
  · have := h.short; omega
  · have := h.window; omega
  · intro f e he
    simp only [hfind] at he
    rw [hsent, hcompared]
    split at he
    · rename_i hf
      subst hf
      obtain rfl := Option.some.inj he
      refine ⟨hk, ?_, by omega, by omega, hdvd, ?_, ?_⟩
      · rw [← hk]
        exact finalSnapshot_captured l snapshot
      · refine iff_of_false Bool.false_ne_true fun hs => ?_
        have := h.sent_le hs
        have := (h.settled _ hs).2.2
        omega
      · refine iff_of_false Bool.false_ne_true fun hs => ?_
        have := h.early _ hs
        omega
    · rename_i hf
      obtain ⟨hidx, hfin, h1, hN, hd, hm⟩ := h.held f e he
      refine ⟨hidx, ?_, h1, by omega, hd, hm⟩
      rw [finalSnapshot_append_none, hfin]
      intro s hs
      simp only [List.filterMap_cons, Seen.captured?, List.filterMap_nil, List.mem_singleton] at hs
      subst hs
      rw [hk]
      exact fun hc => hf hc.symm
  · intro f h1 hN hd hnone
    simp only [hfind] at hnone
    rw [hcompared]
    split at hnone
    · cases hnone
    · rename_i hf
      exact h.covered f h1 (by omega) hd hnone
  · intro f hf
    rw [hsent] at hf
    obtain ⟨h1, hd, hN⟩ := h.settled f hf
    exact ⟨h1, hd, by omega⟩
  · rw [hsent]
    exact h.once
  · intro f hf
    rw [hcompared] at hf
    obtain ⟨hconf, hN⟩ := h.early f hf
    exact ⟨hconf, by omega⟩

theorem advanceFrame (h : Keeping conf N l c) (state : σ) (hlo : min conf N ≤ c.framesSimulated)
    (hwin : c.framesSimulated + 1 ≤ conf + 20) (hhi : c.framesSimulated ≤ N)
    (hshort : c.framesSimulated + 1 < 32768) :
    Keeping conf (max N (c.framesSimulated + 1)) (l ++ (c.advanceFrame state).2) (c.advanceFrame state).1 ∧
      (c.advanceFrame state).1.framesSimulated = c.framesSimulated + 1 ∧
      ∀ e ∈ (c.advanceFrame state).2, ∃ s, e = .captured s ∧ ((min conf N : Nat) : Int) < s.frameIdx := by
  have hcount : frameCount (c.framesSimulated + 1) = (c.framesSimulated + 1 : Nat) := frameCount_of_lt hshort
  have h' := h.frames (c.framesSimulated + 1)
  unfold SnapshotClient.advanceFrame
  rcases SnapshotClient.captureSnapshot_cases { c with framesSimulated := c.framesSimulated + 1 } state with
    ⟨hdvd, heq⟩ | ⟨hdvd, heq⟩
  · -- no snapshot is due
    rw [heq]
    simp only [hcount] at hdvd
    refine ⟨?_, rfl, by simp⟩
    rw [List.append_nil]
    refine ⟨?_, ?_, h'.player, h'.enabled, h'.pending, ?_, ?_, ?_, h'.once, ?_⟩
    · have := h.short; omega
    · have := h.window; omega
    · intro f e he
      obtain ⟨hidx, hfin, h1, hN, hrest⟩ := h'.held f e he
      exact ⟨hidx, hfin, h1, by omega, hrest⟩
    · intro f h1 hN hd
      have hne : f ≠ (c.framesSimulated + 1 : Nat) := fun hf => hdvd (hf ▸ hd)
      exact h'.covered f h1 (by omega) hd
    · intro f hf
      obtain ⟨h1, hd, hN⟩ := h'.settled f hf
      exact ⟨h1, hd, by omega⟩
    · intro f hf
      obtain ⟨hconf, hN⟩ := h'.early f hf
      exact ⟨hconf, by omega⟩
  · rw [heq]
    simp only [hcount] at hdvd ⊢
    refine ⟨h'.capture (by omega) hwin (by omega) hshort rfl hdvd, trivial, ?_⟩
    intro e he
    refine ⟨_, List.mem_singleton.1 he, ?_⟩
    show ((min conf N : Nat) : Int) < (c.framesSimulated + 1 : Nat)
    omega

/-- The frames after `conf` run again. -/
theorem advanceFrames (h : Keeping conf N l c) (states : List σ) (hlo : min conf N ≤ c.framesSimulated)
    (hhi : c.framesSimulated + states.length ≤ N) :
    Keeping conf N (l ++ (c.advanceFrames states).2) (c.advanceFrames states).1 ∧
      (c.advanceFrames states).1.framesSimulated = c.framesSimulated + states.length ∧
      ∀ e ∈ (c.advanceFrames states).2, ∃ s, e = .captured s ∧ ((min conf N : Nat) : Int) < s.frameIdx := by
  induction states generalizing c l with
  | nil => exact ⟨by simpa [SnapshotClient.advanceFrames] using h, rfl, by simp [SnapshotClient.advanceFrames]⟩
  | cons state states ih =>
    rw [List.length_cons] at hhi
    have hshort := h.short
    have hwindow := h.window
    obtain ⟨h1, hframes, hout⟩ := h.advanceFrame state hlo (by omega) (by omega) (by omega)
    rw [Nat.max_eq_left (by omega)] at h1
    obtain ⟨h2, hframes', hout'⟩ := ih h1 (by omega) (by omega)
    simp only [SnapshotClient.advanceFrames]
    refine ⟨by rwa [← List.append_assoc], ?_, ?_⟩
    · rw [hframes', hframes, List.length_cons]
      omega
    · intro e he
      rcases List.mem_append.1 he with he | he
      · exact hout e he
      · exact hout' e he

/-! ### A Step -/

section Compare
variable [DecidableEq σ]

/-- Nothing waits to be compared: a settled snapshot is sent, and forgotten if it
has been compared. -/
theorem reconcile_eq (h : Keeping conf N l c) (hn : c.framesSimulated = N) (depth : Option Int) (f : Int)
    (e : StateSnapshot σ × StateSnapshotMeta) :
    c.reconcile depth f e .empty =
      if N - f < SnapshotClient.settledDepth depth then (some e, .empty, [])
      else (if e.2.confirmed then none else some (e.1, { e.2 with sent := true }), .empty,
        if e.2.sent then [] else [.sent e.1]) := by
  have hcount : frameCount c.framesSimulated = N := hn ▸ frameCount_of_lt (hn ▸ h.short)
  simp only [SnapshotClient.reconcile, hcount, h.player, Bool.false_or, IntMap.find_empty]
  split
  · rfl
  · cases e.2.confirmed <;> rfl

/-- The entries a Step sends. -/
def due (depth : Option Int) (N : Nat) (e : Int × StateSnapshot σ × StateSnapshotMeta) : Bool :=
  !decide (N - e.1 < SnapshotClient.settledDepth depth) && !e.2.2.sent

theorem step_spec (h : Keeping conf N l c) (hn : c.framesSimulated = N) (depth : Option Int) :
    (c.step depth).1.pendingRemoteSnapshots = .empty ∧
      (∀ f, (c.step depth).1.snapshotMap.find f = (c.snapshotMap.find f).bind fun e =>
        if N - f < SnapshotClient.settledDepth depth then some e
        else if e.2.confirmed then none else some (e.1, { e.2 with sent := true })) ∧
      (c.step depth).2 = (c.snapshotMap.entries.filter (due depth N)).map fun e => .sent e.2.1 := by
  have hstill : ∀ f e, (c.reconcile depth f e .empty).2.1 = .empty := by
    intro f e
    rw [h.reconcile_eq hn]
    split <;> rfl
  have hstep : c.step depth =
      ({ c with
          snapshotMap := (c.snapshotMap.sweep (c.reconcile depth) .empty).1
          pendingRemoteSnapshots := (c.snapshotMap.sweep (c.reconcile depth) .empty).2.1 },
        (c.snapshotMap.sweep (c.reconcile depth) .empty).2.2) := by
    rw [SnapshotClient.step, h.enabled, h.pending]
    rfl
  rw [hstep]
  refine ⟨IntMap.sweep_state hstill _, ?_, ?_⟩
  · intro f
    rw [IntMap.find_sweep hstill]
    congr 1
    funext e
    rw [h.reconcile_eq hn]
    split <;> rfl
  · rw [IntMap.sweep_out hstill]
    induction c.snapshotMap.entries with
    | nil => rfl
    | cons e m ih =>
      rw [List.flatMap_cons, ih, List.filter_cons, h.reconcile_eq hn]
      simp only [due]
      split
      · simp_all
      · by_cases hs : e.2.2.sent = true <;> simp_all

omit [DecidableEq σ] in
theorem mem_sent {depth : Option Int} {e : Int × StateSnapshot σ × StateSnapshotMeta}
    (he : e ∈ c.snapshotMap.entries.filter (due depth N)) :
    c.snapshotMap.find e.1 = some e.2 ∧ e.1 + 60 ≤ N ∧ e.2.2.sent = false := by
  obtain ⟨hmem, hdue⟩ := List.mem_filter.1 he
  simp only [due, Bool.and_eq_true, Bool.not_eq_true', decide_eq_false_iff_not] at hdue
  have hmax : (60 : Int) ≤ SnapshotClient.settledDepth depth := Int.le_max_left ..
  exact ⟨IntMap.find_of_mem hmem, by omega, hdue.2⟩

omit [DecidableEq σ] in
/-- A Step's frames are those of the entries it sends, each once. -/
theorem sentFrames_step (h : Keeping conf N l c) (depth : Option Int) :
    sentFrames ((c.snapshotMap.entries.filter (due depth N)).map fun e => Seen.sent e.2.1) =
      (c.snapshotMap.entries.filter (due depth N)).map (·.1) := by
  simp only [sentFrames, List.filterMap_map, Function.comp_def, Seen.sent?, List.filterMap_eq_map', List.map_map]
  apply List.map_congr_left
  intro e he
  exact (h.held e.1 e.2 (mem_sent he).1).1

theorem step (h : Keeping conf N l c) (hn : c.framesSimulated = N) (depth : Option Int) :
    Keeping conf N (l ++ (c.step depth).2) (c.step depth).1 ∧
      ∀ e ∈ (c.step depth).2, ∃ s, e = .sent s ∧ finalSnapshot s.frameIdx l = some s ∧ s.frameIdx ≤ N := by
  obtain ⟨hpending, hfind, hout⟩ := h.step_spec hn depth
  have hsent := h.sentFrames_step depth
  rw [← hout] at hsent
  obtain ⟨hspectator, henabled, -⟩ := c.step_keeps depth
  have hcompared : comparedFrames (c.step depth).2 = [] := by
    rw [hout]
    simp [comparedFrames, List.filterMap_map, Function.comp_def, Seen.compared?]
  have hfinal : ∀ f, finalSnapshot f (l ++ (c.step depth).2) = finalSnapshot f l := by
    intro f
    apply finalSnapshot_append_none
    rw [hout]
    simp [List.filterMap_map, Function.comp_def, Seen.captured?]
  have hmem : ∀ f, f ∈ sentFrames (c.step depth).2 ↔
      ∃ e, c.snapshotMap.find f = some e ∧ SnapshotClient.settledDepth depth ≤ N - f ∧ e.2.sent = false := by
    intro f
    rw [hsent, List.mem_map]
    constructor
    · rintro ⟨e, he, rfl⟩
      have hdue := (List.mem_filter.1 he).2
      simp only [due, Bool.and_eq_true, Bool.not_eq_true', decide_eq_false_iff_not] at hdue
      exact ⟨e.2, (mem_sent he).1, by omega, hdue.2⟩
    · rintro ⟨e, he, hdepth, hs⟩
      refine ⟨(f, e), List.mem_filter.2 ⟨IntMap.mem_of_find he, ?_⟩, rfl⟩
      simp only [due, hs, Bool.not_false, Bool.and_true, Bool.not_eq_true', decide_eq_false_iff_not]
      omega
  refine ⟨⟨h.short, h.window, hspectator.trans h.player, henabled.trans h.enabled, hpending, ?_, ?_, ?_, ?_, ?_⟩, ?_⟩
  · intro f e he
    rw [sentFrames_append, comparedFrames_append, hcompared, List.append_nil, hfinal, List.mem_append, hmem]
    rw [hfind] at he
    obtain ⟨e₀, he₀, he⟩ := Option.bind_eq_some_iff.1 he
    obtain ⟨hidx, hfin, h1, hN, hd, hs, hc⟩ := h.held f e₀ he₀
    split at he
    · rename_i hyoung
      -- not settled: left alone, and not sent now
      obtain rfl := Option.some.inj he
      refine ⟨hidx, hfin, h1, hN, hd, hs.trans (or_iff_left ?_).symm, hc⟩
      rintro ⟨-, -, hdepth, -⟩
      omega
    split at he
    · cases he
    · rename_i hyoung hconf
      obtain rfl := Option.some.inj he
      refine ⟨hidx, hfin, h1, hN, hd, iff_of_true rfl ?_, hc⟩
      cases hsent₀ : e₀.2.sent with
      | true => exact .inl (hs.1 hsent₀)
      | false => exact .inr ⟨e₀, he₀, by omega, hsent₀⟩
  · intro f h1 hN hd hnone
    rw [comparedFrames_append, hcompared, List.append_nil]
    rw [hfind] at hnone
    cases he : c.snapshotMap.find f with
    | none => exact h.covered f h1 hN hd he
    | some e =>
      rw [he, Option.bind_some] at hnone
      split at hnone
      · cases hnone
      split at hnone
      · rename_i hconf
        exact (h.held f e he).2.2.2.2.2.2.1 hconf
      · cases hnone
  · intro f hf
    rcases List.mem_append.1 (sentFrames_append .. ▸ hf) with hf | hf
    · exact h.settled f hf
    · obtain ⟨e, he, hdepth, -⟩ := (hmem f).1 hf
      obtain ⟨-, -, h1, -, hd, -⟩ := h.held f e he
      have hmax : (60 : Int) ≤ SnapshotClient.settledDepth depth := Int.le_max_left ..
      exact ⟨h1, hd, by omega⟩
  · rw [sentFrames_append]
    refine List.nodup_append.2 ⟨h.once, ?_, ?_⟩
    · rw [hsent]
      have hkeys : (c.snapshotMap.entries.map (·.1)).Nodup :=
        (List.pairwise_map.2 c.snapshotMap.sorted).imp fun hlt heq => absurd heq (Int.ne_of_lt hlt)
      exact hkeys.sublist (List.filter_sublist.map _)
    · intro f hf f' hf' heq
      obtain ⟨e, he, -, hs⟩ := (hmem f').1 hf'
      have := (h.held f' e he).2.2.2.2.2.1.2 (heq ▸ hf)
      rw [hs] at this
      cases this
  · intro f hf
    rw [comparedFrames_append, hcompared, List.append_nil] at hf
    exact h.early f hf
  · intro e he
    rw [hout] at he
    obtain ⟨entry, hentry, rfl⟩ := List.mem_map.1 he
    obtain ⟨hidx, hfin, -, hN, -⟩ := h.held _ _ (mem_sent hentry).1
    exact ⟨entry.2.1, rfl, by rw [hidx, hfin], by rwa [hidx]⟩

/-! ### A snapshot arrives -/

/-- It is compared with the final one of its frame, for the first time. -/
theorem receive (h : Keeping conf N l c) {m : StateSnapshot σ} (h1 : 1 ≤ m.frameIdx) (hN : m.frameIdx ≤ N)
    (hd : 60 ∣ m.frameIdx) (hconf : m.frameIdx ≤ conf) (hnew : m.frameIdx ∉ comparedFrames l) :
    ∃ mine, finalSnapshot m.frameIdx l = some mine ∧ mine.frameIdx = m.frameIdx ∧
      (c.receiveSnapshot m).2 = c.compare mine m ∧
      Keeping conf N (l ++ c.compare mine m) (c.receiveSnapshot m).1 := by
  cases he : c.snapshotMap.find m.frameIdx with
  | none => exact absurd (h.covered _ h1 hN hd he) hnew
  | some e =>
    obtain ⟨mine, marks⟩ := e
    obtain ⟨hidx, hfin, -, -, -, hs, -⟩ := h.held _ _ he
    have hsent : sentFrames (c.compare mine m) = [] := by
      unfold SnapshotClient.compare
      split <;> rfl
    have hcompared : comparedFrames (c.compare mine m) = [m.frameIdx] := by
      rw [← hidx]
      unfold SnapshotClient.compare
      split <;> rfl
    have hfinal : ∀ f, finalSnapshot f (l ++ c.compare mine m) = finalSnapshot f l := by
      intro f
      apply finalSnapshot_append_none
      unfold SnapshotClient.compare
      split <;> simp [Seen.captured?]
    have hreceive : c.receiveSnapshot m =
        ({ c with
            snapshotMap :=
              if marks.sent then c.snapshotMap.erase m.frameIdx
              else c.snapshotMap.insertOrAssign m.frameIdx (mine, { marks with confirmed := true }) },
          c.compare mine m) := by
      rw [SnapshotClient.receiveSnapshot, he]
    have hfind : ∀ f, (c.receiveSnapshot m).1.snapshotMap.find f =
        if f = m.frameIdx then if marks.sent then none else some (mine, { marks with confirmed := true })
        else c.snapshotMap.find f := by
      intro f
      rw [hreceive]
      cases marks.sent with
      | true => exact IntMap.find_erase ..
      | false => exact IntMap.find_insertOrAssign ..
    refine ⟨mine, hfin, hidx, by rw [hreceive], ?_⟩
    refine ⟨h.short, h.window, ?_, ?_, ?_, ?_, ?_, ?_, ?_, ?_⟩
    · rw [hreceive]; exact h.player
    · rw [hreceive]; exact h.enabled
    · rw [hreceive]; exact h.pending
    · intro f e hf
      rw [hfinal, sentFrames_append, hsent, List.append_nil, comparedFrames_append, hcompared, List.mem_append,
        List.mem_singleton]
      rw [hfind] at hf
      split at hf
      · rename_i hfm
        split at hf
        · cases hf
        · obtain rfl := Option.some.inj hf
          subst hfm
          exact ⟨hidx, hfin, h1, hN, hd, hs, iff_of_true rfl (.inr rfl)⟩
      · rename_i hfm
        obtain ⟨hidx', hfin', h1', hN', hd', hs', hc'⟩ := h.held f e hf
        exact ⟨hidx', hfin', h1', hN', hd', hs', hc'.trans (or_iff_left hfm).symm⟩
    · intro f h1' hN' hd' hnone
      rw [comparedFrames_append, hcompared]
      rw [hfind] at hnone
      split at hnone
      · rename_i hfm
        simp [hfm]
      · exact List.mem_append_left _ (h.covered f h1' hN' hd' hnone)
    · rw [sentFrames_append, hsent, List.append_nil]
      exact h.settled
    · rw [sentFrames_append, hsent, List.append_nil]
      exact h.once
    · intro f hf
      rw [comparedFrames_append, hcompared] at hf
      rcases List.mem_append.1 hf with hf | hf
      · exact h.early f hf
      · rw [List.mem_singleton.1 hf]
        exact ⟨hconf, hN⟩

end Compare

end Keeping

/-! ## Both clients -/

/-- Both clients keep what they know; what one has sent, the other has compared or
is about to get; and every comparison was of two final snapshots. -/
structure Exchanging (b : Battle σ) (l : Side → List (Seen σ)) : Prop where
  keeping : ∀ i, Keeping (b.confirmed i) (b.frames i) (l i) (b.client i)
  inputs : ∀ i, b.confirmed i ≤ b.frames i.other + 9
  fifo : ∀ i, sentFrames (l i) = comparedFrames (l i.other) ++ (b.link.get i.other).map (·.frameIdx)
  carried : ∀ i, ∀ m ∈ b.link.get i.other, finalSnapshot m.frameIdx (l i) = some m
  fair : ∀ i mine theirs, Seen.compared mine theirs ∈ l i →
    mine.frameIdx = theirs.frameIdx ∧ finalSnapshot mine.frameIdx (l i) = some mine ∧
      finalSnapshot mine.frameIdx (l i.other) = some theirs
  told : ∀ i mine theirs, Seen.desync mine theirs ∈ l i →
    Seen.compared mine theirs ∈ l i ∧ (mine.frameIdx = theirs.frameIdx → mine.state ≠ theirs.state)

namespace Battle
variable (b : Battle σ) (i : Side) (r : SnapshotClient σ × List (Seen σ))

@[simp] theorem onClient_client : (b.onClient i r).1.client i = r.1 := by simp [onClient, client]

@[simp] theorem onClient_client_other : (b.onClient i r).1.client i.other = b.client i.other := by
  simp [onClient, client]

@[simp] theorem onClient_confirmed (j : Side) : (b.onClient i r).1.confirmed j = b.confirmed j := by
  rcases Side.eq_or_other i j with rfl | rfl <;> simp [onClient, confirmed]

@[simp] theorem onClient_frames : (b.onClient i r).1.frames i = r.1.framesSimulated := by simp [frames]

@[simp] theorem onClient_frames_other : (b.onClient i r).1.frames i.other = b.frames i.other := by simp [frames]

@[simp] theorem onClient_link_other :
    (b.onClient i r).1.link.get i.other = b.link.get i.other ++ r.2.filterMap Seen.sent? := by
  simp [onClient]

@[simp] theorem onClient_link : (b.onClient i r).1.link.get i = b.link.get i := by
  rw [onClient, Sides.get_set_ne _ _ (Side.other_ne i).symm]

end Battle

theorem comparedFrames_of_mem {mine theirs : StateSnapshot σ} {l : List (Seen σ)}
    (h : Seen.compared mine theirs ∈ l) : mine.frameIdx ∈ comparedFrames l :=
  List.mem_filterMap.2 ⟨_, h, rfl⟩

namespace Exchanging
variable {b : Battle σ} {l : Side → List (Seen σ)}

/-- What one side has sent, both are past for good. -/
theorem sent_old (h : Exchanging b l) {i : Side} {f : Int} (hf : f ∈ sentFrames (l i)) :
    f + 40 ≤ b.confirmed i ∧ f + 31 ≤ b.frames i.other ∧ f + 11 ≤ b.confirmed i.other := by
  have hconf := (h.keeping i).sent_le hf
  have hinputs := h.inputs i
  have hwindow := (h.keeping i.other).window
  omega

theorem compared_sent (h : Exchanging b l) {i : Side} {f : Int} (hf : f ∈ comparedFrames (l i)) :
    f ∈ sentFrames (l i.other) := by
  rw [h.fifo, Side.other_other]
  exact List.mem_append_left _ hf

/-- A client that compares nothing: it takes snapshots of frames that are not
confirmed, and sends final ones. -/
theorem quiet (h : Exchanging b l) {i : Side} {r : SnapshotClient σ × List (Seen σ)} {l' : Side → List (Seen σ)}
    (hself : l' i = l i ++ r.2) (hother : l' i.other = l i.other)
    (hkeep : Keeping (b.confirmed i) r.1.framesSimulated (l i ++ r.2) r.1)
    (hframes : b.frames i ≤ r.1.framesSimulated)
    (hout : ∀ e ∈ r.2, (∃ s, e = .captured s ∧ ((min (b.confirmed i) (b.frames i) : Nat) : Int) < s.frameIdx) ∨
      ∃ s, e = .sent s ∧ finalSnapshot s.frameIdx (l i) = some s ∧ s.frameIdx ≤ b.frames i) :
    Exchanging (b.onClient i r).1 l' := by
  have hfinal : ∀ f : Int, f ≤ b.confirmed i → f ≤ b.frames i →
      finalSnapshot f (l i ++ r.2) = finalSnapshot f (l i) := by
    intro f hconf hN
    apply finalSnapshot_append_none
    intro s hs
    obtain ⟨e, he, hes⟩ := List.mem_filterMap.1 hs
    rcases hout e he with ⟨s', rfl, hlt⟩ | ⟨s', rfl, -⟩
    · obtain rfl := Option.some.inj hes
      omega
    · cases hes
  have hcompared : comparedFrames r.2 = [] := by
    apply List.filterMap_eq_nil_iff.2
    intro e he
    rcases hout e he with ⟨s, rfl, -⟩ | ⟨s, rfl, -⟩ <;> rfl
  have hold : ∀ e ∈ l i ++ r.2, (∃ mine theirs, e = .compared mine theirs ∨ e = .desync mine theirs) → e ∈ l i := by
    rintro e he ⟨mine, theirs, hkind⟩
    apply (List.mem_append.1 he).resolve_right
    intro he
    rcases hout e he with ⟨s, rfl, -⟩ | ⟨s, rfl, -⟩ <;> rcases hkind with hk | hk <;> cases hk
  refine ⟨?_, ?_, ?_, ?_, ?_, ?_⟩
  · intro j
    rcases Side.eq_or_other i j with rfl | rfl
    · simpa [hself] using hkeep
    · simpa [hother] using h.keeping i.other
  · intro j
    rcases Side.eq_or_other i j with rfl | rfl
    · simpa using h.inputs j
    · have hinputs := h.inputs i.other
      simp only [Side.other_other] at hinputs
      simp only [Battle.onClient_confirmed, Side.other_other, Battle.onClient_frames]
      omega
  · intro j
    rcases Side.eq_or_other i j with rfl | rfl
    · rw [hself, hother, sentFrames_append, h.fifo j, Battle.onClient_link_other, List.map_append, List.append_assoc]
      rfl
    · rw [Side.other_other, hself, hother, comparedFrames_append, hcompared, List.append_nil, Battle.onClient_link]
      simpa using h.fifo i.other
  · intro j m hm
    rcases Side.eq_or_other i j with rfl | rfl
    · rw [hself]
      rw [Battle.onClient_link_other, List.mem_append] at hm
      have hsent : finalSnapshot m.frameIdx (l j) = some m ∧ m.frameIdx ≤ b.frames j ∧
          m.frameIdx ∈ sentFrames (l j ++ r.2) := by
        rw [sentFrames_append]
        rcases hm with hm | hm
        · have hold : m.frameIdx ∈ sentFrames (l j) := by
            rw [h.fifo j]
            exact List.mem_append_right _ (List.mem_map_of_mem hm)
          have hN := ((h.keeping j).settled _ hold).2.2
          exact ⟨h.carried j m hm, by omega, List.mem_append_left _ hold⟩
        · obtain ⟨e, he, hes⟩ := List.mem_filterMap.1 hm
          rcases hout e he with ⟨s, rfl, -⟩ | ⟨s, rfl, hfin, hN⟩
          · cases hes
          · obtain rfl := Option.some.inj hes
            exact ⟨hfin, hN, List.mem_append_right _ (List.mem_map_of_mem hm)⟩
      have hle := hkeep.sent_le hsent.2.2
      rw [hfinal _ (by omega) hsent.2.1, hsent.1]
    · rw [Side.other_other, Battle.onClient_link] at hm
      rw [hother]
      exact h.carried i.other m (by rwa [Side.other_other])
  · intro j mine theirs hm
    rcases Side.eq_or_other i j with rfl | rfl
    · rw [hself] at hm
      have hm := hold _ hm ⟨mine, theirs, .inl rfl⟩
      obtain ⟨hidx, hmine, htheirs⟩ := h.fair j mine theirs hm
      obtain ⟨hconf, hN⟩ := (h.keeping j).early _ (comparedFrames_of_mem hm)
      rw [hself, hother, hfinal _ hconf hN]
      exact ⟨hidx, hmine, htheirs⟩
    · rw [hother] at hm
      obtain ⟨hidx, hmine, htheirs⟩ := h.fair i.other mine theirs hm
      have hsent := h.compared_sent (comparedFrames_of_mem hm)
      rw [Side.other_other] at hsent htheirs
      have hconf := (h.keeping i).sent_le hsent
      have hN := ((h.keeping i).settled _ hsent).2.2
      rw [Side.other_other, hself, hother, hfinal _ (by omega) (by omega)]
      exact ⟨hidx, hmine, htheirs⟩
  · intro j mine theirs hm
    rcases Side.eq_or_other i j with rfl | rfl
    · rw [hself] at hm ⊢
      obtain ⟨hc, hne⟩ := h.told j mine theirs (hold _ hm ⟨mine, theirs, .inr rfl⟩)
      exact ⟨List.mem_append_left _ hc, hne⟩
    · rw [hother] at hm ⊢
      exact h.told i.other mine theirs hm

theorem confirm (h : Exchanging b l) {i : Side} {confirmed : Nat} (hle : b.confirmed i ≤ confirmed)
    (hinputs : confirmed ≤ b.frames i.other + 9) :
    Exchanging { b with peers := b.peers.set i ⟨confirmed, b.client i⟩ } l := by
  have hclient : ∀ j, ({ b with peers := b.peers.set i ⟨confirmed, b.client i⟩ } : Battle σ).client j = b.client j := by
    intro j
    rcases Side.eq_or_other i j with rfl | rfl <;> simp [Battle.client]
  refine ⟨?_, ?_, h.fifo, h.carried, h.fair, h.told⟩
  · intro j
    rw [Battle.frames, hclient]
    rcases Side.eq_or_other i j with rfl | rfl
    · simpa [Battle.confirmed, Battle.frames] using (h.keeping j).confirm hle
    · simpa [Battle.confirmed, Battle.frames] using h.keeping i.other
  · intro j
    rw [Battle.frames, hclient]
    rcases Side.eq_or_other i j with rfl | rfl
    · simpa [Battle.confirmed, Battle.frames] using hinputs
    · simpa [Battle.confirmed, Battle.frames] using h.inputs i.other

variable [DecidableEq σ]

theorem mem_compare {c : SnapshotClient σ} {mine theirs : StateSnapshot σ} {e : Seen σ}
    (he : e ∈ c.compare mine theirs) :
    e = .compared mine theirs ∨
      (e = .desync mine theirs ∧ (mine.frameIdx = theirs.frameIdx → mine.state ≠ theirs.state)) := by
  unfold SnapshotClient.compare at he
  rcases List.mem_cons.1 he with rfl | he
  · exact .inl rfl
  split at he
  · cases he
  · rename_i hdiff
    refine .inr ⟨List.mem_singleton.1 he, fun hidx hstate => hdiff ?_⟩
    simp [hidx, hstate]

/-- A snapshot that arrives is old enough on this side, too. -/
theorem deliver (h : Exchanging b l) {i : Side} {m : StateSnapshot σ} {rest : List (StateSnapshot σ)}
    {l' : Side → List (Seen σ)} (hlink : b.link.get i = m :: rest)
    (hself : l' i = l i ++ ((b.client i).receiveSnapshot m).2) (hother : l' i.other = l i.other) :
    Exchanging (({ b with link := b.link.set i rest } : Battle σ).onClient i ((b.client i).receiveSnapshot m)).1 l' := by
  have hfifo := h.fifo i.other
  rw [Side.other_other, hlink] at hfifo
  have hsent : m.frameIdx ∈ sentFrames (l i.other) := by simp [hfifo]
  obtain ⟨hconf', hframes, hconf⟩ := h.sent_old hsent
  rw [Side.other_other] at hframes hconf
  obtain ⟨h1, hd, -⟩ := (h.keeping i.other).settled _ hsent
  have hnew : m.frameIdx ∉ comparedFrames (l i) := by
    have honce := (h.keeping i.other).once
    rw [hfifo] at honce
    exact fun hc => (List.nodup_append.1 honce).2.2 _ hc _ (by simp) rfl
  obtain ⟨mine, hmine, hidx, hout, hkeep⟩ := (h.keeping i).receive h1 (by omega) hd (by omega) hnew
  obtain ⟨-, -, hsame, -⟩ := (b.client i).receiveSnapshot_keeps m
  have htheirs : finalSnapshot m.frameIdx (l i.other) = some m := by
    refine h.carried i.other m ?_
    rw [Side.other_other, hlink]
    exact List.mem_cons_self
  have hsent? : ((b.client i).receiveSnapshot m).2.filterMap Seen.sent? = [] := by
    rw [hout]
    apply List.filterMap_eq_nil_iff.2
    intro e he
    rcases mem_compare he with rfl | ⟨rfl, -⟩ <;> rfl
  have hcompared : comparedFrames ((b.client i).receiveSnapshot m).2 = [m.frameIdx] := by
    rw [hout, ← hidx]
    unfold SnapshotClient.compare
    split <;> rfl
  have hsentFrames : sentFrames (l' i) = sentFrames (l i) := by
    rw [hself, sentFrames_append, sentFrames, sentFrames, hsent?]
    simp
  have hfinal : ∀ f, finalSnapshot f (l' i) = finalSnapshot f (l i) := by
    intro f
    rw [hself]
    apply finalSnapshot_append_none
    rw [hout]
    intro s hs
    obtain ⟨e, he, hes⟩ := List.mem_filterMap.1 hs
    rcases mem_compare he with rfl | ⟨rfl, -⟩ <;> cases hes
  have hclient : ∀ j, ({ b with link := b.link.set i rest } : Battle σ).client j = b.client j := fun _ => rfl
  have hconfirmed : ∀ j, ({ b with link := b.link.set i rest } : Battle σ).confirmed j = b.confirmed j := fun _ => rfl
  refine ⟨?_, ?_, ?_, ?_, ?_, ?_⟩
  · intro j
    rcases Side.eq_or_other i j with rfl | rfl
    · simp only [Battle.onClient_confirmed, Battle.onClient_frames, Battle.onClient_client, hself, hout, hsame]
      exact hkeep
    · simp only [Battle.onClient_confirmed, Battle.onClient_frames_other, Battle.onClient_client_other, hother]
      exact h.keeping i.other
  · intro j
    rcases Side.eq_or_other i j with rfl | rfl
    · simp only [Battle.onClient_confirmed, Battle.onClient_frames_other]
      exact h.inputs j
    · simp only [Battle.onClient_confirmed, Side.other_other, Battle.onClient_frames, hsame]
      have hinputs := h.inputs i.other
      rwa [Side.other_other] at hinputs
  · intro j
    rcases Side.eq_or_other i j with rfl | rfl
    · rw [Battle.onClient_link_other, hsent?, List.append_nil, hsentFrames, hother, Sides.get_set_other]
      exact h.fifo j
    · rw [Side.other_other, Battle.onClient_link, Sides.get_set_self, hself, hother, comparedFrames_append, hcompared,
        hfifo, List.map_cons, List.append_assoc]
      rfl
  · intro j m' hm'
    rcases Side.eq_or_other i j with rfl | rfl
    · rw [Battle.onClient_link_other, hsent?, List.append_nil, Sides.get_set_other] at hm'
      rw [hfinal]
      exact h.carried j m' hm'
    · rw [Side.other_other, Battle.onClient_link, Sides.get_set_self] at hm'
      rw [hother]
      refine h.carried i.other m' ?_
      rw [Side.other_other, hlink]
      exact List.mem_cons_of_mem _ hm'
  · intro j mine' theirs' hm'
    rcases Side.eq_or_other i j with rfl | rfl
    · rw [hfinal, hother]
      rw [hself, List.mem_append, hout] at hm'
      rcases hm' with hm' | hm'
      · exact h.fair j mine' theirs' hm'
      · rcases mem_compare hm' with he | ⟨he, -⟩ <;> cases he
        exact ⟨hidx, hidx ▸ hmine, hidx ▸ htheirs⟩
    · rw [Side.other_other, hfinal, hother]
      rw [hother] at hm'
      have hold := h.fair i.other mine' theirs' hm'
      rwa [Side.other_other] at hold
  · intro j mine' theirs' hm'
    rcases Side.eq_or_other i j with rfl | rfl
    · rw [hself, List.mem_append] at hm' ⊢
      rcases hm' with hm' | hm'
      · obtain ⟨hc, hne⟩ := h.told j mine' theirs' hm'
        exact ⟨.inl hc, hne⟩
      · rw [hout] at hm' ⊢
        rcases mem_compare hm' with he | ⟨he, hne⟩ <;> cases he
        exact ⟨.inr (List.mem_cons_self ..), hne⟩
    · rw [hother] at hm' ⊢
      exact h.told i.other mine' theirs' hm'

end Exchanging

/-! ## Every run -/

theorem doneBy_onClient (b : Battle σ) (i : Side) (r : SnapshotClient σ × List (Seen σ)) (o : List (Side × Seen σ)) :
    doneBy i (o ++ (b.onClient i r).2) = doneBy i o ++ r.2 ∧
      doneBy i.other (o ++ (b.onClient i r).2) = doneBy i.other o := by
  simp only [doneBy_append, Battle.onClient]
  rw [doneBy_self, doneBy_ne (Side.other_ne i), List.append_nil]
  exact ⟨rfl, rfl⟩

theorem exchanging_start : Exchanging (σ := σ) .start fun i => doneBy i [] := by
  have hkeep : Keeping (σ := σ) 0 0 [] ((SnapshotClient.connected false).beginBattle true) := by
    refine ⟨by omega, by omega, rfl, rfl, rfl, ?_, ?_, by simp [sentFrames], by simp [sentFrames],
      by simp [comparedFrames]⟩
    · intro f e he
      cases he
    · intro f h1 hN
      omega
  refine ⟨?_, ?_, ?_, ?_, by simp [doneBy], by simp [doneBy]⟩
  · intro i
    cases i using Side.cases with
    | zero => exact hkeep
    | one => exact hkeep
  · intro i
    cases i using Side.cases with
    | zero => exact Nat.zero_le _
    | one => exact Nat.zero_le _
  · intro i
    cases i using Side.cases with
    | zero => rfl
    | one => rfl
  · intro i m hm
    cases i using Side.cases with
    | zero => cases hm
    | one => cases hm

/-- Every move GGPO allows keeps it. -/
theorem exchanging_step [DecidableEq σ] {delay : Nat} (hdelay : delay ≤ 8) {b : Battle σ} {o : List (Side × Seen σ)}
    {m : Play σ} (h : Exchanging b fun i => doneBy i o) (hm : Ggpo delay b m) :
    Exchanging ((battle (σ := σ)).next b m).1 fun i => doneBy i (o ++ ((battle (σ := σ)).next b m).2) := by
  cases m with
  | simulate i state =>
    obtain ⟨hself, hother⟩ := doneBy_onClient b i ((b.client i).advanceFrame state) o
    obtain ⟨hwin, hshort⟩ := hm
    obtain ⟨hkeep, hframes, hout⟩ :=
      (h.keeping i).advanceFrame state (Nat.min_le_right ..) hwin (Nat.le_refl _) hshort
    have hmore : b.frames i ≤ ((b.client i).advanceFrame state).1.framesSimulated := hframes ▸ Nat.le_succ _
    refine h.quiet hself hother ?_ hmore fun e he => .inl (hout e he)
    have hmax : max (b.frames i) ((b.client i).framesSimulated + 1) = (b.client i).framesSimulated + 1 :=
      Nat.max_eq_right (Nat.le_succ _)
    rw [hmax] at hkeep
    rwa [hframes]
  | rollback i frame states =>
    obtain ⟨hself, hother⟩ := doneBy_onClient b i ((b.client i).rollback frame states) o
    obtain ⟨hlo, hlen⟩ := hm
    obtain ⟨hkeep, hframes, hout⟩ := ((h.keeping i).frames frame).advanceFrames states
      (Nat.le_trans (Nat.min_le_left ..) hlo) (Nat.le_of_eq hlen)
    have hsame : ((b.client i).rollback frame states).1.framesSimulated = b.frames i := hframes.trans hlen
    exact h.quiet hself hother (hsame ▸ hkeep) (Nat.le_of_eq hsame.symm) fun e he => .inl (hout e he)
  | inputs i confirmed =>
    obtain ⟨hle, hinputs⟩ := hm
    have h' := h.confirm hle (by omega)
    simpa [battle] using h'
  | step i depth =>
    obtain ⟨hself, hother⟩ := doneBy_onClient b i ((b.client i).step depth) o
    obtain ⟨-, -, hsame, -⟩ := (b.client i).step_keeps depth
    obtain ⟨hkeep, hout⟩ := (h.keeping i).step rfl depth
    exact h.quiet hself hother (hsame ▸ hkeep) (Nat.le_of_eq hsame.symm) fun e he => .inr (hout e he)
  | deliver i =>
    cases hlink : b.link.get i with
    | nil =>
      simp only [battle, hlink, List.append_nil]
      exact h
    | cons m rest =>
      simp only [battle, hlink]
      obtain ⟨hself, hother⟩ :=
        doneBy_onClient { b with link := b.link.set i rest } i ((b.client i).receiveSnapshot m) o
      exact h.deliver hlink hself hother

theorem exchanging_run [DecidableEq σ] {delay : Nat} (hdelay : delay ≤ 8) {as : List (Play σ)}
    (h : battle.Meets (fun _ => Ggpo delay) .start [] as) :
    Exchanging (battle.run .start as) fun i => doneBy i (battle.outs .start as) :=
  Machine.inv_of_outs (M := battle) (fun o b => Exchanging b fun i => doneBy i o)
    (fun _ _ _ _ hb hm => exchanging_step hdelay hb hm) exchanging_start h

/-- With an input delay of at most 8 frames, every comparison a client makes is
between the final snapshots of one frame; a client compares a frame once at most
and sends it once at most. So final states that agree are never reported. -/
theorem compares_final [DecidableEq σ] (delay : Nat) (hdelay : delay ≤ 8) (as : List (Play σ))
    (h : battle.Meets (fun _ => Ggpo delay) .start [] as) :
    (∀ i mine theirs, (i, Seen.compared mine theirs) ∈ battle.outs .start as →
      mine.frameIdx = theirs.frameIdx ∧
        finalSnapshot mine.frameIdx (doneBy i (battle.outs .start as)) = some mine ∧
        finalSnapshot theirs.frameIdx (doneBy i.other (battle.outs .start as)) = some theirs) ∧
      (∀ i, (comparedFrames (doneBy i (battle.outs .start as))).Nodup) ∧
      (∀ i, (sentFrames (doneBy i (battle.outs .start as))).Nodup) ∧
      ((∀ f a b, finalSnapshot f (doneBy 0 (battle.outs .start as)) = some a →
          finalSnapshot f (doneBy 1 (battle.outs .start as)) = some b → a.state = b.state) →
        ∀ i mine theirs, (i, Seen.desync mine theirs) ∉ battle.outs .start as) := by
  have hrun := exchanging_run hdelay h
  have hfair : ∀ i mine theirs, (i, Seen.compared mine theirs) ∈ battle.outs .start as →
      mine.frameIdx = theirs.frameIdx ∧
        finalSnapshot mine.frameIdx (doneBy i (battle.outs .start as)) = some mine ∧
        finalSnapshot theirs.frameIdx (doneBy i.other (battle.outs .start as)) = some theirs := by
    intro i mine theirs hm
    obtain ⟨hidx, hmine, htheirs⟩ := hrun.fair i mine theirs (mem_doneBy.2 hm)
    exact ⟨hidx, hmine, hidx ▸ htheirs⟩
  refine ⟨hfair, ?_, fun i => (hrun.keeping i).once, ?_⟩
  · intro i
    have honce := (hrun.keeping i.other).once
    rw [hrun.fifo, Side.other_other] at honce
    exact (List.nodup_append.1 honce).1
  · intro hagree i mine theirs hm
    obtain ⟨hc, hne⟩ := hrun.told i mine theirs (mem_doneBy.2 hm)
    obtain ⟨hidx, hmine, htheirs⟩ := hfair i mine theirs (mem_doneBy.1 hc)
    rw [← hidx] at htheirs
    cases i using Side.cases with
    | zero => exact hne hidx (hagree _ _ _ hmine htheirs)
    | one => exact hne hidx (hagree _ _ _ htheirs hmine).symm

namespace Sample

/-- Both PCs run a frame and hear of each other's inputs. -/
def frame (k : Nat) : List (Play Nat) := [.simulate 0 k, .simulate 1 k, .inputs 0 (k + 1), .inputs 1 (k + 1)]

/-- Frames up to 125, the last four of them predicted by side 0 and run again;
then the snapshots of frame 60 are exchanged. -/
def exchange : List (Play Nat) :=
  (List.range 121).flatMap frame ++
    [.simulate 0 7, .simulate 0 7, .simulate 0 7, .simulate 0 7, .rollback 0 121 [121, 122, 123, 124],
      .step 0 (some 4), .deliver 1, .step 1 none, .deliver 0]

end Sample

/-- A run in which each client compares its snapshot of frame 60 with the other's. -/
theorem compares_final_exchange :
    (∀ i, comparedFrames (doneBy i (battle.outs .start Sample.exchange)) = [60]) ∧
      ∀ i mine theirs, (i, Seen.compared mine theirs) ∈ battle.outs .start Sample.exchange →
        mine.frameIdx = theirs.frameIdx ∧
          finalSnapshot mine.frameIdx (doneBy i (battle.outs .start Sample.exchange)) = some mine ∧
          finalSnapshot theirs.frameIdx (doneBy i.other (battle.outs .start Sample.exchange)) = some theirs :=
  ⟨by decide +kernel, (compares_final 8 (by decide) Sample.exchange (by decide +kernel)).1⟩

end Sf4e.Netplay
