import Mathlib.Data.Nat.Bitwise
import Sf4e.Battle.Checksum
import Sf4e.Lib.Memory
/-!
# Mementos of afterimages

A fighter's shadow is recorded with the actor underneath it: the actor's memento
goes behind the afterimage's own in the same slot, and a tail at the slot's end
says how the two lie.
-/
open Sf4e.Lib Sf4e.Session

namespace Sf4e.Battle

/-! ## Slots -/

def kStateMementoOffset : UInt32 := 16
def kStateBytes : UInt32 := 0x6870
def kPoseRingHeaderBytes : UInt32 := 144
def kFixedBytes : UInt32 := kStateMementoOffset + kStateBytes + kPoseRingHeaderBytes
def kActorFixedBytes : UInt32 := 576
def kActorBoxBytes : UInt32 := 272
def kActorLists : ℕ := 5
def kActorCountsOffset : UInt32 := 4
def kMaxMementos : Int32 := 64

def kTailMagic : UInt32 := 0x57444853
def TK_AFTERIMAGE_ONLY : UInt32 := 1
def TK_WITH_ACTOR : UInt32 := 2

structure Tail where
  magic : UInt32
  kind : UInt32
  afterimageSize : UInt32
  actorSize : UInt32
deriving DecidableEq

/-- `sizeof(Tail)`. -/
def kTailBytes : UInt32 := 16

/-- `AlignUp16`, in a `size_t` of 32 bits. -/
@[irreducible] def alignUp16 (n : UInt32) : UInt32 := (n + 15) &&& ~~~15

/-- A key's buffer. A `NULL` pointer is 0. -/
structure SlotKey where
  mementos : UInt32
  metadata : UInt32
  numMementos : Int32
  /-- `metadata[i].memento`. -/
  mementoAt : ℕ → UInt32

structure Slot where
  m : UInt32
  size : UInt32
deriving DecidableEq

/-- The loop of `FindSlot` over the entries from `i` on. -/
def findEntry (key : SlotKey) (memento size : UInt32) : ℕ → ℕ → Except String Slot
  | 0, _ => .error "memento is not in its key"
  | left + 1, i =>
    if key.mementoAt i ≠ memento then findEntry key memento size left (i + 1)
    else if memento ≠ key.mementos + UInt32.ofNat i * size then .error "memento is not at its slot"
    else .ok { m := memento, size }

/-- `FindSlot`. -/
def findSlot (key : SlotKey) (memento : UInt32) : Except String Slot :=
  let n := key.numMementos
  let total := key.metadata - key.mementos
  let size := total / n.toUInt32
  if memento = 0 ∨ key.mementos = 0 ∨ key.metadata = 0 then .error "key has no buffer"
  else if n ≤ 0 ∨ kMaxMementos < n then .error "memento count out of range"
  else if total = 0 ∨ total % n.toUInt32 ≠ 0 then .error "buffer is not whole slots"
  else if size < kFixedBytes + kTailBytes then .error "slot smaller than the fixed memento"
  else findEntry key memento size n.toInt.toNat 0

/-! ## Recording -/

/-- A shadow, with what the engine's own functions do to it at the moment. -/
structure Afterimage where
  key : SlotKey
  /-- `rAfterimage::mementoableMethods.GetMementoSize`. -/
  afterimageSize : UInt32
  /-- `rActor::publicMethods.GetMementoSize`. -/
  actorSize : UInt32
  /-- `rAfterimage::mementoableMethods.RecordToMemento`. -/
  recordAfterimage : UInt32 → Ram → Int32 × Ram
  /-- `rActor::publicMethods.RecordToMemento`, which fails with 0. -/
  recordActor : UInt32 → Ram → Bool × Ram
  /-- `rActor::publicMethods.RestoreFromMemento`, which fails with 0. -/
  restoreActor : UInt32 → Ram → Bool

namespace Afterimage

/-- `fAfterimage::GetMementoSize`. -/
def getMementoSize (self : Afterimage) : UInt32 := alignUp16 self.afterimageSize + self.actorSize + kTailBytes

end Afterimage

def readWord (mem : Ram) (p : UInt32) : UInt32 := word (mem p) (mem (p + 1)) (mem (p + 2)) (mem (p + 3))

def Tail.bytes (tail : Tail) : List UInt8 :=
  wordBytes tail.magic ++ wordBytes tail.kind ++ wordBytes tail.afterimageSize ++ wordBytes tail.actorSize

/-- Where a slot has its tail. -/
def Slot.tail (slot : Slot) : UInt32 := slot.m + slot.size - kTailBytes

def readTail (mem : Ram) (p : UInt32) : Tail where
  magic := readWord mem p
  kind := readWord mem (p + 4)
  afterimageSize := readWord mem (p + 8)
  actorSize := readWord mem (p + 12)

/-- What `RecordToMemento` returns and leaves in memory, where it has had the actor recorded,
and why a restore will do without it. -/
structure Recorded where
  result : Int32
  memory : Ram
  actorRecords : List UInt32
  why : Option String

namespace Afterimage

/-- The part of `RecordToMemento` behind `FindSlot`. -/
def recordActorPart (self : Afterimage) (mem : Ram) (slot : Slot) : Ram × List UInt32 × Option String :=
  let actorOffset := alignUp16 self.afterimageSize
  if self.afterimageSize < kFixedBytes ∨ self.actorSize < kActorFixedBytes ∨
      actorOffset + self.actorSize + kTailBytes ≠ slot.size then
    (mem, [], some "slot was not sized for this actor memento")
  else
    let recorded := self.recordActor (slot.m + actorOffset) mem
    (recorded.2, [slot.m + actorOffset], if recorded.1 then none else some "the actor record returned 0")

/-- `fAfterimage::RecordToMemento`. -/
def recordToMemento (self : Afterimage) (mem : Ram) (memento : UInt32) : Recorded :=
  let own := self.recordAfterimage memento mem
  match findSlot self.key memento with
  | .error reject => { result := own.1, memory := own.2, actorRecords := [], why := some reject }
  | .ok slot =>
    let part := self.recordActorPart own.2 slot
    let tail : Tail :=
      { magic := kTailMagic, kind := if part.2.2.isSome then TK_AFTERIMAGE_ONLY else TK_WITH_ACTOR
        afterimageSize := self.afterimageSize, actorSize := self.actorSize }
    { result := own.1, memory := part.1.store slot.tail tail.bytes, actorRecords := part.2.1, why := part.2.2 }

end Afterimage

/-! ## Restoring -/

/-- Why a restore stops at the tail, and whether the record has said so already. -/
def Tail.reject (tail : Tail) (size : UInt32) : Option (String × Bool) :=
  let actorOffset := alignUp16 tail.afterimageSize
  if tail.magic ≠ kTailMagic then some ("no tail", false)
  else if tail.kind = TK_AFTERIMAGE_ONLY then some ("recorded without the actor part", true)
  else if tail.kind ≠ TK_WITH_ACTOR then some ("unknown tail kind", false)
  else if tail.afterimageSize < kFixedBytes then some ("tail afterimage size below its fixed part", false)
  else if actorOffset + tail.actorSize + kTailBytes ≠ size then some ("tail does not describe this slot", false)
  else if tail.actorSize < kActorFixedBytes then some ("actor payload smaller than its fixed part", false)
  else none

/-- The loop over the box counts: where it has read, and the number of boxes unless a count
was negative. -/
def readCounts (mem : Ram) : ℕ → UInt32 → UInt32 → List UInt32 × Option UInt32
  | 0, _, boxes => ([], some boxes)
  | left + 1, p, boxes =>
    let count := readWord mem p
    if count.toInt32 < 0 then ([p], none)
    else
      let rest := readCounts mem left (p + 4) (boxes + count)
      (p :: rest.1, rest.2)

/-- What a restore reads as box counts, where it calls the actor's restore, and why not. -/
structure RestoredActor where
  countReads : List UInt32
  actorRestores : List UInt32
  why : Option String
  reported : Bool

structure Restored where
  result : Int32
  actor : RestoredActor
  /-- The part of the object that is copied back. -/
  state : Option (List UInt8)

namespace Afterimage

/-- The part of `RestoreFromMemento` behind `FindSlot`. -/
def restoreActorPart (self : Afterimage) (mem : Ram) (slot : Slot) : RestoredActor :=
  let tail := readTail mem slot.tail
  match tail.reject slot.size with
  | some (why, reported) => { countReads := [], actorRestores := [], why := some why, reported }
  | none =>
    let actor := slot.m + alignUp16 tail.afterimageSize
    let counts := readCounts mem kActorLists (actor + kActorCountsOffset) 0
    match counts.2 with
    | none => { countReads := counts.1, actorRestores := [], why := some "negative actor box count", reported := false }
    | some boxes =>
      if kActorFixedBytes + kActorBoxBytes * boxes ≠ tail.actorSize then
        { countReads := counts.1, actorRestores := [], why := some "actor payload does not match its box counts"
          reported := false }
      else
        { countReads := counts.1, actorRestores := [actor]
          why := if self.restoreActor actor mem then none else some "the actor restore returned 0", reported := false }

/-- `fAfterimage::RestoreFromMemento`. -/
def restoreFromMemento (self : Afterimage) (mem : Ram) (memento : UInt32) : Restored :=
  if memento = 0 then
    { result := 0, actor := { countReads := [], actorRestores := [], why := none, reported := false }, state := none }
  else
    let actor :=
      match findSlot self.key memento with
      | .error reject => { countReads := [], actorRestores := [], why := some reject, reported := false }
      | .ok slot => self.restoreActorPart mem slot
    { result := 1, actor, state := some (mem.bytes (memento + kStateMementoOffset) kStateBytes.toNat) }

end Afterimage

/-! ## Arithmetic of the layout -/

theorem alignUp16_toNat (n : UInt32) : (alignUp16 n).toNat = (n.toNat + 15) % 2 ^ 32 / 16 * 16 := by
  have hmask : (~~~(15 : UInt32)).toNat = 2 ^ 4 * (2 ^ 28 - 1) := rfl
  have hsum : (n + 15).toNat = (n.toNat + 15) % 2 ^ 32 := rfl
  have hlt := (n + 15).toNat_lt
  unfold alignUp16
  rw [UInt32.toNat_and, hmask, ← hsum, show (n + 15).toNat / 16 * 16 = 2 ^ 4 * ((n + 15).toNat / 2 ^ 4) from Nat.mul_comm _ _]
  refine Nat.eq_of_testBit_eq fun i => ?_
  rw [Nat.testBit_and, Nat.testBit_two_pow_mul, Nat.testBit_two_pow_mul, Nat.testBit_two_pow_sub_one,
    Nat.testBit_div_two_pow]
  by_cases h4 : 4 ≤ i
  · rw [Nat.sub_add_cancel h4]
    by_cases h32 : i < 32
    · simp [h4, show i - 4 < 28 by omega]
    · -- the mask ends here, and so does the number
      rw [Nat.testBit_lt_two_pow (Nat.lt_of_lt_of_le hlt (Nat.pow_le_pow_right (by omega) (by omega)))]
      simp
  · simp [h4]

theorem findEntry_ok {key : SlotKey} {memento size : UInt32} {left i : ℕ} {slot : Slot}
    (h : findEntry key memento size left i = .ok slot) : slot = { m := memento, size } := by
  induction left generalizing i with
  | zero => cases h
  | succ left ih =>
    unfold findEntry at h
    split at h
    · exact ih h
    · split at h
      · cases h
      · exact (Except.ok.inj h).symm

/-- A slot that is found is the memento's, and has room for the fixed part and the tail. -/
theorem findSlot_ok {key : SlotKey} {memento : UInt32} {slot : Slot} (h : findSlot key memento = .ok slot) :
    memento ≠ 0 ∧ slot.m = memento ∧ kFixedBytes + kTailBytes ≤ slot.size := by
  unfold findSlot at h
  dsimp only at h
  split at h
  · cases h
  · next hnull =>
    split at h
    · cases h
    · split at h
      · cases h
      · split at h
        · cases h
        · next hsize =>
          rw [findEntry_ok h]
          exact ⟨fun hz => hnull (.inl hz), rfl, UInt32.not_lt.1 hsize⟩

/-! ## What a restore trusts -/

/-- The `n` bytes from `p` on lie in the slot. -/
def Slot.Inside (slot : Slot) (p : UInt32) (n : ℕ) : Prop := (p - slot.m).toNat + n ≤ slot.size.toNat

/-- Where `left` counts lie. -/
def countPlaces : ℕ → UInt32 → List UInt32
  | 0, _ => []
  | left + 1, p => p :: countPlaces left (p + 4)

/-- A count that is negative as `int32_t`. -/
def NegativeAt (mem : Ram) (p : UInt32) : Prop := (readWord mem p).toInt32 < 0

instance (mem : Ram) (p : UInt32) : Decidable (NegativeAt mem p) :=
  inferInstanceAs (Decidable ((readWord mem p).toInt32 < 0))

/-- How many boxes the counts from `p` on come to. -/
def boxesAt (mem : Ram) (left : ℕ) (p : UInt32) : ℕ := ((countPlaces left p).map fun q => (readWord mem q).toNat).sum

/-- How long the actor's memento at `actor` is by its own counts. -/
def actorBytes (mem : Ram) (actor : UInt32) : ℕ :=
  kActorFixedBytes.toNat + kActorBoxBytes.toNat * boxesAt mem kActorLists (actor + kActorCountsOffset)

/-- The actor's memento lies behind the afterimage's fixed part and ends where the tail begins. -/
def Slot.EndsAtTail (slot : Slot) (mem : Ram) (actor : UInt32) : Prop :=
  kFixedBytes ≤ actor - slot.m ∧ (actor - slot.m).toNat + actorBytes mem actor + kTailBytes.toNat = slot.size.toNat

/-- The restore has kept to the slot. -/
def Slot.Respected (slot : Slot) (mem : Ram) (actor : RestoredActor) : Prop :=
  (∀ p ∈ actor.countReads, slot.Inside p 4) ∧ ∀ p ∈ actor.actorRestores, slot.EndsAtTail mem p

/-- The sizes of the tail add up to the slot's without wrapping. -/
def Tail.Fits (tail : Tail) (size : UInt32) : Prop :=
  (tail.afterimageSize.toNat + 15) / 16 * 16 + tail.actorSize.toNat + kTailBytes.toNat = size.toNat

/-- The counts at `actor` make the restore stop. -/
def CountsRefused (mem : Ram) (actor actorSize : UInt32) : Prop :=
  (∃ p ∈ countPlaces kActorLists (actor + kActorCountsOffset), NegativeAt mem p) ∨
    kActorFixedBytes + kActorBoxBytes * UInt32.ofNat (boxesAt mem kActorLists (actor + kActorCountsOffset)) ≠ actorSize

/-- Nothing wraps, or what has wrapped does not matter: the tail is rejected all the same, or
the counts that are read in the wrong place stop the restore within the slot. -/
def Slot.Harmless (slot : Slot) (mem : Ram) : Prop :=
  let tail := readTail mem slot.tail
  let offset := alignUp16 tail.afterimageSize
  let actor := slot.m + offset
  (tail.reject slot.size).isSome ∨
  tail.Fits slot.size ∧ (CountsRefused mem actor tail.actorSize ∨ actorBytes mem actor < 2 ^ 32) ∨
  offset = 0 ∧ CountsRefused mem actor tail.actorSize ∨
  ¬ tail.Fits slot.size ∧
    (offset.toNat + 8 ≤ slot.size.toNat ∧ NegativeAt mem (actor + 4) ∨
      offset.toNat + 12 ≤ slot.size.toNat ∧ NegativeAt mem (actor + 4 + 4))

theorem readCounts_negative {mem : Ram} {p : UInt32} (hp : NegativeAt mem p) (left : ℕ) (boxes : UInt32) :
    readCounts mem (left + 1) p boxes = ([p], none) := if_pos hp

theorem readCounts_next {mem : Ram} {p : UInt32} (hp : ¬ NegativeAt mem p) (left : ℕ) (boxes : UInt32) :
    readCounts mem (left + 1) p boxes = (p :: (readCounts mem left (p + 4) (boxes + readWord mem p)).1,
      (readCounts mem left (p + 4) (boxes + readWord mem p)).2) := if_neg hp

theorem readCounts_places (mem : Ram) (left : ℕ) (p boxes : UInt32) :
    ∀ q ∈ (readCounts mem left p boxes).1, q ∈ countPlaces left p := by
  induction left generalizing p boxes with
  | zero => exact fun q hq => hq
  | succ left ih =>
    intro q hq
    by_cases hp : NegativeAt mem p
    · rw [readCounts_negative hp] at hq
      exact List.mem_cons.2 (.inl (List.mem_singleton.1 hq))
    · rw [readCounts_next hp] at hq
      rcases List.mem_cons.1 hq with rfl | hq
      · exact List.mem_cons_self
      · exact List.mem_cons_of_mem p (ih _ _ q hq)

/-- All counts are read unless one is negative. -/
theorem readCounts_boxes (mem : Ram) (left : ℕ) (p boxes : UInt32) : (readCounts mem left p boxes).2 =
    if ∃ q ∈ countPlaces left p, NegativeAt mem q then none else some (boxes + UInt32.ofNat (boxesAt mem left p)) := by
  induction left generalizing p boxes with
  | zero =>
    rw [if_neg (by rintro ⟨q, hq, -⟩; cases hq)]
    show some boxes = some (boxes + 0)
    rw [UInt32.add_zero]
  | succ left ih =>
    have hsplit : (∃ q ∈ countPlaces (left + 1) p, NegativeAt mem q) ↔
        NegativeAt mem p ∨ ∃ q ∈ countPlaces left (p + 4), NegativeAt mem q := by
      simp only [countPlaces, List.mem_cons, exists_eq_or_imp]
    by_cases hp : NegativeAt mem p
    · rw [readCounts_negative hp, if_pos (hsplit.2 (.inl hp))]
    · rw [readCounts_next hp, ih]
      by_cases hrest : ∃ q ∈ countPlaces left (p + 4), NegativeAt mem q
      · rw [if_pos hrest, if_pos (hsplit.2 (.inr hrest))]
      · rw [if_neg hrest, if_neg fun h => (hsplit.1 h).elim hp hrest]
        have hsum : boxesAt mem (left + 1) p = (readWord mem p).toNat + boxesAt mem left (p + 4) := by
          simp only [boxesAt, countPlaces, List.map_cons, List.sum_cons]
        rw [hsum, UInt32.ofNat_add, UInt32.ofNat_toNat, UInt32.add_assoc]

/-- Behind a count that is negative nothing is read. -/
theorem readCounts_forall {mem : Ram} {P : UInt32 → Prop} {left : ℕ} {p boxes : UInt32} :
    (∀ q ∈ (readCounts mem (left + 1) p boxes).1, P q) ↔
      P p ∧ (¬ NegativeAt mem p → ∀ q ∈ (readCounts mem left (p + 4) (boxes + readWord mem p)).1, P q) := by
  by_cases hp : NegativeAt mem p
  · rw [readCounts_negative hp]
    simp [hp]
  · rw [readCounts_next hp]
    simp [hp]

theorem countPlaces_eq (left : ℕ) (p : UInt32) :
    countPlaces left p = (List.range left).map fun i => p + UInt32.ofNat (4 * i) := by
  induction left generalizing p with
  | zero => rfl
  | succ left ih =>
    rw [countPlaces, ih, List.range_succ_eq_map, List.map_cons, List.map_map]
    refine congrArg₂ _ (UInt32.add_zero p).symm (List.map_congr_left fun i _ => ?_)
    show p + 4 + UInt32.ofNat (4 * i) = p + UInt32.ofNat (4 * (i + 1))
    rw [Nat.mul_add, Nat.add_comm (4 * i), UInt32.ofNat_add, ← UInt32.add_assoc]
    rfl

/-- The distance from the slot's start to a place behind an offset in it. -/
theorem place_sub_toNat (m offset k : UInt32) : (m + offset + k - m).toNat = (offset.toNat + k.toNat) % 2 ^ 32 := by
  have hm := m.toNat_lt
  rw [UInt32.toNat_sub, UInt32.toNat_add, UInt32.toNat_add]
  omega

theorem counts_inside {slot : Slot} {offset : UInt32} (h : offset.toNat + 24 ≤ slot.size.toNat) :
    ∀ q ∈ countPlaces kActorLists (slot.m + offset + kActorCountsOffset), slot.Inside q 4 := by
  intro q hq
  rw [countPlaces_eq] at hq
  obtain ⟨i, hi, rfl⟩ := List.mem_map.1 hq
  have hi : i < 5 := List.mem_range.1 hi
  have hsize := slot.size.toNat_lt
  unfold Slot.Inside
  rw [UInt32.add_assoc _ kActorCountsOffset, place_sub_toNat, UInt32.toNat_add, UInt32.toNat_ofNat']
  have hoff : kActorCountsOffset.toNat = 4 := rfl
  omega

namespace Tail

variable {tail : Tail} {size : UInt32}

/-- What a tail says that is not rejected. -/
theorem accepted (h : tail.reject size = none) : kFixedBytes ≤ tail.afterimageSize ∧
    alignUp16 tail.afterimageSize + tail.actorSize + kTailBytes = size ∧ kActorFixedBytes ≤ tail.actorSize := by
  unfold reject at h
  dsimp only at h
  split_ifs at h with hmagic honly hkind hfixed hsum hactor
  exact ⟨UInt32.not_lt.1 hfixed, not_not.1 hsum, UInt32.not_lt.1 hactor⟩

theorem offset_of_fits (h : tail.Fits size) :
    (alignUp16 tail.afterimageSize).toNat = (tail.afterimageSize.toNat + 15) / 16 * 16 := by
  have hsize := size.toNat_lt
  have htail : kTailBytes.toNat = 16 := rfl
  unfold Fits at h
  rw [alignUp16_toNat]
  omega

/-- A tail that is accepted adds up to the slot; or rounding up has come out at 0; or the actor
would begin in the tail or behind it. -/
theorem accepted_cases (h : tail.reject size = none) (hsize : kFixedBytes + kTailBytes ≤ size) :
    tail.Fits size ∨ ¬ tail.Fits size ∧ (alignUp16 tail.afterimageSize = 0 ∨
      size.toNat < (alignUp16 tail.afterimageSize).toNat + 16 ∧
        (alignUp16 tail.afterimageSize).toNat + 16 ≤ 2 ^ 32) := by
  obtain ⟨-, hsum, -⟩ := accepted h
  have hsum := congrArg UInt32.toNat hsum
  have hzero : alignUp16 tail.afterimageSize = 0 ↔ (alignUp16 tail.afterimageSize).toNat = 0 :=
    ⟨fun h => by rw [h]; rfl, fun h => UInt32.toNat_inj.1 h⟩
  have htail : kTailBytes.toNat = 16 := rfl
  have hA := tail.afterimageSize.toNat_lt
  have hS := tail.actorSize.toNat_lt
  have hfixed : (kFixedBytes + kTailBytes).toNat = 26912 := rfl
  have hle := UInt32.le_iff_toNat_le.1 hsize
  rw [UInt32.toNat_add, UInt32.toNat_add, alignUp16_toNat] at hsum
  rw [hzero, alignUp16_toNat]
  unfold Fits
  omega

end Tail

namespace Afterimage

variable {self : Afterimage} {mem : Ram} {slot : Slot}

theorem restoreActorPart_rejected (self : Afterimage) (h : ((readTail mem slot.tail).reject slot.size).isSome) :
    (self.restoreActorPart mem slot).countReads = [] ∧ (self.restoreActorPart mem slot).actorRestores = [] := by
  obtain ⟨r, hr⟩ := Option.isSome_iff_exists.1 h
  unfold restoreActorPart
  simp only [hr, and_self]

theorem restoreActorPart_accepted (self : Afterimage) (h : (readTail mem slot.tail).reject slot.size = none)
    {actor : UInt32} (hactor : actor = slot.m + alignUp16 (readTail mem slot.tail).afterimageSize) :
    (self.restoreActorPart mem slot).countReads = (readCounts mem kActorLists (actor + kActorCountsOffset) 0).1 ∧
      (CountsRefused mem actor (readTail mem slot.tail).actorSize →
        (self.restoreActorPart mem slot).actorRestores = []) ∧
      (¬ CountsRefused mem actor (readTail mem slot.tail).actorSize →
        (self.restoreActorPart mem slot).actorRestores = [actor]) := by
  have hboxes := readCounts_boxes mem kActorLists (actor + kActorCountsOffset) 0
  rw [UInt32.zero_add] at hboxes
  unfold restoreActorPart CountsRefused
  simp only [h, ← hactor]
  by_cases hneg : ∃ q ∈ countPlaces kActorLists (actor + kActorCountsOffset), NegativeAt mem q
  · rw [if_pos hneg] at hboxes
    simp only [hboxes]
    exact ⟨trivial, fun _ => trivial, fun hn => absurd (.inl hneg) hn⟩
  · rw [if_neg hneg] at hboxes
    simp only [hboxes]
    by_cases hsize : kActorFixedBytes + kActorBoxBytes *
        UInt32.ofNat (boxesAt mem kActorLists (actor + kActorCountsOffset)) ≠ (readTail mem slot.tail).actorSize
    · rw [if_pos hsize]
      exact ⟨rfl, fun _ => rfl, fun hn => absurd (.inr hsize) hn⟩
    · rw [if_neg hsize]
      exact ⟨rfl, fun hn => absurd hn (not_or.2 ⟨hneg, hsize⟩), fun _ => rfl⟩

theorem restoreFromMemento_actor {memento : UInt32} (h : findSlot self.key memento = .ok slot) :
    (self.restoreFromMemento mem memento).actor = self.restoreActorPart mem slot := by
  unfold restoreFromMemento
  rw [if_neg (findSlot_ok h).1]
  simp only [h]

theorem respected_accepted (h : (readTail mem slot.tail).reject slot.size = none) {actor : UInt32}
    (hactor : actor = slot.m + alignUp16 (readTail mem slot.tail).afterimageSize) :
    slot.Respected mem (self.restoreActorPart mem slot) ↔
      (∀ q ∈ (readCounts mem kActorLists (actor + kActorCountsOffset) 0).1, slot.Inside q 4) ∧
        (CountsRefused mem actor (readTail mem slot.tail).actorSize ∨ slot.EndsAtTail mem actor) := by
  obtain ⟨hreads, hrefused, hcalled⟩ := restoreActorPart_accepted self h hactor
  unfold Slot.Respected
  rw [hreads]
  by_cases hr : CountsRefused mem actor (readTail mem slot.tail).actorSize
  · rw [hrefused hr]
    simp [hr]
  · rw [hcalled hr]
    simp [hr]

/-- A tail that adds up: only a number of boxes that wraps makes the restore go beyond it. -/
theorem respected_of_fits (h : (readTail mem slot.tail).reject slot.size = none)
    (hfits : (readTail mem slot.tail).Fits slot.size) {actor : UInt32}
    (hactor : actor = slot.m + alignUp16 (readTail mem slot.tail).afterimageSize) :
    slot.Respected mem (self.restoreActorPart mem slot) ↔
      CountsRefused mem actor (readTail mem slot.tail).actorSize ∨ actorBytes mem actor < 2 ^ 32 := by
  obtain ⟨hA, -, hS⟩ := Tail.accepted h
  have hoff := Tail.offset_of_fits hfits
  unfold Tail.Fits at hfits
  rw [← hoff] at hfits
  have hA := UInt32.le_iff_toNat_le.1 hA
  have hS := UInt32.le_iff_toNat_le.1 hS
  have hfixed : kFixedBytes.toNat = 26896 := rfl
  have hactorFixed : kActorFixedBytes.toNat = 576 := rfl
  have htail : kTailBytes.toNat = 16 := rfl
  have hsize := slot.size.toNat_lt
  have hsub : actor - slot.m = alignUp16 (readTail mem slot.tail).afterimageSize := by
    rw [hactor, UInt32.add_comm, UInt32.add_sub_cancel]
  rw [respected_accepted h hactor, hactor, and_iff_right, ← hactor]
  · -- what was checked is the number of bytes modulo 2^32
    refine or_congr_right' fun hr => ?_
    have hcount := not_not.1 (not_or.1 hr).2
    have hbytes : actorBytes mem actor % 2 ^ 32 = (readTail mem slot.tail).actorSize.toNat := by
      rw [← hcount, UInt32.toNat_add, UInt32.toNat_mul, UInt32.toNat_ofNat']
      unfold actorBytes
      simp only [Nat.add_mod_mod, Nat.mul_mod_mod]
    unfold Slot.EndsAtTail
    rw [hsub, UInt32.le_iff_toNat_le]
    omega
  · intro q hq
    refine counts_inside (by omega) q (readCounts_places _ _ _ _ q hq)

/-- Rounding up has come out at 0: the counts are those of the afterimage's own memento. -/
theorem respected_of_zero (h : (readTail mem slot.tail).reject slot.size = none)
    (hsize : kFixedBytes + kTailBytes ≤ slot.size)
    (hzero : alignUp16 (readTail mem slot.tail).afterimageSize = 0) {actor : UInt32}
    (hactor : actor = slot.m + alignUp16 (readTail mem slot.tail).afterimageSize) :
    slot.Respected mem (self.restoreActorPart mem slot) ↔
      CountsRefused mem actor (readTail mem slot.tail).actorSize := by
  have hle := UInt32.le_iff_toNat_le.1 hsize
  have hroom : (kFixedBytes + kTailBytes).toNat = 26912 := rfl
  have hsub : actor - slot.m = 0 := by
    rw [hactor, hzero, UInt32.add_zero, UInt32.sub_self]
  have hends : ¬ slot.EndsAtTail mem actor := fun he => by
    have hfixed := he.1
    rw [hsub] at hfixed
    exact absurd hfixed (by decide)
  rw [respected_accepted h hactor, hactor, and_iff_right, ← hactor, or_iff_left hends]
  intro q hq
  refine counts_inside ?_ q (readCounts_places _ _ _ _ q hq)
  rw [hzero]
  show 0 + 24 ≤ _
  omega

/-- The actor begins in the tail or behind it: the third count already lies outside. -/
theorem respected_of_beyond (h : (readTail mem slot.tail).reject slot.size = none) {offset : UInt32}
    (hoff : offset = alignUp16 (readTail mem slot.tail).afterimageSize)
    (hlow : slot.size.toNat < offset.toNat + 16) (hhigh : offset.toNat + 16 ≤ 2 ^ 32) {actor : UInt32}
    (hactor : actor = slot.m + offset) :
    slot.Respected mem (self.restoreActorPart mem slot) ↔
      offset.toNat + 8 ≤ slot.size.toNat ∧ NegativeAt mem (actor + 4) ∨
        offset.toNat + 12 ≤ slot.size.toNat ∧ NegativeAt mem (actor + 4 + 4) := by
  have hfirst : slot.Inside (actor + 4) 4 ↔ offset.toNat + 8 ≤ slot.size.toNat := by
    have h4 : (4 : UInt32).toNat = 4 := rfl
    unfold Slot.Inside
    rw [hactor, place_sub_toNat, h4]
    omega
  have hsecond : slot.Inside (actor + 4 + 4) 4 ↔ offset.toNat + 12 ≤ slot.size.toNat := by
    have h8 : (4 + 4 : UInt32).toNat = 8 := rfl
    unfold Slot.Inside
    rw [hactor, UInt32.add_assoc _ 4 4, place_sub_toNat, h8]
    omega
  have hthird : ¬ slot.Inside (actor + 4 + 4 + 4) 4 := by
    have h12 : (4 + (4 + 4) : UInt32).toNat = 12 := rfl
    unfold Slot.Inside
    rw [hactor, UInt32.add_assoc _ 4 4, UInt32.add_assoc _ 4 (4 + 4), place_sub_toNat, h12]
    omega
  have hrefused (p : UInt32) (hp : p ∈ countPlaces kActorLists (actor + 4)) (hn : NegativeAt mem p) :
      CountsRefused mem actor (readTail mem slot.tail).actorSize := .inl ⟨p, hp, hn⟩
  rw [hoff] at hactor
  rw [respected_accepted h hactor]
  show (∀ q ∈ (readCounts mem 5 (actor + 4) 0).1, slot.Inside q 4) ∧ _ ↔ _
  rw [readCounts_forall, readCounts_forall, readCounts_forall, ← hfirst, ← hsecond]
  constructor
  · -- one of the first two counts must stop the loop before it leaves the slot
    rintro ⟨⟨hin, hrest⟩, -⟩
    by_cases hn : NegativeAt mem (actor + 4)
    · exact .inl ⟨hin, hn⟩
    · by_cases hn' : NegativeAt mem (actor + 4 + 4)
      · exact .inr ⟨(hrest hn).1, hn'⟩
      · exact absurd ((hrest hn).2 hn').1 hthird
  · rintro (⟨hin, hn⟩ | ⟨hin, hn⟩)
    · exact ⟨⟨hin, fun hn' => absurd hn hn'⟩, .inl (hrefused _ List.mem_cons_self hn)⟩
    · have hin' : slot.Inside (actor + 4) 4 := hfirst.2 (by rw [hsecond] at hin; omega)
      refine ⟨⟨hin', fun _ => ⟨hin, fun hn' => absurd hn hn'⟩⟩, .inl (hrefused _ ?_ hn)⟩
      exact List.mem_cons_of_mem _ List.mem_cons_self

/-- A restore keeps to its slot exactly where no sum of the tail or of the counts wraps, or
what has wrapped stops it in time. -/
theorem restore_respects_iff {memento : UInt32} (h : findSlot self.key memento = .ok slot) (mem : Ram) :
    slot.Respected mem (self.restoreFromMemento mem memento).actor ↔ slot.Harmless mem := by
  rw [restoreFromMemento_actor h]
  unfold Slot.Harmless
  dsimp only
  cases hreject : (readTail mem slot.tail).reject slot.size with
  | some r =>
    have hsome : ((readTail mem slot.tail).reject slot.size).isSome := by rw [hreject]; rfl
    obtain ⟨hreads, hrestores⟩ := restoreActorPart_rejected self hsome
    unfold Slot.Respected
    rw [hreads, hrestores]
    simp
  | none =>
    obtain ⟨-, -, hroom⟩ := findSlot_ok h
    simp only [Option.isSome_none, Bool.false_eq_true, false_or]
    rcases Tail.accepted_cases hreject hroom with hfits | ⟨hfits, hzero | ⟨hlow, hhigh⟩⟩
    · rw [respected_of_fits hreject hfits rfl]
      constructor
      · exact fun hr => .inl ⟨hfits, hr⟩
      · rintro (⟨-, hr⟩ | ⟨-, hr⟩ | ⟨hn, -⟩)
        · exact hr
        · exact .inl hr
        · exact absurd hfits hn
    · rw [respected_of_zero hreject hroom hzero rfl]
      constructor
      · exact fun hr => .inr (.inl ⟨hzero, hr⟩)
      · rintro (⟨hn, -⟩ | ⟨-, hr⟩ | ⟨-, ⟨-, hn⟩ | ⟨-, hn⟩⟩)
        · exact absurd hn hfits
        · exact hr
        · exact .inl ⟨_, List.mem_cons_self, hn⟩
        · exact .inl ⟨_, List.mem_cons_of_mem _ List.mem_cons_self, hn⟩
    · rw [respected_of_beyond hreject rfl hlow hhigh rfl]
      constructor
      · exact fun hr => .inr (.inr ⟨hfits, hr⟩)
      · rintro (⟨hn, -⟩ | ⟨hzero, -⟩ | ⟨-, hr⟩)
        · exact absurd hn hfits
        · have hle := UInt32.le_iff_toNat_le.1 hroom
          have hfixed : (kFixedBytes + kTailBytes).toNat = 26912 := rfl
          have h0 : (0 : UInt32).toNat = 0 := rfl
          rw [hzero, h0] at hlow
          omega
        · exact hr

/-- A key of one slot, with room for 97 boxes. -/
def oneSlot : SlotKey where
  mementos := 0x10000
  metadata := 0x10000 + 26976
  numMementos := 1
  mementoAt _ := 0x10000

def oneShadow : Afterimage where
  key := oneSlot
  afterimageSize := kFixedBytes
  actorSize := kActorFixedBytes
  recordAfterimage _ mem := (1, mem)
  recordActor _ mem := (true, mem)
  restoreActor _ _ := true

theorem findSlot_oneSlot : findSlot oneSlot 0x10000 = .ok { m := 0x10000, size := 26976 } := rfl

/-- A tail whose afterimage size is rounded up to 0, and 97 boxes in the first count after the
slot's start. -/
def roundedToZero : Ram :=
  let tail : Tail :=
    { magic := kTailMagic, kind := TK_WITH_ACTOR, afterimageSize := 0xfffffff1, actorSize := 26960 }
  Ram.store (Ram.store (fun _ => 0) 0x10004 (wordBytes 97)) (0x10000 + 26960) tail.bytes

theorem restore_respects_iff_roundedToZero :
    Slot.Respected { m := 0x10000, size := 26976 } roundedToZero
      (oneShadow.restoreFromMemento roundedToZero 0x10000).actor ↔
    Slot.Harmless { m := 0x10000, size := 26976 } roundedToZero :=
  restore_respects_iff findSlot_oneSlot roundedToZero

/-- The actor is restored from the start of the slot. -/
theorem restore_from_start : findSlot oneShadow.key 0x10000 = .ok { m := 0x10000, size := 26976 } ∧
    (oneShadow.restoreFromMemento roundedToZero 0x10000).actor.actorRestores = [0x10000] ∧
    ¬ Slot.Respected { m := 0x10000, size := 26976 } roundedToZero
      (oneShadow.restoreFromMemento roundedToZero 0x10000).actor := by
  have hcalled : (oneShadow.restoreFromMemento roundedToZero 0x10000).actor.actorRestores = [0x10000] := by
    decide +kernel
  refine ⟨rfl, hcalled, fun hr => ?_⟩
  have hends := (hr.2 0x10000 (by rw [hcalled]; exact List.mem_singleton_self _)).1
  exact absurd hends (by decide)

end Afterimage

end Sf4e.Battle
