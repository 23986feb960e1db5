import Mathlib.Algebra.Order.BigOperators.Group.List
import Mathlib.Algebra.Order.Group.Nat
import Sf4e.Battle.Afterimage
/-!
# A recorded actor is restored

The engine sizes the slots of a key by `GetMementoSize`. What `RecordToMemento`
puts behind the afterimage's memento is then what `RestoreFromMemento` finds.
-/
open Sf4e.Lib

namespace Sf4e.Battle

/-! ## Keys as the engine lays them out -/

/-- `n` slots of one size, then the metadata with an entry for each. -/
structure SlotKey.LaidOut (key : SlotKey) (n : ℕ) (size : UInt32) : Prop where
  count : key.numMementos = Int32.ofNat n
  allocated : key.mementos ≠ 0
  fits : key.mementos.toNat + n * size.toNat < 2 ^ 32
  metadata : key.metadata = key.mementos + UInt32.ofNat n * size
  entries : ∀ i < n, key.mementoAt i = key.mementos + UInt32.ofNat i * size

namespace SlotKey.LaidOut

variable {key : SlotKey} {n i j : ℕ} {size : UInt32}

theorem place_toNat (h : key.LaidOut n size) (hi : i ≤ n) (hn : n ≤ 64) :
    (key.mementos + UInt32.ofNat i * size).toNat = key.mementos.toNat + i * size.toNat := by
  have hfits := h.fits
  have hle : i * size.toNat ≤ n * size.toNat := Nat.mul_le_mul_right _ hi
  rw [UInt32.toNat_add, UInt32.toNat_mul, UInt32.toNat_ofNat', Nat.mod_eq_of_lt (a := i) (by omega),
    Nat.mod_eq_of_lt (a := i * size.toNat) (by omega), Nat.mod_eq_of_lt (by omega)]

theorem findEntry (h : key.LaidOut n size) (hi : i < n) {left : ℕ} (hj : j ≤ i) (hleft : j + left = n) :
    findEntry key (key.mementos + UInt32.ofNat i * size) size left j =
      .ok { m := key.mementos + UInt32.ofNat i * size, size } := by
  induction left generalizing j with
  | zero => omega
  | succ left ih =>
    unfold Battle.findEntry
    rw [h.entries j (by omega)]
    by_cases he : key.mementos + UInt32.ofNat j * size = key.mementos + UInt32.ofNat i * size
    · rw [if_neg (not_not.2 he), if_neg (not_not.2 he.symm)]
    · rw [if_pos he]
      refine ih ?_ (by omega)
      rcases Nat.lt_or_eq_of_le hj with hlt | rfl
      · exact hlt
      · exact absurd rfl he

theorem total_toNat (h : key.LaidOut n size) (hn' : n ≤ 64) :
    (key.metadata - key.mementos).toNat = n * size.toNat := by
  have hplace := h.place_toNat (Nat.le_refl n) hn'
  have hfits := h.fits
  rw [← h.metadata] at hplace
  rw [UInt32.toNat_sub, hplace]
  omega

theorem ne_zero (h : key.LaidOut n size) (hi : i ≤ n) (hn' : n ≤ 64) :
    key.mementos + UInt32.ofNat i * size ≠ 0 := fun hz => by
  have hplace := h.place_toNat hi hn'
  have hpos : key.mementos.toNat ≠ 0 := fun he => h.allocated (UInt32.toNat_inj.1 he)
  have h0 : (0 : UInt32).toNat = 0 := rfl
  rw [hz, h0] at hplace
  omega

/-- `FindSlot` accepts every slot of such a key that has room for the fixed part. -/
theorem findSlot (h : key.LaidOut n size) (hn : 1 ≤ n) (hn' : n ≤ 64) (hi : i < n)
    (hsize : kFixedBytes + kTailBytes ≤ size) :
    findSlot key (key.mementos + UInt32.ofNat i * size) = .ok { m := key.mementos + UInt32.ofNat i * size, size } := by
  have hcount : key.numMementos.toUInt32.toNat = n := by
    rw [h.count]
    show (UInt32.ofNat n).toNat = n
    rw [UInt32.toNat_ofNat', Nat.mod_eq_of_lt (by omega)]
  have hint : key.numMementos.toInt = n := by
    rw [h.count, Int32.toInt_ofNat_of_lt (by omega)]
  have htotal := h.total_toNat hn'
  have hsizes := UInt32.le_iff_toNat_le.1 hsize
  have hroom : (kFixedBytes + kTailBytes).toNat = 26912 := rfl
  have hpos : 0 < n * size.toNat := Nat.mul_pos (by omega) (by omega)
  have hslot : (key.metadata - key.mementos) / key.numMementos.toUInt32 = size := by
    rw [← UInt32.toNat_inj, UInt32.toNat_div, htotal, hcount, Nat.mul_div_cancel_left _ (by omega)]
  unfold Battle.findSlot
  dsimp only
  rw [hslot, if_neg, if_neg, if_neg, if_neg (UInt32.not_lt.2 hsize), hint]
  · exact h.findEntry hi (Nat.zero_le i) (by omega)
  · rintro (h0 | hmod)
    · rw [h0] at htotal
      have h0 : (0 : UInt32).toNat = 0 := rfl
      omega
    · refine hmod (UInt32.toNat_inj.1 ?_)
      rw [UInt32.toNat_mod, htotal, hcount, Nat.mul_mod_right]
      rfl
  · have h0 : (0 : Int32).toInt = 0 := rfl
    have h64 : kMaxMementos.toInt = 64 := rfl
    rw [Int32.le_iff_toInt_le, Int32.lt_iff_toInt_lt, hint, h0, h64]
    omega
  · rintro (hz | hz | hz)
    · exact h.ne_zero (Nat.le_of_lt hi) hn' hz
    · exact h.allocated hz
    · exact h.ne_zero (Nat.le_refl n) hn' (h.metadata ▸ hz)

/-- No byte is in two slots. -/
theorem within_unique (h : key.LaidOut n size) (hn' : n ≤ 64) (hi : i < n) (hj : j < n) {q : UInt32}
    (hqi : Ram.Within (key.mementos + UInt32.ofNat i * size) size.toNat q)
    (hqj : Ram.Within (key.mementos + UInt32.ofNat j * size) size.toNat q) : i = j := by
  have hpi := h.place_toNat (Nat.le_of_lt hi) hn'
  have hpj := h.place_toNat (Nat.le_of_lt hj) hn'
  have hfits := h.fits
  have hq := q.toNat_lt
  have hstep {a b : ℕ} (hab : a < b) : a * size.toNat + size.toNat ≤ b * size.toNat := by
    rw [← Nat.succ_mul]
    exact Nat.mul_le_mul_right _ hab
  have hti := hstep hi
  have htj := hstep hj
  unfold Ram.Within at hqi hqj
  rw [UInt32.toNat_sub, hpi] at hqi
  rw [UInt32.toNat_sub, hpj] at hqj
  rcases Nat.lt_trichotomy i j with hlt | he | hlt
  · have hle := hstep hlt
    omega
  · exact he
  · have hle := hstep hlt
    omega

end SlotKey.LaidOut

/-! ## Reading back what was written -/

/-- The word that begins at a byte of a buffer. -/
def wordAt (bs : List UInt8) (k : ℕ) : UInt32 :=
  word (bs.getD k 0) (bs.getD (k + 1) 0) (bs.getD (k + 2) 0) (bs.getD (k + 3) 0)

theorem readWord_of_bytes {mem : Ram} {p : UInt32} {bs : List UInt8} {k : ℕ} (h : mem.bytes p bs.length = bs)
    (hk : k + 4 ≤ bs.length) : readWord mem (p + UInt32.ofNat k) = wordAt bs k := by
  have hbyte (d : ℕ) (hd : d < 4) : mem (p + UInt32.ofNat (k + d)) = bs.getD (k + d) 0 := by
    rw [Ram.apply_of_bytes h (by omega), List.getD_eq_getElem bs 0 (by omega)]
  have h0 := hbyte 0 (by omega)
  have h1 := hbyte 1 (by omega)
  have h2 := hbyte 2 (by omega)
  have h3 := hbyte 3 (by omega)
  rw [UInt32.ofNat_add, ← UInt32.add_assoc] at h1 h2 h3
  exact congr (congr (congr (congrArg word h0) h1) h2) h3

theorem readTail_of_bytes {mem : Ram} {p : UInt32} {tail : Tail} (h : mem.bytes p 16 = tail.bytes) :
    readTail mem p = tail := by
  have hread (k : ℕ) (hk : k + 4 ≤ 16) : readWord mem (p + UInt32.ofNat k) = wordAt tail.bytes k :=
    @readWord_of_bytes mem p tail.bytes k h hk
  have hmagic := hread 0 (by omega)
  rw [show UInt32.ofNat 0 = 0 from rfl, UInt32.add_zero] at hmagic
  have hmagic : readWord mem p = tail.magic := hmagic.trans (word_wordBytes tail.magic)
  have hkind : readWord mem (p + 4) = tail.kind := (hread 4 (by omega)).trans (word_wordBytes tail.kind)
  have hafterimage : readWord mem (p + 8) = tail.afterimageSize :=
    (hread 8 (by omega)).trans (word_wordBytes tail.afterimageSize)
  have hactor : readWord mem (p + 12) = tail.actorSize := (hread 12 (by omega)).trans (word_wordBytes tail.actorSize)
  unfold readTail
  rw [hmagic, hkind, hafterimage, hactor]

/-- An actor's memento: its boxes, and how many of them each of its lists has. -/
structure ActorPayload where
  bytes : List UInt8
  counts : List ℕ
  lists : counts.length = kActorLists
  length_eq : bytes.length = kActorFixedBytes.toNat + kActorBoxBytes.toNat * counts.sum
  written : ∀ i (h : i < counts.length), wordAt bytes (kActorCountsOffset.toNat + 4 * i) = UInt32.ofNat counts[i]

/-- Where such a memento lies, its counts add up to its length. -/
theorem counts_accepted {mem : Ram} {actor actorSize : UInt32} (payload : ActorPayload)
    (hsize : actorSize.toNat = payload.bytes.length)
    (h : mem.bytes actor payload.bytes.length = payload.bytes) : ¬ CountsRefused mem actor actorSize := by
  have hlists : payload.counts.length = 5 := payload.lists
  have hlength := payload.length_eq
  have hfixed : kActorFixedBytes.toNat = 576 := rfl
  have hbox : kActorBoxBytes.toNat = 272 := rfl
  have hcounts : kActorCountsOffset.toNat = 4 := rfl
  rw [hfixed, hbox] at hlength
  have hlt := actorSize.toNat_lt
  have hword (i : ℕ) (hi : i < payload.counts.length) :
      readWord mem (actor + kActorCountsOffset + UInt32.ofNat (4 * i)) = UInt32.ofNat payload.counts[i] := by
    rw [← payload.written i hi, ← readWord_of_bytes h (by omega), UInt32.ofNat_add, ← UInt32.add_assoc]
    rfl
  -- a count is far below what its memento takes up, so that none is negative
  have hsmall (i : ℕ) (hi : i < payload.counts.length) : payload.counts[i] < 2 ^ 31 := by
    have hle := List.le_sum_of_mem (List.getElem_mem hi)
    omega
  have hboxes : boxesAt mem kActorLists (actor + kActorCountsOffset) = payload.counts.sum := by
    unfold boxesAt
    rw [countPlaces_eq, ← payload.lists, List.map_map]
    congr 1
    refine List.ext_getElem (by simp) fun i hi hi' => ?_
    have hval := hsmall i hi'
    simp only [List.getElem_map, List.getElem_range, Function.comp_apply]
    rw [hword i hi', UInt32.toNat_ofNat', Nat.mod_eq_of_lt (by omega)]
  rintro (⟨q, hq, hneg⟩ | hne)
  · rw [countPlaces_eq, ← payload.lists] at hq
    obtain ⟨i, hi, rfl⟩ := List.mem_map.1 hq
    have hi := List.mem_range.1 hi
    have hval := hsmall i hi
    unfold NegativeAt at hneg
    rw [hword i hi, Int32.lt_iff_toInt_lt] at hneg
    have hint : (UInt32.ofNat payload.counts[i]).toInt32.toInt = payload.counts[i] := Int32.toInt_ofNat_of_lt hval
    have h0 : (0 : Int32).toInt = 0 := rfl
    rw [hint, h0] at hneg
    omega
  · refine hne (UInt32.toNat_inj.1 ?_)
    rw [hboxes, UInt32.toNat_add, UInt32.toNat_mul, UInt32.toNat_ofNat', hfixed, hbox]
    omega

/-! ## What a record leaves in its slot -/

namespace Afterimage

variable {self : Afterimage} {mem : Ram} {memento : UInt32}

/-- Where the actor's memento goes. -/
def actorPlace (self : Afterimage) (memento : UInt32) : UInt32 := memento + alignUp16 self.afterimageSize

/-- The tail of a record with the actor. -/
def recordedTail (self : Afterimage) : Tail where
  magic := kTailMagic
  kind := TK_WITH_ACTOR
  afterimageSize := self.afterimageSize
  actorSize := self.actorSize

/-- The actor's own record, made where this record has it made, writes this memento. -/
def WritesActor (self : Afterimage) (mem : Ram) (memento : UInt32) (payload : ActorPayload) : Prop :=
  self.actorSize.toNat = payload.bytes.length ∧
    self.recordActor (self.actorPlace memento) (self.recordAfterimage memento mem).2 =
      (true, ((self.recordAfterimage memento mem).2).store (self.actorPlace memento) payload.bytes)

/-- What a record has found that took the actor in. -/
theorem record_taken (h : (self.recordToMemento mem memento).why = none) :
    findSlot self.key memento = .ok { m := memento, size := self.getMementoSize } ∧
      kFixedBytes ≤ self.afterimageSize ∧ kActorFixedBytes ≤ self.actorSize ∧
      (self.recordToMemento mem memento).memory =
        (self.recordActor (self.actorPlace memento) (self.recordAfterimage memento mem).2).2.store
          (memento + self.getMementoSize - kTailBytes) self.recordedTail.bytes := by
  unfold recordToMemento at h ⊢
  dsimp only at h ⊢
  cases hslot : findSlot self.key memento with
  | error reject =>
    rw [hslot] at h
    cases h
  | ok slot =>
    rw [hslot] at h
    obtain ⟨-, hm, -⟩ := findSlot_ok hslot
    obtain ⟨m, size⟩ := slot
    cases hm
    dsimp only at h ⊢
    unfold recordActorPart at h ⊢
    dsimp only at h ⊢
    split_ifs at h ⊢ with hsizes hrecorded hsome
    · exact absurd hsome Bool.false_ne_true
    simp only [not_or, UInt32.not_lt, not_not] at hsizes
    obtain ⟨hA, hS, hsum⟩ := hsizes
    have hsize : size = self.getMementoSize := hsum.symm
    cases hsize
    exact ⟨rfl, hA, hS, rfl⟩

theorem tail_place (self : Afterimage) (memento : UInt32) : memento + self.getMementoSize - kTailBytes =
    memento + alignUp16 self.afterimageSize + self.actorSize := by
  rw [getMementoSize, ← UInt32.add_assoc, UInt32.add_sub_cancel, ← UInt32.add_assoc]

/-- The rounded size, the actor's and the tail's add up without wrapping. -/
def SumFits (self : Afterimage) : Prop :=
  (alignUp16 self.afterimageSize).toNat + self.actorSize.toNat + kTailBytes.toNat < 2 ^ 32

theorem SumFits.size_toNat (h : self.SumFits) : self.getMementoSize.toNat =
    (alignUp16 self.afterimageSize).toNat + self.actorSize.toNat + kTailBytes.toNat := by
  unfold SumFits at h
  unfold getMementoSize
  rw [UInt32.toNat_add, UInt32.toNat_add]
  omega

/-- While the slot's bytes stay as they were recorded, it has the actor's memento and the tail. -/
theorem recorded_bytes (hfits : self.SumFits) {payload : ActorPayload} (hwrites : self.WritesActor mem memento payload)
    (htaken : (self.recordToMemento mem memento).why = none) {later : Ram}
    (hlater : ∀ q, Ram.Within memento self.getMementoSize.toNat q →
      later q = (self.recordToMemento mem memento).memory q) :
    later.bytes (self.actorPlace memento) payload.bytes.length = payload.bytes ∧
      later.bytes (memento + self.getMementoSize - kTailBytes) 16 = self.recordedTail.bytes := by
  obtain ⟨hlen, hactor⟩ := hwrites
  obtain ⟨-, -, -, hmem⟩ := record_taken htaken
  have hsize := hfits.size_toNat
  unfold SumFits at hfits
  have htail : kTailBytes.toNat = 16 := rfl
  have htailLen : self.recordedTail.bytes.length = 16 := rfl
  have hm := memento.toNat_lt
  have hS := self.actorSize.toNat_lt
  rw [tail_place]
  rw [hmem, hactor, tail_place] at hlater
  constructor
  · -- the tail, written last, lies behind the actor's memento
    have hsame : later.bytes (self.actorPlace memento) payload.bytes.length =
        (((self.recordAfterimage memento mem).2.store (self.actorPlace memento) payload.bytes).store
          (memento + alignUp16 self.afterimageSize + self.actorSize) self.recordedTail.bytes).bytes
          (self.actorPlace memento) payload.bytes.length := by
      refine Ram.bytes_congr fun i hi => hlater _ ?_
      unfold Ram.Within actorPlace
      rw [place_sub_toNat, UInt32.toNat_ofNat']
      omega
    rw [hsame, Ram.bytes_store_of_apart, Ram.bytes_store]
    · omega
    · intro i hi
      unfold Ram.Within actorPlace
      rw [htailLen, UInt32.toNat_sub, UInt32.toNat_add, UInt32.toNat_add, UInt32.toNat_add, UInt32.toNat_add,
        UInt32.toNat_ofNat']
      omega
  · have hsame : later.bytes (memento + alignUp16 self.afterimageSize + self.actorSize) 16 =
        (((self.recordAfterimage memento mem).2.store (self.actorPlace memento) payload.bytes).store
          (memento + alignUp16 self.afterimageSize + self.actorSize) self.recordedTail.bytes).bytes
          (memento + alignUp16 self.afterimageSize + self.actorSize) self.recordedTail.bytes.length := by
      refine Ram.bytes_congr fun i hi => hlater _ ?_
      unfold Ram.Within
      rw [UInt32.add_assoc _ self.actorSize, place_sub_toNat, UInt32.toNat_add, UInt32.toNat_ofNat']
      omega
    rw [hsame, Ram.bytes_store]
    rw [htailLen]
    omega

/-- A restore that finds the recorded tail and the actor's memento restores the actor from it. -/
theorem restore_finds {now : Afterimage} {later : Ram}
    (hslot : findSlot now.key memento = .ok { m := memento, size := self.getMementoSize })
    (hA : kFixedBytes ≤ self.afterimageSize) (hS : kActorFixedBytes ≤ self.actorSize) (payload : ActorPayload)
    (hlen : self.actorSize.toNat = payload.bytes.length)
    (hactor : later.bytes (self.actorPlace memento) payload.bytes.length = payload.bytes)
    (htail : later.bytes (memento + self.getMementoSize - kTailBytes) 16 = self.recordedTail.bytes) :
    (now.restoreFromMemento later memento).actor.actorRestores = [self.actorPlace memento] := by
  have hread := readTail_of_bytes htail
  have haccept : self.recordedTail.reject self.getMementoSize = none := by
    unfold Tail.reject recordedTail
    dsimp only
    have hsum : alignUp16 self.afterimageSize + self.actorSize + kTailBytes = self.getMementoSize := rfl
    rw [if_neg (not_not.2 rfl), if_neg (by decide), if_neg (by decide), if_neg (UInt32.not_lt.2 hA),
      if_neg (not_not.2 hsum), if_neg (UInt32.not_lt.2 hS)]
  rw [restoreFromMemento_actor hslot]
  rw [← hread] at haccept
  have hplace : self.actorPlace memento =
      memento + alignUp16 (readTail later (memento + self.getMementoSize - kTailBytes)).afterimageSize := by
    rw [hread]
    rfl
  have hpart := @restoreActorPart_accepted later { m := memento, size := self.getMementoSize } now haccept _ hplace
  refine hpart.2.2 ?_
  show ¬ CountsRefused later _ (readTail later (memento + self.getMementoSize - kTailBytes)).actorSize
  rw [hread]
  exact counts_accepted payload hlen hactor

/-! ## Where the parts lie -/

/-- Neither the actor's part nor the tail has a byte of the afterimage's fixed part or of
another slot. -/
def Apart (self : Afterimage) (n i : ℕ) (memento : UInt32) : Prop :=
  ∀ q, Ram.Within (self.actorPlace memento) self.actorSize.toNat q ∨
      Ram.Within (memento + self.getMementoSize - kTailBytes) kTailBytes.toNat q →
    ¬ Ram.Within memento kFixedBytes.toNat q ∧ ∀ j < n, j ≠ i →
      ¬ Ram.Within (self.key.mementos + UInt32.ofNat j * self.getMementoSize) self.getMementoSize.toNat q

/-- Nothing wraps when a slot is sized. -/
def LayoutFits (self : Afterimage) : Prop := self.afterimageSize.toNat + 15 < 2 ^ 32 ∧ self.SumFits

theorem apart_of_fits {n i : ℕ} (hkey : self.key.LaidOut n self.getMementoSize) (hn' : n ≤ 64) (hi : i < n)
    (hm : memento = self.key.mementos + UInt32.ofNat i * self.getMementoSize)
    (hA : kFixedBytes ≤ self.afterimageSize) (hfits : self.LayoutFits) : self.Apart n i memento := by
  obtain ⟨hround, hsum⟩ := hfits
  have hsize := hsum.size_toNat
  have hoff := alignUp16_toNat self.afterimageSize
  rw [Nat.mod_eq_of_lt hround] at hoff
  have hA := UInt32.le_iff_toNat_le.1 hA
  have htail : kTailBytes.toNat = 16 := rfl
  unfold SumFits at hsum
  have hbase := memento.toNat_lt
  intro q hq
  have hlt := q.toNat_lt
  have hbounds : (alignUp16 self.afterimageSize).toNat ≤ (q - memento).toNat ∧
      (q - memento).toNat < self.getMementoSize.toNat := by
    rw [tail_place] at hq
    unfold Ram.Within actorPlace at hq
    simp only [UInt32.toNat_sub, UInt32.toNat_add] at hq ⊢
    omega
  refine ⟨?_, fun j hj hne hqj => hne ?_⟩
  · unfold Ram.Within
    omega
  · refine hkey.within_unique hn' hj hi hqj ?_
    rw [← hm]
    exact hbounds.2

/-- Where something wraps, the actor's part has the slot's first byte. -/
theorem fits_of_apart {n i : ℕ} (hA : kFixedBytes ≤ self.afterimageSize) (hS : kActorFixedBytes ≤ self.actorSize)
    (hroom : kFixedBytes + kTailBytes ≤ self.getMementoSize) (h : self.Apart n i memento) : self.LayoutFits := by
  by_contra hfits
  have hoff := alignUp16_toNat self.afterimageSize
  have htail : kTailBytes.toNat = 16 := rfl
  have hactorFixed : kActorFixedBytes.toNat = 576 := rfl
  have hfixed : (kFixedBytes + kTailBytes).toNat = 26912 := rfl
  have hA := UInt32.le_iff_toNat_le.1 hA
  have hS := UInt32.le_iff_toNat_le.1 hS
  have hroom := UInt32.le_iff_toNat_le.1 hroom
  have hAlt := self.afterimageSize.toNat_lt
  have hSlt := self.actorSize.toNat_lt
  have hm := memento.toNat_lt
  have hfirst : Ram.Within (self.actorPlace memento) self.actorSize.toNat memento := by
    unfold Ram.Within actorPlace
    unfold LayoutFits SumFits at hfits
    unfold getMementoSize at hroom
    rw [hfixed, UInt32.toNat_add, UInt32.toNat_add] at hroom
    rw [UInt32.toNat_sub, UInt32.toNat_add]
    omega
  refine (h memento (.inl hfirst)).1 ?_
  unfold Ram.Within
  rw [UInt32.sub_self]
  decide

/-- In a slot that is sized for it, the actor is recorded. -/
theorem record_takes {n i : ℕ} (hn : n ≤ kMaxMementos.toInt) (hi : i < n)
    (hkey : self.key.LaidOut n self.getMementoSize)
    (hm : memento = self.key.mementos + UInt32.ofNat i * self.getMementoSize) (hA : kFixedBytes ≤ self.afterimageSize)
    (hfits : self.LayoutFits) {payload : ActorPayload} (hwrites : self.WritesActor mem memento payload) :
    (self.recordToMemento mem memento).why = none := by
  obtain ⟨hround, hsum⟩ := hfits
  have h64 : kMaxMementos.toInt = 64 := rfl
  have hoff := alignUp16_toNat self.afterimageSize
  rw [Nat.mod_eq_of_lt hround] at hoff
  have hfixed : kFixedBytes.toNat = 26896 := rfl
  have hroom : (kFixedBytes + kTailBytes).toNat = 26912 := rfl
  have htail : kTailBytes.toNat = 16 := rfl
  have hactorFixed : kActorFixedBytes.toNat = 576 := rfl
  have hlen := hwrites.1
  rw [payload.length_eq] at hlen
  have hS : kActorFixedBytes ≤ self.actorSize := by
    rw [UInt32.le_iff_toNat_le]
    omega
  have hsize : kFixedBytes + kTailBytes ≤ self.getMementoSize := by
    have hA := UInt32.le_iff_toNat_le.1 hA
    rw [UInt32.le_iff_toNat_le, hsum.size_toNat]
    omega
  have hslot := hkey.findSlot (by omega) (by omega) hi hsize
  rw [← hm] at hslot
  have hsizes : ¬ (self.afterimageSize < kFixedBytes ∨ self.actorSize < kActorFixedBytes ∨
      alignUp16 self.afterimageSize + self.actorSize + kTailBytes ≠ self.getMementoSize) :=
    not_or.2 ⟨UInt32.not_lt.2 hA, not_or.2 ⟨UInt32.not_lt.2 hS, not_not.2 rfl⟩⟩
  unfold recordToMemento
  simp only [hslot]
  unfold recordActorPart
  rw [if_neg hsizes]
  show (if (self.recordActor (self.actorPlace memento) _).1 then none else _) = none
  rw [hwrites.2]
  rfl

/-- A slot sized by `GetMementoSize` takes the actor in. What a record has put there a later
restore takes from there, whatever the shadow has become, and the parts lie apart as long as
no size wraps. -/
theorem memento_round_trip {n i : ℕ} (hn : n ≤ kMaxMementos.toInt) (hi : i < n)
    (hkey : self.key.LaidOut n self.getMementoSize)
    (hm : memento = self.key.mementos + UInt32.ofNat i * self.getMementoSize)
    {payload : ActorPayload} (hwrites : self.WritesActor mem memento payload) :
    (kFixedBytes ≤ self.afterimageSize → self.LayoutFits → (self.recordToMemento mem memento).why = none) ∧
    ((self.recordToMemento mem memento).why = none →
      (self.SumFits → ∀ (now : Afterimage) (later : Ram), now.key = self.key →
        (∀ q, Ram.Within memento self.getMementoSize.toNat q →
          later q = (self.recordToMemento mem memento).memory q) →
        (now.restoreFromMemento later memento).actor.actorRestores = [self.actorPlace memento] ∧
          later.bytes (self.actorPlace memento) payload.bytes.length = payload.bytes) ∧
      (self.Apart n i memento ↔ self.LayoutFits)) := by
  refine ⟨fun hA hfits => record_takes hn hi hkey hm hA hfits hwrites, fun htaken => ?_⟩
  obtain ⟨hslot, hA, hS, -⟩ := record_taken htaken
  refine ⟨fun hfits now later hsame hlater => ?_, fits_of_apart hA hS (findSlot_ok hslot).2.2, ?_⟩
  · obtain ⟨hactor, htail⟩ := recorded_bytes hfits hwrites htaken hlater
    rw [← hsame] at hslot
    exact ⟨restore_finds hslot hA hS payload hwrites.1 hactor htail, hactor⟩
  · have h64 : kMaxMementos.toInt = 64 := rfl
    exact apart_of_fits hkey (by omega) hi hm hA

/-- An actor with no boxes. -/
def noBoxes : ActorPayload where
  bytes := List.replicate 576 0
  counts := [0, 0, 0, 0, 0]
  lists := rfl
  length_eq := List.length_replicate
  written := by decide

/-- A shadow with the smallest mementos and room for one record. -/
def smallShadow : Afterimage where
  key := { mementos := 0x10000, metadata := 0x10000 + 27488, numMementos := 1, mementoAt := fun _ => 0x10000 }
  afterimageSize := kFixedBytes
  actorSize := kActorFixedBytes
  recordAfterimage _ mem := (1, mem)
  recordActor p mem := (true, mem.store p noBoxes.bytes)
  restoreActor _ _ := true

theorem smallShadow_size : smallShadow.getMementoSize = 27488 := by decide +kernel

theorem smallShadow_laidOut : smallShadow.key.LaidOut 1 smallShadow.getMementoSize := by
  rw [smallShadow_size]
  exact ⟨rfl, by decide, by decide, by decide, fun i hi => by cases Nat.lt_one_iff.1 hi; rfl⟩

theorem smallShadow_writes : smallShadow.WritesActor (fun _ => 0) 0x10000 noBoxes :=
  ⟨List.length_replicate.symm, rfl⟩

theorem memento_round_trip_smallShadow :
    (kFixedBytes ≤ smallShadow.afterimageSize → smallShadow.LayoutFits →
      (smallShadow.recordToMemento (fun _ => 0) 0x10000).why = none) ∧
    ((smallShadow.recordToMemento (fun _ => 0) 0x10000).why = none →
      (smallShadow.SumFits → ∀ (now : Afterimage) (later : Ram), now.key = smallShadow.key →
        (∀ q, Ram.Within 0x10000 smallShadow.getMementoSize.toNat q →
          later q = (smallShadow.recordToMemento (fun _ => 0) 0x10000).memory q) →
        (now.restoreFromMemento later 0x10000).actor.actorRestores = [smallShadow.actorPlace 0x10000] ∧
          later.bytes (smallShadow.actorPlace 0x10000) noBoxes.bytes.length = noBoxes.bytes) ∧
      (smallShadow.Apart 1 0 0x10000 ↔ smallShadow.LayoutFits)) :=
  memento_round_trip (n := 1) (i := 0) (by decide) Nat.one_pos smallShadow_laidOut
    (by rw [smallShadow_size]; rfl) smallShadow_writes

/-- An actor with 97 boxes, all in its first list. -/
def manyBoxes : ActorPayload where
  bytes := wordBytes 0 ++ wordBytes 97 ++ List.replicate 26952 0
  counts := [97, 0, 0, 0, 0]
  lists := rfl
  length_eq := by
    rw [List.length_append, List.length_replicate]
    rfl
  written := by decide

/-- An afterimage whose size is rounded up to 0. -/
def roundedShadow : Afterimage where
  key := oneSlot
  afterimageSize := 0xfffffff1
  actorSize := 26960
  recordAfterimage _ mem := (1, mem)
  recordActor p mem := (true, mem.store p manyBoxes.bytes)
  restoreActor _ _ := true

theorem roundedShadow_size : roundedShadow.getMementoSize = 26976 := by decide +kernel

/-- The actor's memento is recorded over the afterimage's own. -/
theorem recorded_over_fixed : roundedShadow.key.LaidOut 1 roundedShadow.getMementoSize ∧
    roundedShadow.WritesActor (fun _ => 0) 0x10000 manyBoxes ∧
    (roundedShadow.recordToMemento (fun _ => 0) 0x10000).why = none ∧ ¬ roundedShadow.Apart 1 0 0x10000 := by
  have hlen : roundedShadow.actorSize.toNat = manyBoxes.bytes.length := manyBoxes.length_eq.symm
  refine ⟨?_, ⟨hlen, rfl⟩, by decide +kernel, fun h => ?_⟩
  · rw [roundedShadow_size]
    exact ⟨rfl, by decide, by decide, by decide, fun i hi => by cases Nat.lt_one_iff.1 hi; rfl⟩
  · have hfits := fits_of_apart (by decide) (by decide) (by rw [roundedShadow_size]; decide) h
    exact absurd hfits.1 (by decide)

end Afterimage

end Sf4e.Battle
