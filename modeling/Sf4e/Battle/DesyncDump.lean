import Sf4e.Lib.Json
import Sf4e.Lib.Packing
/-!
# The dump of a desync

When the two passes of a frame differ, the sync test writes both into files: the buffers of the
keys one behind the other, after them the global data, and an index that says of each entry
where it lies and whether the two passes agree on it. How the index is printed is left out.
-/
open Sf4e.Lib

namespace Sf4e.Battle

/-- `SaveState::KeyChecksum`. -/
structure KeyChecksum where
  key : ℕ
  mementoable : ℕ
  size : ℕ
  checksum : UInt32
  checksumRaw : UInt32
  deriving DecidableEq

/-- `SyncTest::FrameRecord`, with the snapshot as its bytes. -/
structure FrameRecord (σ : Type) where
  checksum : UInt32
  checksumRaw : UInt32
  globalChecksum : UInt32
  snapshot : σ
  keys : List KeyChecksum
  blob : Bytes
  ranges : List (ℕ × ℕ)
  deriving DecidableEq

variable {σ : Type}

namespace FrameRecord

/-- `CaptureBlob`, of the buffers and the bytes of the global data. -/
def captureBlob (rec : FrameRecord σ) (buffers : List Bytes) (globals : Bytes) : FrameRecord σ :=
  let (blob, ranges) := pack buffers
  { rec with blob := blob ++ globals, ranges := ranges ++ [(blob.length, globals.length)] }

end FrameRecord

/-! ## The index -/

/-- What a line of the index says of the two passes. -/
inductive IndexVerdict where
  | lengths (original replay : ℕ)
  | truncated
  | same
  | firstDiffAt (d : ℕ)
  deriving DecidableEq

structure IndexLine where
  isGlobal : Bool
  index : ℕ
  key : Option (KeyChecksum × Option KeyChecksum)
  offset : ℕ
  len : ℕ
  verdict : IndexVerdict
  deriving DecidableEq

def indexVerdict (original replay : FrameRecord σ) (o r : ℕ × ℕ) : IndexVerdict :=
  if o.2 ≠ r.2 then .lengths o.2 r.2
  else if o.1 + o.2 > original.blob.length ∨ r.1 + r.2 > replay.blob.length then .truncated
  else
    let d := firstDifference (cut original.blob o) (cut replay.blob r)
    if d = o.2 then .same else .firstDiffAt d

def indexLine (original replay : FrameRecord σ) (i : ℕ) (o r : ℕ × ℕ) : IndexLine :=
  let isGlobal := i == original.ranges.length - 1
  { isGlobal
    index := i
    key := if isGlobal then none else original.keys[i]?.map fun k => (k, replay.keys[i]?)
    offset := o.1
    len := o.2
    verdict := indexVerdict original replay o r }

/-- The index of `WriteDesyncDump`: a line for each range that both passes have. -/
def dumpIndex (original replay : FrameRecord σ) : List IndexLine :=
  (original.ranges.zip replay.ranges).zipIdx.map fun e => indexLine original replay e.2 e.1.1 e.1.2

/-! ## What the index tells -/

theorem captureBlob_eq (rec : FrameRecord σ) (buffers : List Bytes) (globals : Bytes) :
    rec.captureBlob buffers globals =
      { rec with blob := (pack (buffers ++ [globals])).1, ranges := (pack (buffers ++ [globals])).2 } := by
  rw [pack_concat]
  rfl

/-- The line's verdict holds of the two entries. -/
def IndexVerdict.Tells : IndexVerdict → Bytes → Bytes → Prop
  | lengths o r, a, b => a.length = o ∧ b.length = r ∧ o ≠ r
  | truncated, _, _ => False
  | same, a, b => a = b
  | firstDiffAt d, a, b => a.length = b.length ∧ d < a.length ∧ a.take d = b.take d ∧ a[d]? ≠ b[d]?

theorem indexVerdict_tells {original replay : FrameRecord σ} {o r : ℕ × ℕ} {a b : Bytes}
    (ho : o.1 + o.2 ≤ original.blob.length) (hr : r.1 + r.2 ≤ replay.blob.length) (hol : o.2 = a.length)
    (hrl : r.2 = b.length) (ha : cut original.blob o = a) (hb : cut replay.blob r = b) :
    (indexVerdict original replay o r).Tells a b := by
  rw [indexVerdict, ha, hb]
  split
  · rename_i hne
    exact ⟨hol.symm, hrl.symm, hne⟩
  · rename_i heq
    have hlen : a.length = b.length := by omega
    rw [if_neg (by omega)]
    dsimp only
    split
    · rename_i hd
      exact (firstDifference_eq hlen).1 (hd.trans hol)
    · rename_i hd
      have hne : a ≠ b := fun hab => hd (((firstDifference_eq hlen).2 hab).trans hol.symm)
      exact ⟨hlen, firstDifference_lt hlen hne⟩

/-- Every line is about one entry of each pass: it says where that of the original lies in its
file, and what it says of the two is so. There is a line for each entry both passes have, and the
one called global is about the global data of the original. -/
theorem dumpIndex_tells (original replay : FrameRecord σ) (buffers buffers' : List Bytes) (globals globals' : Bytes) :
    let original := original.captureBlob buffers globals
    let replay := replay.captureBlob buffers' globals'
    (dumpIndex original replay).map IndexLine.index = List.range (min buffers.length buffers'.length + 1) ∧
      ∀ line ∈ dumpIndex original replay, ∃ a b, (buffers ++ [globals])[line.index]? = some a ∧
        (buffers' ++ [globals'])[line.index]? = some b ∧ cut original.blob (line.offset, line.len) = a ∧
        line.verdict.Tells a b ∧ (line.isGlobal = true ↔ line.index = buffers.length) := by
  intro original replay
  have hor : original.ranges = (pack (buffers ++ [globals])).2 := by rw [show original = _ from captureBlob_eq ..]
  have hob : original.blob = (pack (buffers ++ [globals])).1 := by rw [show original = _ from captureBlob_eq ..]
  have hrr : replay.ranges = (pack (buffers' ++ [globals'])).2 := by rw [show replay = _ from captureBlob_eq ..]
  have hrb : replay.blob = (pack (buffers' ++ [globals'])).1 := by rw [show replay = _ from captureBlob_eq ..]
  have hol : original.ranges.length = buffers.length + 1 := by rw [hor, length_pack, List.length_append]; rfl
  have hrl : replay.ranges.length = buffers'.length + 1 := by rw [hrr, length_pack, List.length_append]; rfl
  constructor
  · have hmap : (dumpIndex original replay).map IndexLine.index =
        ((original.ranges.zip replay.ranges).zipIdx).map Prod.snd := by
      rw [dumpIndex, List.map_map]
      rfl
    rw [hmap, List.zipIdx_map_snd, List.length_zip, hol, hrl, List.range_eq_range', Nat.add_min_add_right]
  · intro line hline
    obtain ⟨⟨⟨o, r⟩, i⟩, hmem, rfl⟩ := List.mem_map.1 hline
    have hzip := List.mem_zipIdx_iff_getElem?.1 hmem
    obtain ⟨ho, hr⟩ := List.getElem?_zip_eq_some.1 hzip
    have hi := (List.getElem?_eq_some_iff.1 ho).1
    have hi' := (List.getElem?_eq_some_iff.1 hr).1
    have ha := List.getElem?_eq_getElem (l := buffers ++ [globals]) (i := i) (by simp; omega)
    have hb := List.getElem?_eq_getElem (l := buffers' ++ [globals']) (i := i) (by simp; omega)
    obtain ⟨o', ho', hoa, hole, hoc⟩ := cut_pack ha
    obtain ⟨r', hr', hrb', hrle, hrc⟩ := cut_pack hb
    obtain rfl : o = o' := Option.some.inj (ho.symm.trans (by rw [hor, ho']))
    obtain rfl : r = r' := Option.some.inj (hr.symm.trans (by rw [hrr, hr']))
    refine ⟨_, _, ha, hb, ?_, ?_, ?_⟩
    · rw [hob]
      exact hoc
    · exact indexVerdict_tells (by rw [hob]; exact hole) (by rw [hrb]; exact hrle) hoa hrb'
        (by rw [hob]; exact hoc) (by rw [hrb]; exact hrc)
    · rw [indexLine, hol, Nat.add_sub_cancel]
      exact beq_iff_eq

end Sf4e.Battle
