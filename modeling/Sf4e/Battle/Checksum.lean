import Mathlib.Algebra.Group.Nat.Defs
import Mathlib.Logic.Equiv.Basic
import Sf4e.Lib.Interning
import Sf4e.Session.Protocol
/-!
# Checksums of save states

Mementos hold raw heap addresses. The normalizer puts an ordinal in the place of
each, so that two save states hash alike wherever the allocator has put their
objects.
-/
open Sf4e.Lib Sf4e.Session

namespace Sf4e.Battle

/-! ## Words -/

/-- The bytes of a word in memory, lowest first. -/
def wordBytes (k : UInt32) : List UInt8 :=
  [UInt8.ofNat k.toNat, UInt8.ofNat (k.toNat / 2 ^ 8), UInt8.ofNat (k.toNat / 2 ^ 16), UInt8.ofNat (k.toNat / 2 ^ 24)]

/-- `memcpy(&k, p, 4)`. -/
def word (b0 b1 b2 b3 : UInt8) : UInt32 :=
  UInt32.ofNat (b0.toNat + 2 ^ 8 * b1.toNat + 2 ^ 16 * b2.toNat + 2 ^ 24 * b3.toNat)

/-- The aligned words of a buffer. What is left over at its end is none. -/
def words : List UInt8 → List UInt32
  | b0 :: b1 :: b2 :: b3 :: rest => word b0 b1 b2 b3 :: words rest
  | _ => []

theorem word_wordBytes (k : UInt32) :
    word (UInt8.ofNat k.toNat) (UInt8.ofNat (k.toNat / 2 ^ 8)) (UInt8.ofNat (k.toNat / 2 ^ 16))
      (UInt8.ofNat (k.toNat / 2 ^ 24)) = k := by
  have hlt := k.toNat_lt
  unfold word
  rw [← UInt32.toNat_inj]
  simp only [UInt8.toNat_ofNat', UInt32.toNat_ofNat']
  omega

/-! ## The hash -/

namespace Hash

def c1 : UInt32 := 0xcc9e2d51
def c2 : UInt32 := 0x1b873593

/-- What both loops do to a word before it goes into the hash. -/
def scramble (k : UInt32) : UInt32 :=
  let k := k * c1
  let k := (k <<< 15) ||| (k >>> 17)
  k * c2

/-- How both loops take a word in. -/
@[irreducible] def mixWord (h k : UInt32) : UInt32 :=
  let h := h ^^^ scramble k
  let h := (h <<< 13) ||| (h >>> 19)
  h * 5 + 0xe6546b64

/-- The up to three bytes after the last word. -/
def mixTail (h : UInt32) : List UInt8 → UInt32
  | [] => h
  | [t0] => h ^^^ scramble t0.toUInt32
  | [t0, t1] => h ^^^ scramble ((t1.toUInt32 <<< 8) ^^^ t0.toUInt32)
  | t0 :: t1 :: t2 :: _ => h ^^^ scramble ((t2.toUInt32 <<< 16) ^^^ (t1.toUInt32 <<< 8) ^^^ t0.toUInt32)

def finish (h len : UInt32) : UInt32 :=
  let h := h ^^^ len
  let h := h ^^^ (h >>> 16)
  let h := h * 0x85ebca6b
  let h := h ^^^ (h >>> 13)
  let h := h * 0xc2b2ae35
  h ^^^ (h >>> 16)

/-- The loop of `Bytes`, and what it leaves for the tail. -/
def bytesLoop (h : UInt32) : List UInt8 → UInt32 × List UInt8
  | b0 :: b1 :: b2 :: b3 :: rest => bytesLoop (mixWord h (word b0 b1 b2 b3)) rest
  | tail => (h, tail)

def Bytes (data : List UInt8) (seed : UInt32) : UInt32 :=
  let (h, tail) := bytesLoop seed data
  finish (mixTail h tail) (UInt32.ofNat data.length)

def Mix (h v : UInt32) : UInt32 := Bytes (wordBytes v) h

end Hash

/-! ## The normalizer -/

def MIN_USER_ADDRESS : UInt32 := 0x00010000
def MAX_USER_ADDRESS : UInt32 := 0x7ffeffff
def POINTER_TAG : UInt32 := 0xb01dfa00

inductive BlockKind where
  | heap
  | other
  deriving DecidableEq

/-- `IsHeapPointer`, once every block has been classified. -/
def IsHeapPointer (blockKinds : UInt16 → BlockKind) (v : UInt32) : Bool :=
  if v < MIN_USER_ADDRESS || v > MAX_USER_ADDRESS then false else blockKinds (v >>> 16).toUInt16 = .heap

structure PointerNormalizer where
  ordinals : Assoc UInt32 UInt32
  deriving DecidableEq

namespace PointerNormalizer

def Reset (_ : PointerNormalizer) : PointerNormalizer := ⟨[]⟩

variable (isHeap : UInt32 → Bool)

/-- What goes into the hash in the place of a word. -/
def normalize (n : PointerNormalizer) (k : UInt32) : UInt32 × PointerNormalizer :=
  if isHeap k then
    let (ordinal, ordinals) := n.ordinals.intern UInt32.ofNat k
    (POINTER_TAG ^^^ ordinal, ⟨ordinals⟩)
  else (k, n)

/-- The loop of `Hash`. -/
def hashLoop (n : PointerNormalizer) (h : UInt32) : List UInt8 → PointerNormalizer × UInt32 × List UInt8
  | b0 :: b1 :: b2 :: b3 :: rest =>
    let (k, n) := n.normalize isHeap (word b0 b1 b2 b3)
    hashLoop n (Hash.mixWord h k) rest
  | tail => (n, h, tail)

def Hash (n : PointerNormalizer) (data : List UInt8) (seed : UInt32) : UInt32 × PointerNormalizer :=
  let (n, h, tail) := n.hashLoop isHeap seed data
  (Hash.finish (Hash.mixTail h tail) (UInt32.ofNat data.length), n)

/-- Several buffers, one after the other, each with its seed. -/
def hashes (n : PointerNormalizer) : List (List UInt8 × UInt32) → List UInt32
  | [] => []
  | (data, seed) :: rest =>
    let (h, n) := n.Hash isHeap data seed
    h :: n.hashes rest

end PointerNormalizer

/-! ## Save states -/

/-- What `HashGlobalData` hashes. The callbacks are addresses in the executable. -/
structure GlobalData where
  CurrentBattleFlow : UInt32
  PreviousBattleFlow : UInt32
  CurrentBattleFlowSubstate : UInt32
  PreviousBattleFlowSubstate : UInt32
  CurrentBattleFlowFrame : FixedPoint
  CurrentBattleFlowSubstateFrame : FixedPoint
  PreviousBattleFlowFrame : FixedPoint
  PreviousBattleFlowSubstateFrame : FixedPoint
  BattleFlowSubstateCallable_aa9258 : UInt32
  BattleFlowCallback_CallEveryFrame_aa9254 : UInt32
  gameManager : List UInt8

def fixedPointBytes (x : FixedPoint) : List UInt8 :=
  [UInt8.ofNat x.fractional.toNat, UInt8.ofNat (x.fractional.toNat / 2 ^ 8), UInt8.ofNat x.integral.toUInt16.toNat,
    UInt8.ofNat (x.integral.toUInt16.toNat / 2 ^ 8)]

section

variable (isHeap : UInt32 → Bool)

def HashGlobalData (d : GlobalData) (normalizer : PointerNormalizer) : UInt32 × PointerNormalizer :=
  let h := 0x474c4f42
  let h := Hash.Mix h d.CurrentBattleFlow
  let h := Hash.Mix h d.PreviousBattleFlow
  let h := Hash.Mix h d.CurrentBattleFlowSubstate
  let h := Hash.Mix h d.PreviousBattleFlowSubstate
  let h := Hash.Bytes (fixedPointBytes d.CurrentBattleFlowFrame) h
  let h := Hash.Bytes (fixedPointBytes d.CurrentBattleFlowSubstateFrame) h
  let h := Hash.Bytes (fixedPointBytes d.PreviousBattleFlowFrame) h
  let h := Hash.Bytes (fixedPointBytes d.PreviousBattleFlowSubstateFrame) h
  let h := Hash.Mix h d.BattleFlowSubstateCallable_aa9258
  let h := Hash.Mix h d.BattleFlowCallback_CallEveryFrame_aa9254
  normalizer.Hash isHeap d.gameManager h

/-- `ChecksumNormalized`, of a key's memento data. -/
def ChecksumNormalized (data : List UInt8) (normalizer : PointerNormalizer) : UInt32 × PointerNormalizer :=
  if data.length = 0 then (0, normalizer) else normalizer.Hash isHeap data 0x5f4e0001

/-- The loop of `ComputeChecksum`: the keys' checksums and their total. Each key starts its own
ordinals. -/
def keyChecksums (normalizer : PointerNormalizer) (total : UInt32) :
    List (List UInt8) → List UInt32 × UInt32 × PointerNormalizer
  | [] => ([], total, normalizer)
  | data :: keys =>
    let (checksum, normalizer) := ChecksumNormalized isHeap data normalizer.Reset
    let (checksums, total, normalizer) := keyChecksums normalizer (Hash.Mix total checksum) keys
    (checksum :: checksums, total, normalizer)

/-- The checksums that are compared across save states and machines. -/
structure Checksums where
  keyChecksums : List UInt32
  globalChecksum : UInt32
  checksum : UInt32
  deriving DecidableEq

/-- `ComputeChecksum`, of the keys' memento data and the global data. -/
def ComputeChecksum (normalizer : PointerNormalizer) (keys : List (List UInt8)) (d : GlobalData) : Checksums :=
  let (checksums, total, normalizer) := keyChecksums isHeap normalizer.Reset 0x53463445 keys
  let (globalChecksum, _) := HashGlobalData isHeap d normalizer.Reset
  ⟨checksums, globalChecksum, Hash.Mix total globalChecksum⟩

end

/-! ## Buffers without pointers -/

namespace PointerNormalizer

variable {isHeap : UInt32 → Bool}

theorem normalize_plain (n : PointerNormalizer) {k : UInt32} (hplain : isHeap k = false) :
    n.normalize isHeap k = (k, n) := by
  simp only [normalize, hplain, Bool.false_eq_true, if_false]

/-- The two loops agree on a buffer without pointers. -/
theorem hashLoop_plain (n : PointerNormalizer) (h : UInt32) {data : List UInt8}
    (hplain : ∀ k ∈ words data, isHeap k = false) : n.hashLoop isHeap h data = (n, Hash.bytesLoop h data) := by
  induction data using words.induct generalizing h with
  | case1 b0 b1 b2 b3 rest ih =>
    rw [words, List.forall_mem_cons] at hplain
    rw [hashLoop, Hash.bytesLoop, normalize_plain n hplain.1]
    exact ih (Hash.mixWord h (word b0 b1 b2 b3)) hplain.2
  | case2 tail htail =>
    rw [hashLoop, Hash.bytesLoop]
    · exact htail
    · exact htail

theorem hash_plain (n : PointerNormalizer) {data : List UInt8} (hplain : ∀ k ∈ words data, isHeap k = false)
    (seed : UInt32) : n.Hash isHeap data seed = (Hash.Bytes data seed, n) := by
  unfold PointerNormalizer.Hash Hash.Bytes
  rw [hashLoop_plain n seed hplain]

/-- Only heap addresses have ordinals. -/
def HeapOnly (isHeap : UInt32 → Bool) (n : PointerNormalizer) : Prop := n.ordinals.KeysIn {v | isHeap v = true}

theorem HeapOnly.normalize {n : PointerNormalizer} (hn : n.HeapOnly isHeap) (k : UInt32) :
    (n.normalize isHeap k).2.HeapOnly isHeap := by
  unfold PointerNormalizer.normalize
  split
  · rename_i hk
    exact Assoc.KeysIn.intern hn hk UInt32.ofNat
  · exact hn

end PointerNormalizer

/-! ## Objects in other places -/

/-- Where the objects of one process are in another: heap addresses for heap addresses. -/
structure Relocation (isHeap : UInt32 → Bool) where
  move : UInt32 → UInt32
  heap : ∀ v, isHeap v = true → isHeap (move v) = true
  injective : Set.InjOn move {v | isHeap v = true}

namespace Relocation

variable {isHeap : UInt32 → Bool} (ρ : Relocation isHeap)

/-- The buffer with every heap address moved. -/
def buffer : List UInt8 → List UInt8
  | b0 :: b1 :: b2 :: b3 :: rest =>
    (if isHeap (word b0 b1 b2 b3) then wordBytes (ρ.move (word b0 b1 b2 b3)) else [b0, b1, b2, b3]) ++ buffer rest
  | tail => tail

theorem length_buffer (data : List UInt8) : (ρ.buffer data).length = data.length := by
  induction data using words.induct with
  | case1 b0 b1 b2 b3 rest ih =>
    rw [buffer, List.length_append, ih]
    split <;> simp +arith [wordBytes]
  | case2 tail htail =>
    rw [buffer]
    exact htail

theorem buffer_word (b0 b1 b2 b3 : UInt8) (rest : List UInt8) :
    ∃ c0 c1 c2 c3, ρ.buffer (b0 :: b1 :: b2 :: b3 :: rest) = c0 :: c1 :: c2 :: c3 :: ρ.buffer rest ∧
      word c0 c1 c2 c3 =
        if isHeap (word b0 b1 b2 b3) then ρ.move (word b0 b1 b2 b3) else word b0 b1 b2 b3 := by
  rw [buffer]
  split
  · exact ⟨_, _, _, _, rfl, word_wordBytes _⟩
  · exact ⟨b0, b1, b2, b3, rfl, rfl⟩

theorem buffer_tail {tail : List UInt8}
    (htail : ∀ (b0 b1 b2 b3 : UInt8) (rest : List UInt8), tail = b0 :: b1 :: b2 :: b3 :: rest → False) :
    ρ.buffer tail = tail := by
  rw [buffer]
  exact htail

/-- The normalizer after the same words in the other process. -/
def normalizer (n : PointerNormalizer) : PointerNormalizer := ⟨n.ordinals.rename ρ.move⟩

section

variable {n : PointerNormalizer}

/-- The same ordinals come out, and the same addresses have them. -/
theorem normalize_move (hn : n.HeapOnly isHeap) (k : UInt32) :
    (ρ.normalizer n).normalize isHeap (if isHeap k then ρ.move k else k) =
      ((n.normalize isHeap k).1, ρ.normalizer (n.normalize isHeap k).2) := by
  by_cases hk : isHeap k = true
  · have hmoved := ρ.heap k hk
    have hintern := Assoc.intern_rename ρ.injective hn hk UInt32.ofNat
    simp only [PointerNormalizer.normalize, hk, if_true, hmoved, normalizer, hintern]
  · simp only [PointerNormalizer.normalize, hk, Bool.false_eq_true, if_false, normalizer]

/-- The loop runs alike in both processes. -/
theorem hashLoop_buffer (hn : n.HeapOnly isHeap) (h : UInt32) (data : List UInt8) :
    (ρ.normalizer n).hashLoop isHeap h (ρ.buffer data) =
        (ρ.normalizer (n.hashLoop isHeap h data).1, (n.hashLoop isHeap h data).2) ∧
      (n.hashLoop isHeap h data).1.HeapOnly isHeap := by
  induction data using words.induct generalizing n h with
  | case1 b0 b1 b2 b3 rest ih =>
    obtain ⟨c0, c1, c2, c3, hbuffer, hword⟩ := ρ.buffer_word b0 b1 b2 b3 rest
    -- both sides mix in the same number, and their ordinals correspond again
    rw [hbuffer, PointerNormalizer.hashLoop, PointerNormalizer.hashLoop, hword, ρ.normalize_move hn]
    exact ih (hn.normalize (word b0 b1 b2 b3)) _
  | case2 tail htail =>
    rw [ρ.buffer_tail htail, PointerNormalizer.hashLoop, PointerNormalizer.hashLoop]
    · exact ⟨rfl, hn⟩
    · exact htail
    · exact htail

theorem hash_buffer (hn : n.HeapOnly isHeap) (data : List UInt8) (seed : UInt32) :
    (ρ.normalizer n).Hash isHeap (ρ.buffer data) seed =
        ((n.Hash isHeap data seed).1, ρ.normalizer (n.Hash isHeap data seed).2) ∧
      (n.Hash isHeap data seed).2.HeapOnly isHeap := by
  obtain ⟨hloop, hkeys⟩ := ρ.hashLoop_buffer hn seed data
  refine ⟨?_, hkeys⟩
  simp only [PointerNormalizer.Hash, hloop, ρ.length_buffer]

/-- Buffer after buffer, with what the buffers before it have left. -/
theorem hashes_buffer (hn : n.HeapOnly isHeap) (buffers : List (List UInt8 × UInt32)) :
    (ρ.normalizer n).hashes isHeap (buffers.map fun b => (ρ.buffer b.1, b.2)) = n.hashes isHeap buffers := by
  induction buffers generalizing n with
  | nil => rfl
  | cons b buffers ih =>
    obtain ⟨data, seed⟩ := b
    obtain ⟨hhash, hkeys⟩ := ρ.hash_buffer hn data seed
    rw [List.map_cons, PointerNormalizer.hashes, PointerNormalizer.hashes, hhash]
    dsimp only
    rw [ih hkeys]

end

/-- A normalizer that has just been reset knows no addresses. -/
theorem hash_reset (n m : PointerNormalizer) (data : List UInt8) (seed : UInt32) :
    (n.Reset.Hash isHeap (ρ.buffer data) seed).1 = (m.Reset.Hash isHeap data seed).1 := by
  have hhash : n.Reset.Hash isHeap (ρ.buffer data) seed = _ :=
    (ρ.hash_buffer (n := m.Reset) (Assoc.keysIn_nil _) data seed).1
  rw [hhash]

theorem checksumNormalized_buffer (n m : PointerNormalizer) (data : List UInt8) :
    (ChecksumNormalized isHeap (ρ.buffer data) n.Reset).1 = (ChecksumNormalized isHeap data m.Reset).1 := by
  unfold ChecksumNormalized
  rw [ρ.length_buffer]
  split
  · rfl
  · exact ρ.hash_reset n m data 0x5f4e0001

theorem keyChecksums_buffer (keys : List (List UInt8)) (total : UInt32) (n m : PointerNormalizer) :
    (keyChecksums isHeap n total (keys.map ρ.buffer)).1 = (keyChecksums isHeap m total keys).1 ∧
      (keyChecksums isHeap n total (keys.map ρ.buffer)).2.1 = (keyChecksums isHeap m total keys).2.1 := by
  -- each key resets the normalizer, so the two need not correspond from key to key
  induction keys generalizing total n m with
  | nil => exact ⟨rfl, rfl⟩
  | cons data keys ih =>
    have hkey := ρ.checksumNormalized_buffer n m data
    obtain ⟨hchecksums, htotal⟩ := ih (Hash.Mix total (ChecksumNormalized isHeap data m.Reset).1)
      (ChecksumNormalized isHeap (ρ.buffer data) n.Reset).2 (ChecksumNormalized isHeap data m.Reset).2
    rw [List.map_cons, keyChecksums, keyChecksums]
    dsimp only
    rw [hkey]
    exact ⟨congrArg _ hchecksums, htotal⟩

/-- The checksums of a save state do not say where its objects are. -/
theorem checksum_buffer (keys : List (List UInt8)) (d : GlobalData) (n : PointerNormalizer) :
    ComputeChecksum isHeap n (keys.map ρ.buffer) { d with gameManager := ρ.buffer d.gameManager } =
      ComputeChecksum isHeap n keys d := by
  obtain ⟨hchecksums, htotal⟩ := ρ.keyChecksums_buffer keys 0x53463445 n.Reset n.Reset
  have hglobal : ∀ m m' : PointerNormalizer,
      (HashGlobalData isHeap { d with gameManager := ρ.buffer d.gameManager } m.Reset).1 =
        (HashGlobalData isHeap d m'.Reset).1 := fun m m' => ρ.hash_reset m m' d.gameManager _
  unfold ComputeChecksum
  dsimp only
  rw [hchecksums, htotal, hglobal _ (keyChecksums isHeap n.Reset 0x53463445 keys).2.2]

end Relocation

/-- Whatever the addresses are, the hashes of a series of buffers are the same; and a buffer
without addresses is hashed as it is. -/
theorem hashes_relocated (isHeap : UInt32 → Bool) (n : PointerNormalizer) :
    (∀ (ρ : Relocation isHeap) (buffers : List (List UInt8 × UInt32)),
      n.Reset.hashes isHeap (buffers.map fun b => (ρ.buffer b.1, b.2)) = n.Reset.hashes isHeap buffers) ∧
      ∀ (data : List UInt8) (seed : UInt32), (∀ k ∈ words data, isHeap k = false) →
        (n.Hash isHeap data seed).1 = Hash.Bytes data seed :=
  ⟨fun ρ buffers => ρ.hashes_buffer (n := n.Reset) (Assoc.keysIn_nil _) buffers,
    fun _ seed hplain => congrArg Prod.fst (n.hash_plain hplain seed)⟩

namespace Sample

/-- Every block is heap. -/
def allHeap : UInt32 → Bool := IsHeapPointer fun _ => .heap

/-- Two objects have changed places. -/
def changedPlaces : Relocation allHeap where
  move := Equiv.swap 0x00020000 0x00030000
  heap v hv := by
    rw [Equiv.swap_apply_def]
    split
    · decide
    · split
      · decide
      · exact hv
  injective := (Equiv.swap _ _).injective.injOn

/-- The first object's address, the second's, the first's again, and three more bytes. -/
def buffer : List UInt8 := wordBytes 0x00020000 ++ wordBytes 0x00030000 ++ wordBytes 0x00020000 ++ [1, 2, 3]

end Sample

theorem hashes_relocated_sample :
    PointerNormalizer.hashes Sample.allHeap ⟨[]⟩ [(Sample.changedPlaces.buffer Sample.buffer, 7)] =
        PointerNormalizer.hashes Sample.allHeap ⟨[]⟩ [(Sample.buffer, 7)] ∧
      (PointerNormalizer.Hash Sample.allHeap ⟨[]⟩ [1, 0, 0, 0, 5] 7).1 = Hash.Bytes [1, 0, 0, 0, 5] 7 :=
  ⟨(hashes_relocated Sample.allHeap ⟨[]⟩).1 Sample.changedPlaces [(Sample.buffer, 7)],
    (hashes_relocated Sample.allHeap ⟨[]⟩).2 [1, 0, 0, 0, 5] 7 (List.forall_mem_singleton.2 (by decide +kernel))⟩

end Sf4e.Battle
