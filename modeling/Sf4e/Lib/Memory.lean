import Mathlib.Algebra.Group.Nat.Defs
import Mathlib.Data.List.GetD
/-!
# A 32-bit address space

Bytes under 32-bit addresses. Adding to an address wraps, as it does to a pointer
of a 32-bit process.
-/

namespace Sf4e.Lib

abbrev Ram := UInt32 → UInt8

namespace Ram

/-- `q` is one of the `n` bytes from `p` on. -/
def Within (p : UInt32) (n : ℕ) (q : UInt32) : Prop := (q - p).toNat < n

/-- The `n` bytes from `p` on. -/
def bytes (m : Ram) (p : UInt32) (n : ℕ) : List UInt8 := (List.range n).map fun i => m (p + UInt32.ofNat i)

/-- `memcpy` to `p`. -/
def store (m : Ram) (p : UInt32) (bs : List UInt8) : Ram := fun q => bs.getD (q - p).toNat (m q)

variable {m m' : Ram} {p q : UInt32} {bs : List UInt8} {n i : ℕ}

theorem offset_toNat (p : UInt32) (hi : i < 2 ^ 32) : (p + UInt32.ofNat i - p).toNat = i := by
  rw [UInt32.add_comm, UInt32.add_sub_cancel, UInt32.toNat_ofNat']
  exact Nat.mod_eq_of_lt hi

theorem store_offset (m : Ram) (p : UInt32) (hi : i < bs.length) (hlen : bs.length ≤ 2 ^ 32) :
    m.store p bs (p + UInt32.ofNat i) = bs[i] := by
  unfold store
  rw [offset_toNat p (by omega), List.getD_eq_getElem bs _ hi]

theorem store_of_not_within (m : Ram) (h : ¬ Within p bs.length q) : m.store p bs q = m q :=
  List.getD_eq_default bs _ (Nat.le_of_not_lt h)

@[simp] theorem bytes_length (m : Ram) (p : UInt32) (n : ℕ) : (m.bytes p n).length = n := by
  simp only [bytes, List.length_map, List.length_range]

theorem bytes_congr (h : ∀ i < n, m' (p + UInt32.ofNat i) = m (p + UInt32.ofNat i)) : m'.bytes p n = m.bytes p n :=
  List.map_congr_left fun i hi => h i (List.mem_range.1 hi)

/-- What has been stored is there. -/
theorem bytes_store (m : Ram) (p : UInt32) (hlen : bs.length ≤ 2 ^ 32) : (m.store p bs).bytes p bs.length = bs := by
  refine List.ext_getElem (bytes_length _ _ _) fun i hi hi' => ?_
  simp only [bytes, List.getElem_map, List.getElem_range]
  exact store_offset m p hi' hlen

/-- What lies elsewhere is as it was. -/
theorem bytes_store_of_apart (m : Ram) (h : ∀ i < n, ¬ Within q bs.length (p + UInt32.ofNat i)) :
    (m.store q bs).bytes p n = m.bytes p n :=
  bytes_congr fun i hi => store_of_not_within m (h i hi)

theorem apply_of_bytes (h : m.bytes p bs.length = bs) (hi : i < bs.length) : m (p + UInt32.ofNat i) = bs[i] := by
  have hget : (m.bytes p bs.length)[i]? = bs[i]? := by rw [h]
  rw [List.getElem?_eq_getElem hi, List.getElem?_eq_getElem (by rw [bytes_length]; exact hi)] at hget
  have hval := Option.some.inj hget
  simpa only [bytes, List.getElem_map, List.getElem_range] using hval

end Ram

end Sf4e.Lib
