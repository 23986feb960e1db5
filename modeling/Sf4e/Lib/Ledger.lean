import Mathlib.Algebra.BigOperators.Group.Finset.Piecewise
import Mathlib.Algebra.Order.BigOperators.Group.Finset
import Mathlib.Algebra.Order.Group.Multiset
import Mathlib.Data.Multiset.UnionInter
/-!
# What becomes of resources

Resources are numbered in the order they are handed out. A ledger says how many
there are, which of them are held, one entry for each time, and which have been
freed. It is `Sound` when no resource is held or freed more than once in all;
`Kept` says that between two ledgers nothing was lost.

Holders are read through sums: the holdings of a family are the sum of each
one's, and a sound sum has no resource in two of them.
-/

namespace Sf4e.Lib

/-- How many resources there are, which are held and which have been freed. -/
structure Ledger where
  next : ℕ
  held : Multiset ℕ
  freed : Multiset ℕ

namespace Ledger

/-- No resource is held or freed twice, nor held and freed. -/
def Sound (l : Ledger) : Prop := l.held + l.freed ≤ Multiset.range l.next

/-- From `l` to `l'` no resource is lost: those of `l` and the new ones are held or freed. What
has been freed stays freed. -/
structure Kept (l l' : Ledger) : Prop where
  next : l.next ≤ l'.next
  freed : l.freed ≤ l'.freed
  balance : l'.held + l'.freed + Multiset.range l.next = l.held + l.freed + Multiset.range l'.next

/-! ## What a sound ledger says -/

theorem Sound.nodup {l : Ledger} (h : l.Sound) : (l.held + l.freed).Nodup :=
  Multiset.nodup_of_le h (Multiset.nodup_range _)

theorem Sound.held_nodup {l : Ledger} (h : l.Sound) : l.held.Nodup :=
  Multiset.nodup_of_le (Multiset.le_add_right _ _) h.nodup

theorem Sound.freed_nodup {l : Ledger} (h : l.Sound) : l.freed.Nodup :=
  Multiset.nodup_of_le (Multiset.le_add_left _ _) h.nodup

theorem Sound.not_freed {l : Ledger} (h : l.Sound) {p : ℕ} (hp : p ∈ l.held) : p ∉ l.freed :=
  Multiset.disjoint_left.1 (Multiset.nodup_add.1 h.nodup).2.2 hp

theorem Sound.lt_next {l : Ledger} (h : l.Sound) {p : ℕ} (hp : p ∈ l.held) : p < l.next :=
  Multiset.mem_range.1 (Multiset.mem_of_le h (Multiset.mem_add.2 (.inl hp)))

/-! ## What happens to resources -/

theorem Kept.refl (l : Ledger) : l.Kept l := ⟨le_rfl, le_rfl, rfl⟩

theorem Kept.trans {a b c : Ledger} (hab : a.Kept b) (hbc : b.Kept c) : a.Kept c where
  next := hab.next.trans hbc.next
  freed := hab.freed.trans hbc.freed
  balance := by
    have hsum : c.held + c.freed + Multiset.range a.next + Multiset.range b.next =
        a.held + a.freed + Multiset.range c.next + Multiset.range b.next := by
      calc c.held + c.freed + Multiset.range a.next + Multiset.range b.next
          = c.held + c.freed + Multiset.range b.next + Multiset.range a.next := by ac_rfl
        _ = b.held + b.freed + Multiset.range a.next + Multiset.range c.next := by rw [hbc.balance]; ac_rfl
        _ = a.held + a.freed + Multiset.range c.next + Multiset.range b.next := by rw [hab.balance]; ac_rfl
    exact add_right_cancel hsum

/-- A new resource, held by somebody. -/
theorem kept_alloc (l : Ledger) : l.Kept ⟨l.next + 1, l.held + {l.next}, l.freed⟩ where
  next := Nat.le_succ _
  freed := le_rfl
  balance := by
    rw [Multiset.range_succ, ← Multiset.singleton_add]
    ac_rfl

/-- What somebody held is freed. -/
theorem kept_free (next : ℕ) (held freed gone : Multiset ℕ) : Kept ⟨next, gone + held, freed⟩ ⟨next, held, freed + gone⟩ where
  next := le_rfl
  freed := Multiset.le_add_right _ _
  balance := by
    dsimp only
    ac_rfl

theorem Sound.kept {l l' : Ledger} (h : l.Sound) (hk : l.Kept l') : l'.Sound := by
  have hsum : l'.held + l'.freed + Multiset.range l.next ≤ Multiset.range l'.next + Multiset.range l.next := by
    rw [hk.balance, add_comm (Multiset.range l'.next)]
    exact add_le_add_left h _
  exact le_of_add_le_add_right hsum

/-- Holders may forget what they hold. -/
theorem Sound.forget {l : Ledger} (h : l.Sound) {held : Multiset ℕ} (hle : held ≤ l.held) :
    Sound ⟨l.next, held, l.freed⟩ :=
  (add_le_add_left hle _).trans h

/-- Where nothing is lost, what was held or is new is held or has been freed. -/
theorem Kept.accounted {l l' : Ledger} (hk : l.Kept l') {p : ℕ} (hp : p < l'.next) (hsrc : p ∈ l.held ∨ l.next ≤ p) :
    p ∈ l'.held ∨ p ∈ l'.freed := by
  rw [← Multiset.mem_add, ← Multiset.count_pos]
  have hcount := congrArg (Multiset.count p) hk.balance
  rw [Multiset.count_add, Multiset.count_add _ (l.held + l.freed),
    Multiset.count_eq_one_of_mem (Multiset.nodup_range _) (Multiset.mem_range.2 hp)] at hcount
  rcases hsrc with hheld | hnew
  · have hone : (Multiset.range l.next).count p ≤ 1 := Multiset.nodup_iff_count_le_one.1 (Multiset.nodup_range _) p
    have hpos : 0 < (l.held + l.freed).count p := Multiset.count_pos.2 (Multiset.mem_add.2 (.inl hheld))
    omega
  · have hzero : (Multiset.range l.next).count p = 0 :=
      Multiset.count_eq_zero_of_notMem fun hmem => absurd (Multiset.mem_range.1 hmem) (by omega)
    omega

end Ledger

/-! ## Holdings of a family -/

section

variable {ι : Type} [DecidableEq ι] {s : Finset ι} {f : ι → Multiset ℕ}

/-- Without duplicates, one member of the family at most holds a resource. -/
theorem holder_unique (h : (∑ i ∈ s, f i).Nodup) {p : ℕ} {i j : ι} (hi : i ∈ s) (hj : j ∈ s) (hpi : p ∈ f i)
    (hpj : p ∈ f j) : i = j := by
  by_contra hne
  have hle : f i + f j ≤ ∑ k ∈ s, f k := by
    rw [← Finset.sum_pair hne]
    refine Finset.sum_le_sum_of_subset fun k hk => ?_
    rcases Finset.mem_insert.1 hk with rfl | hk
    · exact hi
    · exact Finset.mem_singleton.1 hk ▸ hj
  exact Multiset.disjoint_left.1 (Multiset.nodup_add.1 (Multiset.nodup_of_le hle h)).2.2 hpi hpj

/-- One member's holdings change. -/
theorem sum_holdings_update {i : ι} (hi : i ∈ s) (b : Multiset ℕ) :
    f i + ∑ k ∈ s, Function.update f i b k = b + ∑ k ∈ s, f k := by
  rw [Finset.sum_update_of_mem hi, ← Finset.sum_sdiff (Finset.singleton_subset_iff.2 hi), Finset.sum_singleton]
  ac_rfl

end

end Sf4e.Lib
