import Mathlib.Data.Set.Function
import Sf4e.Lib.Containers
/-!
# Numbering keys by their first appearance

A map that gives a key a number the first time it is asked for. What comes out
does not depend on what the keys are, only on which of them are the same.
-/

namespace Sf4e.Lib

namespace Assoc

variable {κ κ' ι : Type}

/-- The keys under other names. -/
def rename (f : κ → κ') (m : Assoc κ ι) : Assoc κ' ι := m.map fun e => (f e.1, e.2)

/-- Only these keys have been asked for. -/
def KeysIn (S : Set κ) (m : Assoc κ ι) : Prop := ∀ e ∈ m, e.1 ∈ S

theorem keysIn_nil (S : Set κ) : KeysIn S ([] : Assoc κ ι) := fun _ h => absurd h List.not_mem_nil

variable [DecidableEq κ]

/-- The key's number, and the map that knows it. -/
def intern (number : ℕ → ι) (m : Assoc κ ι) (k : κ) : ι × Assoc κ ι :=
  match find m k with
  | some i => (i, m)
  | none => (number m.length, m ++ [(k, number m.length)])

theorem KeysIn.intern {S : Set κ} {m : Assoc κ ι} (hm : KeysIn S m) {k : κ} (hk : k ∈ S) (number : ℕ → ι) :
    KeysIn S (intern number m k).2 := by
  unfold Assoc.intern
  cases find m k with
  | some i => exact hm
  | none =>
    intro e he
    rcases List.mem_append.1 he with he | he
    · exact hm e he
    · rw [List.mem_singleton.1 he]
      exact hk

variable [DecidableEq κ']

theorem find_rename {f : κ → κ'} {S : Set κ} (hf : Set.InjOn f S) {m : Assoc κ ι} (hm : KeysIn S m) {k : κ}
    (hk : k ∈ S) : find (rename f m) (f k) = find m k := by
  induction m with
  | nil => rfl
  | cons e m ih =>
    have he : e.1 ∈ S := hm e List.mem_cons_self
    have hrest := ih fun e' h => hm e' (List.mem_cons_of_mem e h)
    show find ((f e.1, e.2) :: rename f m) (f k) = _
    rw [find_cons, find_cons, hrest]
    simp only [hf.eq_iff he hk]

/-- Under other names, the numbers are the same. -/
theorem intern_rename {f : κ → κ'} {S : Set κ} (hf : Set.InjOn f S) {m : Assoc κ ι} (hm : KeysIn S m) {k : κ}
    (hk : k ∈ S) (number : ℕ → ι) :
    intern number (rename f m) (f k) = ((intern number m k).1, rename f (intern number m k).2) := by
  unfold intern
  rw [find_rename hf hm hk]
  cases find m k with
  | some i => rfl
  | none => simp only [rename, List.length_map, List.map_append, List.map_cons, List.map_nil]

end Assoc

end Sf4e.Lib
