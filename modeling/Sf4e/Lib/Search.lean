import Mathlib.Data.List.Infix
import Mathlib.Data.List.TakeWhile
/-!
# Searching a text for a key

A search that ignores case looks for a key in the text under a map of its letters.
A key without line breaks is found in one line, so the search over a text of lines is
the search line by line.
-/

namespace Sf4e.Lib

variable {α : Type}

/-- What is skipped first does not end the line. -/
theorem takeWhile_dropWhile {p q : α → Bool} (h : ∀ a, p a = true → q a = true) (s : List α) :
    (s.dropWhile p).takeWhile q = (s.takeWhile q).dropWhile p := by
  induction s with
  | nil => rfl
  | cons a s ih =>
    by_cases skipped : p a = true
    · rw [List.dropWhile_cons_of_pos skipped, List.takeWhile_cons_of_pos (h a skipped),
        List.dropWhile_cons_of_pos skipped, ih]
    · rw [List.dropWhile_cons_of_neg skipped]
      by_cases kept : q a = true
      · rw [List.takeWhile_cons_of_pos kept, List.dropWhile_cons_of_neg skipped]
      · rw [List.takeWhile_cons_of_neg kept]
        rfl

section Key

variable {key s t : List α} {b : α}

/-- A key begins a text up to an element that it has not got, or not at all. -/
theorem prefix_append_cons (hb : b ∉ key) : key <+: s ++ b :: t ↔ key <+: s := by
  constructor
  · rintro ⟨r, h⟩
    obtain ⟨u, rfl, -⟩ | ⟨u, rfl, hr⟩ := List.append_eq_append_iff.1 h
    · exact List.prefix_append key u
    · cases u with
      | nil => rw [List.append_nil]
      | cons c u =>
        -- a key that goes on behind `s` has `b` in it
        obtain ⟨rfl, -⟩ := List.cons.inj hr
        exact absurd (List.mem_append_right s List.mem_cons_self) hb
  · intro h
    exact h.trans (List.prefix_append s (b :: t))

end Key

variable [DecidableEq α]

/-- `s.find(key)`. -/
def findSub (key : List α) : List α → Option ℕ
  | [] => if key = [] then some 0 else none
  | a :: s => if key <+: a :: s then some 0 else (findSub key s).map (· + 1)

/-- What stands behind the first `key` of a text, up to the end of its line. -/
def restOfLine (f : α → α) (key : List α) (inLine : α → Bool) (text : List α) : Option (List α) :=
  (findSub key (text.map f)).map fun i => (text.drop (i + key.length)).takeWhile inLine

variable {f : α → α} {key s t : List α} {b : α} {inLine : α → Bool}

theorem findSub_of_prefix (h : key <+: s) : findSub key s = some 0 := by
  cases s with
  | nil => exact if_pos (List.prefix_nil.1 h)
  | cons a s => exact if_pos h

theorem findSub_isSome : (findSub key s).isSome ↔ key <:+: s := by
  induction s with
  | nil => by_cases h : key = [] <;> simp [findSub, h]
  | cons a s ih =>
    rw [findSub, List.infix_cons_iff, ← ih]
    by_cases h : key <+: a :: s <;> simp [h]

theorem findSub_eq_none : findSub key s = none ↔ ¬key <:+: s := by
  rw [← findSub_isSome, Bool.not_eq_true, Option.isSome_eq_false_iff, Option.isNone_iff_eq_none]

/-- The key fits into the text where it is found. -/
theorem findSub_le {i : ℕ} (h : findSub key s = some i) : i + key.length ≤ s.length := by
  induction s generalizing i with
  | nil =>
    rw [findSub] at h
    split at h
    · cases h
      simp [*]
    · cases h
  | cons a s ih =>
    rw [findSub] at h
    split at h
    · rename_i here
      cases h
      rw [Nat.zero_add]
      exact here.length_le
    · obtain ⟨j, found, rfl⟩ := Option.map_eq_some_iff.1 h
      have := ih found
      rw [List.length_cons]
      omega

/-! ## Across an element that the key has not got -/

theorem findSub_cons_of_not_mem (hk : key ≠ []) (hb : b ∉ key) : findSub key (b :: t) = (findSub key t).map (· + 1) := by
  refine if_neg fun h => ?_
  exact hk (List.prefix_nil.1 ((prefix_append_cons (s := []) hb).1 h))

theorem findSub_append_cons (hk : key ≠ []) (hb : b ∉ key) :
    findSub key (s ++ b :: t) = (findSub key s).or ((findSub key t).map (· + (s.length + 1))) := by
  induction s with
  | nil =>
    rw [List.nil_append, findSub_cons_of_not_mem hk hb, findSub, if_neg hk, Option.none_or, List.length_nil, Nat.zero_add]
  | cons a s ih =>
    have first : key <+: a :: (s ++ b :: t) ↔ key <+: a :: s := prefix_append_cons (s := a :: s) hb
    rw [List.cons_append, findSub, findSub, ih]
    by_cases h : key <+: a :: s
    · rw [if_pos (first.2 h), if_pos h, Option.some_or]
    · rw [if_neg (mt first.1 h), if_neg h, Option.map_or, Option.map_map]
      rfl

/-! ## Line by line -/

/-- The search over a line and the lines behind its end looks into the line first. -/
theorem restOfLine_append_cons (hk : key ≠ []) (hs : ∀ a ∈ s, inLine a = true) (hb : inLine b = false) (hf : f b ∉ key) :
    restOfLine f key inLine (s ++ b :: t) = (restOfLine f key inLine s).or (restOfLine f key inLine t) := by
  unfold restOfLine
  rw [List.map_append, List.map_cons, findSub_append_cons hk hf, Option.map_or, Option.map_map, List.length_map]
  congr 1
  · refine Option.map_congr fun i found => ?_
    have fits := findSub_le (Option.mem_def.1 found)
    rw [List.length_map] at fits
    rw [List.drop_append_of_le_length fits, List.takeWhile_append_of_pos fun a mem => hs a (List.mem_of_mem_drop mem),
      List.takeWhile_cons_of_neg (by simp [hb]), List.append_nil]
    exact (List.takeWhile_eq_self_iff.2 fun a mem => hs a (List.mem_of_mem_drop mem)).symm
  · congr 1
    funext i
    have far : i + (s.length + 1) + key.length = s.length + 1 + (i + key.length) := by omega
    rw [Function.comp_apply, far, ← List.drop_drop, List.append_cons, List.drop_left' (by simp)]

theorem restOfLine_of_prefix (hs : ∀ a ∈ s, inLine a = true) (h : key <+: s.map f) :
    restOfLine f key inLine s = some (s.drop key.length) := by
  rw [restOfLine, findSub_of_prefix h, Option.map_some, Nat.zero_add,
    List.takeWhile_eq_self_iff.2 fun a mem => hs a (List.mem_of_mem_drop mem)]

theorem restOfLine_eq_none : restOfLine f key inLine s = none ↔ ¬key <:+: s.map f := by
  rw [restOfLine, Option.map_eq_none_iff, findSub_eq_none]

end Sf4e.Lib
