import Mathlib.Data.List.Nodup
/-!
# Doubly linked lists

Nodes are addresses, and `prev` and `next` are what is stored at them. A list is
well formed when walking it forward and walking it backward visits the same
nodes.
-/

namespace Sf4e.Lib

variable {α : Type}

/-! ## Walks -/

/-- Following `next` from `p` visits these nodes in this order, and then ends. -/
def Walks (next : α → Option α) : Option α → List α → Prop
  | p, [] => p = none
  | p, x :: xs => p = some x ∧ Walks next (next x) xs

namespace Walks

variable {f g : α → Option α} {p : Option α} {xs ys : List α} {x y : α}

theorem head_eq (h : Walks f p xs) : p = xs.head? := by
  cases xs with
  | nil => exact h
  | cons x xs => exact h.1

theorem congr (h : Walks f p xs) (hfg : ∀ z ∈ xs, g z = f z) : Walks g p xs := by
  induction xs generalizing p with
  | nil => exact h
  | cons x xs ih =>
    refine ⟨h.1, ?_⟩
    rw [hfg x List.mem_cons_self]
    exact ih h.2 fun z hz => hfg z (List.mem_cons_of_mem x hz)

/-- What comes after a node of a walk is the walk from where that node points. -/
theorem after (h : Walks f p (xs ++ x :: ys)) : Walks f (f x) ys := by
  induction xs generalizing p with
  | nil => exact h.2
  | cons z xs ih => exact ih h.2

theorem last (h : Walks f p (xs ++ [x])) : f x = none := after h

/-- A node points at the one that comes next in the walk. -/
theorem step_iff (h : Walks f p xs) (hx : x ∈ xs) : f x = some y ↔ ∃ as bs, xs = as ++ x :: y :: bs := by
  constructor
  · intro hy
    obtain ⟨as, rest, rfl⟩ := List.append_of_mem hx
    have hrest := (after h).head_eq
    rw [hy] at hrest
    cases rest with
    | nil => cases hrest
    | cons z bs =>
      cases hrest
      exact ⟨as, bs, rfl⟩
  · rintro ⟨as, bs, rfl⟩
    exact (after h).1

/-- Where only the last node points elsewhere, the one before it does not. -/
theorem redirect_tail {q : Option α} {y z : α} {zs : List α}
    (hg : ∀ w ∈ y :: z :: zs,
      (y :: z :: zs).getLast? = some w ∧ g w = q ∨ (y :: z :: zs).getLast? ≠ some w ∧ g w = f w)
    (hy : y ∉ z :: zs) :
    g y = f y ∧ ∀ w ∈ z :: zs, (z :: zs).getLast? = some w ∧ g w = q ∨ (z :: zs).getLast? ≠ some w ∧ g w = f w := by
  have hlast : (y :: z :: zs).getLast? = (z :: zs).getLast? := List.getLast?_cons_cons
  rw [hlast] at hg
  refine ⟨?_, fun w hw => hg w (List.mem_cons_of_mem y hw)⟩
  rcases hg y List.mem_cons_self with ⟨hend, -⟩ | ⟨-, hsame⟩
  · exact absurd (List.mem_of_getLast? hend) hy
  · exact hsame

/-- One more node at the end: what was last points at it. -/
theorem concat (h : Walks f p xs) (hn : xs.Nodup)
    (hg : ∀ z ∈ xs, xs.getLast? = some z ∧ g z = some x ∨ xs.getLast? ≠ some z ∧ g z = f z) (hx : g x = none) :
    Walks g (p.or (some x)) (xs ++ [x]) := by
  induction xs generalizing p with
  | nil =>
    cases (h : p = none)
    exact ⟨rfl, hx⟩
  | cons y ys ih =>
    obtain ⟨rfl, h⟩ := h
    rw [List.nodup_cons] at hn
    refine ⟨rfl, ?_⟩
    cases ys with
    | nil =>
      rcases hg y List.mem_cons_self with ⟨-, hy⟩ | ⟨hy, -⟩
      · exact ⟨hy, hx⟩
      · exact absurd rfl hy
    | cons z zs =>
      obtain ⟨hy, hrest⟩ := redirect_tail hg hn.1
      rw [hy, h.1]
      rw [h.1] at h
      exact ih h hn.2 hrest

/-- One node less at the end: what comes before it points nowhere. -/
theorem dropLast (h : Walks f p (xs ++ [x])) (hn : xs.Nodup)
    (hg : ∀ z ∈ xs, xs.getLast? = some z ∧ g z = none ∨ xs.getLast? ≠ some z ∧ g z = f z) :
    Walks g (if xs = [] then none else p) xs := by
  induction xs generalizing p with
  | nil => rfl
  | cons y ys ih =>
    obtain ⟨rfl, h⟩ := h
    rw [List.nodup_cons] at hn
    rw [if_neg (List.cons_ne_nil y ys)]
    refine ⟨rfl, ?_⟩
    cases ys with
    | nil =>
      rcases hg y List.mem_cons_self with ⟨-, hy⟩ | ⟨hy, -⟩
      · exact hy
      · exact absurd rfl hy
    | cons z zs =>
      obtain ⟨hy, hrest⟩ := redirect_tail hg hn.1
      rw [hy]
      have hwalks := ih h hn.2 hrest
      rwa [if_neg (List.cons_ne_nil z zs)] at hwalks

end Walks

/-- What is read off the nodes on the way. -/
def collect {β : Type} (next : α → Option α) (read : α → β) : ℕ → Option α → Option (List β)
  | _, none => some []
  | 0, some _ => none
  | fuel + 1, some x => (collect next read fuel (next x)).map (read x :: ·)

theorem Walks.collect_eq {β : Type} {next : α → Option α} {p : Option α} {xs : List α} (h : Walks next p xs)
    (read : α → β) {fuel : ℕ} (hfuel : xs.length ≤ fuel) : collect next read fuel p = some (xs.map read) := by
  induction xs generalizing p fuel with
  | nil =>
    cases (h : p = none)
    cases fuel <;> rfl
  | cons x xs ih =>
    obtain ⟨rfl, h⟩ := h
    cases fuel with
    | zero => cases hfuel
    | succ fuel =>
      show (collect next read fuel (next x)).map _ = _
      rw [ih h (Nat.le_of_succ_le_succ hfuel)]
      rfl

/-! ## Lists with two ends -/

/-- A doubly linked list: both walks visit its nodes, and none twice. -/
structure Linked (prev next : α → Option α) (head tail : Option α) (xs : List α) : Prop where
  forward : Walks next head xs
  backward : Walks prev tail xs.reverse
  nodup : xs.Nodup

namespace Linked

variable {prev next prev' next' : α → Option α} {head tail : Option α} {xs : List α} {x y : α}

theorem tail_eq (h : Linked prev next head tail xs) : tail = xs.getLast? := by
  rw [h.backward.head_eq, List.head?_reverse]

theorem head_prev (h : Linked prev next head tail xs) (hx : head = some x) : prev x = none := by
  have hh := h.forward.head_eq
  cases xs with
  | nil => exact absurd (hx.symm.trans hh) (Option.some_ne_none x)
  | cons y xs =>
    cases hx.symm.trans hh
    have hb := h.backward
    rw [List.reverse_cons] at hb
    exact hb.last

theorem tail_next (h : Linked prev next head tail xs) (hx : tail = some x) : next x = none := by
  have ht := h.tail_eq.symm.trans hx
  obtain ⟨ys, rfl⟩ := List.getLast?_eq_some_iff.1 ht
  exact h.forward.last

theorem inverse (h : Linked prev next head tail xs) (hx : x ∈ xs) (hy : y ∈ xs) :
    next x = some y ↔ prev y = some x := by
  rw [h.forward.step_iff hx, h.backward.step_iff (List.mem_reverse.2 hy)]
  constructor
  · rintro ⟨as, bs, rfl⟩
    refine ⟨bs.reverse, as.reverse, ?_⟩
    simp only [List.reverse_append, List.reverse_cons, List.append_assoc, List.cons_append, List.nil_append]
  · rintro ⟨as, bs, he⟩
    refine ⟨bs.reverse, as.reverse, ?_⟩
    rw [← List.reverse_inj, he]
    simp only [List.reverse_append, List.reverse_cons, List.append_assoc, List.cons_append, List.nil_append,
      List.reverse_reverse]

theorem tail_mem (h : Linked prev next head tail xs) (hx : tail = some x) : x ∈ xs :=
  List.mem_of_getLast? (h.tail_eq.symm.trans hx)

theorem empty (prev next : α → Option α) : Linked prev next none none [] := ⟨rfl, rfl, List.nodup_nil⟩

/-- Writes to other nodes leave the list alone. -/
theorem congr (h : Linked prev next head tail xs) (hp : ∀ z ∈ xs, prev' z = prev z)
    (hn : ∀ z ∈ xs, next' z = next z) : Linked prev' next' head tail xs :=
  ⟨h.forward.congr hn, h.backward.congr fun z hz => hp z (List.mem_reverse.1 hz), h.nodup⟩

variable [DecidableEq α]

/-- A node linked in behind the tail. -/
theorem pushBack (h : Linked prev next head tail xs) (hx : x ∉ xs)
    (hn : ∀ z ∈ xs, next' z = if tail = some z then some x else next z) (hnx : next' x = none)
    (hp : ∀ z ∈ xs, prev' z = prev z) (hpx : prev' x = tail) :
    Linked prev' next' (head.or (some x)) (some x) (xs ++ [x]) where
  forward := by
    refine h.forward.concat h.nodup (fun z hz => ?_) hnx
    rw [hn z hz, h.tail_eq]
    by_cases hl : xs.getLast? = some z
    · rw [if_pos hl]
      exact .inl ⟨hl, rfl⟩
    · rw [if_neg hl]
      exact .inr ⟨hl, rfl⟩
  backward := by
    rw [List.reverse_append, List.reverse_singleton, List.singleton_append]
    refine ⟨rfl, ?_⟩
    rw [hpx]
    exact h.backward.congr fun z hz => hp z (List.mem_reverse.1 hz)
  nodup := by
    rw [List.nodup_append]
    refine ⟨h.nodup, List.nodup_singleton x, fun a ha b hb he => ?_⟩
    rw [List.mem_singleton.1 hb] at he
    exact hx (he ▸ ha)

/-- The head taken out: the node after it becomes the head. -/
theorem popFront (h : Linked prev next head tail (x :: xs)) (hn : ∀ z ∈ xs, next' z = next z)
    (hp : ∀ z ∈ xs, prev' z = if next x = some z then none else prev z) :
    Linked prev' next' (next x) (if next x = none then none else tail) xs where
  forward := h.forward.2.congr hn
  backward := by
    have hb := h.backward
    rw [List.reverse_cons] at hb
    have hnext : next x = xs.head? := h.forward.2.head_eq
    have hdrop := hb.dropLast (g := prev') (List.nodup_reverse.2 h.nodup.of_cons) fun z hz => by
      rw [hp z (List.mem_reverse.1 hz), List.getLast?_reverse, hnext]
      by_cases hl : xs.head? = some z
      · rw [if_pos hl]
        exact .inl ⟨hl, rfl⟩
      · rw [if_neg hl]
        exact .inr ⟨hl, rfl⟩
    rw [hnext]
    simpa only [List.reverse_eq_nil_iff, List.head?_eq_none_iff] using hdrop
  nodup := h.nodup.of_cons

end Linked

end Sf4e.Lib
