import Mathlib.Algebra.GroupWithZero.Nat
/-!
# Small containers

`Assoc` is a `std::map` kept as an association list, `Sides` a C array of two
elements indexed by side; an array of any length is a list.
-/

namespace Sf4e.Lib

/-- The two sides of a match, as array indexes. -/
abbrev Side := Fin 2

/-- The instance behind the numerals of `Side`. -/
instance Side.neZero : NeZero 2 := ⟨by decide⟩

/-- The other side. -/
def Side.other : Side → Side
  | 0 => 1
  | 1 => 0

@[simp] theorem Side.other_zero : Side.other 0 = 1 := rfl
@[simp] theorem Side.other_one : Side.other 1 = 0 := rfl

@[elab_as_elim]
theorem Side.cases {motive : Side → Prop} (side : Side) (zero : motive 0) (one : motive 1) : motive side := by
  revert side
  exact Fin.forall_fin_two.2 ⟨zero, one⟩

theorem Side.eq_or_other (a b : Side) : b = a ∨ b = a.other := by
  revert a b; decide

theorem Side.other_ne (a : Side) : a.other ≠ a := by
  revert a; decide

@[simp] theorem Side.other_other (a : Side) : a.other.other = a := by
  revert a; decide

/-- The first of the two sides that meets a condition meets it. -/
theorem Side.of_first {P : Side → Prop} [DecidablePred P] {i : Side}
    (h : (if P 0 then some 0 else if P 1 then some 1 else none) = some i) : P i := by
  split at h
  · rename_i h0
    obtain rfl : 0 = i := Option.some.inj h
    exact h0
  · split at h
    · rename_i h1
      obtain rfl : 1 = i := Option.some.inj h
      exact h1
    · cases h

/-- `T x[2]`. -/
structure Sides (α : Type) where
  s0 : α
  s1 : α
  deriving DecidableEq, Repr

namespace Sides
variable {α : Type}

def get (x : Sides α) : Side → α
  | 0 => x.s0
  | 1 => x.s1

def set (x : Sides α) : Side → α → Sides α
  | 0, v => { x with s0 := v }
  | 1, v => { x with s1 := v }

/-- `std::swap(x[0], x[1])`. -/
def swap (x : Sides α) : Sides α := ⟨x.s1, x.s0⟩

/-- The array with these elements. -/
def of (f : Side → α) : Sides α := ⟨f 0, f 1⟩

@[simp] theorem get_of (f : Side → α) (i : Side) : (of f).get i = f i := by
  match i with
  | 0 => rfl
  | 1 => rfl

@[simp] theorem get_zero (x : Sides α) : x.get 0 = x.s0 := rfl
@[simp] theorem get_one (x : Sides α) : x.get 1 = x.s1 := rfl

@[simp] theorem get_set_self (x : Sides α) (i : Side) (v : α) : (x.set i v).get i = v := by
  match i with
  | 0 => rfl
  | 1 => rfl

theorem get_set_ne (x : Sides α) {i j : Side} (v : α) (h : j ≠ i) : (x.set i v).get j = x.get j := by
  have : j = i.other := (Side.eq_or_other i j).resolve_left h
  subst this
  match i with
  | 0 => rfl
  | 1 => rfl

@[simp] theorem get_set_other (x : Sides α) (i : Side) (v : α) :
    (x.set i v).get i.other = x.get i.other :=
  get_set_ne x v (Side.other_ne i)

theorem set_eq_self {x : Sides α} {i : Side} {v : α} : x.set i v = x ↔ x.get i = v := by
  constructor
  · intro h
    rw [← h, get_set_self]
  · intro h
    subst h
    match i with
    | 0 => rfl
    | 1 => rfl

@[simp] theorem get_swap (x : Sides α) (i : Side) : x.swap.get i = x.get i.other := by
  match i with
  | 0 => rfl
  | 1 => rfl

theorem ext_get {x y : Sides α} (h : ∀ i, x.get i = y.get i) : x = y := by
  have h0 := h 0
  have h1 := h 1
  cases x; cases y
  simp only [get_zero, get_one] at h0 h1
  rw [h0, h1]

end Sides

/-- `std::map<κ, α>`. -/
abbrev Assoc (κ α : Type) := List (κ × α)

namespace Assoc
variable {κ α : Type} [DecidableEq κ]

def find (m : Assoc κ α) (k : κ) : Option α := (m.find? fun e => e.1 = k).map (·.2)

def erase (m : Assoc κ α) (k : κ) : Assoc κ α := m.filter fun e => e.1 ≠ k

/-- `m[k] = v`. -/
def insert (m : Assoc κ α) (k : κ) (v : α) : Assoc κ α := (k, v) :: erase m k

@[simp] theorem find_nil (k : κ) : find ([] : Assoc κ α) k = none := rfl

theorem find_cons (m : Assoc κ α) (e : κ × α) (k : κ) :
    find (e :: m) k = if e.1 = k then some e.2 else find m k := by
  by_cases h : e.1 = k <;> simp [find, h]

@[simp] theorem find_erase_self (m : Assoc κ α) (k : κ) : find (erase m k) k = none := by
  simp [find, erase]

theorem find_erase_ne (m : Assoc κ α) {k k' : κ} (h : k' ≠ k) : find (erase m k) k' = find m k' := by
  induction m with
  | nil => rfl
  | cons e m ih =>
    by_cases he : e.1 = k
    · have : e.1 ≠ k' := fun h' => h (h'.symm.trans he)
      simp only [erase, List.filter_cons, he, ne_eq, not_true, decide_false, Bool.false_eq_true, if_false]
      rw [find_cons, if_neg this]
      exact ih
    · simp only [erase, List.filter_cons, he, ne_eq, not_false_eq_true, decide_true, if_true]
      rw [find_cons, find_cons]
      split
      · rfl
      · exact ih

@[simp] theorem find_insert_self (m : Assoc κ α) (k : κ) (v : α) : find (insert m k v) k = some v := by
  simp [insert, find_cons]

theorem find_insert_ne (m : Assoc κ α) {k k' : κ} (v : α) (h : k' ≠ k) :
    find (insert m k v) k' = find m k' := by
  rw [insert, find_cons, if_neg (fun h' => h h'.symm), find_erase_ne m h]

end Assoc

/-! ## Arrays -/

/-- Place by place, what counts afterwards counted before. -/
theorem countP_le_of_places {α : Type} {p : α → Bool} {l l' : List α} (hlen : l'.length = l.length)
    (h : ∀ (i : Nat) (a' : α), l'[i]? = some a' → p a' = true → ∃ a, l[i]? = some a ∧ p a = true) :
    l'.countP p ≤ l.countP p := by
  induction l' generalizing l with
  | nil => simp
  | cons a' l' ih =>
    cases l with
    | nil => cases hlen
    | cons a l =>
      have hrest := ih (l := l) (by simpa using hlen) fun i b hb hp => by simpa using h (i + 1) b (by simpa using hb) hp
      rw [List.countP_cons, List.countP_cons]
      by_cases hp : p a' = true
      · obtain ⟨b, hb, hpb⟩ := h 0 a' rfl hp
        obtain rfl : a = b := by simpa using hb
        rw [if_pos hp, if_pos hpb]
        omega
      · rw [if_neg hp]
        split <;> omega

end Sf4e.Lib
