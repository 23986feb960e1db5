import Sf4e.Lib.Containers
/-!
# Maps in key order

`IntMap` is a `std::map<int, α>`. `sweep` is the loop that walks a map from its
first key to its last, carries a state along, and erases entries as it goes.
-/

namespace Sf4e.Lib

/-- `std::map<int, α>`. -/
structure IntMap (α : Type) where
  entries : Assoc Int α
  sorted : entries.Pairwise fun a b => a.1 < b.1

namespace IntMap
variable {α β ω : Type}

def empty : IntMap α := ⟨[], .nil⟩

def find (m : IntMap α) (k : Int) : Option α := Assoc.find m.entries k

def erase (m : IntMap α) (k : Int) : IntMap α := ⟨Assoc.erase m.entries k, m.sorted.filter _⟩

/-- The place of a key is in front of the first larger one. -/
def place (k : Int) (v : α) : Assoc Int α → Assoc Int α
  | [] => [(k, v)]
  | e :: m => if k < e.1 then (k, v) :: e :: m else if k = e.1 then (k, v) :: m else e :: place k v m

theorem mem_place {k : Int} {v : α} {m : Assoc Int α} {e : Int × α} (h : e ∈ place k v m) :
    e = (k, v) ∨ e ∈ m := by
  induction m with
  | nil => simpa [place] using h
  | cons a m ih =>
    unfold place at h
    split at h
    · simpa using h
    split at h
    · rcases List.mem_cons.1 h with h | h
      · exact .inl h
      · exact .inr (List.mem_cons_of_mem _ h)
    · rcases List.mem_cons.1 h with h | h
      · exact .inr (h ▸ List.mem_cons_self ..)
      · exact (ih h).imp_right (List.mem_cons_of_mem _)

theorem place_sorted {k : Int} {v : α} {m : Assoc Int α} (h : m.Pairwise fun a b => a.1 < b.1) :
    (place k v m).Pairwise fun a b => a.1 < b.1 := by
  induction m with
  | nil => simp [place]
  | cons a m ih =>
    obtain ⟨hlt, hm⟩ := List.pairwise_cons.1 h
    unfold place
    split
    · rename_i hk
      refine List.pairwise_cons.2 ⟨?_, h⟩
      intro e he
      rcases List.mem_cons.1 he with rfl | he
      · exact hk
      · exact Int.lt_trans hk (hlt e he)
    split
    · rename_i hk
      exact List.pairwise_cons.2 ⟨fun e he => hk ▸ hlt e he, hm⟩
    · refine List.pairwise_cons.2 ⟨?_, ih hm⟩
      intro e he
      rcases mem_place he with rfl | he
      · show a.1 < k
        omega
      · exact hlt e he

/-- `insert_or_assign`. -/
def insertOrAssign (m : IntMap α) (k : Int) (v : α) : IntMap α := ⟨place k v m.entries, place_sorted m.sorted⟩

@[simp] theorem find_empty (k : Int) : (empty : IntMap α).find k = none := rfl

theorem find_place (m : Assoc Int α) (k k' : Int) (v : α) (h : m.Pairwise fun a b => a.1 < b.1) :
    Assoc.find (place k v m) k' = if k' = k then some v else Assoc.find m k' := by
  induction m with
  | nil => simp [place, Assoc.find_cons, eq_comm]
  | cons a m ih =>
    obtain ⟨hlt, hm⟩ := List.pairwise_cons.1 h
    unfold place
    split
    · simp only [Assoc.find_cons, eq_comm]
    split
    · rename_i hk
      simp only [Assoc.find_cons, ← hk, eq_comm]
      split <;> rfl
    · rw [Assoc.find_cons, Assoc.find_cons, ih hm]
      split
      · rw [if_neg (by omega)]
      · rfl

theorem find_insertOrAssign (m : IntMap α) (k k' : Int) (v : α) :
    (m.insertOrAssign k v).find k' = if k' = k then some v else m.find k' :=
  find_place m.entries k k' v m.sorted

theorem find_erase (m : IntMap α) (k k' : Int) : (m.erase k).find k' = if k' = k then none else m.find k' := by
  by_cases h : k' = k
  · subst h
    simp [find, erase]
  · rw [if_neg h]
    exact Assoc.find_erase_ne m.entries h

theorem find_of_mem {m : IntMap α} {e : Int × α} (h : e ∈ m.entries) : m.find e.1 = some e.2 := by
  obtain ⟨entries, sorted⟩ := m
  induction entries with
  | nil => cases h
  | cons a l ih =>
    obtain ⟨hlt, hl⟩ := List.pairwise_cons.1 sorted
    simp only [find, Assoc.find_cons]
    rcases List.mem_cons.1 h with rfl | h
    · rw [if_pos rfl]
    · have hne : a.1 ≠ e.1 := fun hc => absurd (hlt e h) (by omega)
      rw [if_neg hne]
      exact ih hl h

theorem mem_of_find {m : IntMap α} {k : Int} {v : α} (h : m.find k = some v) : (k, v) ∈ m.entries := by
  simp only [find, Assoc.find, Option.map_eq_some_iff] at h
  obtain ⟨e, he, rfl⟩ := h
  have hk : e.1 = k := by simpa using List.find?_some he
  exact hk ▸ List.mem_of_find?_eq_some he

/-- The first entries are erased, as long as their keys are below `k`. -/
def dropBelow (m : IntMap α) (k : Int) : IntMap α :=
  ⟨m.entries.dropWhile fun e => e.1 < k, m.sorted.sublist (List.dropWhile_sublist _)⟩

theorem find_dropBelow (m : IntMap α) (k k' : Int) :
    (m.dropBelow k).find k' = if k' < k then none else m.find k' := by
  obtain ⟨entries, sorted⟩ := m
  simp only [find, dropBelow]
  induction entries with
  | nil => simp
  | cons e l ih =>
    obtain ⟨hlt, hl⟩ := List.pairwise_cons.1 sorted
    rw [List.dropWhile_cons]
    split
    · rename_i hek
      have hek : e.1 < k := of_decide_eq_true hek
      rw [ih hl, Assoc.find_cons]
      split
      · rfl
      · rw [if_neg (by omega)]
    · rename_i hek
      have hke : k ≤ e.1 := by simpa using hek
      split
      · rename_i hk
        rw [Assoc.find, Option.map_eq_none_iff, List.find?_eq_none]
        intro a ha
        have : k ≤ a.1 := by
          rcases List.mem_cons.1 ha with rfl | ha
          · exact hke
          · exact Int.le_trans hke (Int.le_of_lt (hlt a ha))
        simp only [decide_eq_true_eq]
        omega
      · rfl

/-! ## The loop -/

/-- The body `f` sees a key, its value and the state; it says what becomes of the
value, and what it emits. -/
def walk (f : Int → α → β → Option α × β × List ω) : Assoc Int α → β → Assoc Int α × β × List ω
  | [], b => ([], b, [])
  | (k, v) :: m, b =>
    let now := f k v b
    let later := walk f m now.2.1
    ((now.1.toList.map fun v' => (k, v')) ++ later.1, later.2.1, now.2.2 ++ later.2.2)

theorem walk_keys (f : Int → α → β → Option α × β × List ω) (m : Assoc Int α) (b : β) :
    ((walk f m b).1.map (·.1)).Sublist (m.map (·.1)) := by
  induction m generalizing b with
  | nil => exact List.Sublist.slnil
  | cons e m ih =>
    simp only [walk, List.map_append, List.map_map, List.map_cons]
    cases (f e.1 e.2 b).1 with
    | none => exact List.Sublist.cons _ (ih _)
    | some v => exact List.Sublist.cons_cons _ (ih _)

theorem walk_sorted (f : Int → α → β → Option α × β × List ω) (m : IntMap α) (b : β) :
    (walk f m.entries b).1.Pairwise fun a b => a.1 < b.1 := by
  have h : (m.entries.map (·.1)).Pairwise (· < ·) := List.pairwise_map.2 m.sorted
  exact List.pairwise_map.1 (h.sublist (walk_keys f m.entries b))

/-- One walk over the map. -/
def sweep (m : IntMap α) (f : Int → α → β → Option α × β × List ω) (b : β) : IntMap α × β × List ω :=
  (⟨(walk f m.entries b).1, walk_sorted f m b⟩, (walk f m.entries b).2)

/-- What the body keeps of the state, of the values and of what it emits, the loop keeps. -/
theorem walk_inv {f : Int → α → β → Option α × β × List ω} {P : β → Prop} {Q : ω → Prop}
    {R S : Int → α → Prop}
    (hbody : ∀ k v b, R k v → P b → P (f k v b).2.1 ∧ (∀ v' ∈ (f k v b).1, S k v') ∧ ∀ o ∈ (f k v b).2.2, Q o)
    {m : Assoc Int α} {b : β} (hm : ∀ e ∈ m, R e.1 e.2) (hb : P b) :
    P (walk f m b).2.1 ∧ (∀ e ∈ (walk f m b).1, S e.1 e.2) ∧ ∀ o ∈ (walk f m b).2.2, Q o := by
  induction m generalizing b with
  | nil => exact ⟨hb, by simp [walk], by simp [walk]⟩
  | cons e m ih =>
    obtain ⟨hP, hS, hQ⟩ := hbody e.1 e.2 b (hm e (by simp)) hb
    obtain ⟨hP', hS', hQ'⟩ := ih (fun e' he' => hm e' (by simp [he'])) hP
    refine ⟨hP', ?_, ?_⟩
    · intro e' he'
      simp only [walk, List.mem_append, List.mem_map, Option.mem_toList] at he'
      rcases he' with ⟨v', hv', rfl⟩ | he'
      · exact hS v' hv'
      · exact hS' e' he'
    · intro o ho
      rcases List.mem_append.1 ho with ho | ho
      · exact hQ o ho
      · exact hQ' o ho

/-! What the state may do to an entry, and what it may not. -/

section Body

variable {f : Int → α → β → Option α × β × List ω}

/-- A part of the output that no state changes is each entry's own. -/
theorem sweep_filterMap {γ : Type} {g : ω → Option γ} {h : Int → α → List γ}
    (hf : ∀ k v b, (f k v b).2.2.filterMap g = h k v) (m : IntMap α) (b : β) :
    (m.sweep f b).2.2.filterMap g = m.entries.flatMap fun e => h e.1 e.2 := by
  have hwalk : ∀ (l : Assoc Int α) (b : β), (walk f l b).2.2.filterMap g = l.flatMap fun e => h e.1 e.2 := by
    intro l
    induction l with
    | nil => exact fun _ => rfl
    | cons e l ih =>
      intro b
      rw [walk, List.filterMap_append, hf, ih, List.flatMap_cons]
  exact hwalk m.entries b

/-- What is there after the loop has been left there by the body. -/
theorem of_find_sweep {m : IntMap α} {b : β} {k : Int} {v' : α} (h : (m.sweep f b).1.find k = some v') :
    ∃ v b', m.find k = some v ∧ (f k v b').1 = some v' := by
  have hbody := walk_inv (f := f) (m := m.entries) (b := b) (P := fun _ => True) (Q := fun _ => True)
    (R := fun k v => m.find k = some v) (S := fun k v' => ∃ v b', m.find k = some v ∧ (f k v b').1 = some v')
    (fun k v b hv _ => ⟨trivial, fun v' hv' => ⟨v, b, hv, hv'⟩, fun _ _ => trivial⟩)
    (fun _ he => find_of_mem he) trivial
  exact hbody.2.1 _ (mem_of_find h)

/-- An entry that the body leaves there, whatever the state, is there after the loop. -/
theorem find_sweep_of_kept {m : IntMap α} {k : Int} {v v' : α} (h : m.find k = some v)
    (hf : ∀ b, (f k v b).1 = some v') (b : β) : (m.sweep f b).1.find k = some v' := by
  have hwalk : ∀ (l : Assoc Int α) (b : β), (k, v) ∈ l → (k, v') ∈ (walk f l b).1 := by
    intro l
    induction l with
    | nil =>
      intro _ hmem
      cases hmem
    | cons e l ih =>
      intro b hmem
      rw [walk, List.mem_append]
      rcases List.mem_cons.1 hmem with rfl | hmem
      · refine .inl (List.mem_map.2 ⟨v', ?_, rfl⟩)
        rw [hf b]
        exact List.mem_singleton_self v'
      · exact .inr (ih _ hmem)
  exact find_of_mem (m := (m.sweep f b).1) (hwalk m.entries b (mem_of_find h))

end Body

section Still

/-! A body that leaves the state `b` alone treats every entry by itself. -/

variable {f : Int → α → β → Option α × β × List ω} {b : β}

theorem walk_still (hf : ∀ k v, (f k v b).2.1 = b) (m : Assoc Int α) :
    walk f m b =
      (m.flatMap fun e => (f e.1 e.2 b).1.toList.map fun v => (e.1, v), b,
        m.flatMap fun e => (f e.1 e.2 b).2.2) := by
  induction m with
  | nil => rfl
  | cons e m ih => simp only [walk, hf, ih, List.flatMap_cons]

theorem sweep_state (hf : ∀ k v, (f k v b).2.1 = b) (m : IntMap α) : (m.sweep f b).2.1 = b := by
  have h := congrArg (·.2.1) (walk_still hf m.entries)
  exact h

theorem sweep_out (hf : ∀ k v, (f k v b).2.1 = b) (m : IntMap α) :
    (m.sweep f b).2.2 = m.entries.flatMap fun e => (f e.1 e.2 b).2.2 := by
  have h := congrArg (·.2.2) (walk_still hf m.entries)
  exact h

theorem find_sweep (hf : ∀ k v, (f k v b).2.1 = b) (m : IntMap α) (k : Int) :
    (m.sweep f b).1.find k = (m.find k).bind fun v => (f k v b).1 := by
  obtain ⟨entries, sorted⟩ := m
  simp only [find, sweep, walk_still hf]
  induction entries with
  | nil => rfl
  | cons e m ih =>
    obtain ⟨hlt, hm⟩ := List.pairwise_cons.1 sorted
    have ih := ih hm
    rw [Assoc.find_cons, List.flatMap_cons]
    by_cases hk : e.1 = k
    · subst hk
      rw [if_pos rfl, Option.bind_some]
      cases (f e.1 e.2 b).1 with
      | some v => simp [Assoc.find_cons]
      | none =>
        -- no later entry has this key
        have hnone : Assoc.find m e.1 = none := by
          simp only [Assoc.find, Option.map_eq_none_iff, List.find?_eq_none]
          intro e' he'
          have := hlt e' he'
          simp only [decide_eq_true_eq]
          omega
        simp only [Option.toList_none, List.map_nil, List.nil_append]
        rw [ih, hnone, Option.bind_none]
    · rw [if_neg hk]
      cases (f e.1 e.2 b).1 with
      | some v => simpa [Assoc.find_cons, hk] using ih
      | none => simpa using ih

end Still

end IntMap

end Sf4e.Lib
