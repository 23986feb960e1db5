import Mathlib.Data.List.Basic
import Mathlib.Data.List.InsertIdx
/-!
# Lists with some elements kept in front

`Fronted p l` says that the elements satisfying `p` stand before the others.
Such a list is read through `l.filter p`: the operations that keep the order act
on that part alone.
-/

namespace Sf4e.Lib

variable {α : Type} {p : α → Bool}

/-- Elements satisfying `p` come first. -/
def Fronted (p : α → Bool) (l : List α) : Prop := l.Pairwise fun a b => p b = true → p a = true

namespace Fronted

theorem nil : Fronted p [] := List.Pairwise.nil

theorem filter_append {l : List α} (h : Fronted p l) : l = l.filter p ++ l.filter (fun a => !p a) := by
  induction l with
  | nil => rfl
  | cons a l ih =>
    obtain ⟨ha, hl⟩ := List.pairwise_cons.1 h
    cases hp : p a with
    | true => simpa [List.filter_cons, hp] using ih hl
    | false =>
      -- nothing after `a` satisfies `p`
      have hno : ∀ b ∈ l, p b = false := by
        intro b hb
        cases hpb : p b with
        | false => rfl
        | true => rw [ha b hb hpb] at hp; cases hp
      have h1 : l.filter p = [] := List.filter_eq_nil_iff.2 fun b hb => by simp [hno b hb]
      have h2 : l.filter (fun a => !p a) = l := List.filter_eq_self.2 fun b hb => by simp [hno b hb]
      simp [hp, h1, h2]

theorem of_append {front back : List α} (hf : ∀ a ∈ front, p a = true) (hb : ∀ a ∈ back, p a = false) :
    Fronted p (front ++ back) := by
  refine List.pairwise_append.2 ⟨?_, ?_, fun a ha _ _ _ => hf a ha⟩
  · exact List.Pairwise.imp_of_mem (fun {a b} ha _ _ _ => hf a ha)
      (List.pairwise_of_forall (fun _ _ => trivial) : front.Pairwise fun _ _ => True)
  · exact List.Pairwise.imp_of_mem (fun {a b} _ hb' _ h => by rw [hb b hb'] at h; cases h)
      (List.pairwise_of_forall (fun _ _ => trivial) : back.Pairwise fun _ _ => True)

theorem sublist {l l' : List α} (h : Fronted p l) (hs : l'.Sublist l) : Fronted p l' := List.Pairwise.sublist hs h

theorem map {l : List α} (h : Fronted p l) {f : α → α} (hf : ∀ a, p (f a) = p a) : Fronted p (l.map f) := by
  refine List.pairwise_map.2 (h.imp fun {a b} hab => ?_)
  rw [hf, hf]
  exact hab

theorem append_back {l : List α} (h : Fronted p l) {a : α} (ha : p a = false) : Fronted p (l ++ [a]) := by
  refine List.pairwise_append.2 ⟨h, List.pairwise_singleton _ _, fun b _ c hc hpc => ?_⟩
  rw [List.mem_singleton.1 hc, ha] at hpc
  cases hpc

/-! ## Inserting behind the front part -/

theorem insert_eq {l : List α} (h : Fronted p l) (a : α) :
    l.insertIdx (l.countP p) a = l.filter p ++ a :: l.filter (fun a => !p a) := by
  have key : ∀ (front back : List α), (front ++ back).insertIdx front.length a = front ++ a :: back := by
    intro front back
    induction front with
    | nil => simp
    | cons b front ih => simp [ih]
  rw [List.countP_eq_length_filter]
  conv => lhs; arg 1; rw [h.filter_append]
  exact key (l.filter p) (l.filter fun a => !p a)

theorem insert_front {l : List α} (h : Fronted p l) {a : α} (ha : p a = true) :
    Fronted p (l.insertIdx (l.countP p) a) := by
  rw [h.insert_eq, List.append_cons]
  refine of_append (fun b hb => ?_) (fun b hb => by simpa using (List.mem_filter.1 hb).2)
  rcases List.mem_append.1 hb with hb | hb
  · exact (List.mem_filter.1 hb).2
  · rw [List.mem_singleton.1 hb, ha]

theorem filter_insert {l : List α} (h : Fronted p l) {a : α} (ha : p a = true) :
    (l.insertIdx (l.countP p) a).filter p = l.filter p ++ [a] := by
  rw [h.insert_eq]
  simp [List.filter_append, ha, List.filter_filter]

/-! ## Taking an element out -/

theorem filter_eraseP {l : List α} (h : Fronted p l) (q : α → Bool) :
    (l.eraseP q).filter p = (l.filter p).eraseP q := by
  have hback : (l.filter fun a => !p a).filter p = [] := by simp [List.filter_filter]
  conv => lhs; rw [h.filter_append, List.eraseP_append]
  split
  · rw [List.filter_append, hback, List.append_nil]
    exact List.filter_eq_self.2 fun a ha => (List.mem_filter.1 (List.mem_of_mem_eraseP ha)).2
  · rename_i hany
    have hnone : ∀ a ∈ l.filter p, ¬ q a = true := by simpa using hany
    have hrest : ((l.filter fun a => !p a).eraseP q).filter p = [] := by
      apply List.filter_eq_nil_iff.2
      intro a ha
      simpa using (List.mem_filter.1 (List.mem_of_mem_eraseP ha)).2
    rw [List.filter_append, hrest, List.append_nil, List.eraseP_of_forall_not hnone, List.filter_filter]
    simp only [Bool.and_self]

/-! ## Reading by index -/

theorem getElem?_filter {l : List α} (h : Fronted p l) (i : Nat) (a : α) :
    (l.filter p)[i]? = some a ↔ l[i]? = some a ∧ p a = true := by
  constructor
  · intro hi
    have hp : p a = true := (List.mem_filter.1 (List.mem_of_getElem? hi)).2
    refine ⟨?_, hp⟩
    rw [h.filter_append, List.getElem?_append_left (List.getElem?_eq_some_iff.1 hi).1]
    exact hi
  · rintro ⟨hi, hp⟩
    rw [h.filter_append, List.getElem?_append] at hi
    split at hi
    · exact hi
    · have := (List.mem_filter.1 (List.mem_of_getElem? hi)).2
      simp [hp] at this

theorem take_countP {l : List α} (h : Fronted p l) : l.take (l.countP p) = l.filter p := by
  conv => lhs; rw [h.filter_append]
  rw [List.countP_append, List.countP_eq_length_filter, List.countP_eq_length_filter]
  simp

end Fronted

end Sf4e.Lib
