import Mathlib.Data.List.Forall2
/-!
# Machines and their runs

A machine takes one action at a time and emits outputs. A run is a list of
actions; its history keeps every step taken, newest first, so that a question
about the past ("has this happened since?") is a recursion over the history.

`inv_of_steps` turns a step lemma into a run lemma, for runs whose steps all
meet a condition. `unwind` is the two-run rule: erasing the hidden actions of a
run changes nothing an observer sees.
-/

namespace Sf4e.Lib

/-- A deterministic machine with outputs. -/
structure Machine (σ α ω : Type) where
  next : σ → α → σ × List ω

/-- One step of a run: the state before, the action, the state after, the outputs. -/
structure Taken (σ α ω : Type) where
  pre : σ
  act : α
  post : σ
  out : List ω

namespace Machine

variable {σ α ω : Type} (M : Machine σ α ω)

/-- The step the machine takes from `s` on `a`. -/
def taken (s : σ) (a : α) : Taken σ α ω := ⟨s, a, (M.next s a).1, (M.next s a).2⟩

/-- The state after a run. -/
def run (s : σ) (as : List α) : σ := as.foldl (fun s a => (M.next s a).1) s

/-- The steps of a run, newest first, on top of the steps `h` before it. -/
def hist (s : σ) (h : List (Taken σ α ω)) : List α → List (Taken σ α ω)
  | [] => h
  | a :: as => hist (M.next s a).1 (M.taken s a :: h) as

/-- Every output of a run, in order. -/
def outs (s : σ) : List α → List ω
  | [] => []
  | a :: as => (M.next s a).2 ++ outs (M.next s a).1 as

@[simp] theorem run_nil (s : σ) : M.run s [] = s := rfl

@[simp] theorem run_cons (s : σ) (a : α) (as : List α) :
    M.run s (a :: as) = M.run (M.next s a).1 as := rfl

theorem run_append (s : σ) (as bs : List α) : M.run s (as ++ bs) = M.run (M.run s as) bs := by
  simp [run, List.foldl_append]

theorem outs_append (s : σ) (as bs : List α) :
    M.outs s (as ++ bs) = M.outs s as ++ M.outs (M.run s as) bs := by
  induction as generalizing s with
  | nil => rfl
  | cons a as ih => simp only [List.cons_append, outs, ih, run_cons, List.append_assoc]

/-! ## Runs whose steps all meet a condition -/

/-- Every step of the run meets `C`, which sees the history, the state before
the step and the action. -/
def Meets (C : List (Taken σ α ω) → σ → α → Prop) (s : σ) (h : List (Taken σ α ω)) : List α → Prop
  | [] => True
  | a :: as => C h s a ∧ Meets C (M.next s a).1 (M.taken s a :: h) as

instance Meets.decidable (C : List (Taken σ α ω) → σ → α → Prop) [∀ h s a, Decidable (C h s a)] :
    (s : σ) → (h : List (Taken σ α ω)) → (as : List α) → Decidable (M.Meets C s h as)
  | _, _, [] => .isTrue trivial
  | s, h, a :: as =>
    haveI := Meets.decidable C (M.next s a).1 (M.taken s a :: h) as
    inferInstanceAs (Decidable (C h s a ∧ M.Meets C (M.next s a).1 (M.taken s a :: h) as))

variable {M} {C : List (Taken σ α ω) → σ → α → Prop}

theorem meets_append {s : σ} {h : List (Taken σ α ω)} {as bs : List α} :
    M.Meets C s h (as ++ bs) ↔ M.Meets C s h as ∧ M.Meets C (M.run s as) (M.hist s h as) bs := by
  induction as generalizing s h with
  | nil => simp [Meets, hist]
  | cons a as ih => simp only [List.cons_append, Meets, ih, run_cons, hist, and_assoc]

theorem meets_true {s : σ} {h : List (Taken σ α ω)} {as : List α} :
    M.Meets (fun _ _ _ => True) s h as := by
  induction as generalizing s h with
  | nil => trivial
  | cons a as ih => exact ⟨trivial, ih⟩

theorem Meets.mono {D : List (Taken σ α ω) → σ → α → Prop} (hCD : ∀ h s a, C h s a → D h s a)
    {s : σ} {h : List (Taken σ α ω)} {as : List α} (hm : M.Meets C s h as) : M.Meets D s h as := by
  induction as generalizing s h with
  | nil => trivial
  | cons a as ih => exact ⟨hCD _ _ _ hm.1, ih hm.2⟩

theorem meets_of_forall {D : α → Prop} {s : σ} {h : List (Taken σ α ω)} {as : List α} (hD : ∀ a ∈ as, D a) :
    M.Meets (fun _ _ a => D a) s h as := by
  induction as generalizing s h with
  | nil => trivial
  | cons a as ih =>
    rw [List.forall_mem_cons] at hD
    exact ⟨hD.1, ih hD.2⟩

/-- The steps of a run are those before it and its own. -/
theorem forall_hist {D : σ → α → Prop} {s : σ} {h : List (Taken σ α ω)} {as : List α} :
    (∀ t ∈ M.hist s h as, D t.pre t.act) ↔ (∀ t ∈ h, D t.pre t.act) ∧ M.Meets (fun _ => D) s h as := by
  induction as generalizing s h with
  | nil => simp [hist, Meets]
  | cons a as ih =>
    simp only [hist, ih, Meets, List.forall_mem_cons, taken]
    rw [and_comm (a := D s a), and_assoc]

/-- An invariant of state and history, kept by every step that meets `C`, holds
after every run whose steps all meet `C`. -/
theorem inv_of_steps (I : List (Taken σ α ω) → σ → Prop)
    (hstep : ∀ h s a, I h s → C h s a → I (M.taken s a :: h) (M.next s a).1)
    {s : σ} {h : List (Taken σ α ω)} {as : List α} (h0 : I h s) (hm : M.Meets C s h as) :
    I (M.hist s h as) (M.run s as) := by
  induction as generalizing s h with
  | nil => exact h0
  | cons a as ih => exact ih (hstep h s a h0 hm.1) hm.2

/-- Under an invariant kept by every step that meets `C`, what the invariant and
`C` give of one step holds of every step of the run. -/
theorem meets_of_inv (I : List (Taken σ α ω) → σ → Prop) {D : List (Taken σ α ω) → σ → α → Prop}
    (hstep : ∀ h s a, I h s → C h s a → I (M.taken s a :: h) (M.next s a).1)
    (hD : ∀ h s a, I h s → C h s a → D h s a)
    {s : σ} {h : List (Taken σ α ω)} {as : List α} (h0 : I h s) (hm : M.Meets C s h as) :
    M.Meets D s h as := by
  induction as generalizing s h with
  | nil => trivial
  | cons a as ih => exact ⟨hD h s a h0 hm.1, ih (hstep h s a h0 hm.1) hm.2⟩

theorem Meets.and {D : List (Taken σ α ω) → σ → α → Prop} {s : σ} {h : List (Taken σ α ω)} {as : List α}
    (hC : M.Meets C s h as) (hD : M.Meets D s h as) : M.Meets (fun h s a => C h s a ∧ D h s a) s h as := by
  induction as generalizing s h with
  | nil => trivial
  | cons a as ih => exact ⟨⟨hC.1, hD.1⟩, ih hC.2 hD.2⟩

/-- An invariant of the state alone, kept by every step. -/
theorem inv_of_all_steps (I : σ → Prop) (hstep : ∀ s a, I s → I (M.next s a).1)
    {s : σ} (as : List α) (h0 : I s) : I (M.run s as) := by
  induction as generalizing s with
  | nil => exact h0
  | cons a as ih => exact ih (hstep s a h0)

/-- Two conditions that agree on every step from a state that meets `I`, which the
second one hands on, are met by the same runs. -/
theorem meets_iff_of_inv (I : σ → Prop) {C D : σ → α → Prop} (hiff : ∀ s a, I s → (C s a ↔ D s a))
    (hI : ∀ s a, I s → D s a → I (M.next s a).1) {s : σ} {h : List (Taken σ α ω)} {as : List α} (h0 : I s) :
    M.Meets (fun _ => C) s h as ↔ M.Meets (fun _ => D) s h as := by
  induction as generalizing s h with
  | nil => rfl
  | cons a as ih =>
    simp only [Meets, hiff s a h0]
    exact and_congr_right fun hD => ih (hI s a h0 hD)

/-- An invariant of the state and of everything emitted so far. -/
theorem inv_of_outs (I : List ω → σ → Prop)
    (hstep : ∀ o h s a, I o s → C h s a → I (o ++ (M.next s a).2) (M.next s a).1)
    {o : List ω} {s : σ} {h : List (Taken σ α ω)} {as : List α} (h0 : I o s) (hm : M.Meets C s h as) :
    I (o ++ M.outs s as) (M.run s as) := by
  induction as generalizing o s h with
  | nil => simpa [outs] using h0
  | cons a as ih =>
    simp only [outs, run_cons, ← List.append_assoc]
    exact ih (hstep o h s a h0 hm.1) hm.2

/-! ## Two runs -/

/-- What an observer sees of the outputs. -/
def seen (vis : ω → Bool) (out : List ω) : List ω := out.filter vis

/-- Unwinding. `R` relates the states of two runs, `hidden` picks the actions to
erase. A hidden action keeps `R` with the other run standing still and emits
nothing visible; any other action keeps `R` when both runs take it, with the
same visible outputs. Then erasing the hidden actions of a run changes nothing
visible, and the two runs end related. -/
theorem unwind (R : σ → σ → Prop) (hidden : α → Bool) (vis : ω → Bool) (D : σ → α → Prop)
    (hhid : ∀ s t a, R s t → D s a → hidden a = true →
      R (M.next s a).1 t ∧ seen vis (M.next s a).2 = [])
    (hshow : ∀ s t a, R s t → D s a → hidden a = false →
      R (M.next s a).1 (M.next t a).1 ∧ seen vis (M.next s a).2 = seen vis (M.next t a).2)
    {s t : σ} {h : List (Taken σ α ω)} {as : List α} (hR : R s t)
    (hm : M.Meets (fun _ s a => D s a) s h as) :
    R (M.run s as) (M.run t (as.filter fun a => !hidden a)) ∧
      seen vis (M.outs s as) = seen vis (M.outs t (as.filter fun a => !hidden a)) := by
  induction as generalizing s t h with
  | nil => exact ⟨hR, rfl⟩
  | cons a as ih =>
    cases ha : hidden a with
    | true =>
      obtain ⟨hR', hout⟩ := hhid s t a hR hm.1 ha
      obtain ⟨hend, hsee⟩ := ih hR' hm.2
      simp only [seen] at hout hsee ⊢
      simp only [List.filter_cons, ha, Bool.not_true, Bool.false_eq_true, if_false, run_cons, outs,
        List.filter_append, hout, List.nil_append]
      exact ⟨hend, hsee⟩
    | false =>
      obtain ⟨hR', hout⟩ := hshow s t a hR hm.1 ha
      obtain ⟨hend, hsee⟩ := ih hR' hm.2
      simp only [seen] at hout hsee ⊢
      simp only [List.filter_cons, ha, Bool.not_false, if_true, run_cons, outs, List.filter_append, hout, hsee]
      exact ⟨hend, trivial⟩

/-- Two runs in step: a relation that every step keeps, with the same visible outputs. -/
theorem lockstep (R : σ → σ → Prop) (vis : ω → Bool)
    (hstep : ∀ s t a, R s t → R (M.next s a).1 (M.next t a).1 ∧ seen vis (M.next s a).2 = seen vis (M.next t a).2)
    {s t : σ} (hR : R s t) (as : List α) :
    R (M.run s as) (M.run t as) ∧ seen vis (M.outs s as) = seen vis (M.outs t as) := by
  have hall : (as.filter fun _ => !false) = as := List.filter_eq_self.2 fun _ _ => rfl
  have hmeets : M.Meets (fun _ _ _ => True) s [] as := meets_true
  have h := unwind R (fun _ => false) vis (fun _ _ => True) (fun _ _ _ _ _ hf => by cases hf)
    (fun s t a hR _ _ => hstep s t a hR) hR hmeets
  rwa [hall] at h

/-- Two runs over related actions. Steps that keep `R` and are related by `D` give two histories
related step by step. -/
theorem forall₂_hist (R : σ → σ → Prop) (A : α → α → Prop) (D : Taken σ α ω → Taken σ α ω → Prop)
    (hstep : ∀ s t a b, R s t → A a b → R (M.next s a).1 (M.next t b).1 ∧ D (M.taken s a) (M.taken t b))
    {s t : σ} {as bs : List α} {h h' : List (Taken σ α ω)} (hR : R s t) (hA : List.Forall₂ A as bs)
    (hD : List.Forall₂ D h h') : List.Forall₂ D (M.hist s h as) (M.hist t h' bs) := by
  induction hA generalizing s t h h' with
  | nil => exact hD
  | cons hab _ ih =>
    obtain ⟨hnext, hstepD⟩ := hstep _ _ _ _ hR hab
    exact ih hnext (.cons hstepD hD)

/-- A machine that does what another does, and at times nothing that the other would see. Its run is
that of the other on fewer actions. -/
theorem refines {τ : Type} {N : Machine τ α ω} (R : σ → τ → Prop) {C : σ → α → Prop}
    (hstep : ∀ s t a, R s t → C s a →
      (R (M.next s a).1 (N.next t a).1 ∧ (M.next s a).2 = (N.next t a).2) ∨ (R (M.next s a).1 t ∧ (M.next s a).2 = []))
    {s : σ} {t : τ} (hR : R s t) {h : List (Taken σ α ω)} {as : List α} (hC : M.Meets (fun _ => C) s h as) :
    ∃ bs, bs.Sublist as ∧ R (M.run s as) (N.run t bs) ∧ M.outs s as = N.outs t bs := by
  induction as generalizing s t h with
  | nil => exact ⟨[], .slnil, hR, rfl⟩
  | cons a as ih =>
    rcases hstep s t a hR hC.1 with ⟨hR', hout⟩ | ⟨hR', hout⟩
    · obtain ⟨bs, hbs, hend, houts⟩ := ih hR' hC.2
      exact ⟨a :: bs, hbs.cons_cons a, hend, by rw [outs, outs, hout, houts]⟩
    · obtain ⟨bs, hbs, hend, houts⟩ := ih hR' hC.2
      exact ⟨bs, hbs.cons a, hend, by rw [outs, hout, houts, List.nil_append]⟩

end Machine

end Sf4e.Lib
