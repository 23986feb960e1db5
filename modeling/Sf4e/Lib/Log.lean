import Mathlib.Data.List.Infix
import Mathlib.Data.List.TakeWhile
/-!
# Logs

A log lists what a run has done, newest first. `since` is the part of it after the newest
mark, `Always` says something of every entry and of what came before it, and `Leads` says
that the entries are in order.
-/

namespace Sf4e.Lib.Log

variable {α φ : Type}

/-! ## Since a mark -/

/-- What the log has after its newest mark. -/
def since (mark : α → Bool) (log : List α) : List α := log.takeWhile fun a => !mark a

@[simp] theorem since_nil (mark : α → Bool) : since mark [] = [] := rfl

theorem since_mark {mark : α → Bool} {a : α} (h : mark a = true) (log : List α) : since mark (a :: log) = [] := by
  simp [since, h]

theorem since_other {mark : α → Bool} {a : α} (h : mark a = false) (log : List α) :
    since mark (a :: log) = a :: since mark log := by
  simp [since, h]

/-- What is added without a mark stays. -/
theorem since_append {mark : α → Bool} {new : List α} (h : ∀ a ∈ new, mark a = false) (log : List α) :
    since mark (new ++ log) = new ++ since mark log :=
  List.takeWhile_append_of_pos fun a ha => by rw [h a ha]; rfl

theorem mem_of_since {mark : α → Bool} {log : List α} {a : α} (h : a ∈ since mark log) : a ∈ log :=
  (List.takeWhile_prefix _).subset h

/-! ## What stands -/

/-- The log has the entry, and all that has come after it is of this kind. -/
def Stands (K : α → Prop) (a : α) (log : List α) : Prop :=
  ∃ new before, log = new ++ a :: before ∧ ∀ e ∈ new, K e

theorem stands_cons {K : α → Prop} {a e : α} {log : List α} :
    Stands K a (e :: log) ↔ e = a ∨ K e ∧ Stands K a log := by
  constructor
  · rintro ⟨new, before, hlog, hnew⟩
    cases new with
    | nil => exact .inl (List.cons.inj hlog).1
    | cons b new =>
      obtain ⟨rfl, rfl⟩ := List.cons.inj hlog
      obtain ⟨hb, hnew⟩ := List.forall_mem_cons.1 hnew
      exact .inr ⟨hb, new, before, rfl, hnew⟩
  · rintro (rfl | ⟨he, new, before, rfl, hnew⟩)
    · exact ⟨[], log, rfl, nofun⟩
    · exact ⟨e :: new, before, rfl, List.forall_mem_cons.2 ⟨he, hnew⟩⟩

/-! ## Every entry and its past -/

def Always (P : α → List α → Prop) (log : List α) : Prop := ∀ a before, a :: before <:+ log → P a before

variable {P Q : α → List α → Prop} {a : α} {log : List α}

theorem always_nil : Always P [] := fun _ _ h => absurd (List.suffix_nil.1 h) (List.cons_ne_nil _ _)

theorem always_cons : Always P (a :: log) ↔ P a log ∧ Always P log := by
  constructor
  · intro h
    exact ⟨h a log (List.suffix_refl _), fun b before hb => h b before (hb.trans (List.suffix_cons a log))⟩
  · rintro ⟨ha, hlog⟩ b before hb
    rcases List.suffix_cons_iff.1 hb with heq | hb
    · obtain ⟨rfl, rfl⟩ := List.cons.inj heq
      exact ha
    · exact hlog b before hb

theorem always_append {new : List α} (hnew : ∀ a ∈ new, ∀ before, P a before) (h : Always P log) :
    Always P (new ++ log) := by
  induction new with
  | nil => exact h
  | cons a new ih =>
    rw [List.forall_mem_cons] at hnew
    exact always_cons.2 ⟨hnew.1 _, ih hnew.2⟩

theorem Always.mono (h : Always P log) (hPQ : ∀ a before, P a before → Q a before) : Always Q log :=
  fun a before hb => hPQ a before (h a before hb)

/-! ## Growth -/

/-- Entries of this kind have come on top of the log. -/
def Grows (K : α → Prop) (log log' : List α) : Prop := ∃ new, log' = new ++ log ∧ ∀ a ∈ new, K a

namespace Grows

variable {K L : α → Prop} {log log' log'' : List α}

theorem refl (log : List α) : Grows K log log := ⟨[], rfl, nofun⟩

theorem one {a : α} (ha : K a) : Grows K log (a :: log) := ⟨[a], rfl, by simpa using ha⟩

theorem trans (h : Grows K log log') (h' : Grows K log' log'') : Grows K log log'' := by
  obtain ⟨new, rfl, hnew⟩ := h
  obtain ⟨new', rfl, hnew'⟩ := h'
  exact ⟨new' ++ new, (List.append_assoc ..).symm, List.forall_mem_append.2 ⟨hnew', hnew⟩⟩

theorem mono (h : Grows K log log') (hKL : ∀ a, K a → L a) : Grows L log log' := by
  obtain ⟨new, hlog, hnew⟩ := h
  exact ⟨new, hlog, fun a ha => hKL a (hnew a ha)⟩

end Grows

/-! ## Order -/

/-- The log leads from one phase to another, one entry at a time. -/
inductive Leads (follows : φ → α → φ → Prop) (start : φ) : List α → φ → Prop where
  | nil : Leads follows start [] start
  | cons {before : List α} {p q : φ} {a : α} (h : Leads follows start before p) (ha : follows p a q) :
    Leads follows start (a :: before) q

end Sf4e.Lib.Log
