import Mathlib.Data.Finset.Card
import Mathlib.Data.Finset.Image
import Mathlib.Data.Fintype.Card
/-!
# Matchings

A matching gives some members of one finite set a partner each in another, no
partner to two of them. It is `Full` when nobody without a partner could still
have one. Where two members may be partners exactly if their keys agree, a full
matching has as many pairs of each key as there can be.
-/

namespace Sf4e.Lib

variable {α β κ : Type}

/-- Partners are in `A` and `B` and fit, and no `b` is the partner of two. -/
structure Matching (A : Finset α) (B : Finset β) (fits : α → β → Prop) (partner : α → Option β) : Prop where
  left : ∀ {a b}, partner a = some b → a ∈ A
  right : ∀ {a b}, partner a = some b → b ∈ B
  fits : ∀ {a b}, partner a = some b → fits a b
  apart : ∀ {a a' b}, partner a = some b → partner a' = some b → a = a'

namespace Matching

variable {A : Finset α} {B : Finset β} {fits : α → β → Prop} {partner : α → Option β}

/-- Whoever fits somebody without a partner is taken. -/
def Full (A : Finset α) (B : Finset β) (fits : α → β → Prop) (partner : α → Option β) : Prop :=
  ∀ a ∈ A, partner a = none → ∀ b ∈ B, fits a b → ∃ a', partner a' = some b

theorem empty (A : Finset α) (B : Finset β) (fits : α → β → Prop) : Matching A B fits fun _ => none :=
  ⟨nofun, nofun, nofun, nofun⟩

theorem mono (h : Matching A B fits partner) {A' : Finset α} {B' : Finset β} {fits' : α → β → Prop} (hA : A ⊆ A')
    (hB : B ⊆ B') (hfits : ∀ {a b}, b ∈ B → fits a b → fits' a b) : Matching A' B' fits' partner :=
  ⟨fun hp => hA (h.left hp), fun hp => hB (h.right hp), fun hp => hfits (h.right hp) (h.fits hp), h.apart⟩

/-- A new pair of two that are free. -/
theorem insert [DecidableEq α] (h : Matching A B fits partner) {a : α} {b : β} (ha : a ∈ A) (hb : b ∈ B)
    (hfits : fits a b) (hfree : ∀ a', partner a' ≠ some b) :
    Matching A B fits (Function.update partner a (some b)) := by
  have hcases : ∀ {x y}, Function.update partner a (some b) x = some y → (x = a ∧ y = b) ∨ partner x = some y := by
    intro x y hxy
    by_cases hx : x = a
    · subst hx
      rw [Function.update_self] at hxy
      exact .inl ⟨rfl, (Option.some.inj hxy).symm⟩
    · rw [Function.update_of_ne hx] at hxy
      exact .inr hxy
  refine ⟨fun hxy => ?_, fun hxy => ?_, fun hxy => ?_, fun {x x' y} hx hx' => ?_⟩
  · rcases hcases hxy with ⟨rfl, -⟩ | hxy
    exacts [ha, h.left hxy]
  · rcases hcases hxy with ⟨-, rfl⟩ | hxy
    exacts [hb, h.right hxy]
  · rcases hcases hxy with ⟨rfl, rfl⟩ | hxy
    exacts [hfits, h.fits hxy]
  · rcases hcases hx with ⟨rfl, rfl⟩ | hold <;> rcases hcases hx' with ⟨rfl, heq⟩ | hold'
    · rfl
    · exact absurd hold' (hfree x')
    · exact absurd (heq ▸ hold) (hfree x)
    · exact h.apart hold hold'

/-- Who has a partner once `b` is paired with an `a` that had none. -/
theorem partner_insert [DecidableEq α] {a : α} {b : β} (hnone : partner a = none) (y : β) :
    (∃ x, Function.update partner a (some b) x = some y) ↔ y = b ∨ ∃ x, partner x = some y := by
  constructor
  · rintro ⟨x, hx⟩
    by_cases hxa : x = a
    · subst hxa
      rw [Function.update_self] at hx
      exact .inl (Option.some.inj hx).symm
    · rw [Function.update_of_ne hxa] at hx
      exact .inr ⟨x, hx⟩
  · rintro (rfl | ⟨x, hx⟩)
    · exact ⟨a, Function.update_self _ _ _⟩
    · have hxa : x ≠ a := by
        rintro rfl
        rw [hnone] at hx
        cases hx
      exact ⟨x, by rw [Function.update_of_ne hxa]; exact hx⟩

/-- When everybody in `B` is taken and somebody in `A` is without a partner, `B` is the smaller. -/
theorem card_lt [DecidableEq α] [DecidableEq β] (h : Matching A B fits partner)
    (honto : ∀ b ∈ B, ∃ a, partner a = some b) {a : α} (ha : a ∈ A) (hnone : partner a = none) : B.card < A.card := by
  have hsome : B.card ≤ ((A.erase a).image partner).card := by
    rw [← Finset.card_image_of_injective B (Option.some_injective β)]
    refine Finset.card_le_card fun o ho => ?_
    obtain ⟨b, hb, rfl⟩ := Finset.mem_image.1 ho
    obtain ⟨a', ha'⟩ := honto b hb
    refine Finset.mem_image.2 ⟨a', Finset.mem_erase.2 ⟨?_, h.left ha'⟩, ha'⟩
    rintro rfl
    rw [hnone] at ha'
    cases ha'
  calc B.card ≤ ((A.erase a).image partner).card := hsome
    _ ≤ (A.erase a).card := Finset.card_image_le
    _ < A.card := Finset.card_erase_lt_of_mem ha

/-- Where partners are those with the same key, a full matching pairs off the smaller side of each
key. -/
theorem card_taken [DecidableEq α] [DecidableEq β] [DecidableEq κ] {left : α → κ} {right : β → κ}
    (h : Matching A B (fun a b => left a = right b) partner)
    (hfull : Full A B (fun a b => left a = right b) partner) (k : κ) (taken : β → Prop) [DecidablePred taken]
    (htaken : ∀ b, taken b ↔ ∃ a, partner a = some b) :
    (B.filter fun b => right b = k ∧ taken b).card =
      min (A.filter fun a => left a = k).card (B.filter fun b => right b = k).card := by
  have hpairs : ((A.filter fun a => left a = k ∧ (partner a).isSome = true)).card =
      (B.filter fun b => right b = k ∧ taken b).card := by
    refine Finset.card_bij (fun a ha => (partner a).get (Finset.mem_filter.1 ha).2.2) ?_ ?_ ?_
    · intro a ha
      obtain ⟨hA, hk, hsome⟩ := Finset.mem_filter.1 ha
      have hpartner : partner a = some ((partner a).get hsome) := (Option.some_get hsome).symm
      exact Finset.mem_filter.2 ⟨h.right hpartner, (h.fits hpartner).symm.trans hk, (htaken _).2 ⟨a, hpartner⟩⟩
    · intro a ha a' ha' heq
      have hpartner := Option.some_get (Finset.mem_filter.1 ha).2.2
      have hpartner' := Option.some_get (Finset.mem_filter.1 ha').2.2
      exact h.apart hpartner.symm (heq ▸ hpartner'.symm)
    · intro b hb
      obtain ⟨hB, hk, hb⟩ := Finset.mem_filter.1 hb
      obtain ⟨a, ha⟩ := (htaken b).1 hb
      refine ⟨a, Finset.mem_filter.2 ⟨h.left ha, (h.fits ha).trans hk, by rw [ha]; rfl⟩, ?_⟩
      simp only [ha, Option.get_some]
  have hright : (B.filter fun b => right b = k ∧ taken b).card ≤ (B.filter fun b => right b = k).card :=
    Finset.card_le_card fun b hb => by
      obtain ⟨hB, hk, -⟩ := Finset.mem_filter.1 hb
      exact Finset.mem_filter.2 ⟨hB, hk⟩
  have hleft : (A.filter fun a => left a = k ∧ (partner a).isSome = true).card ≤ (A.filter fun a => left a = k).card :=
    Finset.card_le_card fun a ha => by
      obtain ⟨hA, hk, -⟩ := Finset.mem_filter.1 ha
      exact Finset.mem_filter.2 ⟨hA, hk⟩
  by_cases hall : ∀ a ∈ A, left a = k → (partner a).isSome = true
  · have heq : (A.filter fun a => left a = k ∧ (partner a).isSome = true) = A.filter fun a => left a = k :=
      Finset.filter_congr fun a ha => ⟨fun h => h.1, fun hk => ⟨hk, hall a ha hk⟩⟩
    rw [heq] at hpairs
    omega
  · push Not at hall
    obtain ⟨a, ha, hk, hnone⟩ := hall
    have hnone : partner a = none := by
      cases hp : partner a with
      | none => rfl
      | some b => rw [hp] at hnone; exact absurd rfl hnone
    have heq : (B.filter fun b => right b = k ∧ taken b) = B.filter fun b => right b = k := by
      refine Finset.filter_congr fun b hb => ⟨fun h => h.1, fun hkb => ⟨hkb, ?_⟩⟩
      exact (htaken b).2 (hfull a ha hnone b hb (hk.trans hkb.symm))
    rw [heq] at hpairs ⊢
    omega

end Matching

/-- Two sets have the same labels, as often, when one is the other's image and labels agree. -/
theorem labels_eq_of_image [DecidableEq β] {A : Finset α} {B : Finset β} (place : α → β)
    (hinj : ∀ a ∈ A, ∀ a' ∈ A, place a = place a' → a = a') (himage : A.image place = B)
    {left : α → κ} {right : β → κ} (hlabel : ∀ a ∈ A, right (place a) = left a) :
    B.val.map right = A.val.map left := by
  rw [← himage, Finset.image_val_of_injOn fun a ha a' ha' => hinj a ha a' ha', Multiset.map_map]
  exact Multiset.map_congr rfl hlabel

end Sf4e.Lib
