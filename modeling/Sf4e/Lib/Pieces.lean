import Mathlib.Data.List.Basic
/-!
# Texts in pieces

A text that is built by appending pieces with a comma and a blank between them.
Split at the commas, it gives its pieces back, and the first word of each says
what it is about.
-/

namespace Sf4e.Lib

variable {α : Type}

/-- `if (!out.empty()) out += separator; out += piece;`. -/
def appendPiece (separator out piece : List α) : List α := if out = [] then piece else out ++ separator ++ piece

section Words

variable [DecidableEq α]

/-- What stands before the first blank, leading ones left out. -/
def firstWord (blank : α) (piece : List α) : List α := (piece.dropWhile (· = blank)).takeWhile (· ≠ blank)

/-- One of the text's pieces begins with this word. -/
def Names (comma blank : α) (text word : List α) : Prop := word ∈ (text.splitOn comma).map (firstWord blank)

instance (comma blank : α) (text word : List α) : Decidable (Names comma blank text word) :=
  inferInstanceAs (Decidable (word ∈ (text.splitOn comma).map (firstWord blank)))

end Words

variable {separator piece out : List α} {pieces : List (List α)}

theorem appendPiece_ne_nil (hp : piece ≠ []) (out : List α) : appendPiece separator out piece ≠ [] := by
  unfold appendPiece
  split
  · exact hp
  · simp [hp]

/-- Appended to a text that is not empty, the pieces follow it, each behind a separator. -/
theorem foldl_appendPiece (hout : out ≠ []) (hp : ∀ p ∈ pieces, p ≠ []) :
    pieces.foldl (appendPiece separator) out = separator.intercalate (out :: pieces) := by
  induction pieces generalizing out with
  | nil => simp
  | cons p ps ih =>
    rw [List.foldl_cons, ih (appendPiece_ne_nil (hp p List.mem_cons_self) out) fun q hq => hp q (List.mem_cons_of_mem p hq)]
    rw [appendPiece, if_neg hout]
    cases ps with
    | nil => simp
    | cons q qs => simp

theorem foldl_appendPiece_nil (hp : ∀ p ∈ pieces, p ≠ []) :
    pieces.foldl (appendPiece separator) [] = separator.intercalate pieces := by
  cases pieces with
  | nil => rfl
  | cons p ps =>
    rw [List.foldl_cons, appendPiece, if_pos rfl]
    exact foldl_appendPiece (hp p List.mem_cons_self) fun q hq => hp q (List.mem_cons_of_mem p hq)

theorem intercalate_cons_eq (separator p : List α) (ps : List (List α)) :
    separator.intercalate (p :: ps) = p ++ ps.flatMap (separator ++ ·) := by
  induction ps generalizing p with
  | nil => simp
  | cons q qs ih => rw [List.intercalate_cons_cons, ih, List.flatMap_cons, List.append_assoc, List.append_assoc]

/-- Pieces under a heading are pieces, the first with the heading. -/
theorem appendPiece_heading (out heading : List α) (hpiece : piece ≠ []) (hp : ∀ p ∈ pieces, p ≠ []) :
    appendPiece separator out (heading ++ pieces.foldl (appendPiece separator) piece) =
      pieces.foldl (appendPiece separator) (appendPiece separator out (heading ++ piece)) := by
  rw [foldl_appendPiece hpiece hp, foldl_appendPiece (appendPiece_ne_nil (by simp [hpiece]) out) hp,
    intercalate_cons_eq, intercalate_cons_eq]
  unfold appendPiece
  split
  · rw [List.append_assoc]
  · simp only [List.append_assoc]

variable [DecidableEq α]

theorem firstWord_blank (blank : α) (piece : List α) : firstWord blank (blank :: piece) = firstWord blank piece := by
  unfold firstWord
  rw [List.dropWhile_cons_of_pos (by simp)]

theorem firstWord_head {blank a : α} (ha : a ≠ blank) (rest : List α) :
    (firstWord blank (a :: rest)).head? = some a := by
  unfold firstWord
  rw [List.dropWhile_cons_of_neg (by simpa using ha), List.takeWhile_cons_of_pos (by simpa using ha)]
  rfl

/-- A word without blanks is the first one of what follows it behind a blank. -/
theorem firstWord_append {blank : α} {word : List α} (hne : word ≠ []) (hword : blank ∉ word) (rest : List α) :
    firstWord blank (word ++ blank :: rest) = word := by
  unfold firstWord
  cases word with
  | nil => exact absurd rfl hne
  | cons a word =>
    have ha : a ≠ blank := fun h => hword (h ▸ List.mem_cons_self)
    rw [List.cons_append, List.dropWhile_cons_of_neg (by simpa using ha), ← List.cons_append,
      List.takeWhile_append_of_pos]
    · simp
    · intro b hb
      simpa using fun h : b = blank => hword (h ▸ hb)

/-- A text names what the first words of its pieces are. -/
theorem names_intercalate {comma blank : α} (hne : pieces ≠ []) (hblank : blank ≠ comma)
    (hcomma : ∀ p ∈ pieces, comma ∉ p) (word : List α) :
    Names comma blank ([comma, blank].intercalate pieces) word ↔ ∃ p ∈ pieces, firstWord blank p = word := by
  cases pieces with
  | nil => exact absurd rfl hne
  | cons p ps =>
    -- a comma and a blank between the pieces are a comma, and a blank before all but the first
    have hpair : [comma, blank].intercalate (p :: ps) = [comma].intercalate (p :: ps.map (blank :: ·)) := by
      rw [intercalate_cons_eq, intercalate_cons_eq, List.flatMap_map]
      rfl
    have hwords : (p :: ps.map (blank :: ·)).map (firstWord blank) = (p :: ps).map (firstWord blank) := by
      rw [List.map_cons, List.map_cons, List.map_map]
      congr 1
      exact List.map_congr_left fun q _ => firstWord_blank blank q
    unfold Names
    rw [hpair, List.splitOn_intercalate comma _ (List.cons_ne_nil _ _)]
    · rw [hwords, List.mem_map]
    · intro l hl
      rcases List.mem_cons.1 hl with rfl | hl
      · exact hcomma l List.mem_cons_self
      · obtain ⟨q, hq, rfl⟩ := List.mem_map.1 hl
        rw [List.mem_cons, not_or]
        exact ⟨hblank.symm, hcomma q (List.mem_cons_of_mem p hq)⟩

end Sf4e.Lib
