import Sf4e.Lib.Json
import Sf4e.Lib.Search
/-!
# The header of a router's reply

`HeaderValue` looks for `location:` in the whole text of an SSDP reply. `headerValue_iff`:
that gives the LOCATION header unless an earlier line has the key in it with something else behind.
-/
open Sf4e.Lib

namespace Sf4e.Netplay.Upnp

/-- `tolower` of the "C" locale. -/
def tolower (c : UInt8) : UInt8 := if 65 ≤ c ∧ c ≤ 90 then c + 32 else c

def isBlank (c : UInt8) : Bool := c = 32 || c = 9

/-- Neither `\r` nor `\n`. -/
def inLine (c : UInt8) : Bool := c != 13 && c != 10

/-- `HeaderValue`. -/
def headerValue (text name : Bytes) : Bytes :=
  let lower := text.map tolower
  let key := name.map tolower
  match findSub key lower with
  | none => []
  | some start =>
    let value := (text.drop (start + key.length)).dropWhile isBlank
    value.takeWhile inLine

/-! ## Replies -/

inductive Break where
  | crlf
  | lf

def Break.bytes : Break → Bytes
  | crlf => [13, 10]
  | lf => [10]

/-- A line, without its end. -/
abbrev Line := {l : Bytes // ∀ c ∈ l, inLine c = true}

/-- A start line and header lines, each behind a line's end. An empty last line ends the text in one. -/
structure Reply where
  startLine : Line
  headers : List (Break × Line)

def Reply.text (r : Reply) : Bytes := r.startLine.1 ++ r.headers.flatMap fun h => h.1.bytes ++ h.2.1

/-- What a header line is called: its text before the first colon. -/
def headerName (line : Bytes) : Option Bytes := if 58 ∈ line then some (line.takeWhile (· ≠ 58)) else none

/-- What stands behind the first colon, without the blanks it begins with. -/
def fieldValue (line : Bytes) : Bytes := ((line.dropWhile (· ≠ 58)).drop 1).dropWhile isBlank

def isLocation (line : Line) : Bool := (headerName line.1).map (List.map tolower) = some (ascii "location")

/-- The value of the first LOCATION header, empty without one. -/
def Reply.location (r : Reply) : Bytes :=
  (((r.headers.map (·.2)).find? isLocation).map fun line => fieldValue line.1).getD []

/-- The lines before the first LOCATION header. -/
def Reply.before (r : Reply) : List Line := r.startLine :: (r.headers.map (·.2)).takeWhile fun line => !isLocation line

def locationKey : Bytes := ascii "location:"

/-- What a line has behind its first `location:`. -/
def behindKey (line : Line) : Option Bytes := restOfLine tolower locationKey inLine line.1

/-! ## The search, line by line -/

theorem headerValue_eq (text : Bytes) :
    headerValue text locationKey = ((restOfLine tolower locationKey inLine text).getD []).dropWhile isBlank := by
  have key : locationKey.map tolower = locationKey := by decide
  have blank_in_line (c : UInt8) (h : isBlank c = true) : inLine c = true := by
    rcases Bool.or_eq_true_iff.1 h with space | tab
    · rw [of_decide_eq_true space]; rfl
    · rw [of_decide_eq_true tab]; rfl
  unfold headerValue restOfLine
  dsimp only
  rw [key]
  cases findSub locationKey (text.map tolower) with
  | none => rfl
  | some start => exact takeWhile_dropWhile blank_in_line _

theorem restOfLine_break (line : Line) (brk : Break) (text : Bytes) :
    restOfLine tolower locationKey inLine (line.1 ++ (brk.bytes ++ text)) =
      (behindKey line).or (restOfLine tolower locationKey inLine text) := by
  have hk : locationKey ≠ [] := by decide
  cases brk with
  | lf => exact restOfLine_append_cons hk line.2 rfl (by decide)
  | crlf =>
    -- nothing is found between the two bytes
    have second : restOfLine tolower locationKey inLine (10 :: text) = restOfLine tolower locationKey inLine text :=
      restOfLine_append_cons (s := []) hk (List.forall_mem_nil _) rfl (by decide)
    exact (restOfLine_append_cons hk line.2 rfl (by decide)).trans (congrArg (Option.or (behindKey line)) second)

theorem restOfLine_text (r : Reply) :
    restOfLine tolower locationKey inLine r.text = (r.startLine :: r.headers.map (·.2)).findSome? behindKey := by
  obtain ⟨startLine, headers⟩ := r
  have first (line : Line) (lines : List Line) :
      (line :: lines).findSome? behindKey = (behindKey line).or (lines.findSome? behindKey) := by
    rw [List.findSome?_cons]
    cases behindKey line <;> rfl
  unfold Reply.text
  dsimp only
  induction headers generalizing startLine with
  | nil =>
    rw [List.flatMap_nil, List.append_nil, List.map_nil, first, List.findSome?_nil, Option.or_none]
    rfl
  | cons h rest ih =>
    rw [List.flatMap_cons, List.append_assoc, restOfLine_break, ih h.2, List.map_cons, first startLine, first h.2]

/-! ## The line that is meant -/

theorem tolower_colon {c : UInt8} (h : tolower c = 58) : c = 58 := by
  unfold tolower at h
  split at h
  · rename_i upper
    obtain ⟨low, high⟩ := upper
    have sum := congrArg UInt8.toNat h
    rw [UInt8.toNat_add] at sum
    rw [UInt8.le_iff_toNat_le] at low high
    simp only [UInt8.reduceToNat] at sum low high
    omega
  · exact h

theorem isLocation_iff (line : Line) :
    isLocation line = true ↔
      ∃ name value, line.1 = name ++ 58 :: value ∧ 58 ∉ name ∧ name.map tolower = ascii "location" := by
  have before {name : Bytes} (value : Bytes) (h : 58 ∉ name) : (name ++ 58 :: value).takeWhile (· ≠ 58) = name := by
    rw [List.takeWhile_append_of_pos fun c mem => decide_eq_true (ne_of_mem_of_not_mem mem h),
      List.takeWhile_cons_of_neg (by decide), List.append_nil]
  rw [isLocation, decide_eq_true_iff, headerName]
  constructor
  · intro h
    split at h
    · rename_i colon
      obtain ⟨name, value, split, none⟩ := List.eq_append_cons_of_mem colon
      rw [split, before value none] at h
      exact ⟨name, value, split, none, Option.some.inj h⟩
    · cases h
  · rintro ⟨name, value, split, none, lower⟩
    rw [split, if_pos (List.mem_append_right name List.mem_cons_self), before value none, Option.map_some, lower]

/-- A LOCATION header is a line that begins with the key. -/
theorem isLocation_iff_key (line : Line) : isLocation line = true ↔ locationKey <+: line.1.map tolower := by
  have key : locationKey = ascii "location" ++ [58] := by decide
  rw [isLocation_iff, key]
  constructor
  · rintro ⟨name, value, split, -, lower⟩
    refine ⟨value.map tolower, ?_⟩
    rw [split, List.map_append, List.map_cons, lower, List.append_assoc]
    rfl
  · rintro ⟨r, h⟩
    rw [List.append_assoc] at h
    obtain ⟨name, l, split, lower, behind⟩ := List.map_eq_append_iff.1 h.symm
    obtain ⟨c, value, rfl, colon, -⟩ := List.map_eq_cons_iff.1 behind
    rw [tolower_colon colon] at split
    refine ⟨name, value, split, fun mem => ?_, lower⟩
    have : (58 : UInt8) ∈ ascii "location" := by
      rw [← lower]
      exact List.mem_map.2 ⟨58, mem, rfl⟩
    exact absurd this (by decide)

theorem behindKey_location {line : Line} (h : isLocation line = true) :
    (behindKey line).map (List.dropWhile isBlank) = some (fieldValue line.1) := by
  rw [behindKey, restOfLine_of_prefix line.2 ((isLocation_iff_key line).1 h), Option.map_some]
  obtain ⟨name, value, split, none, lower⟩ := (isLocation_iff line).1 h
  have length : name.length + 1 = locationKey.length := by
    rw [← List.length_map tolower, lower]
    rfl
  have ends : (name ++ 58 :: value).dropWhile (· ≠ 58) = 58 :: value := by
    rw [List.dropWhile_append_of_pos fun c mem => decide_eq_true (ne_of_mem_of_not_mem mem none),
      List.dropWhile_cons_of_neg (by decide)]
  rw [fieldValue, split, ends, ← length, List.append_cons, List.drop_left' (by simp)]
  rfl

/-! ## The whole reply -/

/-- From the first LOCATION header on, the search finds its value. -/
theorem location_behind (lines : List Line) :
    (((lines.dropWhile fun line => !isLocation line).findSome? behindKey).getD []).dropWhile isBlank =
      ((lines.find? isLocation).map fun line => fieldValue line.1).getD [] := by
  induction lines with
  | nil => rfl
  | cons line lines ih =>
    by_cases h : isLocation line = true
    · obtain ⟨rest, behind, value⟩ := Option.map_eq_some_iff.1 (behindKey_location h)
      rw [List.dropWhile_cons_of_neg (by simp [h]), List.findSome?_cons_of_isSome (by simp [behind]),
        List.find?_cons_of_pos h, behind]
      exact value
    · rw [List.dropWhile_cons_of_pos (by simp [h]), List.find?_cons_of_neg h, ih]

/-- The lookup gives the first LOCATION header's value exactly when no line before that header has the
key in it, or what the first such line has behind its first key is that very value. -/
theorem headerValue_iff (r : Reply) :
    headerValue r.text (ascii "location:") = r.location ↔
    (∀ line ∈ r.before, ¬ascii "location:" <:+: line.1.map tolower) ∨
    ∃ rest, r.before.findSome? behindKey = some rest ∧ rest.dropWhile isBlank = r.location := by
  have lines : r.startLine :: r.headers.map (·.2) =
      r.before ++ (r.headers.map (·.2)).dropWhile fun line => !isLocation line := by
    rw [Reply.before, List.cons_append, List.takeWhile_append_dropWhile]
  have found : headerValue r.text (ascii "location:") =
      (((r.before.findSome? behindKey).or
        (((r.headers.map (·.2)).dropWhile fun line => !isLocation line).findSome? behindKey)).getD
          []).dropWhile isBlank := by
    rw [← List.findSome?_append, ← lines, ← restOfLine_text]
    exact headerValue_eq r.text
  rw [found]
  have clear : (∀ line ∈ r.before, ¬ascii "location:" <:+: line.1.map tolower) ↔ r.before.findSome? behindKey = none := by
    rw [List.findSome?_eq_none_iff]
    exact forall₂_congr fun line _ => restOfLine_eq_none.symm
  rw [clear]
  cases r.before.findSome? behindKey with
  | none => exact iff_of_true (location_behind _) (Or.inl rfl)
  | some rest => simp

/-- An ASCII literal as a line. -/
def line (s : String) (h : (ascii s).all inLine = true) : Line := ⟨ascii s, fun c mem => List.all_eq_true.1 h c mem⟩

/-- A reply that names where its content is before it says where the router is. -/
def contentFirst : Reply where
  startLine := line "HTTP/1.1 200 OK" (by decide)
  headers := [(.crlf, line "CONTENT-LOCATION: /" (by decide)), (.crlf, line "LOCATION: http://10.0.0.1/d.xml" (by decide)),
    (.crlf, line "" (by decide)), (.crlf, line "" (by decide))]

/-- The other header's value is returned in place of LOCATION's. -/
theorem headerValue_contentFirst :
    headerValue contentFirst.text (ascii "location:") = ascii "/" ∧ contentFirst.location = ascii "http://10.0.0.1/d.xml" ∧
    headerValue contentFirst.text (ascii "location:") ≠ contentFirst.location := by
  decide

end Sf4e.Netplay.Upnp
