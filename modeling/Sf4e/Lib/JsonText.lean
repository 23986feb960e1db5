import Mathlib.Data.List.TakeDrop
import Sf4e.Lib.Json
/-!
# JSON texts

The text of a document, with nothing between its parts, and a reader of such texts. `read_text`: a
document of numbers, booleans and valid strings is read back from its text.
-/

namespace Sf4e.Lib.Json

/-! ## Writing -/

/-- The lower case digit `n` of base 16. -/
def hexDigit (n : ℕ) : UInt8 := if n < 10 then .ofNat (0x30 + n) else .ofNat (0x57 + n)

/-- A byte inside a string. The control characters that have a short escape have theirs. -/
def escaped (b : UInt8) : Bytes :=
  if b = 0x22 then [0x5c, 0x22]
  else if b = 0x5c then [0x5c, 0x5c]
  else if b = 0x08 then [0x5c, 0x62]
  else if b = 0x09 then [0x5c, 0x74]
  else if b = 0x0a then [0x5c, 0x6e]
  else if b = 0x0c then [0x5c, 0x66]
  else if b = 0x0d then [0x5c, 0x72]
  else if b < 0x20 then [0x5c, 0x75, 0x30, 0x30, hexDigit (b.toNat / 16), hexDigit (b.toNat % 16)]
  else [b]

def quoted (s : Bytes) : Bytes := 0x22 :: s.flatMap escaped ++ [0x22]

def integer (n : ℤ) : Bytes := if n < 0 then 0x2d :: toDecimal n.natAbs else toDecimal n.natAbs

/-- The parts of an array or an object. -/
def joined (parts : List Bytes) : Bytes := [0x2c].intercalate parts

mutual

/-- The text of a document. Doubles have none. -/
def text : Json → Bytes
  | .null => ascii "null"
  | .bool b => if b then ascii "true" else ascii "false"
  | .int n => integer n
  | .float _ => []
  | .str s => quoted s
  | .arr xs => 0x5b :: joined (textArr xs) ++ [0x5d]
  | .obj fs => 0x7b :: joined (textObj fs) ++ [0x7d]

def textArr : List Json → List Bytes
  | [] => []
  | x :: xs => text x :: textArr xs

def textObj : List (Bytes × Json) → List Bytes
  | [] => []
  | (k, v) :: fs => (quoted k ++ 0x3a :: text v) :: textObj fs

end

theorem textArr_eq (xs : List Json) : textArr xs = xs.map text := by
  induction xs with
  | nil => rfl
  | cons x xs ih => rw [textArr, ih, List.map_cons]

def textMember (e : Bytes × Json) : Bytes := quoted e.1 ++ 0x3a :: text e.2

theorem textObj_eq (fs : List (Bytes × Json)) : textObj fs = fs.map textMember := by
  induction fs with
  | nil => rfl
  | cons e fs ih =>
    rw [textObj, ih, List.map_cons]
    rfl

/-! ## Reading -/

def hexValue (b : UInt8) : Option ℕ :=
  if 0x30 ≤ b ∧ b ≤ 0x39 then some (b.toNat - 0x30)
  else if 0x61 ≤ b ∧ b ≤ 0x66 then some (b.toNat - 0x57)
  else none

/-- The byte that an escape stands for, and what follows. Of the escapes by number those of ASCII are read. -/
def readEscape : Bytes → Option (UInt8 × Bytes)
  | 0x22 :: s => some (0x22, s)
  | 0x5c :: s => some (0x5c, s)
  | 0x2f :: s => some (0x2f, s)
  | 0x62 :: s => some (0x08, s)
  | 0x74 :: s => some (0x09, s)
  | 0x6e :: s => some (0x0a, s)
  | 0x66 :: s => some (0x0c, s)
  | 0x72 :: s => some (0x0d, s)
  | 0x75 :: 0x30 :: 0x30 :: hi :: lo :: s => do
    let hi ← hexValue hi
    let lo ← hexValue lo
    if hi < 8 then some (.ofNat (16 * hi + lo), s) else none
  | _ => none

/-- The rest of a string, after its opening quote. -/
def readString : ℕ → Bytes → Option (Bytes × Bytes)
  | 0, _ => none
  | _ + 1, [] => none
  | fuel + 1, b :: s =>
    if b = 0x22 then some ([], s)
    else if b = 0x5c then do
      let (c, s) ← readEscape s
      let (cs, s) ← readString fuel s
      some (c :: cs, s)
    else if b < 0x20 then none
    else do
      let (cs, s) ← readString fuel s
      some (b :: cs, s)

def isDigit (b : UInt8) : Bool := 0x30 ≤ b && b ≤ 0x39

def readNat (s : Bytes) : Option (ℕ × Bytes) :=
  match s.span isDigit with
  | ([], _) => none
  | (digits, s) => some (Nat.ofDigitChars 10 (digits.map fun b => Char.ofNat b.toNat) 0, s)

/-- What stands between commas, up to the closing byte. -/
def readParts {α : Type} (part : Bytes → Option (α × Bytes)) (close : UInt8) : ℕ → Bytes → Option (List α × Bytes)
  | 0, _ => none
  | fuel + 1, s => do
    let (x, s) ← part s
    match s with
    | [] => none
    | b :: s =>
      if b = close then some ([x], s)
      else if b = 0x2c then do
        let (xs, s) ← readParts part close fuel s
        some (x :: xs, s)
      else none

/-- The parts of an array or an object, after its opening byte. -/
def readAll {α : Type} (part : Bytes → Option (α × Bytes)) (close : UInt8) (fuel : ℕ) (s : Bytes) :
    Option (List α × Bytes) :=
  if s.head? = some close then some ([], s.tail) else readParts part close fuel s

def readMember (value : Bytes → Option (Json × Bytes)) (fuel : ℕ) : Bytes → Option ((Bytes × Json) × Bytes)
  | 0x22 :: s => do
    let (k, s) ← readString fuel s
    match s with
    | 0x3a :: s => do
      let (v, s) ← value s
      some ((k, v), s)
    | _ => none
  | _ => none

/-- The rest of `word`, and the document it stands for. -/
def readWord (word : Bytes) (j : Json) (s : Bytes) : Option (Json × Bytes) :=
  if word.isPrefixOf s then some (j, s.drop word.length) else none

def readValue : ℕ → Bytes → Option (Json × Bytes)
  | 0, _ => none
  | _ + 1, [] => none
  | fuel + 1, b :: s =>
    if b = 0x22 then (readString fuel s).map fun (t, s) => (.str t, s)
    else if b = 0x5b then (readAll (readValue fuel) 0x5d fuel s).map fun (xs, s) => (.arr xs, s)
    else if b = 0x7b then (readAll (readMember (readValue fuel) fuel) 0x7d fuel s).map fun (fs, s) => (.obj fs, s)
    else if b = 0x74 then readWord (ascii "rue") (.bool true) s
    else if b = 0x66 then readWord (ascii "alse") (.bool false) s
    else if b = 0x6e then readWord (ascii "ull") .null s
    else if b = 0x2d then (readNat s).map fun (n, s) => (.int (-n), s)
    else (readNat (b :: s)).map fun (n, s) => (.int n, s)

/-- A text that is a document and nothing more. -/
def read (s : Bytes) : Option Json :=
  match readValue (s.length + 1) s with
  | some (j, []) => some j
  | _ => none

/-! ## Strings and numbers -/

theorem hexValue_hexDigit : ∀ n < 16, hexValue (hexDigit n) = some n := by decide

theorem readString_escaped (b : UInt8) (fuel : ℕ) (s : Bytes) :
    readString (fuel + 1) (escaped b ++ s) = (readString fuel s).bind fun p => some (b :: p.1, p.2) := by
  unfold escaped
  split
  case isTrue h => rw [h]; rfl
  split
  case isTrue h => rw [h]; rfl
  split
  case isTrue h => rw [h]; rfl
  split
  case isTrue h => rw [h]; rfl
  split
  case isTrue h => rw [h]; rfl
  split
  case isTrue h => rw [h]; rfl
  split
  case isTrue h => rw [h]; rfl
  split
  case isTrue h =>
    have hlt : b.toNat < 32 := UInt8.lt_iff_toNat_lt.1 h
    have hhi := hexValue_hexDigit (b.toNat / 16) (by omega)
    have hlo := hexValue_hexDigit (b.toNat % 16) (by omega)
    have hsmall : b.toNat / 16 < 8 := by omega
    have hescape : readEscape (0x75 :: 0x30 :: 0x30 :: hexDigit (b.toNat / 16) :: hexDigit (b.toNat % 16) :: s) =
        some (b, s) := by
      simp only [readEscape, hhi, hlo, Option.bind_eq_bind, Option.bind_some, hsmall, if_true, Nat.div_add_mod,
        UInt8.ofNat_toNat]
    simp only [List.cons_append, List.nil_append, readString, hescape]
    rfl
  case isFalse hquote hslash _ _ _ _ _ hlow =>
    simp only [List.cons_append, List.nil_append, readString, hquote, hslash, hlow, if_false]
    rfl

theorem readString_quoted {s : Bytes} {fuel : ℕ} (h : s.length < fuel) (rest : Bytes) :
    readString fuel (s.flatMap escaped ++ 0x22 :: rest) = some (s, rest) := by
  induction s generalizing fuel with
  | nil =>
    obtain ⟨fuel, rfl⟩ := Nat.exists_eq_succ_of_ne_zero (Nat.ne_of_gt h)
    rfl
  | cons b s ih =>
    obtain ⟨fuel, rfl⟩ := Nat.exists_eq_succ_of_ne_zero (Nat.ne_of_gt (Nat.zero_lt_of_lt h))
    rw [List.flatMap_cons, List.append_assoc, readString_escaped, ih (Nat.lt_of_succ_lt_succ h)]
    rfl

/-- A number ends here. -/
def Ends (s : Bytes) : Prop := ∀ b ∈ s.head?, isDigit b = false

theorem isDigit_toDecimal (n : ℕ) : ∀ b ∈ toDecimal n, isDigit b = true := by
  intro b hb
  obtain ⟨hlow, hhigh⟩ := toDecimal_range n b hb
  rw [isDigit, Bool.and_eq_true, decide_eq_true_eq, decide_eq_true_eq]
  exact ⟨UInt8.le_iff_toNat_le.2 hlow, UInt8.le_iff_toNat_le.2 hhigh⟩

theorem toDecimal_cons (n : ℕ) : ∃ b ds, toDecimal n = b :: ds := by
  refine List.exists_cons_of_ne_nil fun h => ?_
  rw [toDecimal, List.map_eq_nil_iff] at h
  exact Nat.toDigits_ne_nil h

theorem readNat_toDecimal (n : ℕ) {rest : Bytes} (h : Ends rest) :
    readNat (toDecimal n ++ rest) = some (n, rest) := by
  have hrest : rest.takeWhile isDigit = [] ∧ rest.dropWhile isDigit = rest := by
    cases rest with
    | nil => exact ⟨rfl, rfl⟩
    | cons b rest => simp [h b rfl]
  have hspan : (toDecimal n ++ rest).span isDigit = (toDecimal n, rest) := by
    rw [List.span_eq_takeWhile_dropWhile, List.takeWhile_append_of_pos (isDigit_toDecimal n),
      List.dropWhile_append_of_pos (isDigit_toDecimal n), hrest.1, hrest.2, List.append_nil]
  have hvalue : Nat.ofDigitChars 10 ((toDecimal n).map fun b => Char.ofNat b.toNat) 0 = n := by
    rw [digits_toDecimal]
    exact Nat.ofDigitChars_ten_toDigits
  obtain ⟨b, ds, hcons⟩ := toDecimal_cons n
  rw [readNat, hspan]
  rw [hcons] at hvalue ⊢
  simp only [hvalue]

/-! ## Arrays and objects -/

theorem joined_cons (part : Bytes) (parts : List Bytes) :
    joined (part :: parts) = part ++ if parts = [] then [] else 0x2c :: joined parts := by
  cases parts with
  | nil => simp [joined]
  | cons p parts => simp [joined, List.intercalate_cons_cons]

theorem length_le_joined {part : Bytes} {parts : List Bytes} (h : part ∈ parts) :
    part.length ≤ (joined parts).length := by
  induction parts with
  | nil => cases h
  | cons p parts ih =>
    rw [joined_cons, List.length_append]
    rcases List.mem_cons.1 h with rfl | h
    · omega
    · have := ih h
      rw [if_neg (List.ne_nil_of_mem h), List.length_cons]
      omega

theorem count_le_joined (parts : List Bytes) : parts.length ≤ (joined parts).length + 1 := by
  induction parts with
  | nil => simp
  | cons p parts ih =>
    rw [joined_cons, List.length_append, List.length_cons]
    split
    case isTrue h => simp [h]
    case isFalse h =>
      rw [List.length_cons]
      omega

/-- What is read after a part is a comma or the closing byte. -/
def Follows (close : UInt8) (rest : Bytes) : Prop := rest.head? = some 0x2c ∨ rest.head? = some close

theorem readParts_joined {α : Type} {part : Bytes → Option (α × Bytes)} {put : α → Bytes} {close : UInt8}
    (hclose : close ≠ 0x2c) {xs : List α} {fuel : ℕ} (hne : xs ≠ [])
    (hpart : ∀ x ∈ xs, ∀ rest, Follows close rest → part (put x ++ rest) = some (x, rest))
    (hfuel : xs.length ≤ fuel) (rest : Bytes) :
    readParts part close fuel (joined (xs.map put) ++ close :: rest) = some (xs, rest) := by
  induction xs generalizing fuel with
  | nil => exact absurd rfl hne
  | cons x xs ih =>
    rw [List.forall_mem_cons] at hpart
    obtain ⟨fuel, rfl⟩ := Nat.exists_eq_succ_of_ne_zero (Nat.ne_of_gt (Nat.lt_of_lt_of_le (Nat.succ_pos _) hfuel))
    rw [List.map_cons, joined_cons, readParts]
    cases xs with
    | nil =>
      rw [List.map_nil, if_pos rfl, List.append_nil, hpart.1 _ (.inr rfl)]
      simp
    | cons y ys =>
      have hnext := ih (List.cons_ne_nil y ys) hpart.2 (Nat.le_of_succ_le_succ hfuel)
      rw [if_neg (by simp), List.append_assoc, List.cons_append, hpart.1 _ (.inl rfl)]
      simp only [Option.bind_eq_bind, Option.bind_some, hclose.symm, if_false, if_true, hnext]

theorem readAll_joined {α : Type} {part : Bytes → Option (α × Bytes)} {put : α → Bytes} {close : UInt8}
    (hclose : close ≠ 0x2c) {xs : List α} {fuel : ℕ}
    (hpart : ∀ x ∈ xs, ∀ rest, Follows close rest → part (put x ++ rest) = some (x, rest))
    (hopen : ∀ x ∈ xs, ∀ rest, (put x ++ rest).head? ≠ some close)
    (hfuel : xs.length ≤ fuel) (rest : Bytes) :
    readAll part close fuel (joined (xs.map put) ++ close :: rest) = some (xs, rest) := by
  cases xs with
  | nil => simp [readAll, joined]
  | cons x xs =>
    have hfirst := hopen x List.mem_cons_self
    rw [readAll, if_neg]
    · exact readParts_joined hclose (List.cons_ne_nil x xs) hpart hfuel rest
    · rw [List.map_cons, joined_cons, List.append_assoc]
      exact hfirst _

/-! ## Reading back -/

/-- A digit or a sign is none of the bytes that a text of another kind starts with. -/
theorem readValue_int {b : UInt8} (h : isDigit b = true) (fuel : ℕ) (s : Bytes) :
    readValue (fuel + 1) (b :: s) = (readNat (b :: s)).map fun (n, s) => (.int n, s) := by
  have hne : ∀ c : UInt8, isDigit c = false → b ≠ c := by
    rintro c hc rfl
    rw [h] at hc
    cases hc
  simp [readValue, hne 0x22 rfl, hne 0x5b rfl, hne 0x7b rfl, hne 0x74 rfl, hne 0x66 rfl, hne 0x6e rfl, hne 0x2d rfl]

theorem readValue_integer (n : ℤ) (fuel : ℕ) {rest : Bytes} (h : Ends rest) :
    readValue (fuel + 1) (integer n ++ rest) = some (.int n, rest) := by
  unfold integer
  split
  case isTrue hneg =>
    have hvalue : -(n.natAbs : ℤ) = n := by omega
    rw [List.cons_append]
    show (readNat (toDecimal n.natAbs ++ rest)).map _ = _
    rw [readNat_toDecimal _ h, Option.map_some]
    dsimp only
    rw [hvalue]
  case isFalse hneg =>
    have hvalue : (n.natAbs : ℤ) = n := by omega
    obtain ⟨b, ds, hcons⟩ := toDecimal_cons n.natAbs
    have hdigit : isDigit b = true := isDigit_toDecimal n.natAbs b (hcons ▸ List.mem_cons_self)
    rw [hcons, List.cons_append, readValue_int hdigit, ← List.cons_append, ← hcons, readNat_toDecimal _ h,
      Option.map_some]
    dsimp only
    rw [hvalue]

theorem ends_of_follows {close : UInt8} (hclose : isDigit close = false) {rest : Bytes} (h : Follows close rest) :
    Ends rest := by
  intro b hb
  rcases h with h | h
  · rw [h] at hb
    cases hb
    rfl
  · rw [h] at hb
    cases hb
    exact hclose

/-- No text starts as an array or an object ends. -/
theorem text_opens {j : Json} (h : j.Plain) (rest : Bytes) :
    (text j ++ rest).head? ≠ some 0x5d := by
  cases h with
  | bool b => cases b <;> simp [text, ascii]
  | @int n =>
    obtain ⟨b, ds, hcons⟩ := toDecimal_cons n.natAbs
    have hdigit : isDigit b = true := isDigit_toDecimal n.natAbs b (hcons ▸ List.mem_cons_self)
    rw [text, integer]
    split
    · simp
    · rw [hcons]
      rintro h
      cases h
      cases hdigit
  | str => simp [text, quoted]
  | arr => simp [text]
  | obj => simp [text]

theorem readMember_text {value : Bytes → Option (Json × Bytes)} {fuel : ℕ} {e : Bytes × Json} {rest : Bytes}
    (hkey : e.1.length < fuel) (hvalue : value (text e.2 ++ rest) = some (e.2, rest)) :
    readMember value fuel (textMember e ++ rest) = some (e, rest) := by
  obtain ⟨k, v⟩ := e
  have hk := readString_quoted hkey (0x3a :: text v ++ rest)
  simp only [textMember, quoted, List.cons_append, List.append_assoc, List.nil_append] at hk ⊢
  simp only [readMember, hk, Option.bind_eq_bind, Option.bind_some, hvalue]

theorem length_le_escaped (s : Bytes) : s.length ≤ (s.flatMap escaped).length := by
  have hone : ∀ b, 1 ≤ (escaped b).length := by
    intro b
    unfold escaped
    repeat' split
    all_goals simp
  induction s with
  | nil => exact Nat.le_refl _
  | cons b s ih =>
    have := hone b
    rw [List.flatMap_cons, List.length_append, List.length_cons]
    omega

/-- A document is read from its text, whatever a reader may find behind it. -/
theorem readValue_text {j : Json} (h : j.Plain) {fuel : ℕ} (hfuel : (text j).length ≤ fuel + 1) {rest : Bytes}
    (hrest : Ends rest) : readValue (fuel + 1) (text j ++ rest) = some (j, rest) := by
  induction h generalizing fuel rest with
  | bool b => cases b <;> rfl
  | int => exact readValue_integer _ fuel hrest
  | @str s =>
    have hlen : (text (.str s)).length = (s.flatMap escaped).length + 2 := by simp [text, quoted]
    have hs := length_le_escaped s
    have hread := readString_quoted (s := s) (show s.length < fuel by omega) rest
    simp only [text, quoted, List.cons_append, List.append_assoc, List.nil_append]
    show (readString fuel (s.flatMap escaped ++ 0x22 :: rest)).map _ = _
    rw [hread]
    rfl
  | @arr xs h ih =>
    have hlen : (text (.arr xs)).length = (joined (xs.map text)).length + 2 := by simp [text, textArr_eq]
    obtain ⟨fuel, rfl⟩ := Nat.exists_eq_succ_of_ne_zero (n := fuel) (by omega)
    have hpart : ∀ x ∈ xs, ∀ rest, Follows 0x5d rest → readValue (fuel + 1) (text x ++ rest) = some (x, rest) := by
      intro x hx rest hfollows
      have hx' := length_le_joined (List.mem_map_of_mem (f := text) hx)
      exact ih x hx (by omega) (ends_of_follows rfl hfollows)
    have hcount : xs.length ≤ fuel + 1 := by
      have := count_le_joined (xs.map text)
      rw [List.length_map] at this
      omega
    have hread := readAll_joined (by decide) hpart (fun x hx => text_opens (h x hx)) hcount rest
    simp only [text, textArr_eq, List.cons_append, List.append_assoc, List.nil_append]
    show (readAll (readValue (fuel + 1)) 0x5d (fuel + 1) (joined (xs.map text) ++ 0x5d :: rest)).map _ = _
    rw [hread]
    rfl
  | @obj fs _ _ h ih =>
    have hlen : (text (.obj fs)).length = (joined (fs.map textMember)).length + 2 := by
      simp [text, textObj_eq]
    obtain ⟨fuel, rfl⟩ := Nat.exists_eq_succ_of_ne_zero (n := fuel) (by omega)
    have hpart : ∀ e ∈ fs, ∀ rest, Follows 0x7d rest →
        readMember (readValue (fuel + 1)) (fuel + 1) (textMember e ++ rest) = some (e, rest) := by
      intro e he rest hfollows
      have he' := length_le_joined (List.mem_map_of_mem (f := textMember) he)
      have hkey := length_le_escaped e.1
      have hparts : (textMember e).length = (e.1.flatMap escaped).length + (text e.2).length + 3 := by
        simp [textMember, quoted]
        omega
      exact readMember_text (by omega) (ih e he (by omega) (ends_of_follows rfl hfollows))
    have hcount : fs.length ≤ fuel + 1 := by
      have := count_le_joined (fs.map textMember)
      rw [List.length_map] at this
      omega
    have hopen : ∀ e ∈ fs, ∀ rest, (textMember e ++ rest).head? ≠ some 0x7d := by
      intro e _ rest
      simp [textMember, quoted]
    have hread := readAll_joined (by decide) hpart hopen hcount rest
    simp only [text, textObj_eq, List.cons_append, List.append_assoc, List.nil_append]
    show (readAll (readMember (readValue (fuel + 1)) (fuel + 1)) 0x7d (fuel + 1) _).map _ = _
    rw [hread]
    rfl

theorem read_text {j : Json} (h : j.Plain) : read (text j) = some j := by
  have hvalue := readValue_text h (Nat.le_succ _) (show Ends [] from nofun)
  rw [List.append_nil] at hvalue
  rw [read, hvalue]

example : read (text (.obj [(ascii "a", .arr [.int (-3), .bool true]), (ascii "b", .str [0x0a, 0x01])])) =
    some (.obj [(ascii "a", .arr [.int (-3), .bool true]), (ascii "b", .str [0x0a, 0x01])]) := by
  rfl

end Sf4e.Lib.Json
