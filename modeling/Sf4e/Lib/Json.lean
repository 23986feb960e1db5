import Mathlib.Algebra.Group.Int.Defs
import Mathlib.Algebra.GroupWithZero.Nat
/-!
# Byte strings, UTF-8 and JSON values

JSON documents as a JSON library holds them: strings are byte strings, numbers
are integers or doubles, objects are maps. The conversions are the documented
ones: a missing key, a value of the wrong type and a string that is not valid
UTF-8 are exceptions.
-/

namespace Sf4e.Lib

/-- `std::string`. -/
abbrev Bytes := List UInt8

/-- An ASCII literal. -/
def ascii (s : String) : Bytes := s.toList.map fun c => c.toNat.toUInt8

/-- `std::to_string` of an unsigned number. -/
def toDecimal (n : Nat) : Bytes := (Nat.toDigits 10 n).map fun c => c.toNat.toUInt8

/-- The bytes are the UTF-8 encoding of some characters. -/
def ValidUtf8 (s : Bytes) : Prop := s.toByteArray.IsValidUTF8

instance (s : Bytes) : Decidable (ValidUtf8 s) := inferInstanceAs (Decidable s.toByteArray.IsValidUTF8)

/-- What a JSON operation throws. -/
inductive JsonError where
  | parseError
  | typeError (id : Nat)
  | outOfRange (id : Nat)
  deriving DecidableEq, Repr

/-- A JSON document. -/
inductive Json where
  | null
  | bool (b : Bool)
  | int (n : Int)
  | float (q : Rat)
  | str (s : Bytes)
  | arr (xs : List Json)
  | obj (fs : List (Bytes × Json))

namespace Json

/-! ## Reading -/

/-- The member `key` of an object's member list. -/
def member (key : Bytes) : List (Bytes × Json) → Option Json
  | [] => none
  | (k, v) :: fs => if k = key then some v else member key fs

/-- `j.at(key)`. -/
def at' (j : Json) (key : Bytes) : Except JsonError Json :=
  match j with
  | .obj fs =>
    match member key fs with
    | some v => .ok v
    | none => .error (.outOfRange 403)
  | _ => .error (.typeError 304)

/-- `j.contains(key)`. -/
def contains (j : Json) (key : Bytes) : Bool :=
  match j with
  | .obj fs => (member key fs).isSome
  | _ => false

/-- `j.value(key, fallback)`, for a type read by `get`. -/
def value {α : Type} (j : Json) (key : Bytes) (get : Json → Except JsonError α) (fallback : α) :
    Except JsonError α :=
  match j with
  | .obj fs =>
    match member key fs with
    | some v => get v
    | none => .ok fallback
  | _ => .error (.typeError 306)

def getBool : Json → Except JsonError Bool
  | .bool b => .ok b
  | _ => .error (.typeError 302)

def getStr : Json → Except JsonError Bytes
  | .str s => .ok s
  | _ => .error (.typeError 302)

/-- The number before the cast to the target type. A double is truncated; where
it does not fit the target the C++ cast is undefined, and here it wraps. -/
def getNumber : Json → Except JsonError Int
  | .int n => .ok n
  | .float q => .ok (q.num.tdiv q.den)
  | .bool b => .ok (if b then 1 else 0)
  | _ => .error (.typeError 302)

def getInt32 (j : Json) : Except JsonError Int32 := do return Int32.ofInt (← j.getNumber)
def getUInt8 (j : Json) : Except JsonError UInt8 := do return UInt8.ofInt (← j.getNumber)
def getUInt16 (j : Json) : Except JsonError UInt16 := do return UInt16.ofInt (← j.getNumber)
def getUInt32 (j : Json) : Except JsonError UInt32 := do return UInt32.ofInt (← j.getNumber)
def getInt16 (j : Json) : Except JsonError Int16 := do return Int16.ofInt (← j.getNumber)

/-- `int64_t`, as the number it holds. -/
def getInt64 (j : Json) : Except JsonError Int := do return (Int64.ofInt (← j.getNumber)).toInt

/-- `j.at(i)`. -/
def item (j : Json) (i : Nat) : Except JsonError Json :=
  match j with
  | .arr xs =>
    match xs[i]? with
    | some x => .ok x
    | none => .error (.outOfRange 401)
  | _ => .error (.typeError 304)

/-- The elements of an array, as they are read into a `std::vector`. -/
def getVector {α : Type} (get : Json → Except JsonError α) : Json → Except JsonError (List α)
  | .arr xs => xs.mapM get
  | _ => .error (.typeError 302)

/-! ## Writing -/

mutual

/-- Every string of a document, keys included. -/
def strings : Json → List Bytes
  | .str s => [s]
  | .arr xs => stringsArr xs
  | .obj fs => stringsObj fs
  | .null => []
  | .bool _ => []
  | .int _ => []
  | .float _ => []

def stringsArr : List Json → List Bytes
  | [] => []
  | x :: xs => strings x ++ stringsArr xs

def stringsObj : List (Bytes × Json) → List Bytes
  | [] => []
  | (k, v) :: fs => k :: strings v ++ stringsObj fs

end

/-- `j.dump()` returns: it throws `type_error` 316 on a string that is not valid UTF-8. -/
def Dumps (j : Json) : Prop := ∀ s ∈ j.strings, ValidUtf8 s

instance (j : Json) : Decidable j.Dumps := inferInstanceAs (Decidable (∀ s ∈ j.strings, ValidUtf8 s))

theorem stringsArr_eq (xs : List Json) : stringsArr xs = xs.flatMap strings := by
  induction xs with
  | nil => rfl
  | cons x xs ih => simp [stringsArr, ih]

theorem stringsObj_eq (fs : List (Bytes × Json)) : stringsObj fs = fs.flatMap fun e => e.1 :: strings e.2 := by
  induction fs with
  | nil => rfl
  | cons e fs ih => simp [stringsObj, ih]

@[simp] theorem dumps_null : Dumps null := by simp [Dumps, strings]
@[simp] theorem dumps_bool (b : Bool) : Dumps (bool b) := by simp [Dumps, strings]
@[simp] theorem dumps_int (n : Int) : Dumps (int n) := by simp [Dumps, strings]
@[simp] theorem dumps_str {s : Bytes} : Dumps (str s) ↔ ValidUtf8 s := by simp [Dumps, strings]

@[simp] theorem dumps_arr {xs : List Json} : Dumps (arr xs) ↔ ∀ x ∈ xs, Dumps x := by
  simp only [Dumps, strings, stringsArr_eq, List.mem_flatMap]
  exact ⟨fun h x hx s hs => h s ⟨x, hx, hs⟩, fun h s ⟨x, hx, hs⟩ => h x hx s hs⟩

theorem dumps_obj {fs : List (Bytes × Json)} : Dumps (obj fs) ↔ ∀ e ∈ fs, ValidUtf8 e.1 ∧ Dumps e.2 := by
  simp only [Dumps, strings, stringsObj_eq, List.mem_flatMap, List.mem_cons]
  constructor
  · intro h e he
    exact ⟨h e.1 ⟨e, he, .inl rfl⟩, fun s hs => h s ⟨e, he, .inr hs⟩⟩
  · rintro h s ⟨e, he, rfl | hs⟩
    · exact (h e he).1
    · exact (h e he).2 s hs

/-- What is read out of a document that dumps. -/
theorem dumps_of_at {j v : Json} {key : Bytes} (hj : Dumps j) (h : j.at' key = .ok v) : Dumps v := by
  unfold at' at h
  split at h
  · rename_i fs
    have hmem : ∀ gs, (∀ e ∈ gs, ValidUtf8 e.1 ∧ Dumps e.2) → member key gs = some v → Dumps v := by
      intro gs
      induction gs with
      | nil =>
        intro _ hm
        cases hm
      | cons e gs ih =>
        intro hgs hm
        simp only [member] at hm
        split at hm
        · cases hm
          exact (hgs e List.mem_cons_self).2
        · exact ih (fun e' he' => hgs e' (List.mem_cons_of_mem _ he')) hm
    split at h
    · rename_i w hw
      cases h
      exact hmem fs (dumps_obj.1 hj) hw
    · cases h
  · cases h

/-- Whether a member can be read does not depend on its fallback. -/
theorem isOk_value {α : Type} (j : Json) (key : Bytes) (get : Json → Except JsonError α) (a b : α) :
    (j.value key get a).isOk = (j.value key get b).isOk := by
  cases j with
  | obj fs =>
    unfold value
    dsimp only
    cases member key fs <;> rfl
  | _ => rfl

/-! ## Reading back -/

theorem getUInt8_int (n : UInt8) : getUInt8 (.int n.toNat) = .ok n := by
  refine congrArg Except.ok (UInt8.toNat_inj.1 ?_)
  have := n.toNat_lt
  rw [UInt8.ofInt, UInt8.toNat_ofNat']
  omega

theorem getUInt16_int (n : UInt16) : getUInt16 (.int n.toNat) = .ok n := by
  refine congrArg Except.ok (UInt16.toNat_inj.1 ?_)
  have := n.toNat_lt
  rw [UInt16.ofInt, UInt16.toNat_ofNat']
  omega

theorem getUInt32_int (n : UInt32) : getUInt32 (.int n.toNat) = .ok n := by
  refine congrArg Except.ok (UInt32.toNat_inj.1 ?_)
  have := n.toNat_lt
  rw [UInt32.ofInt, UInt32.toNat_ofNat']
  omega

theorem getInt16_int (n : Int16) : getInt16 (.int n.toInt) = .ok n := congrArg Except.ok (Int16.ofInt_toInt n)

theorem getInt32_int (n : Int32) : getInt32 (.int n.toInt) = .ok n := congrArg Except.ok (Int32.ofInt_toInt n)

theorem getInt64_int {n : Int} (hlow : -2 ^ 63 ≤ n) (hhigh : n < 2 ^ 63) : getInt64 (.int n) = .ok n :=
  congrArg Except.ok (Int64.toInt_ofInt_of_le hlow hhigh)

/-- An array of what was written is read as what was written. -/
theorem getVector_arr {α : Type} {get : Json → Except JsonError α} {put : α → Json} {keep : α → α}
    (h : ∀ x, get (put x) = .ok (keep x)) (xs : List α) : getVector get (.arr (xs.map put)) = .ok (xs.map keep) := by
  show (xs.map put).mapM get = _
  induction xs with
  | nil => rfl
  | cons x xs ih =>
    rw [List.map_cons, List.mapM_cons, h, ih]
    rfl

/-! ## What a library round-trips -/

/-- A document of integers of 64 bits, booleans and valid strings, as a map holds its members. -/
inductive Plain : Json → Prop
  | bool (b : Bool) : Plain (.bool b)
  | int {n : Int} (hlow : -2 ^ 63 ≤ n) (hhigh : n < 2 ^ 64) : Plain (.int n)
  | str {s : Bytes} (h : ValidUtf8 s) : Plain (.str s)
  | arr {xs : List Json} (h : ∀ x ∈ xs, Plain x) : Plain (.arr xs)
  | obj {fs : List (Bytes × Json)} (hkeys : (fs.map Prod.fst).Nodup) (hutf8 : ∀ e ∈ fs, ValidUtf8 e.1)
      (h : ∀ e ∈ fs, Plain e.2) : Plain (.obj fs)

theorem Plain.dumps {j : Json} (h : j.Plain) : j.Dumps := by
  induction h with
  | bool b => exact dumps_bool b
  | int => exact dumps_int _
  | str h => exact dumps_str.2 h
  | arr _ ih => exact dumps_arr.2 ih
  | obj _ hutf8 _ ih => exact dumps_obj.2 fun e he => ⟨hutf8 e he, ih e he⟩

theorem plain_uint8 (n : UInt8) : Plain (.int n.toNat) := by
  have := n.toNat_lt
  exact .int (by omega) (by omega)

theorem plain_uint16 (n : UInt16) : Plain (.int n.toNat) := by
  have := n.toNat_lt
  exact .int (by omega) (by omega)

theorem plain_uint32 (n : UInt32) : Plain (.int n.toNat) := by
  have := n.toNat_lt
  exact .int (by omega) (by omega)

theorem plain_int16 (n : Int16) : Plain (.int n.toInt) :=
  have := n.le_toInt
  have := n.toInt_lt
  .int (by omega) (by omega)

theorem plain_int32 (n : Int32) : Plain (.int n.toInt) :=
  have := n.le_toInt
  have := n.toInt_lt
  .int (by omega) (by omega)

end Json

/-! ## Decimals -/

theorem digit_range {c : Char} {n : Nat} (h : c ∈ Nat.toDigits 10 n) : 48 ≤ c.toNat ∧ c.toNat ≤ 57 := by
  have hdigit := Nat.isDigit_of_mem_toDigits (by omega) (by omega) h
  simp only [Char.isDigit, Bool.and_eq_true, decide_eq_true_eq] at hdigit
  exact ⟨UInt32.le_iff_toNat_le.1 hdigit.1, UInt32.le_iff_toNat_le.1 hdigit.2⟩

theorem toDecimal_range (n : Nat) : ∀ b ∈ toDecimal n, 48 ≤ b.toNat ∧ b.toNat ≤ 57 := by
  intro b hb
  obtain ⟨c, hc, rfl⟩ := List.mem_map.1 hb
  obtain ⟨hlow, hhigh⟩ := digit_range hc
  show 48 ≤ c.toNat % 256 ∧ c.toNat % 256 ≤ 57
  omega

theorem toDecimal_ascii (n : Nat) : ∀ b ∈ toDecimal n, b < 0x80 := by
  intro b hb
  have hhigh := (toDecimal_range n b hb).2
  rw [UInt8.lt_iff_toNat_lt]
  show b.toNat < 128
  omega

theorem length_toDecimal {n k : Nat} (hk : 0 < k) (hn : n < 10 ^ k) : (toDecimal n).length ≤ k := by
  unfold toDecimal
  rw [List.length_map]
  exact (Nat.length_toDigits_le_iff (by omega) hk).2 hn

/-- A digit is found again from its byte. -/
theorem digits_toDecimal (n : Nat) : (toDecimal n).map (fun b => Char.ofNat b.toNat) = Nat.toDigits 10 n := by
  rw [toDecimal, List.map_map]
  refine (List.map_congr_left fun c hc => ?_).trans (List.map_id' _)
  have hlt : c.toNat < 256 := Nat.lt_of_le_of_lt (digit_range hc).2 (by decide)
  simp [Nat.mod_eq_of_lt hlt]

theorem toDecimal_inj {m n : Nat} (h : toDecimal m = toDecimal n) : m = n := by
  have hdigits : Nat.toDigits 10 m = Nat.toDigits 10 n := by rw [← digits_toDecimal m, ← digits_toDecimal n, h]
  calc m = Nat.ofDigitChars 10 (Nat.toDigits 10 m) 0 := Nat.ofDigitChars_ten_toDigits.symm
    _ = Nat.ofDigitChars 10 (Nat.toDigits 10 n) 0 := by rw [hdigits]
    _ = n := Nat.ofDigitChars_ten_toDigits

/-- A number's text ends where a byte that is no digit follows. -/
theorem toDecimal_append_inj {m n : Nat} {s t : Bytes} (h : toDecimal m ++ 0x2e :: s = toDecimal n ++ 0x2e :: t) :
    m = n ∧ s = t := by
  have hdigits : ∀ (k : Nat), ∀ b ∈ toDecimal k, (b != 0x2e) = true := by
    intro k b hb
    have hlow := (toDecimal_range k b hb).1
    rw [bne_iff_ne, Ne, ← UInt8.toNat_inj]
    show ¬b.toNat = 46
    omega
  have htake : ∀ (k : Nat) (u : Bytes), (toDecimal k ++ 0x2e :: u).takeWhile (· != 0x2e) = toDecimal k := by
    intro k u
    rw [List.takeWhile_append_of_pos (hdigits k), List.takeWhile_cons_of_neg (by decide), List.append_nil]
  have hfirst : toDecimal m = toDecimal n := by rw [← htake m s, ← htake n t, h]
  rw [hfirst, List.append_cancel_left_eq, List.cons.injEq] at h
  exact ⟨toDecimal_inj hfirst, h.2⟩

/-! ## UTF-8 -/

theorem validUtf8_append {s t : Bytes} (hs : ValidUtf8 s) (ht : ValidUtf8 t) : ValidUtf8 (s ++ t) := by
  unfold ValidUtf8 at *
  rw [List.toByteArray_append]
  exact hs.append ht

theorem validUtf8_nil : ValidUtf8 [] := by decide +kernel

/-- An ASCII byte is a character of its own. -/
theorem validUtf8_singleton {b : UInt8} (hb : b < 0x80) : ValidUtf8 [b] := by
  have h : ∀ b : Fin 256, b < 0x80 → ValidUtf8 [UInt8.ofFin b] := by decide +kernel
  exact h b.toFin hb

/-- ASCII text is valid. -/
theorem validUtf8_of_ascii {s : Bytes} (h : ∀ b ∈ s, b < 0x80) : ValidUtf8 s := by
  induction s with
  | nil => exact validUtf8_nil
  | cons b s ih =>
    have hs : ValidUtf8 s := ih fun c hc => h c (List.mem_cons_of_mem _ hc)
    exact validUtf8_append (validUtf8_singleton (h b List.mem_cons_self)) hs

/-- Every character is one byte. -/
@[simp] def isAscii (s : String) : Bool := s.toList.all fun c => c.toNat < 0x80

theorem ascii_lt {s : String} (h : isAscii s = true) : ∀ b ∈ ascii s, b < 0x80 := by
  intro b hb
  obtain ⟨c, hc, rfl⟩ := List.mem_map.1 hb
  have hlt : c.toNat < 128 := by simpa using List.all_eq_true.1 h c hc
  rw [UInt8.lt_iff_toNat_lt]
  show c.toNat % 256 < 128
  omega

@[simp] theorem validUtf8_ascii {s : String} (h : isAscii s = true) : ValidUtf8 (ascii s) :=
  validUtf8_of_ascii (ascii_lt h)

end Sf4e.Lib
