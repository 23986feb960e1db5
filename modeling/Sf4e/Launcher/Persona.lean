import Sf4e.Launcher.Steam
import Sf4e.Lib.Utf8
/-!
# The Steam persona

`ReadSteamPersonaName`: the name of the account in Steam's `loginusers.vdf` that signed in
most recently, cut to the buffer it is copied into.
-/
open Sf4e.Lib

namespace Sf4e.Launcher

/-- `strncpy_s(dest, size, src, _TRUNCATE)`: what `dest` holds up to its end. -/
def strncpyTruncate (size : ℕ) (src : Bytes) : Bytes := (src.takeWhile (· ≠ 0)).take (size - 1)

def LLONG_MIN : ℤ := -2 ^ 63
def LLONG_MAX : ℤ := 2 ^ 63 - 1

def isSpace (c : UInt8) : Bool := c = 32 || (9 ≤ c && c ≤ 13)
def isDigit (c : UInt8) : Bool := 48 ≤ c && c ≤ 57

/-- `std::stoll`, where it does not throw. -/
def stoll (s : Bytes) : Option ℤ :=
  let s := s.dropWhile isSpace
  let negative := s.head? = some 45
  let s := if s.head? = some 45 ∨ s.head? = some 43 then s.tail else s
  let digits := s.takeWhile isDigit
  if digits = [] then none
  else
    let n : ℤ := digits.foldl (fun n c => 10 * n + (c.toNat - 48 : ℕ)) 0
    let n := if negative then -n else n
    if LLONG_MIN ≤ n ∧ n ≤ LLONG_MAX then some n else none

/-- One account of the loop: `best` and `bestStamp` behind it. -/
def betterPersona (best : Bytes × ℤ) (it : Bytes × VdfObject) : Bytes × ℤ :=
  let persona := it.2.attrib "PersonaName"
  if persona = [] then best
  else
    let stamp := (stoll (it.2.attrib "Timestamp")).getD 0
    let stamp := if it.2.attrib "MostRecent" = ascii "1" then LLONG_MAX else stamp
    if stamp > best.2 then (persona, stamp) else best

def bestPersona (root : VdfObject) : Bytes := (root.childs.foldl betterPersona ([], -1)).1

namespace Windows

variable (w : Windows)

/-- The name that is copied, empty where `ReadSteamPersonaName` returns 0. -/
def steamPersona : Bytes :=
  match w.steamPath 2048 with
  | none => []
  | some szSteamPath =>
    let (szVdf, ok) := w.pathCchCombine 1024 szSteamPath (wide "config\\loginusers.vdf")
    if !ok then []
    else if !w.good szVdf then []
    else match w.readVdf szVdf with
      | none => []
      | some root => bestPersona root

/-- `ReadSteamPersonaName`, and what it leaves in a buffer of `nSize` bytes. -/
def readSteamPersonaName (nSize : ℕ) : Bytes := strncpyTruncate nSize w.steamPersona

/-- The persona names in Steam's files are UTF-8. -/
def PersonasUtf8 : Prop :=
  ∀ szVdf root, w.readVdf szVdf = some root → ∀ it ∈ root.childs, ValidUtf8 (it.2.attrib "PersonaName")

end Windows

theorem strncpyTruncate_twice {small large : ℕ} (h : small ≤ large) (src : Bytes) :
    strncpyTruncate small (strncpyTruncate large src) = strncpyTruncate small src := by
  have whole : ((src.takeWhile (· ≠ 0)).take (large - 1)).takeWhile (· ≠ 0) = (src.takeWhile (· ≠ 0)).take (large - 1) := by
    refine List.takeWhile_eq_self_iff.2 fun c mem => ?_
    have kept := List.mem_takeWhile_imp (List.mem_of_mem_take mem)
    exact kept
  unfold strncpyTruncate
  rw [whole, List.take_take, Nat.min_eq_left (by omega)]

theorem bestPersona_of_mem (root : VdfObject) :
    bestPersona root = [] ∨ ∃ it ∈ root.childs, bestPersona root = it.2.attrib "PersonaName" := by
  have loop (childs : List (Bytes × VdfObject)) (best : Bytes × ℤ) :
      (childs.foldl betterPersona best).1 = best.1 ∨
        ∃ it ∈ childs, (childs.foldl betterPersona best).1 = it.2.attrib "PersonaName" := by
    induction childs generalizing best with
    | nil => exact Or.inl rfl
    | cons it childs ih =>
      rw [List.foldl_cons]
      rcases ih (betterPersona best it) with kept | ⟨other, mem, named⟩
      · have turn : (betterPersona best it).1 = best.1 ∨ (betterPersona best it).1 = it.2.attrib "PersonaName" := by
          unfold betterPersona
          dsimp only
          split
          · exact Or.inl rfl
          · by_cases later : (if it.2.attrib "MostRecent" = ascii "1" then LLONG_MAX
                else (stoll (it.2.attrib "Timestamp")).getD 0) > best.2
            · exact Or.inr (by rw [if_pos later])
            · exact Or.inl (by rw [if_neg later])
        rcases turn with same | named
        · exact Or.inl (kept.trans same)
        · exact Or.inr ⟨it, List.mem_cons_self, kept.trans named⟩
      · exact Or.inr ⟨other, List.mem_cons_of_mem it mem, named⟩
  exact loop root.childs ([], -1)

theorem Windows.steamPersona_utf8 {w : Windows} (h : w.PersonasUtf8) : ValidUtf8 w.steamPersona := by
  unfold Windows.steamPersona
  split
  · exact validUtf8_nil
  · dsimp only
    split
    · exact validUtf8_nil
    · split
      · exact validUtf8_nil
      · split
        · exact validUtf8_nil
        · rename_i root parsed
          rcases bestPersona_of_mem root with none | ⟨it, mem, named⟩
          · exact none ▸ validUtf8_nil
          · exact named ▸ h _ _ parsed it mem

end Sf4e.Launcher
