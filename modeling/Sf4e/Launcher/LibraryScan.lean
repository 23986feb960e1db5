import Sf4e.Launcher.Steam
/-!
# The scan of the Steam libraries

`FindSF4ByEstimatedSteamPath` collects the libraries of `libraryfolders.vdf` behind
Steam's own in an array of eight, and then looks into one after the other.
`library_scan_iff`: it stays in the array exactly when the file lists at most seven.
-/
open Sf4e.Lib

namespace Sf4e.Launcher

def szGameFilename : WideText := wide "SSFIV.exe"
def szLibrarySuffix : WideText := wide "steamapps\\common\\Super Street Fighter IV - Arcade Edition"

/-- `wchar_t szLibraries[8][1024]`. -/
abbrev LibraryTable := Vector WideText 8

/-- Why the scan does not return. What happens beyond the end of the table is undefined. -/
inductive Fault where
  | outOfBounds (i : ℕ)
  | threw
  deriving DecidableEq

def LibraryTable.read (t : LibraryTable) (i : ℕ) : Except Fault WideText :=
  if h : i < 8 then .ok t[i] else .error (.outOfBounds i)

def LibraryTable.write (t : LibraryTable) (i : ℕ) (f : WideText → WideText) : Except Fault LibraryTable :=
  if h : i < 8 then .ok (t.set i (f t[i])) else .error (.outOfBounds i)

/-- The two buffers of the caller, the libraries that were looked into, and the result. -/
structure Search where
  szGameDirectory : WideText
  szExePath : WideText
  tried : List WideText
  found : Bool

namespace Windows

variable (w : Windows)

/-- The loop over the children of `libraryfolders.vdf`. -/
def readLibraries : List (Bytes × VdfObject) → LibraryTable → ℕ → Except Fault (LibraryTable × ℕ)
  | [], szLibraries, nLibrariesUsed => .ok (szLibraries, nLibrariesUsed)
  | it :: rest, szLibraries, nLibrariesUsed => do
    let szLibraries ← szLibraries.write nLibrariesUsed (w.multiByteToWideChar (it.2.attrib "path") 1024)
    readLibraries rest szLibraries (nLibrariesUsed + 1)

/-- One turn of the second loop. -/
def tryLibrary (nGameDirSize nExeSize : ℕ) (library : WideText) (s : Search) : Search :=
  let s := { s with tried := s.tried ++ [library] }
  if !w.pathIsDirectoryW library then s
  else
    let (szGameDirectory, ok) := w.pathCchCombine nGameDirSize library szLibrarySuffix
    let s := { s with szGameDirectory }
    if !ok then s
    else if !w.pathIsDirectoryW szGameDirectory then s
    else
      let (szExePath, ok) := w.pathCchCombine nExeSize szGameDirectory szGameFilename
      let s := { s with szExePath }
      if !ok then s else { s with found := w.pathFileExistsW szExePath }

/-- The second loop, from `i` on. -/
def searchLibraries (nGameDirSize nExeSize : ℕ) (szLibraries : LibraryTable) : ℕ → ℕ → Search → Except Fault Search
  | 0, _, s => .ok s
  | left + 1, i, s => do
    let library ← szLibraries.read i
    let s := w.tryLibrary nGameDirSize nExeSize library s
    if s.found then return s
    searchLibraries nGameDirSize nExeSize szLibraries left (i + 1) s

/-- `FindSF4ByEstimatedSteamPath`; `stack` is what the table holds before anything is written. -/
def findSF4ByEstimatedSteamPath (stack : LibraryTable) (nGameDirSize nExeSize : ℕ) (szGameDirectory szExePath : WideText) :
    Except Fault Search :=
  let s : Search := { szGameDirectory, szExePath, tried := [], found := false }
  match w.steamPath 1024 with
  | none => .ok s
  | some steamPath =>
    let szLibraries := stack.set 0 steamPath
    let (szLibraryFolderVDFPath, ok) :=
      w.pathCchCombine 1024 szLibraries[0] (wide "steamapps\\libraryfolders.vdf")
    if !ok then .ok s
    else match w.readVdf szLibraryFolderVDFPath with
      | none => .error .threw
      | some root => do
        let (szLibraries, nLibrariesUsed) ← w.readLibraries root.childs szLibraries 1
        w.searchLibraries nGameDirSize nExeSize szLibraries nLibrariesUsed 0 s

/-! ## What the table holds after the first loop -/

/-- The libraries that the code records: Steam's own, and one for each entry of the file. -/
def recorded (stack : LibraryTable) (steamPath : WideText) (root : VdfObject) : List WideText :=
  steamPath :: List.zipWith (fun it => w.multiByteToWideChar (it.2.attrib "path") 1024) root.childs stack.toList.tail

theorem write_ok (t : LibraryTable) {i : ℕ} (h : i < 8) (f : WideText → WideText) :
    t.write i f = .ok (t.set i (f t[i])) := by
  simp only [LibraryTable.write, dif_pos h]

theorem write_outOfBounds (t : LibraryTable) {i : ℕ} (h : ¬i < 8) (f : WideText → WideText) :
    t.write i f = .error (.outOfBounds i) := by
  simp only [LibraryTable.write, dif_neg h]

theorem readLibraries_ok (childs : List (Bytes × VdfObject)) {t : LibraryTable} {n : ℕ} (h : n + childs.length ≤ 8) :
    ∃ t' : LibraryTable, w.readLibraries childs t n = .ok (t', n + childs.length) ∧
      t'.toList.take (n + childs.length) = t.toList.take n ++
        List.zipWith (fun it => w.multiByteToWideChar (it.2.attrib "path") 1024) childs (t.toList.drop n) := by
  induction childs generalizing t n with
  | nil => exact ⟨t, rfl, by simp⟩
  | cons it rest ih =>
    rw [List.length_cons] at h
    have hn : n < 8 := by omega
    have hl : n < t.toList.length := by rw [Vector.length_toList]; exact hn
    let x := w.multiByteToWideChar (it.2.attrib "path") 1024 t[n]
    obtain ⟨t', run, held⟩ := ih (t := t.set n x) (n := n + 1) (by omega)
    have count : n + (it :: rest).length = n + 1 + rest.length := by rw [List.length_cons]; omega
    refine ⟨t', ?_, ?_⟩
    · rw [readLibraries, write_ok t hn, count]
      exact run
    · -- the later writes leave the rows up to this one alone
      have written : (t.set n x).toList.take (n + 1) = t.toList.take n ++ [x] := by
        rw [Vector.toList_set, List.take_add_one, List.take_set_of_le (Nat.le_refl n), List.getElem?_set_self hl]
        rfl
      have behind : (t.set n x).toList.drop (n + 1) = t.toList.drop (n + 1) := by
        rw [Vector.toList_set, List.drop_set_of_lt (Nat.lt_succ_self n)]
      have here : t.toList.drop n = t[n] :: t.toList.drop (n + 1) := by
        rw [List.drop_eq_getElem_cons hl, Vector.getElem_toList]
      rw [count, held, written, behind, here, List.zipWith_cons_cons, List.append_assoc]
      rfl

/-- The write that leaves the table is the one at index eight. -/
theorem readLibraries_outOfBounds {childs : List (Bytes × VdfObject)} {t : LibraryTable} {n : ℕ} (hn : n ≤ 8)
    (h : 8 < n + childs.length) : w.readLibraries childs t n = .error (.outOfBounds 8) := by
  induction childs generalizing t n with
  | nil => exact absurd h (by simp only [List.length_nil]; omega)
  | cons it rest ih =>
    rw [List.length_cons] at h
    by_cases room : n < 8
    · rw [readLibraries, write_ok t room]
      exact ih (by omega) (by omega)
    · obtain rfl : n = 8 := by omega
      rw [readLibraries, write_outOfBounds t room]
      rfl

/-! ## The second loop -/

theorem tryLibrary_tried (nGameDirSize nExeSize : ℕ) (library : WideText) (s : Search) :
    (w.tryLibrary nGameDirSize nExeSize library s).tried = s.tried ++ [library] := by
  unfold tryLibrary
  dsimp only
  split
  · rfl
  · split
    · rfl
    · split
      · rfl
      · split <;> rfl

theorem searchLibraries_ok (nGameDirSize nExeSize : ℕ) (t : LibraryTable) (left : ℕ) {i : ℕ} (s : Search)
    (h : i + left ≤ 8) :
    ∃ s', w.searchLibraries nGameDirSize nExeSize t left i s = .ok s' ∧
      (s'.found = false → s'.tried = s.tried ++ (t.toList.drop i).take left) := by
  induction left generalizing i s with
  | zero => exact ⟨s, rfl, fun _ => by simp⟩
  | succ left ih =>
    have hi : i < 8 := by omega
    have read : t.read i = .ok t[i] := by simp only [LibraryTable.read, dif_pos hi]
    have here : (t.toList.drop i).take (left + 1) = t[i] :: (t.toList.drop (i + 1)).take left := by
      rw [List.drop_eq_getElem_cons (by rw [Vector.length_toList]; exact hi), List.take_succ_cons, Vector.getElem_toList]
    have tried := w.tryLibrary_tried nGameDirSize nExeSize t[i] s
    simp only [searchLibraries, read]
    by_cases found : (w.tryLibrary nGameDirSize nExeSize t[i] s).found = true
    · refine ⟨w.tryLibrary nGameDirSize nExeSize t[i] s, if_pos found, fun none => ?_⟩
      exact absurd found (by rw [none]; decide)
    · obtain ⟨s', run, all⟩ := ih (i := i + 1) (w.tryLibrary nGameDirSize nExeSize t[i] s) (by omega)
      refine ⟨s', (if_neg found).trans run, fun none => ?_⟩
      rw [all none, tried, here, List.append_assoc]
      rfl

/-! ## The whole function -/

/-- The scan stays in its table and looks into every library it recorded before it gives up,
exactly when the file lists at most seven. -/
theorem library_scan_iff (stack : LibraryTable) (nGameDirSize nExeSize : ℕ) (szGameDirectory szExePath : WideText)
    {steamPath vdfPath : WideText} {root : VdfObject} (registry : w.steamPath 1024 = some steamPath)
    (combined : w.pathCchCombine 1024 steamPath (wide "steamapps\\libraryfolders.vdf") = (vdfPath, true))
    (parsed : w.readVdf vdfPath = some root) :
    (∃ s, w.findSF4ByEstimatedSteamPath stack nGameDirSize nExeSize szGameDirectory szExePath = .ok s ∧
      (s.found = false → ∀ library ∈ w.recorded stack steamPath root, library ∈ s.tried)) ↔
    root.childs.length ≤ 7 := by
  have start : w.findSF4ByEstimatedSteamPath stack nGameDirSize nExeSize szGameDirectory szExePath =
      (w.readLibraries root.childs (stack.set 0 steamPath) 1).bind fun r =>
        w.searchLibraries nGameDirSize nExeSize r.1 r.2 0 ⟨szGameDirectory, szExePath, [], false⟩ := by
    have first : (stack.set 0 steamPath)[0] = steamPath := Vector.getElem_set_self _
    simp only [findSF4ByEstimatedSteamPath, registry, first, combined, parsed, Bool.not_true, Bool.false_eq_true, if_false]
    rfl
  rw [start]
  constructor
  · -- with more than seven the first loop does not come to its end
    rintro ⟨s, run, -⟩
    refine Nat.le_of_not_lt fun many => ?_
    rw [w.readLibraries_outOfBounds (by decide) (by omega)] at run
    cases run
  · intro few
    obtain ⟨t, run, held⟩ := w.readLibraries_ok root.childs (t := stack.set 0 steamPath) (n := 1) (by omega)
    obtain ⟨s, search, all⟩ := w.searchLibraries_ok nGameDirSize nExeSize t (1 + root.childs.length) (i := 0)
      ⟨szGameDirectory, szExePath, [], false⟩ (by omega)
    have first : (stack.set 0 steamPath).toList.take 1 = [steamPath] := by
      rw [Vector.toList_set, List.take_one, List.head?_eq_getElem?, List.getElem?_set_self (by simp)]
      rfl
    have rest : (stack.set 0 steamPath).toList.drop 1 = stack.toList.tail := by
      rw [Vector.toList_set, List.drop_set_of_lt Nat.zero_lt_one, List.drop_one]
    refine ⟨s, by rw [run]; exact search, fun none library mem => ?_⟩
    rw [all none, List.drop_zero, held, first, rest]
    exact mem

end Windows

/-- Steam in `C:\Steam`, whose file lists so many libraries on another drive that is not there. -/
def unpluggedDrive (libraries : ℕ) : Windows where
  steamPath _ := some (wide "C:\\Steam")
  pathCchCombine _ path more := (path ++ wide "\\" ++ more, true)
  good _ := true
  readVdf _ := some (.mk [] ((List.range libraries).map fun i =>
    (toDecimal i, .mk [(ascii "path", ascii "E:\\Games" ++ toDecimal i)] [])))
  multiByteToWideChar text _ _ := text.map fun c => c.toUInt16
  pathIsDirectoryW path := path = wide "C:\\Steam"
  pathFileExistsW _ := false

theorem library_scan_iff_seven :
    ∃ s, (unpluggedDrive 7).findSF4ByEstimatedSteamPath (.replicate 8 []) 1024 1024 [] [] = .ok s ∧
      (s.found = false → ∀ library ∈ (unpluggedDrive 7).recorded (.replicate 8 []) (wide "C:\\Steam")
        (.mk [] ((List.range 7).map fun i =>
          (toDecimal i, .mk [(ascii "path", ascii "E:\\Games" ++ toDecimal i)] []))), library ∈ s.tried) :=
  ((unpluggedDrive 7).library_scan_iff (.replicate 8 []) 1024 1024 [] [] rfl rfl rfl).2 (by decide)

/-- With eight libraries in the file, the ninth path is written behind the table. -/
theorem library_scan_eight :
    (unpluggedDrive 8).findSF4ByEstimatedSteamPath (.replicate 8 []) 1024 1024 [] [] = .error (.outOfBounds 8) := by
  rfl

end Sf4e.Launcher
