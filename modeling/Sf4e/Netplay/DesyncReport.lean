import Mathlib.Algebra.Order.Ring.Rat
import Mathlib.Data.Rat.Floor
import Sf4e.Lib.Pieces
import Sf4e.Session.Protocol
/-!
# The text of a desync report

`DescribeSnapshotDiff` lists the fields in which two state snapshots differ, as
they are printed. `SnapshotGameplayDiffers` has a list of its own.
-/
open Sf4e.Lib Sf4e.Session

namespace Sf4e.Netplay

/-! ## Snapshots -/

def GM_CHUNK_BYTES : ℕ := 64
def GM_SAVED_BYTES : ℕ := 0x49c
def GM_PROBE_BYTES : ℕ := 1152
def GM_MAX_CHUNKS : ℕ := GM_PROBE_BYTES / GM_CHUNK_BYTES

/-- The fixed-point fields of a fighter. -/
inductive FixedField where
  | vit | vitmax | revenge | revengemax | recoverable | recoverablemax | super | supermax | sctimeamt | sctimemax
  | uctime | uctimemax | damage | combodamage | actionFrame | timeScale
  deriving DecidableEq

/-- `StateSnapshot::CharaStateSnapshot`, the positions as exact numbers. -/
structure CharaStateSnapshot where
  status : Int32
  rootPos : Fin 4 → ℚ
  side : Int32
  fixed : FixedField → FixedPoint
  action : Int32
  posture : Int32

/-- What a `StateSnapshot` has of the game's state. -/
structure SnapshotFields where
  battleFlow : Int32
  battleFlowSubstate : Int32
  gmChunks : Fin GM_MAX_CHUNKS → UInt32
  chara : Side → CharaStateSnapshot

/-! ## How values are printed -/

/-- `%d`, and `std::to_string` of an `int`. -/
def intText (n : ℤ) : Bytes := (if n < 0 then ascii "-" else []) ++ toDecimal n.natAbs

/-- `FormatFP`, into a buffer of 24 bytes. -/
def formatFP (v : FixedPoint) : Bytes :=
  (intText v.integral.toInt ++ ascii "+" ++ toDecimal v.fractional.toNat ++ ascii "/65536").take 23

/-- The nearest whole number, the even one of two. -/
def roundHalfEven (x : ℚ) : ℤ :=
  let n := ⌊x⌋
  if x - n < 1 / 2 then n else if 1 / 2 < x - n then n + 1 else if n % 2 = 0 then n else n + 1

/-- `%.6f`, into a buffer of 32 bytes. -/
def formatPos (x : ℚ) : Bytes :=
  let n := (roundHalfEven (|x| * 10 ^ 6)).toNat
  ((if x < 0 then ascii "-" else []) ++ toDecimal (n / 10 ^ 6) ++ ascii "." ++
    (toDecimal (n % 10 ^ 6)).leftpad 6 0x30).take 31

/-! ## The report -/

def FixedField.name : FixedField → Bytes
  | vit => ascii "vit"
  | vitmax => ascii "vitmax"
  | revenge => ascii "revenge"
  | revengemax => ascii "revengemax"
  | recoverable => ascii "recoverable"
  | recoverablemax => ascii "recoverablemax"
  | super => ascii "super"
  | supermax => ascii "supermax"
  | sctimeamt => ascii "sctimeamt"
  | sctimemax => ascii "sctimemax"
  | uctime => ascii "uctime"
  | uctimemax => ascii "uctimemax"
  | damage => ascii "damage"
  | combodamage => ascii "combodamage"
  | actionFrame => ascii "actionFrame"
  | timeScale => ascii "timeScale"

/-- The fields `FPF` is applied to, in order. -/
def describedFixed : List FixedField :=
  [.vit, .vitmax, .revenge, .revengemax, .recoverable, .recoverablemax, .super, .supermax, .sctimeamt, .sctimemax,
    .uctime, .uctimemax, .damage, .combodamage, .actionFrame, .timeScale]

def posName (k : Fin 4) : Bytes := ascii "rootPos[" ++ toDecimal k ++ ascii "]"

/-- A field of a fighter, as the report calls it. -/
def label (i : Side) (name : Bytes) : Bytes := ascii "P" ++ toDecimal (i + 1) ++ ascii "." ++ name

def comma : UInt8 := 0x2c
def blank : UInt8 := 0x20

/-- Two values under a name. -/
def entry (name mv rv : Bytes) : Bytes := name ++ ascii " a=" ++ mv ++ ascii " b=" ++ rv

/-- `if (!out.empty()) out += ", ";`, and then more. -/
abbrev say (out piece : Bytes) : Bytes := appendPiece [comma, blank] out piece

/-- `add`: a difference is told by the texts. -/
def add (i : Side) (out name mv rv : Bytes) : Bytes :=
  if mv = rv then out else say out (entry (label i name) mv rv)

def describeChara (i : Side) (m r : CharaStateSnapshot) (out : Bytes) : Bytes :=
  let out := add i out (ascii "status") (intText m.status.toInt) (intText r.status.toInt)
  let out := add i out (ascii "side") (intText m.side.toInt) (intText r.side.toInt)
  let out := (List.finRange 4).foldl (fun out k =>
    if m.rootPos k ≠ r.rootPos k then add i out (posName k) (formatPos (m.rootPos k)) (formatPos (r.rootPos k))
    else out) out
  let out := describedFixed.foldl (fun out f => add i out f.name (formatFP (m.fixed f)) (formatFP (r.fixed f))) out
  let out := add i out (ascii "action") (intText m.action.toInt) (intText r.action.toInt)
  add i out (ascii "posture") (intText m.posture.toInt) (intText r.posture.toInt)

def chunkText (c : Fin GM_MAX_CHUNKS) : Bytes :=
  let off := c.val * GM_CHUNK_BYTES
  ascii "+" ++ toDecimal off ++ if off ≥ GM_SAVED_BYTES then ascii "(UNSAVED!)" else []

/-- The loop over the chunks of the GameManager. -/
def describeChunks (mine theirs : SnapshotFields) : List (Fin GM_MAX_CHUNKS) → ℕ → Bytes → Bytes
  | [], _, gm => gm
  | c :: rest, shown, gm =>
    if mine.gmChunks c = theirs.gmChunks c then describeChunks mine theirs rest shown gm
    else if shown ≥ 8 then gm ++ ascii ", ..."
    else describeChunks mine theirs rest (shown + 1) (say gm (chunkText c))

def allMatch : Bytes := ascii "(the compared fields all match; the drift is in state the snapshot does not cover)"

/-- `DescribeSnapshotDiff`. -/
def describeSnapshotDiff (mine theirs : SnapshotFields) : Bytes :=
  let out :=
    if mine.battleFlow ≠ theirs.battleFlow then
      entry (ascii "battleFlow") (intText mine.battleFlow.toInt) (intText theirs.battleFlow.toInt)
    else []
  let out :=
    if mine.battleFlowSubstate ≠ theirs.battleFlowSubstate then
      say out (entry (ascii "battleFlowSubstate") (intText mine.battleFlowSubstate.toInt)
        (intText theirs.battleFlowSubstate.toInt))
    else out
  let out := describeChara 0 (mine.chara 0) (theirs.chara 0) out
  let out := describeChara 1 (mine.chara 1) (theirs.chara 1) out
  let gm := describeChunks mine theirs (List.finRange GM_MAX_CHUNKS) 0 []
  let out := if gm = [] then out else say out (ascii "GameManager chunks differ at " ++ gm)
  if out = [] then allMatch else out

/-- The fields the first `FPD` of `SnapshotGameplayDiffers` is applied to, in order. -/
def gameplayFixed : List FixedField :=
  [.vit, .vitmax, .revenge, .revengemax, .recoverable, .recoverablemax, .super, .supermax, .sctimeamt, .sctimemax,
    .uctime, .uctimemax, .damage, .combodamage]

def gameplayDiffers (m r : CharaStateSnapshot) : Bool :=
  m.status ≠ r.status || m.side ≠ r.side ||
  gameplayFixed.any (fun f => (m.fixed f).integral ≠ (r.fixed f).integral || (m.fixed f).fractional ≠ (r.fixed f).fractional) ||
  m.action ≠ r.action || m.posture ≠ r.posture

/-- `SnapshotGameplayDiffers`. -/
def snapshotGameplayDiffers (a b : SnapshotFields) : Bool :=
  gameplayDiffers (a.chara 0) (b.chara 0) || gameplayDiffers (a.chara 1) (b.chara 1)

/-! ## The pieces of a report -/

/-- A field of a fighter that the report compares. -/
inductive CharaField where
  | status
  | side
  | rootPos (k : Fin 4)
  | fixed (f : FixedField)
  | action
  | posture
  deriving DecidableEq

namespace CharaField

def name : CharaField → Bytes
  | status => ascii "status"
  | side => ascii "side"
  | rootPos k => posName k
  | fixed f => f.name
  | action => ascii "action"
  | posture => ascii "posture"

/-- What the report prints of it. -/
def text (c : CharaStateSnapshot) : CharaField → Bytes
  | status => intText c.status.toInt
  | side => intText c.side.toInt
  | rootPos k => formatPos (c.rootPos k)
  | fixed f => formatFP (c.fixed f)
  | action => intText c.action.toInt
  | posture => intText c.posture.toInt

def Differs (m r : CharaStateSnapshot) : CharaField → Prop
  | status => m.status ≠ r.status
  | side => m.side ≠ r.side
  | rootPos k => m.rootPos k ≠ r.rootPos k
  | fixed f => m.fixed f ≠ r.fixed f
  | action => m.action ≠ r.action
  | posture => m.posture ≠ r.posture

/-- The order they are printed in. -/
def all : List CharaField :=
  [status, side] ++ (List.finRange 4).map rootPos ++ describedFixed.map fixed ++ [action, posture]

theorem mem_all (f : CharaField) : f ∈ all := by
  cases f with
  | rootPos k =>
    exact List.mem_append_left _
      (List.mem_append_left _ (List.mem_append_right _ (List.mem_map_of_mem (List.mem_finRange k))))
  | fixed f =>
    refine List.mem_append_left _ (List.mem_append_right _ (List.mem_map_of_mem ?_))
    cases f <;> decide
  | _ => decide

end CharaField

/-- What is said of a fighter. -/
def charaPieces (i : Side) (m r : CharaStateSnapshot) : List Bytes :=
  (CharaField.all.filter fun f => f.text m ≠ f.text r).map fun f => entry (label i f.name) (f.text m) (f.text r)

theorem add_all (i : Side) (m r : CharaStateSnapshot) (fields : List CharaField) (out : Bytes) :
    fields.foldl (fun out f => add i out f.name (f.text m) (f.text r)) out =
      ((fields.filter fun f => f.text m ≠ f.text r).map fun f => entry (label i f.name) (f.text m) (f.text r)).foldl
        say out := by
  induction fields generalizing out with
  | nil => rfl
  | cons f fields ih =>
    rw [List.foldl_cons, ih]
    by_cases h : f.text m = f.text r
    · rw [List.filter_cons_of_neg (by simpa using h), add, if_pos h]
    · rw [List.filter_cons_of_pos (by simpa using h), add, if_neg h]
      rfl

theorem describeChara_eq (i : Side) (m r : CharaStateSnapshot) (out : Bytes) :
    describeChara i m r out = (charaPieces i m r).foldl say out := by
  -- where two positions are equal, so are their texts
  have hpos (out : Bytes) (k : Fin 4) :
      (if m.rootPos k ≠ r.rootPos k then add i out (posName k) (formatPos (m.rootPos k)) (formatPos (r.rootPos k))
        else out) = add i out (posName k) (formatPos (m.rootPos k)) (formatPos (r.rootPos k)) := by
    by_cases h : m.rootPos k = r.rootPos k
    · rw [if_neg (not_not.2 h), h, add, if_pos rfl]
    · rw [if_pos h]
  unfold charaPieces
  rw [← add_all]
  unfold describeChara CharaField.all
  simp only [hpos, List.foldl_append, List.foldl_map, List.foldl_cons, List.foldl_nil, CharaField.name, CharaField.text]

/-- What is said of the chunks, which share one heading. -/
def chunkPieces (mine theirs : SnapshotFields) : List (Fin GM_MAX_CHUNKS) → ℕ → List Bytes
  | [], _ => []
  | c :: rest, shown =>
    if mine.gmChunks c = theirs.gmChunks c then chunkPieces mine theirs rest shown
    else if shown ≥ 8 then [ascii "..."]
    else chunkText c :: chunkPieces mine theirs rest (shown + 1)

theorem chunkText_ne_nil (c : Fin GM_MAX_CHUNKS) : chunkText c ≠ [] := List.cons_ne_nil _ _

theorem describeChunks_eq (mine theirs : SnapshotFields) (cs : List (Fin GM_MAX_CHUNKS)) {shown : ℕ} {gm : Bytes}
    (h : gm = [] → shown = 0) :
    describeChunks mine theirs cs shown gm = (chunkPieces mine theirs cs shown).foldl say gm := by
  induction cs generalizing shown gm with
  | nil => rfl
  | cons c rest ih =>
    unfold describeChunks chunkPieces
    split
    · exact ih h
    · split
      · -- eight have been shown, so there is something to append to
        have hgm : gm ≠ [] := fun he => by have := h he; omega
        show gm ++ ascii ", ..." = appendPiece [comma, blank] gm (ascii "...")
        rw [appendPiece, if_neg hgm, List.append_assoc]
        rfl
      · rw [List.foldl_cons]
        exact ih fun he => absurd he (appendPiece_ne_nil (chunkText_ne_nil c) gm)

theorem chunkPieces_ne_nil (mine theirs : SnapshotFields) (cs : List (Fin GM_MAX_CHUNKS)) (shown : ℕ) :
    ∀ p ∈ chunkPieces mine theirs cs shown, p ≠ [] := by
  induction cs generalizing shown with
  | nil => exact fun p hp => absurd hp List.not_mem_nil
  | cons c rest ih =>
    unfold chunkPieces
    split
    · exact ih shown
    · split
      · intro p hp
        rw [List.mem_singleton.1 hp]
        exact List.cons_ne_nil _ _
      · intro p hp
        rcases List.mem_cons.1 hp with rfl | hp
        · exact chunkText_ne_nil c
        · exact ih _ p hp

def heading : Bytes := ascii "GameManager chunks differ at "

/-- The chunks' pieces, the first with the heading. -/
def gmPieces (mine theirs : SnapshotFields) : List Bytes :=
  match chunkPieces mine theirs (List.finRange GM_MAX_CHUNKS) 0 with
  | [] => []
  | p :: ps => (heading ++ p) :: ps

def flowPieces (mine theirs : SnapshotFields) : List Bytes :=
  (if mine.battleFlow ≠ theirs.battleFlow then
    [entry (ascii "battleFlow") (intText mine.battleFlow.toInt) (intText theirs.battleFlow.toInt)] else []) ++
  if mine.battleFlowSubstate ≠ theirs.battleFlowSubstate then
    [entry (ascii "battleFlowSubstate") (intText mine.battleFlowSubstate.toInt)
      (intText theirs.battleFlowSubstate.toInt)] else []

/-- Everything a report says. -/
def pieces (mine theirs : SnapshotFields) : List Bytes :=
  flowPieces mine theirs ++ charaPieces 0 (mine.chara 0) (theirs.chara 0) ++
    charaPieces 1 (mine.chara 1) (theirs.chara 1) ++ gmPieces mine theirs

theorem entry_ne_nil {name : Bytes} (h : name ≠ []) (mv rv : Bytes) : entry name mv rv ≠ [] := by
  unfold entry
  simp [h]

theorem label_ne_nil (i : Side) (name : Bytes) : label i name ≠ [] := List.cons_ne_nil _ _

theorem pieces_ne_nil (mine theirs : SnapshotFields) : ∀ p ∈ pieces mine theirs, p ≠ [] := by
  have hchara (i : Side) (m r : CharaStateSnapshot) : ∀ p ∈ charaPieces i m r, p ≠ [] := by
    intro p hp
    obtain ⟨f, -, rfl⟩ := List.mem_map.1 hp
    exact entry_ne_nil (label_ne_nil i f.name) _ _
  intro p hp
  simp only [pieces, List.mem_append] at hp
  rcases hp with ((hp | hp) | hp) | hp
  · unfold flowPieces at hp
    rcases List.mem_append.1 hp with hp | hp
    · split at hp
      · rw [List.mem_singleton.1 hp]
        exact entry_ne_nil (by decide) _ _
      · exact absurd hp List.not_mem_nil
    · split at hp
      · rw [List.mem_singleton.1 hp]
        exact entry_ne_nil (by decide) _ _
      · exact absurd hp List.not_mem_nil
  · exact hchara 0 _ _ p hp
  · exact hchara 1 _ _ p hp
  · unfold gmPieces at hp
    split at hp
    · exact absurd hp List.not_mem_nil
    · next q qs hq =>
      rcases List.mem_cons.1 hp with rfl | hp
      · exact List.cons_ne_nil _ _
      · exact chunkPieces_ne_nil mine theirs _ 0 p (by rw [hq]; exact List.mem_cons_of_mem q hp)

/-- A report is its pieces, or says that everything matches. -/
theorem describe_eq (mine theirs : SnapshotFields) : describeSnapshotDiff mine theirs =
    if pieces mine theirs = [] then allMatch else [comma, blank].intercalate (pieces mine theirs) := by
  have hflow : (if mine.battleFlowSubstate ≠ theirs.battleFlowSubstate then
      say (if mine.battleFlow ≠ theirs.battleFlow then
        entry (ascii "battleFlow") (intText mine.battleFlow.toInt) (intText theirs.battleFlow.toInt) else [])
        (entry (ascii "battleFlowSubstate") (intText mine.battleFlowSubstate.toInt)
          (intText theirs.battleFlowSubstate.toInt))
      else if mine.battleFlow ≠ theirs.battleFlow then
        entry (ascii "battleFlow") (intText mine.battleFlow.toInt) (intText theirs.battleFlow.toInt) else []) =
      (flowPieces mine theirs).foldl say [] := by
    unfold flowPieces
    split <;> split <;> rfl
  have hgm (out : Bytes) : (if describeChunks mine theirs (List.finRange GM_MAX_CHUNKS) 0 [] = [] then out
      else say out (heading ++ describeChunks mine theirs (List.finRange GM_MAX_CHUNKS) 0 [])) =
      (gmPieces mine theirs).foldl say out := by
    have hne := chunkPieces_ne_nil mine theirs (List.finRange GM_MAX_CHUNKS) 0
    rw [describeChunks_eq mine theirs _ fun _ => rfl]
    unfold gmPieces
    cases hc : chunkPieces mine theirs (List.finRange GM_MAX_CHUNKS) 0 with
    | nil => rfl
    | cons p ps =>
      rw [hc] at hne
      have hp := hne p List.mem_cons_self
      have hps := fun q hq => hne q (List.mem_cons_of_mem p hq)
      have hfirst : (p :: ps).foldl say [] = ps.foldl say p := rfl
      have hnil : ps.foldl say p ≠ [] := by
        rw [foldl_appendPiece hp hps, intercalate_cons_eq]
        simp [hp]
      rw [hfirst, if_neg hnil]
      exact appendPiece_heading out heading hp hps
  have hout : (pieces mine theirs).foldl say [] = [comma, blank].intercalate (pieces mine theirs) :=
    foldl_appendPiece_nil (pieces_ne_nil mine theirs)
  have hnil : (pieces mine theirs).foldl say [] = [] ↔ pieces mine theirs = [] := by
    rw [hout]
    cases hp : pieces mine theirs with
    | nil => simp
    | cons p ps =>
      have hne := pieces_ne_nil mine theirs p (by rw [hp]; exact List.mem_cons_self)
      rw [intercalate_cons_eq]
      simp [hne]
  have hfold : describeSnapshotDiff mine theirs =
      if (pieces mine theirs).foldl say [] = [] then allMatch else (pieces mine theirs).foldl say [] := by
    unfold describeSnapshotDiff pieces
    unfold heading at hgm
    dsimp only
    rw [hflow, describeChara_eq, describeChara_eq]
    simp only [hgm, List.foldl_append]
  rw [hfold]
  by_cases hp : pieces mine theirs = []
  · rw [if_pos hp, if_pos (hnil.2 hp)]
  · rw [if_neg hp, if_neg fun h => hp (hnil.1 h), hout]

/-! ## Texts -/

theorem notMem_toDecimal {b : UInt8} (hb : b.toNat < 48) (n : ℕ) : b ∉ toDecimal n := fun h => by
  have := (toDecimal_range n b h).1
  omega

theorem intText_range {b : UInt8} (hb : b.toNat < 48) (hminus : b ≠ 0x2d) (n : ℤ) : b ∉ intText n := by
  unfold intText
  rw [List.mem_append, not_or]
  refine ⟨?_, notMem_toDecimal hb _⟩
  split
  · intro h
    exact hminus (List.mem_singleton.1 h)
  · exact List.not_mem_nil

theorem intText_inj {m n : ℤ} (h : intText m = intText n) : m = n := by
  have hminus (k : ℕ) (s : Bytes) : (0x2d : UInt8) :: s ≠ toDecimal k := fun he =>
    notMem_toDecimal (b := 0x2d) (by decide) k (he ▸ List.mem_cons_self)
  unfold intText at h
  split at h <;> split at h
  · have habs := toDecimal_inj (List.append_cancel_left h)
    omega
  · exact absurd h (hminus _ _)
  · exact absurd h.symm (hminus _ _)
  · have habs := toDecimal_inj h
    omega

theorem formatFP_eq (v : FixedPoint) :
    formatFP v = intText v.integral.toInt ++ 0x2b :: (toDecimal v.fractional.toNat ++ ascii "/65536") := by
  have hint : (intText v.integral.toInt).length ≤ 6 := by
    have hle := Int16.toInt_lt v.integral
    have hge := Int16.le_toInt v.integral
    have habs := length_toDecimal (n := v.integral.toInt.natAbs) (k := 5) (by omega) (by omega)
    unfold intText
    rw [List.length_append]
    have hsign : (if v.integral.toInt < 0 then ascii "-" else []).length ≤ 1 := by split <;> decide
    omega
  have hfrac := length_toDecimal (n := v.fractional.toNat) (k := 5) (by omega)
    (Nat.lt_trans v.fractional.toNat_lt (by omega))
  have hplus : ascii "+" = [0x2b] := rfl
  have hden : (ascii "/65536").length = 6 := rfl
  unfold formatFP
  rw [List.take_of_length_le, hplus]
  · simp only [List.append_assoc, List.cons_append, List.nil_append]
  · simp only [List.length_append, hplus, hden, List.length_singleton]
    omega

/-- The texts of two fixed-point numbers tell them apart. -/
theorem formatFP_inj {v w : FixedPoint} (h : formatFP v = formatFP w) : v = w := by
  have hplus (n : ℤ) : (0x2b : UInt8) ∉ intText n := intText_range (by decide) (by decide) n
  have hplus' (n : ℕ) : (0x2b : UInt8) ∉ toDecimal n ++ ascii "/65536" := by
    rw [List.mem_append, not_or]
    exact ⟨notMem_toDecimal (by decide) n, by decide⟩
  rw [formatFP_eq, formatFP_eq] at h
  obtain ⟨hint, -, hrest⟩ := (List.append_cons_inj_of_notMem (hplus _) (hplus' _)).1 h
  have hfrac := List.append_cancel_right hrest
  have hi := Int16.toInt_inj.1 (intText_inj hint)
  have hf := UInt16.toNat_inj.1 (toDecimal_inj hfrac)
  cases v
  cases w
  cases hi
  cases hf
  rfl

/-- A text without commas. -/
def Plain (s : Bytes) : Prop := comma ∉ s

instance (s : Bytes) : Decidable (Plain s) := inferInstanceAs (Decidable (comma ∉ s))

theorem intText_plain (n : ℤ) : Plain (intText n) := intText_range (by decide) (by decide) n

theorem formatFP_plain (v : FixedPoint) : Plain (formatFP v) := by
  unfold Plain
  rw [formatFP_eq]
  simp only [List.mem_append, List.mem_cons, not_or]
  exact ⟨intText_plain _, by decide, notMem_toDecimal (by decide) _, by decide⟩

theorem formatPos_plain (x : ℚ) : Plain (formatPos x) := by
  unfold Plain formatPos
  intro h
  have h := List.mem_of_mem_take h
  simp only [List.mem_append, List.leftpad, List.mem_replicate] at h
  rcases h with ((h | h) | h) | ⟨-, h⟩ | h
  · split at h
    · exact absurd h (by decide)
    · exact List.not_mem_nil h
  · exact notMem_toDecimal (by decide) _ h
  · exact absurd h (by decide)
  · exact absurd h (by decide)
  · exact notMem_toDecimal (by decide) _ h

theorem CharaField.text_plain (c : CharaStateSnapshot) (f : CharaField) : Plain (f.text c) := by
  cases f with
  | rootPos k => exact formatPos_plain _
  | fixed f => exact formatFP_plain _
  | _ => exact intText_plain _

/-! ## What a report names -/

theorem label_plain (i : Side) (f : CharaField) : Plain (label i f.name) ∧ blank ∉ label i f.name := by
  have hall : ∀ f ∈ CharaField.all, comma ∉ label i f.name ∧ blank ∉ label i f.name := by
    cases i using Side.cases <;> decide +kernel
  exact hall f f.mem_all

/-- No two fields go by one name. -/
theorem label_inj {i i' : Side} {f f' : CharaField} (h : label i f.name = label i' f'.name) : i = i' ∧ f = f' := by
  have hall : ∀ f ∈ CharaField.all, ∀ f' ∈ CharaField.all, ∀ i i' : Side,
      label i f.name = label i' f'.name → i = i' ∧ f = f' := by decide +kernel
  exact hall f f.mem_all f' f'.mem_all i i' h

theorem entry_plain {name mv rv : Bytes} (hname : Plain name) (hm : Plain mv) (hr : Plain rv) :
    Plain (entry name mv rv) := by
  unfold Plain entry at *
  simp only [List.mem_append, not_or]
  exact ⟨⟨⟨⟨hname, by decide⟩, hm⟩, by decide⟩, hr⟩

theorem firstWord_entry {name : Bytes} (hne : name ≠ []) (hname : blank ∉ name) (mv rv : Bytes) :
    firstWord blank (entry name mv rv) = name := by
  have hshape : entry name mv rv = name ++ blank :: (ascii "a=" ++ mv ++ ascii " b=" ++ rv) := by
    unfold entry
    simp only [List.append_assoc]
    rfl
  rw [hshape]
  exact firstWord_append hne hname _

theorem mem_chunkPieces {mine theirs : SnapshotFields} {cs : List (Fin GM_MAX_CHUNKS)} {shown : ℕ} {p : Bytes}
    (hp : p ∈ chunkPieces mine theirs cs shown) : p = ascii "..." ∨ ∃ c, p = chunkText c := by
  induction cs generalizing shown with
  | nil => exact absurd hp List.not_mem_nil
  | cons c rest ih =>
    unfold chunkPieces at hp
    split at hp
    · exact ih hp
    · split at hp
      · exact .inl (List.mem_singleton.1 hp)
      · rcases List.mem_cons.1 hp with rfl | hp
        · exact .inr ⟨c, rfl⟩
        · exact ih hp

theorem mem_gmPieces {mine theirs : SnapshotFields} {p : Bytes} (hp : p ∈ gmPieces mine theirs) :
    ∃ q, (q = ascii "..." ∨ ∃ c, q = chunkText c) ∧ (p = q ∨ p = heading ++ q) := by
  unfold gmPieces at hp
  split at hp
  · exact absurd hp List.not_mem_nil
  · next q qs hq =>
    have hmem (q' : Bytes) (hq' : q' ∈ q :: qs) := mem_chunkPieces (hq ▸ hq')
    rcases List.mem_cons.1 hp with rfl | hp
    · exact ⟨q, hmem q List.mem_cons_self, .inr rfl⟩
    · exact ⟨p, hmem p (List.mem_cons_of_mem q hp), .inl rfl⟩

theorem chunkText_plain (c : Fin GM_MAX_CHUNKS) : Plain (chunkText c) := by
  unfold Plain chunkText
  dsimp only
  rw [List.mem_append, List.mem_append, not_or, not_or]
  refine ⟨⟨by decide, notMem_toDecimal (by decide) _⟩, ?_⟩
  split <;> decide

theorem mem_flowPieces {mine theirs : SnapshotFields} {p : Bytes} (hp : p ∈ flowPieces mine theirs) :
    ∃ name mv rv, (name = ascii "battleFlow" ∨ name = ascii "battleFlowSubstate") ∧ Plain mv ∧ Plain rv ∧
      p = entry name mv rv := by
  unfold flowPieces at hp
  rcases List.mem_append.1 hp with hp | hp
  · split at hp
    · exact ⟨_, _, _, .inl rfl, intText_plain _, intText_plain _, List.mem_singleton.1 hp⟩
    · exact absurd hp List.not_mem_nil
  · split at hp
    · exact ⟨_, _, _, .inr rfl, intText_plain _, intText_plain _, List.mem_singleton.1 hp⟩
    · exact absurd hp List.not_mem_nil

/-- A piece is about a field of a fighter whose texts differ, or begins with another letter. -/
theorem mem_pieces {mine theirs : SnapshotFields} {p : Bytes} (hp : p ∈ pieces mine theirs) :
    Plain p ∧ ((∃ i f, CharaField.text (mine.chara i) f ≠ f.text (theirs.chara i) ∧ firstWord blank p = label i f.name) ∨
      ∃ a, a ≠ 0x50 ∧ a ≠ 0x28 ∧ (firstWord blank p).head? = some a) := by
  have hchara (i : Side) (hp : p ∈ charaPieces i (mine.chara i) (theirs.chara i)) :
      Plain p ∧ ∃ i f, CharaField.text (mine.chara i) f ≠ f.text (theirs.chara i) ∧ firstWord blank p = label i f.name := by
    obtain ⟨f, hf, rfl⟩ := List.mem_map.1 hp
    obtain ⟨hplain, hblank⟩ := label_plain i f
    exact ⟨entry_plain hplain (f.text_plain _) (f.text_plain _), i, f, by simpa using (List.mem_filter.1 hf).2,
      firstWord_entry (label_ne_nil i f.name) hblank _ _⟩
  unfold pieces at hp
  rcases List.mem_append.1 hp with hp | hp
  · rcases List.mem_append.1 hp with hp | hp
    · rcases List.mem_append.1 hp with hp | hp
      · obtain ⟨name, mv, rv, hname, hmv, hrv, rfl⟩ := mem_flowPieces hp
        rcases hname with rfl | rfl
        · refine ⟨entry_plain (by decide) hmv hrv, .inr ⟨0x62, by decide, by decide, ?_⟩⟩
          exact firstWord_head (by decide) _
        · refine ⟨entry_plain (by decide) hmv hrv, .inr ⟨0x62, by decide, by decide, ?_⟩⟩
          exact firstWord_head (by decide) _
      · exact ⟨(hchara 0 hp).1, .inl (hchara 0 hp).2⟩
    · exact ⟨(hchara 1 hp).1, .inl (hchara 1 hp).2⟩
  · obtain ⟨q, hq, hp⟩ := mem_gmPieces hp
    have hplain : Plain q := by
      rcases hq with rfl | ⟨c, rfl⟩
      · decide
      · exact chunkText_plain c
    rcases hp with rfl | rfl
    · refine ⟨hplain, .inr ?_⟩
      rcases hq with rfl | ⟨c, rfl⟩
      · exact ⟨0x2e, by decide, by decide, firstWord_head (by decide) _⟩
      · exact ⟨0x2b, by decide, by decide, firstWord_head (by decide) _⟩
    · refine ⟨?_, .inr ⟨0x47, by decide, by decide, firstWord_head (by decide) _⟩⟩
      unfold Plain
      rw [List.mem_append, not_or]
      exact ⟨by decide, hplain⟩

theorem entry_mem_pieces {mine theirs : SnapshotFields} {i : Side} {f : CharaField}
    (h : f.text (mine.chara i) ≠ f.text (theirs.chara i)) :
    entry (label i f.name) (f.text (mine.chara i)) (f.text (theirs.chara i)) ∈ pieces mine theirs := by
  have hmem : entry (label i f.name) (f.text (mine.chara i)) (f.text (theirs.chara i)) ∈
      charaPieces i (mine.chara i) (theirs.chara i) :=
    List.mem_map_of_mem (List.mem_filter.2 ⟨f.mem_all, by simpa using h⟩)
  unfold pieces
  cases i using Side.cases with
  | zero => exact List.mem_append_left _ (List.mem_append_left _ (List.mem_append_right _ hmem))
  | one => exact List.mem_append_left _ (List.mem_append_right _ hmem)

/-- The report says something of this field of a fighter. -/
def NamesField (report : Bytes) (i : Side) (f : CharaField) : Prop := Names comma blank report (label i f.name)

/-- A report names the fields of the fighters whose texts differ. -/
theorem namesField_iff (mine theirs : SnapshotFields) (i : Side) (f : CharaField) :
    NamesField (describeSnapshotDiff mine theirs) i f ↔ f.text (mine.chara i) ≠ f.text (theirs.chara i) := by
  have hhead : (label i f.name).head? = some 0x50 := rfl
  unfold NamesField
  rw [describe_eq]
  by_cases hp : pieces mine theirs = []
  · rw [if_pos hp]
    have hother : ¬ Names comma blank allMatch (label i f.name) := fun h => by
      have hwords : (allMatch.splitOn comma).map (firstWord blank) = [ascii "(the"] := by decide +kernel
      unfold Names at h
      rw [hwords, List.mem_singleton] at h
      rw [h] at hhead
      exact absurd hhead (by decide)
    refine iff_of_false hother fun hne => ?_
    have hmem := entry_mem_pieces hne
    rw [hp] at hmem
    exact List.not_mem_nil hmem
  · rw [if_neg hp, names_intercalate hp (by decide) fun p hp => (mem_pieces hp).1]
    constructor
    · rintro ⟨p, hp, hword⟩
      rcases (mem_pieces hp).2 with ⟨i', f', hne, hword'⟩ | ⟨a, ha, -, hword'⟩
      · obtain ⟨rfl, rfl⟩ := label_inj (hword.symm.trans hword')
        exact hne
      · rw [hword, hhead] at hword'
        exact absurd (Option.some.inj hword').symm ha
    · intro hne
      exact ⟨_, entry_mem_pieces hne, firstWord_entry (label_ne_nil i f.name) (label_plain i f).2 _ _⟩

/-! ## The truth of a report -/

theorem CharaField.differs_of_text {m r : CharaStateSnapshot} {f : CharaField} (h : f.text m ≠ f.text r) :
    f.Differs m r := by
  cases f <;> exact fun he => h (by simp only [CharaField.text, he])

/-- Only positions may differ unseen. -/
theorem CharaField.text_of_differs {m r : CharaStateSnapshot} {f : CharaField} (hpos : ∀ k, f ≠ .rootPos k)
    (h : f.Differs m r) : f.text m ≠ f.text r := by
  cases f with
  | rootPos k => exact absurd rfl (hpos k)
  | fixed f => exact fun he => h (formatFP_inj he)
  | status => exact fun he => h (Int32.toInt_inj.1 (intText_inj he))
  | side => exact fun he => h (Int32.toInt_inj.1 (intText_inj he))
  | action => exact fun he => h (Int32.toInt_inj.1 (intText_inj he))
  | posture => exact fun he => h (Int32.toInt_inj.1 (intText_inj he))

/-- Every field that is compared is equal. -/
def SameCompared (mine theirs : SnapshotFields) : Prop :=
  mine.battleFlow = theirs.battleFlow ∧ mine.battleFlowSubstate = theirs.battleFlowSubstate ∧
    (∀ i f, ¬ CharaField.Differs (mine.chara i) (theirs.chara i) f) ∧ mine.gmChunks = theirs.gmChunks

/-- The fields `SnapshotGameplayDiffers` decides on. -/
def CharaField.Decides : CharaField → Prop
  | rootPos _ => False
  | fixed f => f ∈ gameplayFixed
  | _ => True

/-- Positions that differ are printed differently. -/
def PositionsPrinted (mine theirs : SnapshotFields) : Prop :=
  ∀ i k, (mine.chara i).rootPos k ≠ (theirs.chara i).rootPos k →
    formatPos ((mine.chara i).rootPos k) ≠ formatPos ((theirs.chara i).rootPos k)

/-- What a report should be: it says that everything matches when everything does, it names
every field in which the fighters differ, and one of those that decide if the match forked. -/
structure ReportTrue (mine theirs : SnapshotFields) : Prop where
  all_match : describeSnapshotDiff mine theirs = allMatch ↔ SameCompared mine theirs
  names : ∀ i f, CharaField.Differs (mine.chara i) (theirs.chara i) f →
    NamesField (describeSnapshotDiff mine theirs) i f
  decides : snapshotGameplayDiffers mine theirs = true →
    ∃ i f, CharaField.Decides f ∧ NamesField (describeSnapshotDiff mine theirs) i f

theorem gameplayDiffers_field {m r : CharaStateSnapshot} (h : gameplayDiffers m r = true) :
    ∃ f, CharaField.Decides f ∧ f.Differs m r := by
  simp only [gameplayDiffers, Bool.or_eq_true, decide_eq_true_eq, List.any_eq_true] at h
  rcases h with (((h | h) | ⟨f, hf, h⟩) | h) | h
  · exact ⟨.status, trivial, h⟩
  · exact ⟨.side, trivial, h⟩
  · refine ⟨.fixed f, hf, fun he : m.fixed f = r.fixed f => ?_⟩
    rw [he] at h
    exact h.elim (absurd rfl) (absurd rfl)
  · exact ⟨.action, trivial, h⟩
  · exact ⟨.posture, trivial, h⟩

theorem CharaField.Decides.not_pos {f : CharaField} (h : f.Decides) (k : Fin 4) : f ≠ .rootPos k := by
  rintro rfl
  exact h

/-- Whatever the positions, a fork of the gameplay is named. -/
theorem report_decides {mine theirs : SnapshotFields} (h : snapshotGameplayDiffers mine theirs = true) :
    ∃ i f, CharaField.Decides f ∧ NamesField (describeSnapshotDiff mine theirs) i f := by
  rcases Bool.or_eq_true_iff.1 h with h | h
  · obtain ⟨f, hf, hdiffers⟩ := gameplayDiffers_field h
    exact ⟨0, f, hf, (namesField_iff mine theirs 0 f).2 (f.text_of_differs hf.not_pos hdiffers)⟩
  · obtain ⟨f, hf, hdiffers⟩ := gameplayDiffers_field h
    exact ⟨1, f, hf, (namesField_iff mine theirs 1 f).2 (f.text_of_differs hf.not_pos hdiffers)⟩

theorem chunkPieces_eq_nil {mine theirs : SnapshotFields} {cs : List (Fin GM_MAX_CHUNKS)} {shown : ℕ} :
    chunkPieces mine theirs cs shown = [] ↔ ∀ c ∈ cs, mine.gmChunks c = theirs.gmChunks c := by
  induction cs generalizing shown with
  | nil => exact iff_of_true rfl fun c hc => absurd hc List.not_mem_nil
  | cons c rest ih =>
    unfold chunkPieces
    rw [List.forall_mem_cons]
    by_cases h : mine.gmChunks c = theirs.gmChunks c
    · rw [if_pos h, ih]
      exact (and_iff_right h).symm
    · rw [if_neg h]
      refine iff_of_false ?_ fun hn => h hn.1
      split <;> exact List.cons_ne_nil _ _

/-- Nothing is said exactly where nothing is printed differently. -/
theorem pieces_eq_nil (mine theirs : SnapshotFields) : pieces mine theirs = [] ↔
    mine.battleFlow = theirs.battleFlow ∧ mine.battleFlowSubstate = theirs.battleFlowSubstate ∧
      (∀ i f, CharaField.text (mine.chara i) f = f.text (theirs.chara i)) ∧ mine.gmChunks = theirs.gmChunks := by
  have hflow : flowPieces mine theirs = [] ↔
      mine.battleFlow = theirs.battleFlow ∧ mine.battleFlowSubstate = theirs.battleFlowSubstate := by
    unfold flowPieces
    rw [List.append_eq_nil_iff]
    refine and_congr ?_ ?_
    · by_cases h : mine.battleFlow = theirs.battleFlow <;> simp [h]
    · by_cases h : mine.battleFlowSubstate = theirs.battleFlowSubstate <;> simp [h]
  have hchara (i : Side) : charaPieces i (mine.chara i) (theirs.chara i) = [] ↔
      ∀ f, CharaField.text (mine.chara i) f = f.text (theirs.chara i) := by
    unfold charaPieces
    rw [List.map_eq_nil_iff, List.filter_eq_nil_iff]
    simp only [decide_eq_true_eq, not_not]
    exact ⟨fun h f => h f f.mem_all, fun h f _ => h f⟩
  have hgm : gmPieces mine theirs = [] ↔ mine.gmChunks = theirs.gmChunks := by
    have hnil : gmPieces mine theirs = [] ↔ chunkPieces mine theirs (List.finRange GM_MAX_CHUNKS) 0 = [] := by
      unfold gmPieces
      cases chunkPieces mine theirs (List.finRange GM_MAX_CHUNKS) 0 with
      | nil => exact iff_of_true rfl rfl
      | cons p ps => exact iff_of_false (List.cons_ne_nil _ _) (List.cons_ne_nil _ _)
    rw [hnil, chunkPieces_eq_nil, funext_iff]
    exact ⟨fun h c => h c (List.mem_finRange c), fun h c _ => h c⟩
  unfold pieces
  rw [List.append_eq_nil_iff, List.append_eq_nil_iff, List.append_eq_nil_iff, hflow, hchara 0, hchara 1, hgm]
  constructor
  · rintro ⟨⟨⟨⟨hf, hs⟩, h0⟩, h1⟩, hg⟩
    exact ⟨hf, hs, fun i => Side.cases i h0 h1, hg⟩
  · rintro ⟨hf, hs, hc, hg⟩
    exact ⟨⟨⟨⟨hf, hs⟩, hc 0⟩, hc 1⟩, hg⟩

theorem describe_eq_allMatch (mine theirs : SnapshotFields) :
    describeSnapshotDiff mine theirs = allMatch ↔ pieces mine theirs = [] := by
  rw [describe_eq]
  by_cases hp : pieces mine theirs = []
  · rw [if_pos hp]
    exact iff_of_true rfl hp
  · rw [if_neg hp]
    refine iff_of_false (fun h => ?_) hp
    have hnamed : Names comma blank allMatch (ascii "(the") := by decide +kernel
    rw [← h, names_intercalate hp (by decide) fun p hp => (mem_pieces hp).1] at hnamed
    obtain ⟨p, hmem, hword⟩ := hnamed
    rcases (mem_pieces hmem).2 with ⟨i, f, -, hword'⟩ | ⟨a, -, ha, hword'⟩
    · have hhead : (label i f.name).head? = some 0x50 := rfl
      rw [← hword', hword] at hhead
      exact absurd hhead (by decide)
    · rw [hword] at hword'
      exact ha (Option.some.inj hword').symm

/-- A report is true exactly where the positions that differ are printed differently. -/
theorem reportTrue_iff (mine theirs : SnapshotFields) :
    ReportTrue mine theirs ↔ PositionsPrinted mine theirs := by
  constructor
  · intro h i k hne
    exact (namesField_iff mine theirs i (.rootPos k)).1 (h.names i (.rootPos k) hne)
  · intro h
    have htext (i : Side) (f : CharaField) (hf : f.Differs (mine.chara i) (theirs.chara i)) :
        f.text (mine.chara i) ≠ f.text (theirs.chara i) := by
      cases f with
      | rootPos k => exact h i k hf
      | _ => exact CharaField.text_of_differs (by intro k hk; cases hk) hf
    refine ⟨?_, fun i f hf => (namesField_iff mine theirs i f).2 (htext i f hf), report_decides⟩
    rw [describe_eq_allMatch, pieces_eq_nil]
    refine and_congr_right' (and_congr_right' (and_congr_left' (forall₂_congr fun i f => ?_)))
    constructor
    · exact fun he hf => htext i f hf he
    · intro hf
      by_contra he
      exact hf (CharaField.differs_of_text he)

/-- Fighters that stand at `x`, and are the same otherwise. -/
def standingAt (x : ℚ) : SnapshotFields where
  battleFlow := 0
  battleFlowSubstate := 0
  gmChunks _ := 0
  chara _ :=
    { status := 0, rootPos := fun _ => x, side := 0, fixed := fun _ => { fractional := 0, integral := 0 }, action := 0
      posture := 0 }

/-- Positions a ten-millionth apart: the report says that everything matches. -/
theorem report_of_near : describeSnapshotDiff (standingAt 0) (standingAt (1 / 10 ^ 7)) = allMatch ∧
    ¬ SameCompared (standingAt 0) (standingAt (1 / 10 ^ 7)) ∧
    ¬ ReportTrue (standingAt 0) (standingAt (1 / 10 ^ 7)) := by
  have hprinted : formatPos 0 = formatPos (1 / 10 ^ 7) := by decide +kernel
  have hmatch : describeSnapshotDiff (standingAt 0) (standingAt (1 / 10 ^ 7)) = allMatch := by
    rw [describe_eq_allMatch, pieces_eq_nil]
    refine ⟨rfl, rfl, fun i f => ?_, rfl⟩
    cases f with
    | rootPos k => exact hprinted
    | _ => rfl
  have hdiffers : ¬ SameCompared (standingAt 0) (standingAt (1 / 10 ^ 7)) := fun h =>
    h.2.2.1 0 (.rootPos 0) (show (0 : ℚ) ≠ 1 / 10 ^ 7 by norm_num)
  exact ⟨hmatch, hdiffers, fun h => hdiffers (h.all_match.1 hmatch)⟩

end Sf4e.Netplay
