import Sf4e.Battle.SyncTest
/-!
# What the sync test's numbers say

The log tells which saves were compared with which, and each number of the test is a count over
it.
-/
open Sf4e.Lib

namespace Sf4e.Battle

variable {σ : Type}

/-! ## The keys that differ -/

/-- The places at which the two lists of keys differ. -/
def differingPlaces (keys : List (KeyChecksum × KeyChecksum)) (i : ℕ) : List ℕ :=
  (keys.zipIdx i).filterMap fun e => if e.1.1.checksum ≠ e.1.2.checksum then some e.2 else none

theorem differingKeys_eq (keys : List (KeyChecksum × KeyChecksum)) (i : ℕ) (before : List ℕ) :
    SyncTest.differingKeys keys i (before.take 6, before.length) =
      ((before ++ differingPlaces keys i).take 6, (before ++ differingPlaces keys i).length) := by
  induction keys generalizing i before with
  | nil => simp [SyncTest.differingKeys, differingPlaces]
  | cons e keys ih =>
    obtain ⟨original, replay⟩ := e
    rw [SyncTest.differingKeys, differingPlaces, List.zipIdx_cons, List.filterMap_cons]
    by_cases hne : original.checksum ≠ replay.checksum
    · have hshown : (if before.length < 6 then before.take 6 ++ [i] else before.take 6) = (before ++ [i]).take 6 := by
        split
        · rename_i hlt
          rw [List.take_of_length_le (by omega), List.take_of_length_le (by simp; omega)]
        · rename_i hle
          rw [List.take_append_of_le_length (by omega)]
      have hlen : before.length + 1 = (before ++ [i]).length := by simp
      simp only [if_pos hne, hshown, hlen, ih (i + 1) (before ++ [i]), List.append_assoc, List.singleton_append]
      rfl
    · simp only [if_neg hne, ih (i + 1) before]
      rfl

theorem summary_eq (frame : ℤ) (original replay : FrameRecord σ) :
    SyncTest.summary frame original replay =
      let places := differingPlaces (original.keys.zip replay.keys) 0
      { frame
        keyCounts :=
          if original.keys.length = replay.keys.length then none
          else some (original.keys.length, replay.keys.length)
        shown := places.take 6
        differing := places.length
        compared := min original.keys.length replay.keys.length
        globalDiffers := original.globalChecksum ≠ replay.globalChecksum } := by
  have hkeys := differingKeys_eq (original.keys.zip replay.keys) 0 []
  rw [List.nil_append, List.take_nil, List.length_nil] at hkeys
  unfold SyncTest.summary
  rw [hkeys, ite_not]

variable [DecidableEq σ]

/-! ## The log -/

namespace SyncEntry

def isStarted : SyncEntry σ → Bool
  | started .. => true
  | _ => false

def runs : SyncEntry σ → Bool
  | started _ running => running
  | _ => false

def verified : SyncEntry σ → Bool
  | compared _ original replay => original.checksum = replay.checksum
  | _ => false

def mismatched : SyncEntry σ → Bool
  | compared _ original replay => original.checksum ≠ replay.checksum
  | _ => false

def rawMismatched : SyncEntry σ → Bool
  | compared _ original replay => original.checksumRaw ≠ replay.checksumRaw
  | _ => false

def diverged : SyncEntry σ → Bool
  | compared _ original replay => original.snapshot ≠ replay.snapshot
  | _ => false

def isDumped : SyncEntry σ → Bool
  | dumped .. => true
  | _ => false

def frame? : SyncEntry σ → Option ℤ
  | kept frame _ => some frame
  | compared frame .. => some frame
  | dumped frame .. => some frame
  | _ => none

def summary? : SyncEntry σ → Option MismatchSummary
  | compared frame original replay =>
    let places := differingPlaces (original.keys.zip replay.keys) 0
    some {
      frame
      keyCounts :=
        if original.keys.length = replay.keys.length then none
        else some (original.keys.length, replay.keys.length)
      shown := places.take 6
      differing := places.length
      compared := min original.keys.length replay.keys.length
      globalDiffers := original.globalChecksum ≠ replay.globalChecksum }
  | _ => none

/-- A record of the frame is still kept after this. -/
def Spares (window frame : ℤ) : SyncEntry σ → Prop
  | kept f _ => f ≠ frame ∧ f - window ≤ frame
  | compared f _ _ => f ≠ frame ∧ f - window ≤ frame
  | dumped .. => True
  | started .. => False
  | closed => False

end SyncEntry

/-- The frame was saved, and its record is waiting for the replay. -/
def Waiting (window : ℤ) (log : List (SyncEntry σ)) (frame : ℤ) (record : FrameRecord σ) : Prop :=
  Log.Stands (SyncEntry.Spares window frame) (.kept frame record) log

/-- The check distance of the newest start. -/
def checkDistance : List (SyncEntry σ) → ℤ
  | [] => 1
  | .started d _ :: _ => d
  | _ :: log => checkDistance log

/-- A save is compared if and only if a record of its frame is waiting, and with that one; a dump
is of the two records that have just been found to differ. -/
def Judged (GGPO_MAX_PREDICTION_FRAMES : ℕ) (e : SyncEntry σ) (before : List (SyncEntry σ)) : Prop :=
  let window := SyncTest.window GGPO_MAX_PREDICTION_FRAMES (checkDistance before)
  match e with
  | .kept frame _ => ∀ original, ¬ Waiting window before frame original
  | .compared frame original _ => Waiting window before frame original
  | .dumped frame original replay =>
    original.checksum ≠ replay.checksum ∧ before.head? = some (.compared frame original replay)
  | _ => True

/-- The part of the log that is about the match that was started last. -/
abbrev thisMatch (log : List (SyncEntry σ)) : List (SyncEntry σ) := Log.since SyncEntry.isStarted log

/-- What the test's numbers say. -/
structure SyncTold (GGPO_MAX_PREDICTION_FRAMES : ℕ) (s : SyncTest σ) : Prop where
  judged : Log.Always (Judged GGPO_MAX_PREDICTION_FRAMES) s.log
  framesVerified : s.nFramesVerified = (thisMatch s.log).countP SyncEntry.verified
  mismatches : s.nMismatches = (thisMatch s.log).countP SyncEntry.mismatched
  rawMismatches : s.nRawMismatches = (thisMatch s.log).countP SyncEntry.rawMismatched
  gameplayMismatches : s.nGameplayMismatches = (thisMatch s.log).countP SyncEntry.diverged
  dumpsWritten : s.nDumpsWritten = (thisMatch s.log).countP SyncEntry.isDumped
  lastGameplayMismatchFrame :
    s.nLastGameplayMismatchFrame = (((thisMatch s.log).find? SyncEntry.diverged).bind SyncEntry.frame?).getD (-1)
  lastMismatchFrame :
    s.nLastMismatchFrame = (((thisMatch s.log).find? SyncEntry.mismatched).bind SyncEntry.frame?).getD (-1)
  lastMismatchSummary :
    s.lastMismatchSummary = ((thisMatch s.log).find? SyncEntry.mismatched).bind SyncEntry.summary?
  /-- The mismatches that are dumped are the first ones of the match. -/
  dumps : s.bActive = true →
    s.nDumpsWritten = if s.bDumpOnMismatch then min s.nMismatches s.nMaxDumps.toNat else 0
  matchesRun : s.nMatchesRun + s.bActive.toNat = s.log.countP SyncEntry.runs
  totalFramesVerified :
    s.nTotalFramesVerified + (if s.bActive then s.nFramesVerified else 0) = s.log.countP SyncEntry.verified
  totalGameplayMismatches :
    s.nTotalGameplayMismatches + (if s.bActive then s.nGameplayMismatches else 0) = s.log.countP SyncEntry.diverged

/-- What the next save meets. -/
structure SyncKept (GGPO_MAX_PREDICTION_FRAMES : ℕ) (s : SyncTest σ) : Prop where
  distance : 0 ≤ s.nCheckDistance
  idle : s.onTasksRegistered = some .startSyncTest → s.bActive = false
  started : s.bActive = true → checkDistance s.log = s.nCheckDistance
  records : s.bActive = true → ∀ frame record, s.records.find frame = some record ↔
    Waiting (SyncTest.window GGPO_MAX_PREDICTION_FRAMES s.nCheckDistance) s.log frame record
  blobs : s.bActive = true → s.mayDump = true →
    ∀ frame record, s.records.find frame = some record → record.blob ≠ []

/-! ## What is waiting -/

section Waiting

omit [DecidableEq σ]

variable {window frame k : ℤ} {record taken : FrameRecord σ} {e : SyncEntry σ} {log : List (SyncEntry σ)}

theorem waiting_cons (he : ∀ r, e ≠ .kept k r) :
    Waiting window (e :: log) k record ↔ e.Spares window k ∧ Waiting window log k record := by
  rw [Waiting, Log.stands_cons]
  exact or_iff_right (he record)

theorem not_waiting_started (d : ℤ) (running : Bool) : ¬ Waiting window (.started d running :: log) k record := by
  rw [waiting_cons fun _ => by simp]
  exact fun h => h.1

theorem waiting_compared {original replay : FrameRecord σ} :
    Waiting window (.compared frame original replay :: log) k record ↔
      (frame ≠ k ∧ frame - window ≤ k) ∧ Waiting window log k record :=
  waiting_cons fun _ => by simp

theorem waiting_dumped {original replay : FrameRecord σ} :
    Waiting window (.dumped frame original replay :: log) k record ↔ Waiting window log k record := by
  rw [waiting_cons fun _ => by simp]
  exact and_iff_right trivial

theorem waiting_kept (hw : 0 ≤ window) (hnew : ∀ original, ¬ Waiting window log frame original) :
    Waiting window (.kept frame taken :: log) k record ↔
      ¬ k < frame - window ∧ if k = frame then taken = record else Waiting window log k record := by
  rw [Waiting, Log.stands_cons]
  by_cases hk : k = frame
  · subst hk
    have hlt : ¬ k < k - window := by omega
    have hno : ¬ Log.Stands (SyncEntry.Spares window k) (.kept k record) log := hnew record
    simp [hlt, hno]
  · have hne : ¬ SyncEntry.kept frame taken = .kept k record := fun h => hk (SyncEntry.kept.inj h).1.symm
    rw [if_neg hk, or_iff_right hne]
    exact and_congr_left fun _ => ⟨fun h => by have := h.2; omega, fun h => ⟨fun hf => hk hf.symm, by omega⟩⟩

end Waiting

/-! ## What the next save meets, kept -/

variable {M : ℕ} {s : SyncTest σ}

section

omit [DecidableEq σ]

theorem SyncKept.of_idle (hactive : s.bActive = false) (hdistance : 0 ≤ s.nCheckDistance) : SyncKept M s where
  distance := hdistance
  idle _ := hactive
  started h := absurd h (by rw [hactive]; exact Bool.false_ne_true)
  records h := absurd h (by rw [hactive]; exact Bool.false_ne_true)
  blobs h := absurd h (by rw [hactive]; exact Bool.false_ne_true)

theorem window_nonneg {d : ℤ} (hd : 0 ≤ d) : 0 ≤ SyncTest.window M d := by
  unfold SyncTest.window
  omega

theorem armSyncTest_distance (s : SyncTest σ) (d : ℤ) : 0 ≤ (s.armSyncTest M d).nCheckDistance := by
  dsimp only [SyncTest.armSyncTest]
  split <;> split <;> omega

theorem SyncKept.startSyncTest (h : SyncKept M s) (running : Bool) :
    SyncKept M { s.startSyncTest running with onTasksRegistered := none } where
  distance := h.distance
  idle := nofun
  started _ := rfl
  records _ frame record := by
    refine iff_of_false ?_ (not_waiting_started _ _)
    exact Option.not_mem_none record
  blobs _ _ frame record hrecord := absurd hrecord (Option.not_mem_none record)

theorem blob_captureBlob (record : FrameRecord σ) (buffers : List Bytes) {globals : Bytes} (hne : globals ≠ []) :
    (record.captureBlob buffers globals).blob ≠ [] := by
  dsimp only [FrameRecord.captureBlob]
  simp [hne]

theorem blob_record (state : SavedState σ) (hdump : s.mayDump = true) : (s.record state).blob ≠ [] := by
  rw [SyncTest.record, if_pos hdump]
  exact blob_captureBlob _ _ state.globals_ne

end

theorem mayDump_compare (frame : ℤ) {original replay : FrameRecord σ}
    (h : (s.compare frame original replay).mayDump = true) : s.mayDump = true := by
  dsimp only [SyncTest.mayDump, SyncTest.compare] at h ⊢
  rw [Bool.and_eq_true, decide_eq_true_eq] at h ⊢
  exact ⟨h.1, Int.lt_of_le_of_lt (Int.ofNat_le.2 (Nat.le_add_right _ _)) h.2⟩

/-! ### A save -/

variable {frame k : ℤ} {original record : FrameRecord σ} {state : SavedState σ}

theorem syncTestVerify_kept (hnone : s.records.find frame = none) : s.syncTestVerify M frame state =
    { s with
      log := .kept frame (s.record state) :: s.log
      records := (s.records.insertOrAssign frame (s.record state)).dropBelow
        (frame - SyncTest.window M s.nCheckDistance) } := by
  rw [SyncTest.syncTestVerify, hnone]
  rfl

theorem syncTestVerify_compared (hsome : s.records.find frame = some original) : s.syncTestVerify M frame state =
    { s.compare frame original (s.record state) with
      records := (s.records.erase frame).dropBelow (frame - SyncTest.window M s.nCheckDistance) } := by
  rw [SyncTest.syncTestVerify, hsome]
  rfl

theorem log_compare (s : SyncTest σ) (frame : ℤ) (original replay : FrameRecord σ) :
    (s.compare frame original replay).log = if s.dumps original replay then
      .dumped frame original replay :: .compared frame original replay :: s.log
      else .compared frame original replay :: s.log := rfl

theorem waiting_compare {window : ℤ} {replay : FrameRecord σ} :
    Waiting window (s.compare frame original replay).log k record ↔
      (frame ≠ k ∧ frame - window ≤ k) ∧ Waiting window s.log k record := by
  rw [log_compare]
  split
  · rw [waiting_dumped, waiting_compared]
  · rw [waiting_compared]

theorem SyncKept.kept (h : SyncKept M s) (hactive : s.bActive = true) (hnone : s.records.find frame = none) :
    SyncKept M (s.syncTestVerify M frame state) := by
  rw [syncTestVerify_kept hnone]
  have hnew (original) : ¬ Waiting (SyncTest.window M s.nCheckDistance) s.log frame original := by
    rw [← h.records hactive, hnone]
    exact (Option.some_ne_none original).symm
  have hfind (k : ℤ) : ((s.records.insertOrAssign frame (s.record state)).dropBelow
      (frame - SyncTest.window M s.nCheckDistance)).find k = if k < frame - SyncTest.window M s.nCheckDistance then
        none else if k = frame then some (s.record state) else s.records.find k := by
    rw [IntMap.find_dropBelow, IntMap.find_insertOrAssign]
  refine ⟨h.distance, h.idle, fun _ => h.started hactive, fun _ k record => ?_, fun _ hdump k record hrecord => ?_⟩
  · refine Iff.trans ?_ (waiting_kept (window_nonneg h.distance) hnew).symm
    dsimp only
    rw [hfind, ← h.records hactive k record]
    split
    · rename_i hlt
      exact iff_of_false (Option.some_ne_none record).symm fun hk => hk.1 hlt
    · rename_i hle
      rw [and_iff_right hle]
      split
      · exact Option.some_inj
      · exact Iff.rfl
  · dsimp only at hrecord
    rw [hfind] at hrecord
    split at hrecord
    · cases hrecord
    · split at hrecord
      · obtain rfl := Option.some.inj hrecord
        exact blob_record state hdump
      · exact h.blobs hactive hdump k record hrecord

theorem SyncKept.compared (h : SyncKept M s) (hactive : s.bActive = true)
    (hsome : s.records.find frame = some original) : SyncKept M (s.syncTestVerify M frame state) := by
  rw [syncTestVerify_compared hsome]
  have hfind (k : ℤ) : ((s.records.erase frame).dropBelow (frame - SyncTest.window M s.nCheckDistance)).find k =
      if k < frame - SyncTest.window M s.nCheckDistance then none
      else if k = frame then none else s.records.find k := by
    rw [IntMap.find_dropBelow, IntMap.find_erase]
  refine ⟨h.distance, h.idle, fun _ => ?_, fun _ k record => ?_, fun _ hdump k record hrecord => ?_⟩
  · dsimp only [SyncTest.compare]
    split <;> exact h.started hactive
  · refine Iff.trans ?_ waiting_compare.symm
    dsimp only [SyncTest.compare]
    rw [hfind, ← h.records hactive k record]
    split
    · exact iff_of_false (Option.some_ne_none record).symm fun hk => absurd hk.1.2 (by omega)
    · split
      · rename_i hk
        exact iff_of_false (Option.some_ne_none record).symm fun hne => hne.1.1 hk.symm
      · rename_i hle hk
        exact (and_iff_right ⟨fun hf => hk hf.symm, by omega⟩).symm
  · dsimp only at hrecord
    rw [hfind] at hrecord
    split at hrecord
    · cases hrecord
    · split at hrecord
      · cases hrecord
      · exact h.blobs hactive (mayDump_compare frame hdump) k record hrecord

omit [DecidableEq σ] in
theorem SyncKept.closeBattle (h : SyncKept M s) : SyncKept M (s.closeBattle M) := by
  unfold SyncTest.closeBattle
  split
  · dsimp only
    split
    · exact .of_idle rfl (armSyncTest_distance s _)
    · exact .of_idle rfl h.distance
  · exact .of_idle rfl h.distance

/-! ## What the numbers say, kept -/

section

omit [DecidableEq σ]

theorem thisMatch_started (d : ℤ) (running : Bool) (log : List (SyncEntry σ)) :
    thisMatch (.started d running :: log) = [] := Log.since_mark rfl log

theorem thisMatch_kept (frame : ℤ) (original : FrameRecord σ) (log : List (SyncEntry σ)) :
    thisMatch (.kept frame original :: log) = .kept frame original :: thisMatch log := Log.since_other rfl log

theorem thisMatch_compared (frame : ℤ) (original replay : FrameRecord σ) (log : List (SyncEntry σ)) :
    thisMatch (.compared frame original replay :: log) = .compared frame original replay :: thisMatch log :=
  Log.since_other rfl log

theorem thisMatch_dumped (frame : ℤ) (original replay : FrameRecord σ) (log : List (SyncEntry σ)) :
    thisMatch (.dumped frame original replay :: log) = .dumped frame original replay :: thisMatch log :=
  Log.since_other rfl log

theorem thisMatch_closed (log : List (SyncEntry σ)) : thisMatch (.closed :: log) = .closed :: thisMatch log :=
  Log.since_other rfl log

end

/-- What is not about a save changes no number. -/
theorem SyncTold.rearmed (h : SyncTold M s) (nCheckDistance : ℤ) (bArmed : Bool) (onTasksRegistered : Option TasksHook)
    (bSoakRestartPending : Bool) :
    SyncTold M { s with nCheckDistance, bArmed, onTasksRegistered, bSoakRestartPending } :=
  ⟨h.judged, h.framesVerified, h.mismatches, h.rawMismatches, h.gameplayMismatches, h.dumpsWritten,
    h.lastGameplayMismatchFrame, h.lastMismatchFrame, h.lastMismatchSummary, h.dumps, h.matchesRun,
    h.totalFramesVerified, h.totalGameplayMismatches⟩

theorem SyncTold.configured (h : SyncTold M s) (hactive : s.bActive = false) (bDumpOnMismatch : Bool) (nMaxDumps : ℤ) :
    SyncTold M { s with bDumpOnMismatch, nMaxDumps } :=
  ⟨h.judged, h.framesVerified, h.mismatches, h.rawMismatches, h.gameplayMismatches, h.dumpsWritten,
    h.lastGameplayMismatchFrame, h.lastMismatchFrame, h.lastMismatchSummary,
    fun hact => absurd hact (by rw [hactive]; exact Bool.false_ne_true), h.matchesRun, h.totalFramesVerified,
    h.totalGameplayMismatches⟩

theorem SyncTold.startSyncTest (h : SyncTold M s) (hactive : s.bActive = false) (running : Bool) :
    SyncTold M (s.startSyncTest running) := by
  have hruns := h.matchesRun
  have hverified := h.totalFramesVerified
  have hdiverged := h.totalGameplayMismatches
  rw [hactive] at hruns hverified hdiverged
  refine ⟨Log.always_cons.2 ⟨trivial, h.judged⟩, ?_, ?_, ?_, ?_, ?_, ?_, ?_, ?_, ?_, ?_, ?_, ?_⟩
  all_goals dsimp only [SyncTest.startSyncTest, SyncTest.did]
  all_goals try rw [thisMatch_started]
  all_goals try rfl
  · simp
  · rw [List.countP_cons, ← hruns, hactive]
    cases running <;> rfl
  · rw [List.countP_cons, ← hverified]
    simp [SyncEntry.verified]
  · rw [List.countP_cons, ← hdiverged]
    simp [SyncEntry.diverged]

theorem SyncTold.kept (h : SyncTold M s) (hk : SyncKept M s) (hactive : s.bActive = true)
    (hnone : s.records.find frame = none) : SyncTold M (s.syncTestVerify M frame state) := by
  rw [syncTestVerify_kept hnone]
  have hjudged : Judged M (.kept frame (s.record state)) s.log := by
    intro original hwait
    rw [hk.started hactive, ← hk.records hactive, hnone] at hwait
    cases hwait
  refine ⟨Log.always_cons.2 ⟨hjudged, h.judged⟩, h.framesVerified.trans ?_, h.mismatches.trans ?_,
    h.rawMismatches.trans ?_, h.gameplayMismatches.trans ?_, h.dumpsWritten.trans ?_,
    h.lastGameplayMismatchFrame.trans ?_, h.lastMismatchFrame.trans ?_, h.lastMismatchSummary.trans ?_, h.dumps,
    h.matchesRun.trans ?_, h.totalFramesVerified.trans ?_, h.totalGameplayMismatches.trans ?_⟩
  all_goals try rw [thisMatch_kept]
  all_goals first
    | exact (List.countP_cons_of_neg Bool.false_ne_true).symm
    | rfl

/-! ### A comparison -/

/-- What a comparison puts on top of a log. -/
def afterCompare (s : SyncTest σ) (frame : ℤ) (original replay : FrameRecord σ) (log : List (SyncEntry σ)) :
    List (SyncEntry σ) :=
  if s.dumps original replay then .dumped frame original replay :: .compared frame original replay :: log
  else .compared frame original replay :: log

omit [DecidableEq σ] in
theorem thisMatch_afterCompare (s : SyncTest σ) (frame : ℤ) (original replay : FrameRecord σ)
    (log : List (SyncEntry σ)) :
    thisMatch (afterCompare s frame original replay log) = afterCompare s frame original replay (thisMatch log) := by
  unfold afterCompare
  split
  · rw [thisMatch_dumped, thisMatch_compared]
  · rw [thisMatch_compared]

section

omit [DecidableEq σ]

variable {replay : FrameRecord σ} {p : SyncEntry σ → Bool} {log : List (SyncEntry σ)}

theorem countP_afterCompare (hp : p (.dumped frame original replay) = false) :
    (afterCompare s frame original replay log).countP p =
      log.countP p + if p (.compared frame original replay) then 1 else 0 := by
  unfold afterCompare
  split
  · rw [List.countP_cons, List.countP_cons, hp]
    rfl
  · rw [List.countP_cons]

theorem find_afterCompare (hp : p (.dumped frame original replay) = false) :
    (afterCompare s frame original replay log).find? p =
      if p (.compared frame original replay) then some (.compared frame original replay) else log.find? p := by
  have hcompared : List.find? p (.compared frame original replay :: log) =
      if p (.compared frame original replay) then some (.compared frame original replay) else log.find? p := by
    rw [List.find?_cons]
    cases p (.compared frame original replay) <;> rfl
  unfold afterCompare
  split
  · rw [List.find?_cons, hp, hcompared]
  · exact hcompared

theorem countP_dumped_afterCompare : (afterCompare s frame original replay log).countP SyncEntry.isDumped =
    log.countP SyncEntry.isDumped + if s.dumps original replay then 1 else 0 := by
  unfold afterCompare
  split
  · rw [List.countP_cons, List.countP_cons]
    rfl
  · rw [List.countP_cons]
    rfl

end

/-- Dumping while fewer than `limit` are written dumps the first ones. -/
theorem first_dumps {wanted mismatched : Bool} {written mismatches : ℕ} {limit : ℤ}
    (h : written = if wanted then min mismatches limit.toNat else 0) :
    written + (if mismatched && (wanted && decide ((written : ℤ) < limit)) then 1 else 0) =
      if wanted then min (mismatches + if mismatched then 1 else 0) limit.toNat else 0 := by
  cases wanted with
  | false => simpa using h
  | true =>
    cases mismatched with
    | false => simpa using h
    | true =>
      simp only [if_true, Bool.true_and, decide_eq_true_eq] at h ⊢
      split <;> omega

omit [DecidableEq σ] in
/-- A mismatch is dumped as long as dumps may be written. -/
theorem dumps_eq (hk : SyncKept M s) (hactive : s.bActive = true) (hsome : s.records.find frame = some original)
    (state : SavedState σ) :
    s.dumps original (s.record state) = (decide (original.checksum ≠ (s.record state).checksum) && s.mayDump) := by
  cases hmay : s.mayDump with
  | false => simp [SyncTest.dumps, hmay]
  | true =>
    have horiginal := List.isEmpty_eq_false_iff.2 (hk.blobs hactive hmay frame original hsome)
    have hreplay := List.isEmpty_eq_false_iff.2 (blob_record state hmay)
    simp [SyncTest.dumps, hmay, horiginal, hreplay]

theorem SyncTold.compared (h : SyncTold M s) (hk : SyncKept M s) (hactive : s.bActive = true)
    (hsome : s.records.find frame = some original) : SyncTold M (s.syncTestVerify M frame state) := by
  rw [syncTestVerify_compared hsome]
  have hdumps := dumps_eq hk hactive hsome state
  generalize s.record state = replay at hdumps ⊢
  have hjudged : Judged M (.compared frame original replay) s.log := by
    show Waiting _ _ _ _
    rw [hk.started hactive, ← hk.records hactive, hsome]
  have hverified : (if decide (original.checksum ≠ replay.checksum) = true then 0 else 1) =
      if SyncEntry.verified (.compared frame original replay) = true then 1 else 0 := by
    simp [SyncEntry.verified]
  refine ⟨?_, ?_, ?_, ?_, ?_, ?_, ?_, ?_, ?_, ?_, ?_, ?_, ?_⟩
  · have hcompared : Log.Always (Judged M) (.compared frame original replay :: s.log) :=
      Log.always_cons.2 ⟨hjudged, h.judged⟩
    show Log.Always _ (afterCompare s frame original replay s.log)
    unfold afterCompare
    split
    · rename_i hd
      rw [hdumps, Bool.and_eq_true, decide_eq_true_eq] at hd
      exact Log.always_cons.2 ⟨⟨hd.1, rfl⟩, hcompared⟩
    · exact hcompared
  · show s.nFramesVerified + _ = (thisMatch (afterCompare s frame original replay s.log)).countP _
    rw [thisMatch_afterCompare, countP_afterCompare rfl, h.framesVerified, hverified]
  · show s.nMismatches + _ = (thisMatch (afterCompare s frame original replay s.log)).countP _
    rw [thisMatch_afterCompare, countP_afterCompare rfl, h.mismatches]
    rfl
  · show s.nRawMismatches + _ = (thisMatch (afterCompare s frame original replay s.log)).countP _
    rw [thisMatch_afterCompare, countP_afterCompare rfl, h.rawMismatches]
    simp [SyncEntry.rawMismatched]
  · show s.nGameplayMismatches + _ = (thisMatch (afterCompare s frame original replay s.log)).countP _
    rw [thisMatch_afterCompare, countP_afterCompare rfl, h.gameplayMismatches]
    rfl
  · show s.nDumpsWritten + _ = (thisMatch (afterCompare s frame original replay s.log)).countP _
    rw [thisMatch_afterCompare, countP_dumped_afterCompare, h.dumpsWritten]
  · show (if _ then _ else _) = (((thisMatch (afterCompare s frame original replay s.log)).find? _).bind _).getD _
    rw [thisMatch_afterCompare, find_afterCompare rfl, h.lastGameplayMismatchFrame]
    by_cases hd : original.snapshot = replay.snapshot <;> simp [SyncEntry.diverged, SyncEntry.frame?, hd]
  · show (if _ then _ else _) = (((thisMatch (afterCompare s frame original replay s.log)).find? _).bind _).getD _
    rw [thisMatch_afterCompare, find_afterCompare rfl, h.lastMismatchFrame]
    by_cases hm : original.checksum = replay.checksum <;> simp [SyncEntry.mismatched, SyncEntry.frame?, hm]
  · show (if _ then _ else _) = ((thisMatch (afterCompare s frame original replay s.log)).find? _).bind _
    rw [thisMatch_afterCompare, find_afterCompare rfl, h.lastMismatchSummary]
    rw [summary_eq]
    by_cases hm : original.checksum = replay.checksum <;> simp [SyncEntry.mismatched, SyncEntry.summary?, hm]
  · intro _
    show s.nDumpsWritten + (if s.dumps original replay then 1 else 0) =
      if s.bDumpOnMismatch then
        min (s.nMismatches + if decide (original.checksum ≠ replay.checksum) then 1 else 0) s.nMaxDumps.toNat
      else 0
    rw [hdumps]
    exact first_dumps (h.dumps hactive)
  · show s.nMatchesRun + _ = (afterCompare s frame original replay s.log).countP _
    rw [countP_afterCompare rfl, ← h.matchesRun]
    rfl
  · show s.nTotalFramesVerified + (if s.bActive then s.nFramesVerified + _ else 0) =
      (afterCompare s frame original replay s.log).countP _
    rw [countP_afterCompare rfl, ← h.totalFramesVerified, if_pos hactive, if_pos hactive, hverified, Nat.add_assoc]
  · show s.nTotalGameplayMismatches + (if s.bActive then s.nGameplayMismatches + _ else 0) =
      (afterCompare s frame original replay s.log).countP _
    rw [countP_afterCompare rfl, ← h.totalGameplayMismatches, if_pos hactive, if_pos hactive, Nat.add_assoc]
    rfl

theorem SyncTold.closeBattle (h : SyncTold M s) : SyncTold M (s.closeBattle M) := by
  have hruns := h.matchesRun
  have hverified := h.totalFramesVerified
  have hdiverged := h.totalGameplayMismatches
  unfold SyncTest.closeBattle
  split
  · rename_i hactive
    rw [hactive] at hruns hverified hdiverged
    have hclosed : SyncTold M { s.did .closed with
        nMatchesRun := s.nMatchesRun + 1
        nTotalFramesVerified := s.nTotalFramesVerified + s.nFramesVerified
        nTotalGameplayMismatches := s.nTotalGameplayMismatches + s.nGameplayMismatches
        bActive := false
        records := .empty } := by
      refine ⟨Log.always_cons.2 ⟨trivial, h.judged⟩, h.framesVerified.trans ?_, h.mismatches.trans ?_,
        h.rawMismatches.trans ?_, h.gameplayMismatches.trans ?_, h.dumpsWritten.trans ?_,
        h.lastGameplayMismatchFrame.trans ?_, h.lastMismatchFrame.trans ?_, h.lastMismatchSummary.trans ?_,
        nofun, hruns.trans ?_, hverified.trans ?_, hdiverged.trans ?_⟩
      all_goals try rw [show thisMatch (s.did .closed).log = _ from thisMatch_closed s.log]
      all_goals first
        | exact (List.countP_cons_of_neg Bool.false_ne_true).symm
        | rfl
    dsimp only
    split
    · exact hclosed.rearmed _ _ _ _
    · exact hclosed
  · rename_i hactive
    have hidle : s.bActive = false := by simpa using hactive
    rw [hidle] at hruns hverified hdiverged
    exact ⟨h.judged, h.framesVerified, h.mismatches, h.rawMismatches, h.gameplayMismatches, h.dumpsWritten,
      h.lastGameplayMismatchFrame, h.lastMismatchFrame, h.lastMismatchSummary, nofun, hruns, hverified, hdiverged⟩

/-! ## Every run -/

theorem told_new (bSoak : Bool) : SyncTold M (SyncTest.new (σ := σ) bSoak) where
  judged := Log.always_nil
  framesVerified := rfl
  mismatches := rfl
  rawMismatches := rfl
  gameplayMismatches := rfl
  dumpsWritten := rfl
  lastGameplayMismatchFrame := rfl
  lastMismatchFrame := rfl
  lastMismatchSummary := rfl
  dumps := nofun
  matchesRun := rfl
  totalFramesVerified := rfl
  totalGameplayMismatches := rfl

theorem told_next (h : SyncTold M s ∧ SyncKept M s) (a : SyncTestAct σ) :
    SyncTold M ((syncTest M).next s a).1 ∧ SyncKept M ((syncTest M).next s a).1 := by
  obtain ⟨ht, hk⟩ := h
  cases a with
  | arm d =>
    dsimp only [syncTest]
    split
    · rename_i hidle
      rw [Bool.and_eq_true, Bool.not_eq_true', Bool.not_eq_true'] at hidle
      exact ⟨ht.rearmed _ _ _ _, .of_idle hidle.1 (armSyncTest_distance s d)⟩
    · exact ⟨ht, hk⟩
  | disarm =>
    dsimp only [syncTest]
    split
    · rename_i harmed
      rw [Bool.and_eq_true, Bool.not_eq_true'] at harmed
      exact ⟨ht.rearmed _ _ _ _, .of_idle harmed.1 hk.distance⟩
    · exact ⟨ht, hk⟩
  | configure bDumpOnMismatch nMaxDumps =>
    dsimp only [syncTest]
    split
    · rename_i hidle
      rw [Bool.and_eq_true, Bool.not_eq_true', Bool.not_eq_true'] at hidle
      exact ⟨ht.configured hidle.1 _ _, .of_idle hidle.1 hk.distance⟩
    · exact ⟨ht, hk⟩
  | hook => exact ⟨ht.rearmed _ _ _ _, { hk with idle := nofun }⟩
  | registerTasks running =>
    dsimp only [syncTest, SyncTest.registerTasks]
    split
    · exact ⟨ht, hk⟩
    · rename_i hhook
      exact ⟨(ht.startSyncTest (hk.idle hhook) running).rearmed _ _ _ _, hk.startSyncTest running⟩
    · exact ⟨ht.rearmed _ _ _ _, { hk with idle := nofun }⟩
  | saveGameState frame state =>
    dsimp only [syncTest]
    split
    · rename_i hactive
      cases hfind : s.records.find frame with
      | none => exact ⟨ht.kept hk hactive hfind, hk.kept hactive hfind⟩
      | some original => exact ⟨ht.compared hk hactive hfind, hk.compared hactive hfind⟩
    · exact ⟨ht, hk⟩
  | closeBattle => exact ⟨ht.closeBattle, hk.closeBattle⟩

/-- Whatever is armed, played, saved and closed in whatever order: a save is compared if and only
if a record of its frame is waiting, every number of the test counts what the log shows of it, the
mismatches that are dumped are the first ones, and the totals are over all matches. -/
theorem sync_test_tells (GGPO_MAX_PREDICTION_FRAMES : ℕ) (bSoak : Bool) (acts : List (SyncTestAct σ)) :
    SyncTold GGPO_MAX_PREDICTION_FRAMES ((syncTest GGPO_MAX_PREDICTION_FRAMES).run (.new bSoak) acts) :=
  (Machine.inv_of_all_steps (fun s => SyncTold GGPO_MAX_PREDICTION_FRAMES s ∧ SyncKept GGPO_MAX_PREDICTION_FRAMES s)
    (fun _ a h => told_next h a) acts ⟨told_new bSoak, .of_idle rfl Int.one_nonneg⟩).1

end Sf4e.Battle
