import Mathlib.Data.List.Perm.Basic
import Mathlib.Logic.Function.Basic
import Mathlib.Tactic.SplitIfs
import Sf4e.Lib.LinkedLists
/-!
# The pool of sound objects

`SoundObjectPool` keeps its entries in two linked lists. Loading a save state
releases every active entry to the inactive list and takes as many off it again
as were active when the state was saved.
-/
open Sf4e.Lib

namespace Sf4e.Battle

structure SoundObjectPoolEntry (α : Type) (N : ℕ) where
  handle : UInt32
  field_0x4 : UInt32
  prev : Option α
  next : Option α
  data : Vector UInt8 N

/-- `SoundObjectPoolEntry::SaveState`. -/
structure PoolEntryState (N : ℕ) where
  handle : UInt32
  field_0x4 : UInt32
  data : Vector UInt8 N
deriving DecidableEq

/-- `SoundObjectPool::SaveState`. -/
structure PoolState (N : ℕ) where
  inactive : List (PoolEntryState N)
  active : List (PoolEntryState N)
deriving DecidableEq

/-- The four ends, and the entries as they stand in memory. -/
structure SoundObjectPool (α : Type) (N : ℕ) where
  entries : α → SoundObjectPoolEntry α N
  inactiveHead : Option α
  inactiveTail : Option α
  activeHead : Option α
  activeTail : Option α

namespace SoundObjectPool

variable {α : Type} [DecidableEq α] {N : ℕ}

/-! ## Loading and saving -/

def prev (pool : SoundObjectPool α N) (a : α) : Option α := (pool.entries a).prev
def next (pool : SoundObjectPool α N) (a : α) : Option α := (pool.entries a).next

/-- What a save state has of an entry. -/
def saved (pool : SoundObjectPool α N) (a : α) : PoolEntryState N :=
  { handle := (pool.entries a).handle, field_0x4 := (pool.entries a).field_0x4, data := (pool.entries a).data }

def write (pool : SoundObjectPool α N) (a : α) (f : SoundObjectPoolEntry α N → SoundObjectPoolEntry α N) :
    SoundObjectPool α N :=
  { pool with entries := Function.update pool.entries a (f (pool.entries a)) }

/-- A write through a pointer that may be `NULL`. -/
def writeAt (pool : SoundObjectPool α N) (p : Option α) (f : SoundObjectPoolEntry α N → SoundObjectPoolEntry α N) :
    SoundObjectPool α N :=
  match p with
  | none => pool
  | some a => pool.write a f

/-- One round of the first loop of `Load`: an active entry goes behind the inactive ones. -/
def releaseOne (pool : SoundObjectPool α N) (cursor : α) : SoundObjectPool α N :=
  let pool := { pool with activeHead := pool.next cursor }
  let pool := pool.write cursor fun e => { e with prev := pool.inactiveTail, next := none }
  let pool := { pool with inactiveHead := pool.inactiveHead.or (some cursor) }
  let pool := pool.writeAt pool.inactiveTail fun e => { e with next := some cursor }
  { pool with inactiveTail := some cursor }

/-- The first loop of `Load`. With fuel: the links decide whether it ends. -/
def releaseAll : ℕ → SoundObjectPool α N → Option (SoundObjectPool α N)
  | 0, pool => if pool.activeHead = none then some pool else none
  | fuel + 1, pool =>
    match pool.activeHead with
    | none => some pool
    | some cursor => releaseAll fuel (pool.releaseOne cursor)

/-- One round of the second loop: the first inactive entry becomes the last active one. -/
def activateOne (pool : SoundObjectPool α N) (newActiveEntry : α) (s : PoolEntryState N) : SoundObjectPool α N :=
  let pool := { pool with inactiveHead := pool.next newActiveEntry }
  let pool :=
    match pool.inactiveHead with
    | none => { pool with inactiveTail := none }
    | some head => pool.write head fun e => { e with prev := none }
  let pool := pool.write newActiveEntry fun _ =>
    { handle := s.handle, field_0x4 := s.field_0x4, prev := pool.activeTail, next := none, data := s.data }
  let pool := { pool with activeHead := pool.activeHead.or (some newActiveEntry) }
  let pool := pool.writeAt pool.activeTail fun e => { e with next := some newActiveEntry }
  { pool with activeTail := some newActiveEntry }

/-- The second loop of `Load`. -/
def activateAll : List (PoolEntryState N) → SoundObjectPool α N → SoundObjectPool α N
  | [], pool => pool
  | s :: rest, pool =>
    match pool.inactiveHead with
    | none => pool
    | some newActiveEntry => activateAll rest (pool.activateOne newActiveEntry s)

/-- What the third loop writes into one entry. -/
def refill (s : PoolEntryState N) (e : SoundObjectPoolEntry α N) : SoundObjectPoolEntry α N :=
  { e with handle := s.handle, field_0x4 := s.field_0x4, data := s.data }

/-- The third loop of `Load`. -/
def fillInactive : List (PoolEntryState N) → Option α → SoundObjectPool α N → SoundObjectPool α N
  | s :: rest, some cursor, pool =>
    let pool := pool.write cursor (refill s)
    fillInactive rest (pool.next cursor) pool
  | _, _, pool => pool

/-- `SoundObjectPool::Load`. -/
def load (fuel : ℕ) (pool : SoundObjectPool α N) (src : PoolState N) : Option (SoundObjectPool α N) := do
  let pool ← pool.releaseAll fuel
  let pool := { pool with activeTail := none }
  let pool := pool.activateAll src.active
  return pool.fillInactive src.inactive pool.inactiveHead

/-- `SoundObjectPool::Save`. -/
def save (fuel : ℕ) (pool : SoundObjectPool α N) : Option (PoolState N) := do
  let inactive ← collect pool.next pool.saved fuel pool.inactiveHead
  let active ← collect pool.next pool.saved fuel pool.activeHead
  return { inactive, active }

/-! ## What one round writes -/

theorem write_entries (pool : SoundObjectPool α N) (a z : α) (f : SoundObjectPoolEntry α N → SoundObjectPoolEntry α N) :
    (pool.write a f).entries z = if z = a then f (pool.entries z) else pool.entries z := by
  unfold write
  show Function.update pool.entries a (f (pool.entries a)) z = _
  by_cases h : z = a
  · rw [if_pos h, h, Function.update_self]
  · rw [if_neg h, Function.update_of_ne h]

theorem writeAt_entries (pool : SoundObjectPool α N) (p : Option α) (z : α)
    (f : SoundObjectPoolEntry α N → SoundObjectPoolEntry α N) :
    (pool.writeAt p f).entries z = if p = some z then f (pool.entries z) else pool.entries z := by
  cases p with
  | none => rfl
  | some a =>
    show (pool.write a f).entries z = _
    rw [write_entries]
    simp only [Option.some.injEq, eq_comm]

section Writes

variable (pool : SoundObjectPool α N) (p : Option α) (a : α)
  (f : SoundObjectPoolEntry α N → SoundObjectPoolEntry α N)

@[simp] theorem write_inactiveHead : (pool.write a f).inactiveHead = pool.inactiveHead := rfl
@[simp] theorem write_inactiveTail : (pool.write a f).inactiveTail = pool.inactiveTail := rfl
@[simp] theorem write_activeHead : (pool.write a f).activeHead = pool.activeHead := rfl
@[simp] theorem write_activeTail : (pool.write a f).activeTail = pool.activeTail := rfl

@[simp] theorem writeAt_inactiveHead : (pool.writeAt p f).inactiveHead = pool.inactiveHead := by cases p <;> rfl
@[simp] theorem writeAt_inactiveTail : (pool.writeAt p f).inactiveTail = pool.inactiveTail := by cases p <;> rfl
@[simp] theorem writeAt_activeHead : (pool.writeAt p f).activeHead = pool.activeHead := by cases p <;> rfl
@[simp] theorem writeAt_activeTail : (pool.writeAt p f).activeTail = pool.activeTail := by cases p <;> rfl

end Writes

section Release

variable (pool : SoundObjectPool α N) (cursor : α)

theorem releaseOne_inactiveHead : (pool.releaseOne cursor).inactiveHead = pool.inactiveHead.or (some cursor) := by
  simp [releaseOne]

theorem releaseOne_inactiveTail : (pool.releaseOne cursor).inactiveTail = some cursor := rfl

theorem releaseOne_activeHead : (pool.releaseOne cursor).activeHead = pool.next cursor := by
  simp [releaseOne]

theorem releaseOne_entries (z : α) : (pool.releaseOne cursor).entries z =
    { pool.entries z with
      prev := if z = cursor then pool.inactiveTail else pool.prev z
      next := if pool.inactiveTail = some z then some cursor else if z = cursor then none else pool.next z } := by
  have hr : (pool.releaseOne cursor).entries z = (((pool.write cursor fun e =>
      { e with prev := pool.inactiveTail, next := none }).writeAt pool.inactiveTail fun e =>
      { e with next := some cursor }).entries z) := by
    unfold releaseOne writeAt write
    cases pool.inactiveTail <;> rfl
  rw [hr, writeAt_entries, write_entries]
  unfold prev next
  split_ifs <;> rfl

end Release

section Activate

variable (pool : SoundObjectPool α N) (a : α) (s : PoolEntryState N)

theorem activateOne_inactiveHead : (pool.activateOne a s).inactiveHead = pool.next a := by
  unfold activateOne
  cases pool.next a <;> simp

theorem activateOne_inactiveTail :
    (pool.activateOne a s).inactiveTail = if pool.next a = none then none else pool.inactiveTail := by
  unfold activateOne
  cases pool.next a <;> simp

theorem activateOne_activeHead : (pool.activateOne a s).activeHead = pool.activeHead.or (some a) := by
  unfold activateOne
  cases pool.next a <;> simp

theorem activateOne_activeTail : (pool.activateOne a s).activeTail = some a := rfl

theorem activateOne_entries (z : α) : (pool.activateOne a s).entries z =
    { handle := if z = a then s.handle else (pool.entries z).handle
      field_0x4 := if z = a then s.field_0x4 else (pool.entries z).field_0x4
      prev := if z = a then pool.activeTail else if pool.next a = some z then none else pool.prev z
      next := if pool.activeTail = some z then some a else if z = a then none else pool.next z
      data := if z = a then s.data else (pool.entries z).data } := by
  have hr : (pool.activateOne a s).entries z = ((((pool.writeAt (pool.next a) fun e => { e with prev := none }).write a fun _ =>
      { handle := s.handle, field_0x4 := s.field_0x4, prev := pool.activeTail, next := none, data := s.data }).writeAt
        pool.activeTail fun e => { e with next := some a }).entries z) := by
    unfold activateOne writeAt write
    cases pool.next a <;> cases pool.activeTail <;> rfl
  rw [hr, writeAt_entries, write_entries, writeAt_entries]
  unfold prev next
  split_ifs <;> rfl

end Activate

/-! ## Well-formed pools -/

/-- The pool's two lists: each well formed, and no entry in both. -/
structure Holds (pool : SoundObjectPool α N) (xs ys : List α) : Prop where
  inactive : Linked pool.prev pool.next pool.inactiveHead pool.inactiveTail xs
  active : Linked pool.prev pool.next pool.activeHead pool.activeTail ys
  disjoint : xs.Disjoint ys

/-- While entries are released. The entry that has become the head of the active list still
points back at the one released before it. -/
structure Releasing (pool : SoundObjectPool α N) (xs ys : List α) : Prop where
  inactive : Linked pool.prev pool.next pool.inactiveHead pool.inactiveTail xs
  active : Walks pool.next pool.activeHead ys
  nodup : ys.Nodup
  disjoint : xs.Disjoint ys

/-- What the engine relies on of a list: nothing before its head, nothing behind its tail, and
`prev` and `next` undo each other. -/
def Ends (pool : SoundObjectPool α N) (head tail : Option α) (xs : List α) : Prop :=
  (∀ x, head = some x → pool.prev x = none) ∧ (∀ x, tail = some x → pool.next x = none) ∧
    ∀ x ∈ xs, ∀ y ∈ xs, pool.next x = some y ↔ pool.prev y = some x

omit [DecidableEq α] in
theorem ends_of_linked {pool : SoundObjectPool α N} {head tail : Option α} {xs : List α}
    (h : Linked pool.prev pool.next head tail xs) : pool.Ends head tail xs :=
  ⟨fun _ => h.head_prev, fun _ => h.tail_next, fun _ hx _ hy => h.inverse hx hy⟩

variable {pool : SoundObjectPool α N} {inactive active : List α} {x : α}

/-! ## Release -/

theorem Releasing.releaseOne (h : Releasing pool inactive (x :: active)) :
    Releasing (pool.releaseOne x) (inactive ++ [x]) active := by
  have hx : x ∉ inactive := fun hm => h.disjoint hm List.mem_cons_self
  obtain ⟨hxa, hactive⟩ := List.nodup_cons.1 h.nodup
  have hnext (z : α) : (pool.releaseOne x).next z =
      if pool.inactiveTail = some z then some x else if z = x then none else pool.next z := by
    unfold next
    rw [releaseOne_entries]
    rfl
  have hprev (z : α) : (pool.releaseOne x).prev z = if z = x then pool.inactiveTail else pool.prev z := by
    unfold prev
    rw [releaseOne_entries]
    rfl
  have htail (z : α) (hz : z ∉ inactive) : pool.inactiveTail ≠ some z := fun ht => hz (h.inactive.tail_mem ht)
  refine ⟨?_, ?_, hactive, ?_⟩
  · rw [releaseOne_inactiveHead, releaseOne_inactiveTail]
    refine h.inactive.pushBack hx (fun z hz => ?_) ?_ (fun z hz => ?_) ?_
    · rw [hnext, if_neg (ne_of_mem_of_not_mem hz hx)]
    · rw [hnext, if_neg (htail x hx), if_pos rfl]
    · rw [hprev, if_neg (ne_of_mem_of_not_mem hz hx)]
    · rw [hprev, if_pos rfl]
  · -- the tail that gets a successor is inactive, so the active entries keep theirs
    rw [releaseOne_activeHead]
    refine h.active.2.congr fun z hz => ?_
    have hzi : z ∉ inactive := fun hm => h.disjoint hm (List.mem_cons_of_mem x hz)
    rw [hnext, if_neg (htail z hzi), if_neg (ne_of_mem_of_not_mem hz hxa)]
  · intro z hz hza
    rcases List.mem_append.1 hz with hz | hz
    · exact h.disjoint hz (List.mem_cons_of_mem x hza)
    · exact hxa (List.mem_singleton.1 hz ▸ hza)

/-- Every active entry ends up behind the inactive ones. -/
theorem Releasing.releaseAll {fuel : ℕ} (h : Releasing pool inactive active) (hfuel : active.length ≤ fuel) :
    ∃ pool', pool.releaseAll fuel = some pool' ∧ Releasing pool' (inactive ++ active) [] := by
  induction active generalizing pool inactive fuel with
  | nil =>
    have hhead : pool.activeHead = none := h.active
    refine ⟨pool, ?_, ?_⟩
    · cases fuel with
      | zero => exact if_pos hhead
      | succ fuel => rw [SoundObjectPool.releaseAll, hhead]
    · rwa [List.append_nil]
  | cons x active ih =>
    have hhead : pool.activeHead = some x := h.active.1
    cases fuel with
    | zero => cases hfuel
    | succ fuel =>
      obtain ⟨pool', hrun, hpool'⟩ := ih h.releaseOne (Nat.le_of_succ_le_succ hfuel)
      refine ⟨pool', ?_, ?_⟩
      · rw [SoundObjectPool.releaseAll, hhead]
        exact hrun
      · rwa [List.append_assoc] at hpool'

/-! ## Activation -/

theorem Holds.activateOne (h : Holds pool (x :: inactive) active) (s : PoolEntryState N) :
    Holds (pool.activateOne x s) inactive (active ++ [x]) := by
  obtain ⟨hxi, -⟩ := List.nodup_cons.1 h.inactive.nodup
  have hxa : x ∉ active := fun hm => h.disjoint List.mem_cons_self hm
  have hnext (z : α) : (pool.activateOne x s).next z =
      if pool.activeTail = some z then some x else if z = x then none else pool.next z := by
    unfold next
    rw [activateOne_entries]
    rfl
  have hprev (z : α) : (pool.activateOne x s).prev z =
      if z = x then pool.activeTail else if pool.next x = some z then none else pool.prev z := by
    unfold prev
    rw [activateOne_entries]
    rfl
  have htail (z : α) (hz : z ∉ active) : pool.activeTail ≠ some z := fun ht => hz (h.active.tail_mem ht)
  have hactive (z : α) (hz : z ∈ inactive) : z ∉ active := fun hm => h.disjoint (List.mem_cons_of_mem x hz) hm
  have hhead (z : α) (hz : z ∈ active) : pool.next x ≠ some z := fun hn =>
    hactive z (List.mem_of_head? (h.inactive.forward.2.head_eq.symm.trans hn)) hz
  refine ⟨?_, ?_, ?_⟩
  · rw [activateOne_inactiveHead, activateOne_inactiveTail]
    refine h.inactive.popFront (fun z hz => ?_) fun z hz => ?_
    · rw [hnext, if_neg (htail z (hactive z hz)), if_neg (ne_of_mem_of_not_mem hz hxi)]
    · rw [hprev, if_neg (ne_of_mem_of_not_mem hz hxi)]
  · rw [activateOne_activeHead, activateOne_activeTail]
    refine h.active.pushBack hxa (fun z hz => ?_) ?_ (fun z hz => ?_) ?_
    · rw [hnext, if_neg (ne_of_mem_of_not_mem hz hxa)]
    · rw [hnext, if_neg (htail x hxa), if_pos rfl]
    · rw [hprev, if_neg (ne_of_mem_of_not_mem hz hxa), if_neg (hhead z hz)]
    · rw [hprev, if_pos rfl]
  · intro z hz hza
    rcases List.mem_append.1 hza with hza | hza
    · exact hactive z hz hza
    · exact hxi (List.mem_singleton.1 hza ▸ hz)

theorem activateOne_saved (pool : SoundObjectPool α N) (a z : α) (s : PoolEntryState N) :
    (pool.activateOne a s).saved z = if z = a then s else pool.saved z := by
  unfold saved
  rw [activateOne_entries]
  split_ifs <;> rfl

/-- As many entries become active as are asked for and there are, from the front of the
inactive list, each with what was saved of it. -/
theorem Holds.activateAll (h : Holds pool inactive active) (ss : List (PoolEntryState N)) :
    Holds (pool.activateAll ss) (inactive.drop ss.length) (active ++ inactive.take ss.length) ∧
      (active ++ inactive.take ss.length).map (pool.activateAll ss).saved =
        active.map pool.saved ++ ss.take inactive.length := by
  induction ss generalizing pool inactive active with
  | nil =>
    have hstop : pool.activateAll [] = pool := rfl
    rw [hstop]
    refine ⟨?_, ?_⟩
    · simpa only [List.length_nil, List.drop_zero, List.take_zero, List.append_nil] using h
    · simp only [List.length_nil, List.take_zero, List.take_nil, List.append_nil]
  | cons s ss ih =>
    cases inactive with
    | nil =>
      have hhead : pool.inactiveHead = none := h.inactive.forward
      have hstop : pool.activateAll (s :: ss) = pool := by
        rw [SoundObjectPool.activateAll, hhead]
      rw [hstop]
      refine ⟨?_, ?_⟩
      · simpa only [List.drop_nil, List.take_nil, List.append_nil] using h
      · simp only [List.take_nil, List.length_nil, List.take_zero, List.append_nil]
    | cons x inactive =>
      have hhead : pool.inactiveHead = some x := h.inactive.forward.1
      have hgo : pool.activateAll (s :: ss) = (pool.activateOne x s).activateAll ss := by
        rw [SoundObjectPool.activateAll, hhead]
      have hxa : x ∉ active := fun hm => h.disjoint List.mem_cons_self hm
      -- only the entry that is activated gets new contents
      have hmap : (active ++ [x]).map (pool.activateOne x s).saved = active.map pool.saved ++ [s] := by
        rw [List.map_append, List.map_singleton, activateOne_saved, if_pos rfl]
        congr 1
        refine List.map_congr_left fun z hz => ?_
        rw [activateOne_saved, if_neg (ne_of_mem_of_not_mem hz hxa)]
      obtain ⟨hholds, hsaved⟩ := ih (h.activateOne s)
      rw [hgo]
      rw [hmap] at hsaved
      simp only [List.append_assoc, List.cons_append, List.nil_append] at hholds hsaved
      exact ⟨hholds, hsaved⟩

/-! ## Filling the inactive entries -/

theorem write_refill_prev (pool : SoundObjectPool α N) (a : α) (s : PoolEntryState N) :
    (pool.write a (refill s)).prev = pool.prev := by
  funext z
  unfold prev
  rw [write_entries]
  split_ifs <;> rfl

theorem write_refill_next (pool : SoundObjectPool α N) (a : α) (s : PoolEntryState N) :
    (pool.write a (refill s)).next = pool.next := by
  funext z
  unfold next
  rw [write_entries]
  split_ifs <;> rfl

theorem write_refill_saved (pool : SoundObjectPool α N) (a z : α) (s : PoolEntryState N) :
    (pool.write a (refill s)).saved z = if z = a then s else pool.saved z := by
  unfold saved
  rw [write_entries]
  split_ifs <;> rfl

theorem fillInactive_cons (pool : SoundObjectPool α N) (s : PoolEntryState N) (ss : List (PoolEntryState N)) (a : α) :
    pool.fillInactive (s :: ss) (some a) = (pool.write a (refill s)).fillInactive ss (pool.next a) := by
  rw [← write_refill_next pool a s]
  rfl

/-- The third loop changes no link. -/
theorem Holds.fillInactive (h : Holds pool inactive active) (ss : List (PoolEntryState N)) (p : Option α) :
    Holds (pool.fillInactive ss p) inactive active := by
  induction ss generalizing pool p with
  | nil => exact h
  | cons s ss ih =>
    cases p with
    | none => exact h
    | some a =>
      rw [fillInactive_cons]
      refine ih ⟨?_, ?_, h.disjoint⟩ _
      · rw [write_refill_prev, write_refill_next]
        exact h.inactive
      · rw [write_refill_prev, write_refill_next]
        exact h.active

theorem fillInactive_saved_of_notMem {p : Option α} {xs : List α} (h : Walks pool.next p xs)
    (ss : List (PoolEntryState N)) {z : α} (hz : z ∉ xs) : (pool.fillInactive ss p).saved z = pool.saved z := by
  induction ss generalizing pool p xs with
  | nil => rfl
  | cons s ss ih =>
    cases xs with
    | nil =>
      cases (h : p = none)
      rfl
    | cons x xs =>
      obtain ⟨rfl, h⟩ := h
      rw [List.mem_cons, not_or] at hz
      rw [← write_refill_next pool x s] at h
      rw [fillInactive_cons, ← write_refill_next pool x s, ih h hz.2, write_refill_saved, if_neg hz.1]

/-- With as many entries as were saved, each holds what was saved of it. -/
theorem fillInactive_saved {p : Option α} {xs : List α} (h : Walks pool.next p xs) (hn : xs.Nodup)
    {ss : List (PoolEntryState N)} (hlen : ss.length = xs.length) : xs.map (pool.fillInactive ss p).saved = ss := by
  induction xs generalizing pool p ss with
  | nil => exact (List.length_eq_zero_iff.1 hlen).symm
  | cons x xs ih =>
    obtain ⟨rfl, h⟩ := h
    obtain ⟨hx, hn⟩ := List.nodup_cons.1 hn
    cases ss with
    | nil => cases hlen
    | cons s ss =>
      rw [← write_refill_next pool x s] at h
      rw [fillInactive_cons, List.map_cons, ← write_refill_next pool x s,
        ih h hn (Nat.succ_inj.1 hlen), fillInactive_saved_of_notMem h ss hx, write_refill_saved, if_pos rfl]

/-! ## Loading -/

/-- Loading gives the first entries, inactive ones before active ones, to the active list. -/
theorem Holds.load (h : Holds pool inactive active) (src : PoolState N) {fuel : ℕ} (hfuel : active.length ≤ fuel) :
    ∃ pool', pool.load fuel src = some pool' ∧
      Holds pool' ((inactive ++ active).drop src.active.length) ((inactive ++ active).take src.active.length) ∧
      (src.inactive.length + src.active.length = (inactive ++ active).length →
        ((inactive ++ active).drop src.active.length).map pool'.saved = src.inactive ∧
        ((inactive ++ active).take src.active.length).map pool'.saved = src.active) := by
  have hreleasing : Releasing pool inactive active := ⟨h.inactive, h.active.forward, h.active.nodup, h.disjoint⟩
  obtain ⟨released, hrun, hreleased⟩ := hreleasing.releaseAll hfuel
  have hcleared : Holds { released with activeTail := none } (inactive ++ active) [] := by
    have hhead : released.activeHead = none := hreleased.active
    refine ⟨hreleased.inactive, ?_, List.disjoint_nil_right _⟩
    show Linked released.prev released.next released.activeHead none []
    rw [hhead]
    exact .empty _ _
  obtain ⟨hholds, hsaved⟩ := hcleared.activateAll src.active
  simp only [List.nil_append, List.map_nil] at hholds hsaved
  obtain ⟨activated, hactivated⟩ :
      ∃ activated, activated = SoundObjectPool.activateAll src.active { released with activeTail := none } := ⟨_, rfl⟩
  rw [← hactivated] at hholds hsaved
  refine ⟨activated.fillInactive src.inactive activated.inactiveHead, ?_, hholds.fillInactive src.inactive _,
    fun hlen => ⟨?_, ?_⟩⟩
  · rw [SoundObjectPool.load, hrun, hactivated]
    rfl
  · refine fillInactive_saved hholds.inactive.forward hholds.inactive.nodup ?_
    rw [List.length_drop]
    omega
  · -- the third loop has not touched the active entries
    have hfits : src.active.take (inactive ++ active).length = src.active :=
      List.take_of_length_le (by omega)
    rw [hfits] at hsaved
    refine Eq.trans (List.map_congr_left fun z hz => ?_) hsaved
    exact fillInactive_saved_of_notMem hholds.inactive.forward _ fun hm => hholds.disjoint hm hz

omit [DecidableEq α] in
theorem Holds.save (h : Holds pool inactive active) {fuel : ℕ} (hi : inactive.length ≤ fuel)
    (ha : active.length ≤ fuel) :
    pool.save fuel = some { inactive := inactive.map pool.saved, active := active.map pool.saved } := by
  unfold SoundObjectPool.save
  rw [h.inactive.forward.collect_eq pool.saved hi, h.active.forward.collect_eq pool.saved ha]
  rfl

/-- Loading ends for every saved state and leaves two well-formed lists of the same entries.
When the state has as many as the pool, saving gives it back. -/
theorem load_save (h : Holds pool inactive active) (src : PoolState N) {fuel : ℕ}
    (hfuel : (inactive ++ active).length ≤ fuel) :
    ∃ pool' inactive' active', pool.load fuel src = some pool' ∧
      Holds pool' inactive' active' ∧
      pool'.Ends pool'.inactiveHead pool'.inactiveTail inactive' ∧
      pool'.Ends pool'.activeHead pool'.activeTail active' ∧
      (inactive' ++ active').Perm (inactive ++ active) ∧
      (src.inactive.length + src.active.length = (inactive ++ active).length → pool'.save fuel = some src) := by
  have hactive : active.length ≤ fuel := by
    rw [List.length_append] at hfuel
    omega
  obtain ⟨pool', hload, hholds, hsaved⟩ := h.load src hactive
  refine ⟨pool', _, _, hload, hholds, ends_of_linked hholds.inactive, ends_of_linked hholds.active, ?_, fun hlen => ?_⟩
  · have hsplit := List.take_append_drop src.active.length (inactive ++ active)
    exact List.perm_append_comm.trans (List.Perm.of_eq hsplit)
  · obtain ⟨hinactive, hactive⟩ := hsaved hlen
    rw [hholds.save, hinactive, hactive]
    · rw [List.length_drop]
      omega
    · rw [List.length_take]
      omega

/-- Entries 0 and 2 are inactive, entry 1 is active. -/
def pairAndOne : SoundObjectPool ℕ 1 where
  entries
    | 0 => { handle := 10, field_0x4 := 0, prev := none, next := some 2, data := ⟨#[0], rfl⟩ }
    | 1 => { handle := 11, field_0x4 := 0, prev := none, next := none, data := ⟨#[1], rfl⟩ }
    | _ => { handle := 12, field_0x4 := 0, prev := some 0, next := none, data := ⟨#[2], rfl⟩ }
  inactiveHead := some 0
  inactiveTail := some 2
  activeHead := some 1
  activeTail := some 1

theorem pairAndOne_holds : pairAndOne.Holds [0, 2] [1] where
  inactive := ⟨⟨rfl, rfl, rfl⟩, ⟨rfl, rfl, rfl⟩, by decide⟩
  active := ⟨⟨rfl, rfl⟩, ⟨rfl, rfl⟩, by decide⟩
  disjoint := by simp

/-- A state that was saved while two sounds were playing. -/
def twoPlaying : PoolState 1 where
  inactive := [{ handle := 20, field_0x4 := 1, data := ⟨#[3], rfl⟩ }]
  active := [{ handle := 21, field_0x4 := 1, data := ⟨#[4], rfl⟩ }, { handle := 22, field_0x4 := 1, data := ⟨#[5], rfl⟩ }]

theorem load_save_pairAndOne : ∃ pool' inactive' active', pairAndOne.load 3 twoPlaying = some pool' ∧
    Holds pool' inactive' active' ∧
    pool'.Ends pool'.inactiveHead pool'.inactiveTail inactive' ∧
    pool'.Ends pool'.activeHead pool'.activeTail active' ∧
    (inactive' ++ active').Perm [0, 2, 1] ∧ (2 + 1 = 3 → pool'.save 3 = some twoPlaying) :=
  load_save pairAndOne_holds twoPlaying (by decide)

end SoundObjectPool

end Sf4e.Battle
