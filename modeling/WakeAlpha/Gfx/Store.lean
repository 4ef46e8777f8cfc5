import Mathlib.Data.List.Perm.Subperm
import WakeAlpha.Gfx.Slot

set_option autoImplicit false

namespace WakeAlpha.Gfx

-- One resource: its slot and what its kind keeps beside it.
structure SgItem (α : Type) where
  slot : SgSlot := {}
  body : α

-- A pool with the array of its items, such as buffer_pool with buffers in _sg_pools_t.
structure SgStore (α : Type) where
  pool : SgPool
  items : Nat → SgItem α

variable {α : Type}

-- _sg_setup_pools for one kind. calloc clears the items.
def SgStore.setup [Inhabited α] (num : Nat) : Checked (SgStore α) := do
  sokolAssert (0 < num ∧ num < sgMaxPoolSize)
  return ⟨sgInitPool num, fun _ => { body := default }⟩

def SgStore.slot (s : SgStore α) (index : Nat) : SgSlot := (s.items index).slot
def SgStore.body (s : SgStore α) (index : Nat) : α := (s.items index).body

def SgStore.put (s : SgStore α) (index : Nat) (item : SgItem α) : SgStore α :=
  { s with items := Function.update s.items index item }

-- _sg_buffer_at and its siblings.
def SgStore.itemAt (s : SgStore α) (id : UInt32) : Checked Nat := do
  sokolAssert (id ≠ 0)
  let slotIndex ← sgSlotIndex id
  sokolAssert (0 < slotIndex ∧ slotIndex < s.pool.size)
  return slotIndex

-- _sg_lookup_buffer and its siblings; the inner none is the null pointer.
def SgStore.lookup (s : SgStore α) (id : UInt32) : Checked (Option Nat) :=
  if id ≠ 0 then do
    let slotIndex ← s.itemAt id
    return if (s.slot slotIndex).id = id then some slotIndex else none
  else return none

-- _sg_alloc_buffer and its siblings. The id 0 says that the pool is exhausted.
def SgStore.alloc (s : SgStore α) : Checked (UInt32 × SgStore α) := do
  let (slotIndex, popped) ← sgPoolAllocIndex s.pool
  if slotIndex ≠ 0 then
    let (id, pool, slot) ← sgSlotAlloc popped (s.slot slotIndex) slotIndex
    return (id, { s with pool := pool }.put slotIndex { s.items slotIndex with slot := slot })
  else return (0, { s with pool := popped })

-- _sg_dealloc_buffer and its siblings: the slot is reset and the body keeps what it holds.
def SgStore.dealloc (s : SgStore α) (index : Nat) : Checked (SgStore α) := do
  sokolAssert ((s.slot index).state = .alloc ∧ (s.slot index).id ≠ 0)
  let slotIndex ← sgSlotIndex (s.slot index).id
  let pool ← sgPoolFreeIndex s.pool slotIndex
  return { s with pool := pool }.put index { s.items index with slot := {} }

-- _sg_uninit_buffer and its siblings, with _sg_reset_buffer_to_alloc_state.
def SgStore.uninit [Inhabited α] (s : SgStore α) (index : Nat) : Checked (SgStore α) := do
  sokolAssert ((s.slot index).state = .valid ∨ (s.slot index).state = .failed)
  return s.put index ⟨{ s.slot index with state := .alloc }, default⟩

@[simp] theorem put_pool (s : SgStore α) (index : Nat) (item : SgItem α) : (s.put index item).pool = s.pool := rfl

@[simp] theorem put_items_self (s : SgStore α) (index : Nat) (item : SgItem α) :
    (s.put index item).items index = item := by
  simp [SgStore.put]

@[simp] theorem put_slot_self (s : SgStore α) (index : Nat) (item : SgItem α) :
    (s.put index item).slot index = item.slot := by
  simp [SgStore.slot, SgStore.put]

@[simp] theorem put_body_self (s : SgStore α) (index : Nat) (item : SgItem α) :
    (s.put index item).body index = item.body := by
  simp [SgStore.body, SgStore.put]

theorem put_slot_other (s : SgStore α) {index other : Nat} (item : SgItem α) (ne : other ≠ index) :
    (s.put index item).slot other = s.slot other := by
  simp [SgStore.slot, SgStore.put, Function.update_of_ne ne]

theorem put_body_other (s : SgStore α) {index other : Nat} (item : SgItem α) (ne : other ≠ index) :
    (s.put index item).body other = s.body other := by
  simp [SgStore.body, SgStore.put, Function.update_of_ne ne]

def SgResourceState.Live (state : SgResourceState) : Prop := state = .alloc ∨ state = .valid ∨ state = .failed

-- A slot in use: its id is the one of its index and of the current value of its counter.
structure SgStore.Used (s : SgStore α) (index : Nat) : Prop where
  id : (s.slot index).id = slotId (s.pool.genCtrs index) index
  live : (s.slot index).state.Live

-- The free queue and the slots in use share out the indices from 1 to num.
structure SgStore.Inv (num : Nat) (s : SgStore α) : Prop where
  small : num < 65536
  size : s.pool.size = num + 1
  nodup : s.pool.freeQueue.Nodup
  free : ∀ index ∈ s.pool.freeQueue, 0 < index ∧ index ≤ num ∧ s.slot index = {}
  used : ∀ index, 0 < index → index ≤ num → index ∉ s.pool.freeQueue → s.Used index

theorem used_not_free {num : Nat} {s : SgStore α} (inv : s.Inv num) {index : Nat} (used : s.Used index) :
    index ∉ s.pool.freeQueue := by
  intro queued
  have live := used.live
  rw [(inv.free index queued).2.2] at live
  simp [SgResourceState.Live] at live

theorem queue_length_lt {num : Nat} {s : SgStore α} (inv : s.Inv num) {index : Nat} (pos : 0 < index)
    (le : index ≤ num) (used : s.Used index) : s.pool.freeQueue.length < num := by
  have fresh : (index :: s.pool.freeQueue).Nodup := List.nodup_cons.mpr ⟨used_not_free inv used, inv.nodup⟩
  have within : index :: s.pool.freeQueue ⊆ List.range' 1 num := by
    intro other member
    simp only [List.mem_range'_1]
    rcases List.mem_cons.mp member with same | queued
    · omega
    · obtain ⟨otherPos, otherLe, _⟩ := inv.free other queued
      omega
  have bound := (List.Nodup.subperm fresh within).length_le
  simp only [List.length_cons, List.length_range'] at bound
  omega

def SgStore.fresh [Inhabited α] (num : Nat) : SgStore α := ⟨sgInitPool num, fun _ => { body := default }⟩

theorem setup_some [Inhabited α] {num : Nat} {s : SgStore α} (done : SgStore.setup num = some s) :
    0 < num ∧ num < 65536 ∧ s = SgStore.fresh num := by
  by_cases sizes : 0 < num ∧ num < sgMaxPoolSize
  · rw [SgStore.setup, assert_bind sizes] at done
    cases done
    exact ⟨sizes.1, sizes.2, rfl⟩
  · simp [SgStore.setup, sokolAssert, sizes] at done

theorem fresh_inv [Inhabited α] {num : Nat} (small : num < 65536) : (SgStore.fresh num : SgStore α).Inv num := by
  refine ⟨small, rfl, List.nodup_range', ?_, ?_⟩
  · intro index queued
    simp only [SgStore.fresh, sgInitPool, List.mem_range'_1] at queued
    exact ⟨by omega, by omega, rfl⟩
  · intro index positive le absent
    simp only [SgStore.fresh, sgInitPool, List.mem_range'_1] at absent
    omega

-- Everything that is ever done to a store is one of three moves: the head of the free queue starts a
-- life, a slot ends its life and goes back to the head of the queue, or an item in use is rewritten
-- under the id it has.
def SgStore.allocAt (s : SgStore α) (index : Nat) (rest : List Nat) : SgStore α :=
  let ctr := s.pool.genCtrs index + 1
  let pool := { s.pool with freeQueue := rest, genCtrs := Function.update s.pool.genCtrs index ctr }
  { s with pool := pool }.put index { s.items index with slot := ⟨slotId ctr index, .alloc⟩ }

def SgStore.freeAt (s : SgStore α) (index : Nat) : SgStore α :=
  { s with pool := { s.pool with freeQueue := index :: s.pool.freeQueue } }.put index
    { s.items index with slot := {} }

-- starts counts the lives that begin, index is the one place where the items change.
inductive Move (s : SgStore α) : (starts index : Nat) → SgStore α → Prop where
  | alloc (index : Nat) (rest : List Nat) (queue : s.pool.freeQueue = index :: rest) :
      Move s 1 index (s.allocAt index rest)
  | free (index : Nat) (pos : 0 < index) (inside : index < s.pool.size) (used : s.Used index) :
      Move s 0 index (s.freeAt index)
  | put (index : Nat) (item : SgItem α) (pos : 0 < index) (inside : index < s.pool.size) (used : s.Used index)
      (same : item.slot.id = (s.slot index).id) (live : item.slot.state.Live) :
      Move s 0 index (s.put index item)

-- allowed says which items may change, and to what.
inductive Moves (allowed : Nat → SgItem α → Prop) : SgStore α → Nat → SgStore α → Prop where
  | refl (s : SgStore α) : Moves allowed s 0 s
  | tail {a b c : SgStore α} {n starts index : Nat} (moves : Moves allowed a n b) (move : Move b starts index c)
      (ok : allowed index (c.items index)) : Moves allowed a (n + starts) c

theorem single_move {allowed : Nat → SgItem α → Prop} {a b : SgStore α} {starts index : Nat}
    (move : Move a starts index b) (ok : allowed index (b.items index)) : Moves allowed a starts b := by
  simpa using Moves.tail (Moves.refl a) move ok

theorem moves_mono {allowed wider : Nat → SgItem α → Prop} {a b : SgStore α} {n : Nat}
    (weaker : ∀ index item, allowed index item → wider index item) (moves : Moves allowed a n b) : Moves wider a n b := by
  induction moves with
  | refl => exact .refl _
  | tail _ move ok ih => exact .tail ih move (weaker _ _ ok)

theorem moves_trans {allowed : Nat → SgItem α → Prop} {a b c : SgStore α} {n m : Nat} (first : Moves allowed a n b)
    (second : Moves allowed b m c) : Moves allowed a (n + m) c := by
  induction second with
  | refl => exact first
  | tail _ move ok ih =>
      rw [← Nat.add_assoc]
      exact .tail ih move ok

theorem alloc_slot_other (s : SgStore α) {index other : Nat} (rest : List Nat) (ne : other ≠ index) :
    (s.allocAt index rest).slot other = s.slot other := put_slot_other _ _ ne

theorem free_slot_other (s : SgStore α) {index other : Nat} (ne : other ≠ index) :
    (s.freeAt index).slot other = s.slot other := put_slot_other _ _ ne

theorem alloc_ctr_other (s : SgStore α) {index other : Nat} (rest : List Nat) (ne : other ≠ index) :
    (s.allocAt index rest).pool.genCtrs other = s.pool.genCtrs other := by
  simp [SgStore.allocAt, Function.update_of_ne ne]

theorem alloc_used_self (s : SgStore α) (index : Nat) (rest : List Nat) : (s.allocAt index rest).Used index := by
  constructor
  · simp [SgStore.allocAt]
  · simp [SgStore.allocAt, SgResourceState.Live]

theorem move_inv {num starts index : Nat} {s next : SgStore α} (inv : s.Inv num)
    (move : Move s starts index next) : next.Inv num := by
  cases move with
  | alloc _ rest queue =>
      have head : index ∈ s.pool.freeQueue := by simp [queue]
      have nodup := inv.nodup
      rw [queue, List.nodup_cons] at nodup
      have other {entry : Nat} (member : entry ∈ rest) : entry ≠ index :=
        fun same => nodup.1 (same ▸ member)
      refine ⟨inv.small, inv.size, nodup.2, ?_, ?_⟩
      · intro entry member
        obtain ⟨pos, le, blank⟩ := inv.free entry (by rw [queue]; exact List.mem_cons_of_mem _ member)
        exact ⟨pos, le, (alloc_slot_other s rest (other member)).trans blank⟩
      · intro entry pos le absent
        by_cases same : entry = index
        · subst same
          exact alloc_used_self s entry rest
        · have used := inv.used entry pos le (by
            rw [queue, List.mem_cons, not_or]
            exact ⟨same, absent⟩)
          constructor
          · rw [alloc_slot_other s rest same, alloc_ctr_other s rest same]
            exact used.id
          · rw [alloc_slot_other s rest same]
            exact used.live
  | free _ pos inside used =>
      have notFree := used_not_free inv used
      have le : index ≤ num := by
        have size := inv.size
        omega
      refine ⟨inv.small, inv.size, List.nodup_cons.mpr ⟨notFree, inv.nodup⟩, ?_, ?_⟩
      · intro entry member
        rcases List.mem_cons.mp member with same | queued
        · subst same
          exact ⟨pos, le, put_slot_self _ _ _⟩
        · have ne : entry ≠ index := fun same => notFree (same ▸ queued)
          obtain ⟨entryPos, entryLe, blank⟩ := inv.free entry queued
          exact ⟨entryPos, entryLe, (free_slot_other s ne).trans blank⟩
      · intro entry entryPos entryLe absent
        have apart : entry ≠ index ∧ entry ∉ s.pool.freeQueue := by
          simpa [SgStore.freeAt] using absent
        have kept := inv.used entry entryPos entryLe apart.2
        constructor
        · rw [free_slot_other s apart.1]
          exact kept.id
        · rw [free_slot_other s apart.1]
          exact kept.live
  | put _ item pos inside used same live =>
      have notFree := used_not_free inv used
      refine ⟨inv.small, inv.size, inv.nodup, ?_, ?_⟩
      · intro entry queued
        have ne : entry ≠ index := fun same => notFree (same ▸ queued)
        rw [put_slot_other s item ne]
        exact inv.free entry queued
      · intro entry entryPos entryLe absent
        by_cases eq : entry = index
        · subst eq
          constructor
          · rw [put_slot_self]
            exact same.trans used.id
          · rw [put_slot_self]
            exact live
        · have kept := inv.used entry entryPos entryLe absent
          constructor
          · rw [put_slot_other s item eq]
            exact kept.id
          · rw [put_slot_other s item eq]
            exact kept.live

theorem moves_inv {num n : Nat} {allowed : Nat → SgItem α → Prop} {a b : SgStore α} (inv : a.Inv num)
    (moves : Moves allowed a n b) : b.Inv num := by
  induction moves with
  | refl => exact inv
  | tail _ move _ ih => exact move_inv ih move

theorem move_frame {starts index other : Nat} {s next : SgStore α} (move : Move s starts index next)
    (ne : other ≠ index) :
    next.items other = s.items other ∧ next.pool.genCtrs other = s.pool.genCtrs other := by
  cases move with
  | alloc _ rest queue =>
      exact ⟨by simp [SgStore.allocAt, SgStore.put, Function.update_of_ne ne], alloc_ctr_other s rest ne⟩
  | free _ pos inside used => exact ⟨by simp [SgStore.freeAt, SgStore.put, Function.update_of_ne ne], rfl⟩
  | put _ item pos inside used same live => exact ⟨by simp [SgStore.put, Function.update_of_ne ne], rfl⟩

theorem moves_frame {n other : Nat} {allowed : Nat → SgItem α → Prop} {a b : SgStore α}
    (moves : Moves allowed a n b) (apart : ∀ item, ¬ allowed other item) :
    b.items other = a.items other ∧ b.pool.genCtrs other = a.pool.genCtrs other := by
  induction moves with
  | refl => exact ⟨rfl, rfl⟩
  | @tail _ _ _ _ index _ move ok ih =>
      have away : other ≠ index := by
        intro same
        subst same
        exact apart _ ok
      have ne := move_frame move away
      exact ⟨ne.1.trans ih.1, ne.2.trans ih.2⟩

-- What every item satisfies is kept when it is left, and when it is satisfied by what may be written.
theorem moves_items {n : Nat} {allowed : Nat → SgItem α → Prop} {a b : SgStore α} {holds : SgItem α → Prop}
    (moves : Moves allowed a n b) (written : ∀ index item, allowed index item → holds item)
    (before : ∀ index, holds (a.items index)) : ∀ index, holds (b.items index) := by
  induction moves with
  | refl => exact before
  | @tail _ _ _ _ index _ move ok ih =>
      intro other
      by_cases same : other = index
      · subst same
        exact written _ _ ok
      · rw [(move_frame move same).1]
        exact ih other

-- What an id that names a resource says about it.
structure SgStore.Found (s : SgStore α) (id : UInt32) (index : Nat) : Prop where
  named : index = slotIndexOf id
  pos : 0 < index
  inside : index < s.pool.size
  id : (s.slot index).id = id
  used : s.Used index

theorem lookup_zero (s : SgStore α) : s.lookup 0 = some none := rfl

theorem item_at_in_range (s : SgStore α) {id : UInt32} (pos : 0 < slotIndexOf id)
    (inside : slotIndexOf id < s.pool.size) : s.itemAt id = some (slotIndexOf id) := by
  have named : id ≠ 0 := by
    intro zero
    subst zero
    simp [slotIndexOf] at pos
  have index : slotIndexOf id ≠ 0 := by omega
  rw [SgStore.itemAt, assert_bind named, sgSlotIndex, assert_bind index]
  simp only [pure_bind, assert_bind (show 0 < slotIndexOf id ∧ slotIndexOf id < s.pool.size from ⟨pos, inside⟩)]
  rfl

theorem lookup_in_range (s : SgStore α) {id : UInt32} (pos : 0 < slotIndexOf id)
    (inside : slotIndexOf id < s.pool.size) :
    s.lookup id = some (if (s.slot (slotIndexOf id)).id = id then some (slotIndexOf id) else none) := by
  have named : id ≠ 0 := by
    intro zero
    subst zero
    simp [slotIndexOf] at pos
  rw [SgStore.lookup, if_pos named, item_at_in_range s pos inside]
  rfl

theorem lookup_found {num : Nat} {s : SgStore α} (inv : s.Inv num) {id : UInt32} {index : Nat}
    (found : s.lookup id = some (some index)) : s.Found id index := by
  by_cases zero : id = 0
  · subst zero
    rw [lookup_zero] at found
    cases found
  · by_cases range : 0 < slotIndexOf id ∧ slotIndexOf id < s.pool.size
    · rw [lookup_in_range s range.1 range.2] at found
      by_cases same : (s.slot (slotIndexOf id)).id = id
      · rw [if_pos same] at found
        cases found
        have size := inv.size
        refine ⟨rfl, range.1, range.2, same, inv.used _ range.1 (by omega) ?_⟩
        intro queued
        rw [(inv.free _ queued).2.2] at same
        exact zero same.symm
      · rw [if_neg same] at found
        cases found
    · have failing : s.lookup id = none := by
        simp only [SgStore.lookup, SgStore.itemAt, sgSlotIndex, sokolAssert, if_pos zero]
        by_cases index : slotIndexOf id = 0
        · simp [index]
        · simp [index, range]
      rw [failing] at found
      cases found

theorem found_lookup {s : SgStore α} {id : UInt32} {index : Nat} (found : s.Found id index) :
    s.lookup id = some (some index) := by
  have eq := found.named
  subst eq
  rw [lookup_in_range s found.pos found.inside, if_pos found.id]

-- A resource is still found when its slot keeps its id.
theorem found_of_slot {num : Nat} {s next : SgStore α} {id : UInt32} {index : Nat} (before : s.Inv num)
    (inv : next.Inv num) (found : s.Found id index) (same : (next.slot index).id = (s.slot index).id) :
    next.Found id index := by
  have eq := found.named
  subst eq
  have sizes := before.size
  have sizes' := inv.size
  have inside := found.inside
  refine lookup_found inv ?_
  rw [lookup_in_range next found.pos (by omega), same, if_pos found.id]

theorem alloc_found {num : Nat} {s : SgStore α} (inv : s.Inv num) {index : Nat} {rest : List Nat}
    (queue : s.pool.freeQueue = index :: rest) :
    (s.allocAt index rest).Found (slotId (s.pool.genCtrs index + 1) index) index := by
  obtain ⟨pos, le, -⟩ := inv.free index (by simp [queue])
  have small := inv.small
  have sizes := inv.size
  refine ⟨(slot_index_of_slot_id _ (by omega)).symm, pos, ?_, ?_, alloc_used_self _ _ _⟩
  · change index < s.pool.size
    omega
  · simp [SgStore.allocAt]

theorem alloc_exhausted {s : SgStore α} (queue : s.pool.freeQueue = []) : s.alloc = some (0, s) := by
  simp [SgStore.alloc, sgPoolAllocIndex, queue]

theorem alloc_next {num : Nat} {s : SgStore α} (inv : s.Inv num) {index : Nat} {rest : List Nat}
    (queue : s.pool.freeQueue = index :: rest) :
    s.alloc = some (slotId (s.pool.genCtrs index + 1) index, s.allocAt index rest) := by
  obtain ⟨pos, le, blank⟩ := inv.free index (by simp [queue])
  have range : 0 < index ∧ index < s.pool.size := ⟨pos, by rw [inv.size]; omega⟩
  have named : index ≠ 0 := by omega
  simp only [SgStore.alloc, sgPoolAllocIndex, queue, sgSlotAlloc, assert_bind range]
  simp [named, blank, sokolAssert, range, SgStore.allocAt]

theorem dealloc_used {num : Nat} {s : SgStore α} (inv : s.Inv num) {index : Nat} (pos : 0 < index)
    (inside : index < s.pool.size) (used : s.Used index) (state : (s.slot index).state = .alloc) :
    s.dealloc index = some (s.freeAt index) := by
  have size := inv.size
  have small : index < 65536 := by
    have bound := inv.small
    omega
  have named : (s.slot index).id ≠ 0 := by
    rw [used.id]
    exact slot_id_ne_zero _ pos small
  have back : slotIndexOf (s.slot index).id = index := by
    rw [used.id]
    exact slot_index_of_slot_id _ small
  have room := queue_length_lt inv pos (by omega) used
  simp only [SgStore.dealloc, sgSlotIndex, sgPoolFreeIndex, back]
  rw [assert_bind ⟨state, named⟩, assert_bind (show index ≠ 0 by omega)]
  simp [sokolAssert, pos, inside, used_not_free inv used, show s.pool.freeQueue.length < s.pool.size by omega,
    show s.pool.freeQueue.length + 1 ≤ s.pool.size - 1 by omega, SgStore.freeAt]

theorem uninit_used [Inhabited α] {s : SgStore α} {index : Nat}
    (state : (s.slot index).state = .valid ∨ (s.slot index).state = .failed) :
    s.uninit index = some (s.put index ⟨{ s.slot index with state := .alloc }, default⟩) := by
  rw [SgStore.uninit, assert_bind state]
  rfl

end WakeAlpha.Gfx
