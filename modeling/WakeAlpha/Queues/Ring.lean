import Mathlib.Logic.Function.Basic

set_option autoImplicit false

namespace WakeAlpha.Queues

variable {α : Type} {slots : Nat}

-- A ring buffer: head is the next slot to write, tail the next to read, and one slot stays free.
structure RingBuffer (α : Type) where
  head : Nat
  tail : Nat
  buf : Nat → α

def RingBuffer.empty (buf : Nat → α) : RingBuffer α := ⟨0, 0, buf⟩

-- The steps that lead from the slot tail to the slot head.
def span (slots head tail : Nat) : Nat := if tail ≤ head then head - tail else head + slots - tail

def RingBuffer.count (slots : Nat) (r : RingBuffer α) : Nat := span slots r.head r.tail

def RingBuffer.full (slots : Nat) (r : RingBuffer α) : Bool := decide ((r.head + 1) % slots = r.tail)

def RingBuffer.push (slots : Nat) (r : RingBuffer α) (x : α) : RingBuffer α :=
  ⟨(r.head + 1) % slots, r.tail, Function.update r.buf r.head x⟩

def RingBuffer.pop (slots : Nat) (r : RingBuffer α) : α × RingBuffer α := (r.buf r.tail, { r with tail := (r.tail + 1) % slots })

-- The queue that the ring stands for, oldest first.
def RingBuffer.contents (slots : Nat) (r : RingBuffer α) : List α :=
  (List.range (r.count slots)).map fun i => r.buf ((r.tail + i) % slots)

structure RingBuffer.Inv (slots : Nat) (r : RingBuffer α) : Prop where
  head : r.head < slots
  tail : r.tail < slots

theorem wrap_eq {i : Nat} (bound : i < 2 * slots) : i % slots = if i < slots then i else i - slots := by
  by_cases small : i < slots
  · rw [if_pos small, Nat.mod_eq_of_lt small]
  · rw [if_neg small, Nat.mod_eq_sub_mod (by omega), Nat.mod_eq_of_lt (by omega)]

theorem contents_length (slots : Nat) (r : RingBuffer α) : (r.contents slots).length = r.count slots := by
  rw [RingBuffer.contents, List.length_map, List.length_range]

theorem empty_ring_inv (some_ : 0 < slots) (buf : Nat → α) : (RingBuffer.empty buf).Inv slots := ⟨some_, some_⟩

variable {r : RingBuffer α}

theorem count_lt (inv : r.Inv slots) : r.count slots < slots := by
  have head := inv.head
  have tail := inv.tail
  rw [RingBuffer.count, span]
  split <;> omega

theorem count_zero_iff (inv : r.Inv slots) : r.count slots = 0 ↔ r.head = r.tail := by
  have head := inv.head
  have tail := inv.tail
  rw [RingBuffer.count, span]
  split <;> omega

theorem full_iff (inv : r.Inv slots) : r.full slots = true ↔ r.count slots + 1 = slots := by
  have head := inv.head
  have tail := inv.tail
  rw [RingBuffer.full, decide_eq_true_eq, wrap_eq (by omega), RingBuffer.count, span]
  split <;> split <;> omega

theorem push_inv (inv : r.Inv slots) (x : α) : (r.push slots x).Inv slots :=
  ⟨Nat.mod_lt _ (Nat.zero_lt_of_lt inv.head), inv.tail⟩

theorem pop_inv (inv : r.Inv slots) : (r.pop slots).2.Inv slots :=
  ⟨inv.head, Nat.mod_lt _ (Nat.zero_lt_of_lt inv.tail)⟩

theorem push_count (inv : r.Inv slots) (room : r.full slots = false) (x : α) :
    (r.push slots x).count slots = r.count slots + 1 := by
  have head := inv.head
  have tail := inv.tail
  have free : ¬ r.count slots + 1 = slots := by
    rw [← full_iff inv, room]
    exact Bool.false_ne_true
  change span slots ((r.head + 1) % slots) r.tail = span slots r.head r.tail + 1
  rw [wrap_eq (by omega)]
  unfold RingBuffer.count at free
  unfold span at free ⊢
  split at free <;> split <;> split <;> omega

theorem pop_count (inv : r.Inv slots) (some_ : r.count slots ≠ 0) :
    (r.pop slots).2.count slots + 1 = r.count slots := by
  have head := inv.head
  have tail := inv.tail
  change span slots r.head ((r.tail + 1) % slots) + 1 = span slots r.head r.tail
  rw [wrap_eq (by omega)]
  unfold RingBuffer.count at some_
  unfold span at some_ ⊢
  split at some_ <;> split <;> split <;> omega

-- The slot that is written is none of those that are read.
theorem push_contents (inv : r.Inv slots) (room : r.full slots = false) (x : α) :
    (r.push slots x).contents slots = r.contents slots ++ [x] := by
  have head := inv.head
  have tail := inv.tail
  have bound := count_lt inv
  rw [RingBuffer.contents, push_count inv room, List.range_succ, List.map_append, List.map_singleton, RingBuffer.contents]
  congr 1
  · apply List.map_congr_left
    intro i member
    rw [List.mem_range] at member
    apply Function.update_of_ne
    change (r.tail + i) % slots ≠ r.head
    rw [wrap_eq (by omega)]
    unfold RingBuffer.count span at member
    split at member <;> split <;> omega
  · have last : (r.tail + r.count slots) % slots = r.head := by
      rw [wrap_eq (by omega)]
      unfold RingBuffer.count span
      split <;> split <;> omega
    change [Function.update r.buf r.head x ((r.tail + r.count slots) % slots)] = [x]
    rw [last, Function.update_self]

theorem pop_contents (inv : r.Inv slots) (some_ : r.count slots ≠ 0) :
    r.contents slots = (r.pop slots).1 :: (r.pop slots).2.contents slots := by
  have tail := inv.tail
  have bound := count_lt inv
  rw [RingBuffer.contents, ← pop_count inv some_, List.range_succ_eq_map, List.map_cons, List.map_map, RingBuffer.contents]
  congr 1
  · rw [Nat.add_zero, Nat.mod_eq_of_lt tail]
    rfl
  · apply List.map_congr_left
    intro i _
    change r.buf ((r.tail + (i + 1)) % slots) = r.buf (((r.tail + 1) % slots + i) % slots)
    rw [Nat.mod_add_mod, Nat.add_assoc, Nat.add_comm 1 i]

end WakeAlpha.Queues
