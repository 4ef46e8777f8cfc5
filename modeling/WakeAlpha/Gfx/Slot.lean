import Mathlib.Algebra.Group.Int.Defs
import Mathlib.Algebra.Group.Nat.Defs
import Mathlib.Logic.Function.Basic

set_option autoImplicit false

namespace WakeAlpha.Gfx

-- none is a SOKOL_ASSERT that fails.
abbrev Checked (α : Type) := Option α

def sokolAssert (condition : Prop) [Decidable condition] : Checked Unit :=
  if condition then some () else none

theorem assert_bind {α : Type} {condition : Prop} [Decidable condition] (holds : condition)
    (next : Unit → Checked α) : (sokolAssert condition >>= next) = next () := by
  simp [sokolAssert, holds]

inductive SgResourceState where
  | initial
  | alloc
  | valid
  | failed
  | invalid
deriving DecidableEq, Repr

structure SgSlot where
  id : UInt32 := 0
  state : SgResourceState := .initial
deriving DecidableEq, Repr

def sgSlotShift : UInt32 := 16
def sgSlotMask : UInt32 := 0xFFFF
def sgMaxPoolSize : Nat := 65536

-- free_queue holds what lies below queue_top, the top of the stack first; gen_ctrs is read at
-- slot indices alone.
structure SgPool where
  size : Nat
  freeQueue : List Nat
  genCtrs : Nat → UInt32

def sgInitPool (num : Nat) : SgPool := ⟨num + 1, List.range' 1 num, fun _ => 0⟩

-- The index 0 says that the pool is exhausted.
def sgPoolAllocIndex (pool : SgPool) : Checked (Nat × SgPool) :=
  match pool.freeQueue with
  | slotIndex :: rest => do
      sokolAssert (0 < slotIndex ∧ slotIndex < pool.size)
      return (slotIndex, { pool with freeQueue := rest })
  | [] => return (0, pool)

def sgPoolFreeIndex (pool : SgPool) (slotIndex : Nat) : Checked SgPool := do
  sokolAssert (0 < slotIndex ∧ slotIndex < pool.size)
  sokolAssert (pool.freeQueue.length < pool.size)
  sokolAssert (slotIndex ∉ pool.freeQueue)
  let freed := { pool with freeQueue := slotIndex :: pool.freeQueue }
  sokolAssert (freed.freeQueue.length ≤ pool.size - 1)
  return freed

def slotId (ctr : UInt32) (slotIndex : Nat) : UInt32 :=
  (ctr <<< sgSlotShift) ||| (UInt32.ofNat slotIndex &&& sgSlotMask)

-- The generation counter overflows without a check, as the FIXME in the source says.
def sgSlotAlloc (pool : SgPool) (slot : SgSlot) (slotIndex : Nat) : Checked (UInt32 × SgPool × SgSlot) := do
  sokolAssert (0 < slotIndex ∧ slotIndex < pool.size)
  sokolAssert (slot.id = 0)
  sokolAssert (slot.state = .initial)
  let ctr := pool.genCtrs slotIndex + 1
  let id := slotId ctr slotIndex
  return (id, { pool with genCtrs := Function.update pool.genCtrs slotIndex ctr }, ⟨id, .alloc⟩)

def slotIndexOf (id : UInt32) : Nat := (id &&& sgSlotMask).toNat

def sgSlotIndex (id : UInt32) : Checked Nat := do
  sokolAssert (slotIndexOf id ≠ 0)
  return slotIndexOf id

theorem slot_index_of_eq (id : UInt32) : slotIndexOf id = id.toNat % 65536 := by
  simp only [slotIndexOf, sgSlotMask, UInt32.toNat_and]
  exact Nat.and_two_pow_sub_one_eq_mod id.toNat 16

theorem slot_id_toNat (ctr : UInt32) (slotIndex : Nat) :
    (slotId ctr slotIndex).toNat = (ctr.toNat % 65536) * 65536 + slotIndex % 65536 := by
  have low : (UInt32.ofNat slotIndex &&& sgSlotMask).toNat = slotIndex % 65536 := by
    have masked := slot_index_of_eq (UInt32.ofNat slotIndex)
    simp only [slotIndexOf] at masked
    rw [masked, UInt32.toNat_ofNat']
    omega
  have high : (ctr <<< sgSlotShift).toNat = (ctr.toNat % 65536) * 2 ^ 16 := by
    simp only [sgSlotShift, UInt32.toNat_shiftLeft, Nat.shiftLeft_eq]
    have shift : (16 : UInt32).toNat % 32 = 16 := rfl
    rw [shift]
    omega
  rw [slotId, UInt32.toNat_or, low, high, ← Nat.shiftLeft_eq,
    ← Nat.shiftLeft_add_eq_or_of_lt (by omega), Nat.shiftLeft_eq]

theorem slot_index_of_slot_id {slotIndex : Nat} (ctr : UInt32) (small : slotIndex < 65536) :
    slotIndexOf (slotId ctr slotIndex) = slotIndex := by
  rw [slot_index_of_eq, slot_id_toNat]
  omega

theorem slot_id_ne_zero {slotIndex : Nat} (ctr : UInt32) (pos : 0 < slotIndex) (small : slotIndex < 65536) :
    slotId ctr slotIndex ≠ 0 := by
  intro zero
  have back := slot_index_of_slot_id ctr small
  rw [zero] at back
  simp [slotIndexOf] at back
  omega

-- Two ids are equal when they name the same slot in lives whose numbers agree modulo 65536.
theorem slot_id_eq_iff {slotIndex other : Nat} (ctr otherCtr : UInt32) (small : slotIndex < 65536)
    (otherSmall : other < 65536) :
    slotId ctr slotIndex = slotId otherCtr other ↔
      slotIndex = other ∧ ctr.toNat % 65536 = otherCtr.toNat % 65536 := by
  rw [← UInt32.toNat_inj, slot_id_toNat, slot_id_toNat]
  omega

end WakeAlpha.Gfx
