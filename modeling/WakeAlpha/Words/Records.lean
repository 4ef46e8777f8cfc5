import Mathlib.Data.List.Basic

set_option autoImplicit false

namespace WakeAlpha.Words

variable {α β : Type}

def sliceAt (bytes : List α) (start size : Nat) : Option (List α) :=
  if start + size ≤ bytes.length then some ((bytes.drop start).take size) else none

theorem slice_middle (before middle after : List α) {start size : Nat} (fits : start + size ≤ middle.length) :
    sliceAt (before ++ middle ++ after) (before.length + start) size = sliceAt middle start size := by
  have room : before.length + start + size ≤ (before ++ middle ++ after).length := by
    simp only [List.length_append]
    omega
  rw [sliceAt, sliceAt, if_pos room, if_pos fits, List.append_assoc, List.drop_length_add_append,
    List.drop_append_of_le_length (by omega), List.take_append_of_le_length (by rw [List.length_drop]; omega)]

theorem slice_whole (before middle after : List α) :
    sliceAt (before ++ middle ++ after) before.length middle.length = some middle := by
  have whole := slice_middle before middle after (show 0 + middle.length ≤ middle.length by omega)
  rw [Nat.add_zero] at whole
  rw [whole, sliceAt, if_pos (by omega), List.drop_zero, List.take_length]

theorem records_length {encode : β → List α} {size : Nat} (fixed : ∀ record, (encode record).length = size)
    (records : List β) : (records.flatMap encode).length = records.length * size := by
  induction records with
  | nil => simp
  | cons record rest ih => simp only [List.flatMap_cons, List.length_append, List.length_cons, fixed, ih, Nat.succ_mul]; omega

-- Records of one size that lie one after the other are found at the multiples of their size.
theorem record_at {encode : β → List α} {size : Nat} (fixed : ∀ record, (encode record).length = size)
    {records : List β} {i : Nat} {record : β} (here : records[i]? = some record) :
    sliceAt (records.flatMap encode) (i * size) size = some (encode record) := by
  obtain ⟨bound, got⟩ := List.getElem?_eq_some_iff.mp here
  have split : records = records.take i ++ [record] ++ records.drop (i + 1) := by
    rw [List.append_assoc, List.singleton_append, ← got, ← List.drop_eq_getElem_cons bound, List.take_append_drop]
  have start : i * size = ((records.take i).flatMap encode).length := by
    rw [records_length fixed, List.length_take, Nat.min_eq_left (Nat.le_of_lt bound)]
  have whole := slice_whole ((records.take i).flatMap encode) (encode record) ((records.drop (i + 1)).flatMap encode)
  rw [← start, fixed] at whole
  rw [← whole]
  congr 1
  conv_lhs => rw [split]
  simp only [List.flatMap_append, List.flatMap_cons, List.flatMap_nil, List.append_nil]

theorem record_within {encode : β → List α} {size : Nat} (fixed : ∀ record, (encode record).length = size)
    {records : List β} {i : Nat} {record : β} (before after : List α) (here : records[i]? = some record) :
    sliceAt (before ++ records.flatMap encode ++ after) (before.length + i * size) size = some (encode record) := by
  obtain ⟨bound, -⟩ := List.getElem?_eq_some_iff.mp here
  have fits : i * size + size ≤ (records.flatMap encode).length := by
    rw [records_length fixed, ← Nat.succ_mul]
    exact Nat.mul_le_mul_right size bound
  rw [slice_middle before _ after fits, record_at fixed here]

end WakeAlpha.Words
