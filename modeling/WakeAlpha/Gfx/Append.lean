import WakeAlpha.Gfx.Lifecycle
import WakeAlpha.Words.RoundUp

set_option autoImplicit false

namespace WakeAlpha.Gfx

open WakeAlpha.Words

theorem cast_size_of_nonneg {value : Int} (nonneg : 0 ≤ value) (small : value < 2 ^ 64) :
    castSize value = value.toNat := by
  rw [castSize, BitVec.toNat_ofInt]
  congr 1
  exact Int.emod_eq_of_lt nonneg small

theorem roundup_u64_four {size : Nat} (small : size + 3 < 2 ^ 64) :
    (sgRoundupU64 (.ofNat size) 4).toNat = (size + 3) / 4 * 4 := by
  have word : (BitVec.ofNat 64 size).toNat = size := by
    rw [BitVec.toNat_ofNat]
    omega
  have four : (4#64).toNat = 2 ^ 2 := rfl
  have rounded : (roundUp (BitVec.ofNat 64 size) 4#64).toNat = _ := round_up_toNat four (by rw [word]; omega)
  rw [word] at rounded
  exact rounded

theorem roundup_four {size : Nat} (small : size + 3 < 2 ^ 31) :
    (sgRoundup (.ofNat 32 size) 4).toInt = (((size + 3) / 4 * 4 : Nat) : Int) := by
  have word : (BitVec.ofNat 32 size).toNat = size := by
    rw [BitVec.toNat_ofNat]
    omega
  have four : (4#32).toNat = 2 ^ 2 := rfl
  have rounded : (roundUp (BitVec.ofNat 32 size) 4#32).toNat = _ := round_up_toNat four (by rw [word]; omega)
  rw [word] at rounded
  have value : (sgRoundup (.ofNat 32 size) 4).toNat = (size + 3) / 4 * 4 := rounded
  rw [BitVec.toInt_eq_toNat_of_lt (by rw [value]; omega), value]

theorem multiple_four {value : Nat} (small : value < 2 ^ 64) :
    sgMultipleU64 (.ofNat value) 4 = true ↔ 4 ∣ value := by
  have word : (BitVec.ofNat 64 value).toNat = value := by
    rw [BitVec.toNat_ofNat]
    omega
  have four : (4#64).toNat = 2 ^ 2 := rfl
  have multiple := multiple_iff (BitVec.ofNat 64 value) four
  rw [word] at multiple
  rw [sgMultipleU64, decide_eq_true_iff, ← UInt64.toBitVec_inj]
  exact multiple

-- The buffers whose size leaves room for the round-up of an append.
def SgBufferCommon.Modest (cmn : SgBufferCommon) : Prop := 0 ≤ cmn.size ∧ cmn.size ≤ 2 ^ 31 - 4

-- The append cursor stands at a multiple of 4, at most 3 bytes past the end.
structure SgBufferCommon.Sound (cmn : SgBufferCommon) : Prop where
  start : 0 ≤ cmn.appendPos
  aligned : 4 ∣ cmn.appendPos
  within : cmn.appendPos < cmn.size + 4

-- No object in memory has 2^63 bytes.
def SgRange.Real (data : SgRange) : Prop := data.size < 2 ^ 63

def SgBufferCommon.tested (cmn : SgBufferCommon) (frameIndex : UInt32) (size : Nat) : SgBufferCommon :=
  (cmn.rewind frameIndex).testOverflow size

def SgBuffer.append (buffer : SgBuffer) (frameIndex : UInt32) (data : SgRange) (reply : MapReply) : SgBuffer :=
  let tested := buffer.cmn.tested frameIndex data.size
  ⟨{ tested with
      appendPos := tested.appendPos + castInt (sgRoundupU64 (.ofNat data.size) 4).toNat
      appendFrameIndex := frameIndex },
    d3d11AppendBuffer data (decide (buffer.cmn.appendFrameIndex ≠ frameIndex)) tested.appendPos reply buffer.memory⟩

section Common

variable (cmn : SgBufferCommon) (frameIndex : UInt32) (size : Nat)

@[simp] theorem tested_size : (cmn.tested frameIndex size).size = cmn.size := by
  unfold SgBufferCommon.tested SgBufferCommon.testOverflow SgBufferCommon.rewind
  split <;> split <;> rfl

@[simp] theorem tested_usage : (cmn.tested frameIndex size).usage = cmn.usage := by
  unfold SgBufferCommon.tested SgBufferCommon.testOverflow SgBufferCommon.rewind
  split <;> split <;> rfl

@[simp] theorem tested_update : (cmn.tested frameIndex size).updateFrameIndex = cmn.updateFrameIndex := by
  unfold SgBufferCommon.tested SgBufferCommon.testOverflow SgBufferCommon.rewind
  split <;> split <;> rfl

@[simp] theorem tested_frame : (cmn.tested frameIndex size).appendFrameIndex = cmn.appendFrameIndex := by
  unfold SgBufferCommon.tested SgBufferCommon.testOverflow SgBufferCommon.rewind
  split <;> split <;> rfl

@[simp] theorem tested_pos : (cmn.tested frameIndex size).appendPos = (cmn.rewind frameIndex).appendPos := by
  unfold SgBufferCommon.tested SgBufferCommon.testOverflow
  split <;> rfl

theorem rewind_same {cmn : SgBufferCommon} {frameIndex : UInt32} (current : cmn.appendFrameIndex = frameIndex) :
    cmn.rewind frameIndex = cmn := by
  simp [SgBufferCommon.rewind, current]

@[simp] theorem rewind_size : (cmn.rewind frameIndex).size = cmn.size := by
  unfold SgBufferCommon.rewind
  split <;> rfl

end Common

section Cursor

variable {cmn : SgBufferCommon} {frameIndex : UInt32} {size : Nat}

theorem rewind_sound (modest : cmn.Modest) (sound : cmn.Sound) : (cmn.rewind frameIndex).Sound := by
  have positive := modest.1
  by_cases current : cmn.appendFrameIndex = frameIndex
  · rw [rewind_same current]
    exact sound
  · simp only [SgBufferCommon.rewind, ne_eq, current, not_false_eq_true, if_true]
    exact ⟨Int.le_refl _, Int.dvd_zero _, by dsimp only; omega⟩

theorem tested_sound (modest : cmn.Modest) (sound : cmn.Sound) : (cmn.tested frameIndex size).Sound := by
  have rewound : (cmn.rewind frameIndex).Sound := rewind_sound modest sound
  refine ⟨?_, ?_, ?_⟩
  · rw [tested_pos]
    exact rewound.start
  · rw [tested_pos]
    exact rewound.aligned
  · rw [tested_pos, tested_size, ← rewind_size cmn frameIndex]
    exact rewound.within

-- The comparison in size_t is the one of the numbers.
theorem overflow_iff (modest : cmn.Modest) (sound : cmn.Sound) (real : size < 2 ^ 63) :
    (castSize cmn.appendPos + size) % 2 ^ 64 > castSize cmn.size ↔ cmn.size < cmn.appendPos + size := by
  have start := sound.start
  have within := sound.within
  obtain ⟨nonneg, small⟩ := modest
  rw [cast_size_of_nonneg start (by omega), cast_size_of_nonneg nonneg (by omega)]
  omega

theorem tested_quiet_iff (modest : cmn.Modest) (sound : cmn.Sound) (real : size < 2 ^ 63) :
    (cmn.tested frameIndex size).appendOverflow = false ↔
      (cmn.rewind frameIndex).appendOverflow = false ∧ (cmn.rewind frameIndex).appendPos + size ≤ cmn.size := by
  have rewound : (cmn.rewind frameIndex).Sound := rewind_sound modest sound
  have still : (cmn.rewind frameIndex).Modest := by
    unfold SgBufferCommon.Modest
    rw [rewind_size]
    exact modest
  have past := overflow_iff still rewound real
  rw [rewind_size] at past
  unfold SgBufferCommon.tested SgBufferCommon.testOverflow
  rw [rewind_size]
  by_cases full : (castSize (cmn.rewind frameIndex).appendPos + size) % 2 ^ 64 > castSize cmn.size
  · rw [if_pos full]
    have number := past.mp full
    constructor
    · intro set
      cases set
    · intro ⟨_, le⟩
      omega
  · rw [if_neg full]
    have number := fun lt => full (past.mpr lt)
    constructor
    · exact fun quiet => ⟨quiet, by omega⟩
    · exact fun both => both.1

-- What is appended ends inside of the buffer, and the next append starts after it.
theorem append_sound {buffer : SgBuffer} {data : SgRange} {reply : MapReply} (modest : buffer.cmn.Modest)
    (sound : buffer.cmn.Sound) (real : data.Real)
    (quiet : (buffer.cmn.tested frameIndex data.size).appendOverflow = false) :
    (buffer.append frameIndex data reply).cmn.Sound ∧
      (buffer.cmn.tested frameIndex data.size).appendPos + data.size ≤
        (buffer.append frameIndex data reply).cmn.appendPos := by
  have tested : (buffer.cmn.tested frameIndex data.size).Sound := tested_sound modest sound
  have start := tested.start
  have aligned := tested.aligned
  obtain ⟨-, fits⟩ := (tested_quiet_iff modest sound real).mp quiet
  rw [← tested_pos buffer.cmn frameIndex data.size] at fits
  obtain ⟨nonneg, small⟩ := modest
  have rounded : castInt (sgRoundupU64 (.ofNat data.size) 4).toNat = ((data.size + 3) / 4 * 4 : Nat) := by
    rw [roundup_u64_four (by omega), cast_int_of_small (by omega)]
  refine ⟨⟨?_, ?_, ?_⟩, ?_⟩
  · dsimp only [SgBuffer.append]
    rw [rounded]
    omega
  · dsimp only [SgBuffer.append]
    rw [rounded]
    omega
  · dsimp only [SgBuffer.append]
    rw [rounded, tested_size]
    omega
  · dsimp only [SgBuffer.append]
    rw [rounded]
    omega

end Cursor

section Step

variable {size : Kind → Nat} {s next final : SgState} {id : UInt32} {index : Nat} {data : SgRange} {reply : MapReply}
variable {pos : Int}

@[simp] theorem set_buffer_self (s : SgState) (index : Nat) (buffer : SgBuffer) :
    (s.setBuffer index buffer).buffer index = buffer := by
  simp [SgState.setBuffer, SgState.buffer]

theorem set_buffer_slot (s : SgState) (index : Nat) (buffer : SgBuffer) :
    ((s.setBuffer index buffer).store .buffer).slot index = (s.store .buffer).slot index := by
  simp [SgState.setBuffer]

-- When sg_append_buffer writes its data.
structure Writes (s : SgState) (index : Nat) (data : SgRange) : Prop where
  valid : ((s.store .buffer).slot index).state = .valid
  validated : sgValidateAppendBuffer s ((s.buffer index).cmn.tested s.frameIndex data.size) data = true
  quiet : ((s.buffer index).cmn.tested s.frameIndex data.size).appendOverflow = false
  some : 0 < data.size
  fresh : (s.buffer index).cmn.updateFrameIndex ≠ s.frameIndex

theorem append_result (inv : s.Inv size) (done : sgAppendBuffer id data reply s = some (pos, next)) :
    ((s.store .buffer).lookup id = some none ∧ pos = 0 ∧ next.store = s.store) ∨
      ∃ index, (s.store .buffer).Found id index ∧
        pos = ((s.buffer index).cmn.tested s.frameIndex data.size).appendPos ∧
        ((next.store .buffer).slot index = (s.store .buffer).slot index ∧
          ((Writes s index data ∧ next.buffer index = (s.buffer index).append s.frameIndex data reply) ∨
            (¬ Writes s index data ∧ next.buffer index =
              { s.buffer index with cmn := (s.buffer index).cmn.tested s.frameIndex data.size }))) := by
  obtain ⟨-, done⟩ := assert_some done
  obtain ⟨-, done⟩ := assert_some done
  obtain ⟨answer, looked, done⟩ := bind_some done
  cases answer with
  | none =>
      cases done
      exact Or.inl ⟨looked, rfl, rfl⟩
  | some index =>
      right
      obtain ⟨-, done⟩ := assert_some done
      refine ⟨index, lookup_found (inv .buffer) looked, ?_⟩
      dsimp only at done
      split at done
      · rename_i ready
        obtain ⟨fresh, done⟩ := assert_some done
        cases done
        have update := tested_update (s.buffer index).cmn s.frameIndex data.size
        refine ⟨rfl, set_buffer_slot _ _ _, Or.inl ⟨⟨ready.1, ready.2.1, ready.2.2.1, ready.2.2.2, ?_⟩, ?_⟩⟩
        · rw [← update]
          exact fresh
        · exact set_buffer_self _ _ _
      · rename_i refused
        cases done
        refine ⟨rfl, set_buffer_slot _ _ _, Or.inr ⟨fun writes => refused ?_, set_buffer_self _ _ _⟩⟩
        exact ⟨writes.valid, writes.validated, writes.quiet, writes.some⟩

theorem update_result (inv : s.Inv size) (done : sgUpdateBuffer id data reply s = some next) :
    next.store = s.store ∨
      ∃ index, (s.store .buffer).Found id index ∧ (s.buffer index).cmn.appendFrameIndex ≠ s.frameIndex ∧
        (next.store .buffer).slot index = (s.store .buffer).slot index ∧
        (next.buffer index).cmn = { (s.buffer index).cmn with updateFrameIndex := s.frameIndex } := by
  obtain ⟨-, done⟩ := assert_some done
  obtain ⟨-, done⟩ := assert_some done
  obtain ⟨answer, looked, done⟩ := bind_some done
  cases answer with
  | none =>
      cases done
      exact Or.inl rfl
  | some index =>
      dsimp only at done
      split at done
      · obtain ⟨-, done⟩ := assert_some done
        obtain ⟨-, done⟩ := assert_some done
        obtain ⟨apart, done⟩ := assert_some done
        cases done
        refine Or.inr ⟨index, lookup_found (inv .buffer) looked, apart, set_buffer_slot _ _ _, ?_⟩
        rw [set_buffer_self]
        rfl
      · cases done
        exact Or.inl rfl

-- In every reachable state the cursor of each valid buffer is sound.
def SgItem.Sound (item : SgItem SgBuffer) : Prop :=
  item.slot.state = .valid → item.body.cmn.Modest → item.body.cmn.Sound

def SgState.Sound (s : SgState) : Prop := ∀ index, SgItem.Sound ((s.store .buffer).items index)

theorem made_sound {body : SgBuffer} (made : @Body.Made .buffer body) (modest : body.cmn.Modest) :
    body.cmn.Sound := by
  obtain ⟨s, old, desc, reply, inits⟩ := made
  have positive := modest.1
  simp only [initBody, sgInitBuffer, pure, Option.some.injEq] at inits
  split at inits
  · obtain ⟨-, rfl⟩ := Prod.mk.injEq .. ▸ inits
    exact ⟨Int.le_refl _, Int.dvd_zero _, by change (0 : Int) < _; omega⟩
  · cases inits

-- The data of the appends among the calls.
def SgCall.Real : SgCall → Prop
  | .appendBuffer _ data _ => data.Real
  | _ => True

theorem other_item {call : SgCall} {other : Nat} (inv : s.Inv size) (done : sgStep s call = some next)
    (at_ : ∀ place item, call.mayTouch s .buffer place item → place = index) (ne : other ≠ index) :
    (next.store .buffer).items other = (s.store .buffer).items other := by
  obtain ⟨n, -, moves⟩ := step_moves inv done .buffer
  exact (moves_frame moves fun item touched => ne (at_ other item touched)).1

theorem step_sound {call : SgCall} (inv : s.Inv size) (sound : s.Sound) (real : call.Real)
    (done : sgStep s call = some next) : next.Sound := by
  -- the items a call may write are no buffers, or not valid, or new
  have quiet (plain : ∀ index item, call.mayTouch s .buffer index item → item.Plain) : next.Sound := by
    obtain ⟨n, -, moves⟩ := step_moves inv done .buffer
    have written (index : Nat) (item : SgItem SgBuffer) (touched : call.mayTouch s .buffer index item) : item.Sound :=
      fun valid modest => made_sound (plain index item touched valid) modest
    exact moves_items moves written sound
  cases call with
  | updateBuffer id data reply =>
      rcases update_result inv done with same | ⟨index, found, -, slot, cmn⟩
      · unfold SgState.Sound
        rw [same]
        exact sound
      · intro other
        by_cases eq : other = index
        · subst eq
          intro valid modest
          change ((next.store .buffer).slot other).state = .valid at valid
          change (next.buffer other).cmn.Modest at modest
          change (next.buffer other).cmn.Sound
          rw [slot] at valid
          rw [cmn] at modest ⊢
          have before := sound other valid modest
          exact ⟨before.start, before.aligned, before.within⟩
        · rw [other_item inv done (fun place item touched => touched.2.1.named.trans found.named.symm) eq]
          exact sound other
  | appendBuffer id data reply =>
      obtain ⟨⟨pos, appended⟩, appends, done'⟩ := bind_some done
      cases done'
      rcases append_result inv appends with ⟨-, -, same⟩ | ⟨index, found, -, slot, written⟩
      · unfold SgState.Sound
        rw [same]
        exact sound
      · intro other
        by_cases eq : other = index
        · subst eq
          intro valid modest
          change ((appended.store .buffer).slot other).state = .valid at valid
          change (appended.buffer other).cmn.Modest at modest
          change (appended.buffer other).cmn.Sound
          rw [slot] at valid
          rcases written with ⟨writes, buffer⟩ | ⟨-, buffer⟩
          · rw [buffer] at modest ⊢
            have before : (s.buffer other).cmn.Modest := by
              simpa [SgBufferCommon.Modest, SgBuffer.append] using modest
            exact (append_sound before (sound other valid before) real writes.quiet).1
          · rw [buffer] at modest ⊢
            have before : (s.buffer other).cmn.Modest := by
              simpa [SgBufferCommon.Modest] using modest
            exact tested_sound before (sound other valid before)
        · rw [other_item inv done (fun place item touched => touched.2.1.named.trans found.named.symm) eq]
          exact sound other
  | alloc _ | dealloc _ _ | init _ _ _ _ | uninit _ _ | fail _ _ | make _ _ _ | destroy _ _ =>
      exact quiet fun index item touched => touched.2.2
  | _ => exact quiet fun index item touched => touched.elim

theorem run_sound {calls : List SgCall} (inv : s.Inv size) (sound : s.Sound) (real : ∀ call ∈ calls, call.Real)
    (done : sgRun s calls = some final) : final.Sound := by
  induction calls generalizing s with
  | nil =>
      cases done
      exact sound
  | cons call rest ih =>
      obtain ⟨middle, step, done⟩ := run_cons_some done
      exact ih (step_inv inv step) (step_sound inv sound (real call (by simp)) step)
        (fun other member => real other (by simp [member])) done

theorem started_sound {desc : SgDesc} (started : Started desc s) : s.Sound := by
  intro index valid
  rw [(started.stores .buffer).2] at valid
  cases valid

-- A valid buffer that was appended to in this frame: what it holds below bound is memory.
structure Held (s : SgState) (id : UInt32) (index : Nat) (bound : Int) (memory : Nat → UInt8) : Prop where
  found : (s.store .buffer).Found id index
  valid : ((s.store .buffer).slot index).state = .valid
  current : (s.buffer index).cmn.appendFrameIndex = s.frameIndex
  modest : (s.buffer index).cmn.Modest
  past : bound ≤ (s.buffer index).cmn.appendPos
  bytes : ∀ offset : Nat, (offset : Int) < bound → (s.buffer index).memory offset = memory offset

-- The calls that neither end the frame nor take the buffer away.
def SgCall.Spares (id : UInt32) (call : SgCall) : Prop :=
  call ≠ .commit ∧ call ≠ .uninit .buffer id ∧ call ≠ .destroy .buffer id

-- The calls for a resource that is still to be initialized leave a valid one as it is.
theorem early_call_refused {call : SgCall} {k : Kind} (found : (s.store k).Found id index)
    (valid : ((s.store k).slot index).state = .valid)
    (early : call = .dealloc k id ∨ (∃ desc reply, call = .init k id desc reply) ∨ call = .fail k id)
    (done : sgStep s call = some next) : next.store = s.store := by
  have late : ¬ ((s.store k).slot index).state = .alloc := by
    rw [valid]
    decide
  rcases early with rfl | ⟨desc, reply, rfl⟩ | rfl
  · obtain ⟨-, done⟩ := assert_some done
    simp only [found_lookup found, Option.bind_eq_bind, Option.bind_some, if_neg late] at done
    cases done
    rfl
  · obtain ⟨-, done⟩ := assert_some done
    simp only [found_lookup found, Option.bind_eq_bind, Option.bind_some, if_neg late] at done
    cases done
    rfl
  · obtain ⟨-, done⟩ := assert_some done
    simp only [found_lookup found, Option.bind_eq_bind, Option.bind_some, if_neg late] at done
    cases done
    rfl

theorem append_memory_before {buffer : SgBuffer} {frameIndex : UInt32} {offset : Nat}
    (current : buffer.cmn.appendFrameIndex = frameIndex)
    (before : (offset : Int) < (buffer.cmn.tested frameIndex data.size).appendPos) :
    (buffer.append frameIndex data reply).memory offset = buffer.memory offset := by
  have outside (memory : Nat → UInt8) (bytes : List UInt8) :
      writeAt memory (buffer.cmn.tested frameIndex data.size).appendPos.toNat bytes offset = memory offset := by
    unfold writeAt
    rw [if_neg (by omega)]
  simp only [SgBuffer.append, d3d11AppendBuffer, current, ne_eq, not_true_eq_false, decide_false, Bool.false_eq_true,
    if_false]
  split
  · exact outside _ _
  · rfl

theorem append_memory_at {buffer : SgBuffer} {frameIndex : UInt32} {bytes : List UInt8} {i : Nat}
    (mapped : reply.mapped = true) (points : data.ptr = some bytes) (whole : data.size ≤ bytes.length)
    (within : i < data.size) :
    (buffer.append frameIndex data reply).memory
      ((buffer.cmn.tested frameIndex data.size).appendPos.toNat + i) = bytes.getD i 0 := by
  have length : (bytes.take data.size).length = data.size := by
    rw [List.length_take]
    omega
  simp only [SgBuffer.append, d3d11AppendBuffer, mapped, points, if_true, Option.getD_some, writeAt, length]
  rw [if_pos (by omega), Nat.add_sub_cancel_left]
  simp [List.getD, within]

theorem held_of_same {bound : Int} {memory : Nat → UInt8} (held : Held s id index bound memory)
    (found : (next.store .buffer).Found id index)
    (item : (next.store .buffer).items index = (s.store .buffer).items index)
    (frame : next.frameIndex = s.frameIndex) : Held next id index bound memory := by
  have slot : (next.store .buffer).slot index = (s.store .buffer).slot index := congrArg SgItem.slot item
  have buffer : next.buffer index = s.buffer index := congrArg SgItem.body item
  refine ⟨found, slot ▸ held.valid, ?_, buffer ▸ held.modest, buffer ▸ held.past, buffer ▸ held.bytes⟩
  rw [buffer, frame]
  exact held.current

theorem step_held {call : SgCall} {bound : Int} {memory : Nat → UInt8} (inv : s.Inv size) (sound : s.Sound)
    (held : Held s id index bound memory) (real : call.Real) (spares : call.Spares id)
    (done : sgStep s call = some next) : Held next id index bound memory := by
  have frame := step_frame_index inv done spares.1
  have same (store : next.store = s.store) : Held next id index bound memory := by
    refine held_of_same held ?_ (by rw [store]) frame
    rw [store]
    exact held.found
  by_cases named : call.names .buffer id
  · cases call with
    | dealloc k other =>
        obtain ⟨rfl, rfl⟩ := named
        exact same (early_call_refused held.found held.valid (Or.inl rfl) done)
    | init k other desc reply =>
        obtain ⟨rfl, rfl⟩ := named
        exact same (early_call_refused held.found held.valid (Or.inr (Or.inl ⟨desc, reply, rfl⟩)) done)
    | fail k other =>
        obtain ⟨rfl, rfl⟩ := named
        exact same (early_call_refused held.found held.valid (Or.inr (Or.inr rfl)) done)
    | uninit k other =>
        obtain ⟨rfl, rfl⟩ := named
        exact absurd rfl spares.2.1
    | destroy k other =>
        obtain ⟨rfl, rfl⟩ := named
        exact absurd rfl spares.2.2
    | updateBuffer other data reply =>
        obtain ⟨-, rfl⟩ := named
        rcases update_result inv done with store | ⟨place, found, apart, -, -⟩
        · exact same store
        · have eq := found.named.trans held.found.named.symm
          subst eq
          exact absurd held.current apart
    | appendBuffer other data reply =>
        obtain ⟨-, rfl⟩ := named
        have whole := step_inv inv done .buffer
        obtain ⟨⟨pos, appended⟩, appends, done'⟩ := bind_some done
        cases done'
        rcases append_result inv appends with ⟨missing, -, -⟩ | ⟨place, found, -, slot, written⟩
        · rw [found_lookup held.found] at missing
          cases missing
        · have eq := found.named.trans held.found.named.symm
          subst eq
          have still := found_of_slot (inv .buffer) whole held.found (congrArg SgSlot.id slot)
          have cursor := sound place held.valid held.modest
          have tested : ((s.buffer place).cmn.tested s.frameIndex data.size).appendPos =
              (s.buffer place).cmn.appendPos := by
            rw [tested_pos, rewind_same held.current]
          have past := held.past
          rcases written with ⟨writes, buffer⟩ | ⟨-, buffer⟩
          · have grown : _ ≤ ((s.buffer place).append s.frameIndex data reply).cmn.appendPos :=
              (append_sound held.modest cursor real writes.quiet).2
            refine ⟨still, slot ▸ held.valid, ?_, ?_, ?_, ?_⟩
            · rw [buffer, frame]
              rfl
            · rw [buffer]
              simpa [SgBufferCommon.Modest, SgBuffer.append] using held.modest
            · rw [buffer]
              omega
            · intro offset before
              rw [buffer, append_memory_before held.current (by omega)]
              exact held.bytes offset before
          · refine ⟨still, slot ▸ held.valid, ?_, ?_, ?_, ?_⟩
            · rw [buffer, frame]
              simpa using held.current
            · rw [buffer]
              simpa [SgBufferCommon.Modest] using held.modest
            · rw [buffer]
              dsimp only
              omega
            · rw [buffer]
              exact held.bytes
    | _ => exact named.elim
  · obtain ⟨item, found⟩ := step_untouched inv held.found named done
    exact held_of_same held found item frame

theorem run_held {calls : List SgCall} {bound : Int} {memory : Nat → UInt8} (inv : s.Inv size) (sound : s.Sound)
    (held : Held s id index bound memory) (real : ∀ call ∈ calls, call.Real)
    (spares : ∀ call ∈ calls, call.Spares id) (done : sgRun s calls = some final) :
    Held final id index bound memory := by
  induction calls generalizing s with
  | nil =>
      cases done
      exact held
  | cons call rest ih =>
      obtain ⟨middle, step, done⟩ := run_cons_some done
      have now := real call (by simp)
      exact ih (step_inv inv step) (step_sound inv sound now step)
        (step_held inv sound held now (spares call (by simp)) step)
        (fun other member => real other (by simp [member])) (fun other member => spares other (by simp [member])) done

-- A state that a program reaches, with appends of data that can exist.
def SgState.Reached (s : SgState) : Prop :=
  ∃ desc start calls, sgSetup desc = some start ∧ (∀ call ∈ calls, SgCall.Real call) ∧ sgRun start calls = some s

structure Whole (size : Kind → Nat) (s : SgState) : Prop where
  inv : s.Inv size
  valid : s.valid = true
  sound : s.Sound

theorem reached_whole (reached : s.Reached) : ∃ size, Whole size s := by
  obtain ⟨desc, start, calls, started, real, done⟩ := reached
  have begun := setup_result started
  have inv := started_inv begun
  exact ⟨desc.capacity, run_inv inv done, (run_valid inv done).trans begun.valid,
    run_sound inv (started_sound begun) real done⟩

-- A buffer an append may write to: dynamic, not updated in this frame, and not overflown in it.
structure Appendable (s : SgState) (id : UInt32) (index : Nat) : Prop where
  found : (s.store .buffer).lookup id = some (some index)
  valid : ((s.store .buffer).slot index).state = .valid
  usage : (s.buffer index).cmn.usage ≠ .immutable
  fresh : (s.buffer index).cmn.updateFrameIndex ≠ s.frameIndex
  quiet : (s.buffer index).cmn.appendFrameIndex = s.frameIndex → (s.buffer index).cmn.appendOverflow = false
  modest : (s.buffer index).cmn.Modest

theorem will_overflow_eq (valid : s.valid = true) (appendable : Appendable s id index) {bytes : Nat}
    (small : bytes + 3 < 2 ^ 31) :
    sgQueryBufferWillOverflow id bytes s =
      some (decide ((s.buffer index).cmn.size <
        ((s.buffer index).cmn.rewind s.frameIndex).appendPos + ((bytes + 3) / 4 * 4 : Nat))) := by
  have rewound : (if (s.buffer index).cmn.appendFrameIndex ≠ s.frameIndex then 0 else (s.buffer index).cmn.appendPos) =
      ((s.buffer index).cmn.rewind s.frameIndex).appendPos := by
    unfold SgBufferCommon.rewind
    split <;> rfl
  simp only [sgQueryBufferWillOverflow, assert_bind valid, appendable.found, Option.bind_eq_bind, Option.bind_some,
    rewound, roundup_four small]
  rfl

theorem rewind_quiet (appendable : Appendable s id index) :
    ((s.buffer index).cmn.rewind s.frameIndex).appendOverflow = false := by
  by_cases current : (s.buffer index).cmn.appendFrameIndex = s.frameIndex
  · rw [rewind_same current]
    exact appendable.quiet current
  · simp [SgBufferCommon.rewind, current]

-- When the data fits, the append writes it.
theorem appendable_writes (sound : s.Sound) (appendable : Appendable s id index) (some_ : 0 < data.size)
    (small : data.size < 2 ^ 31)
    (fits : ((s.buffer index).cmn.rewind s.frameIndex).appendPos + data.size ≤ (s.buffer index).cmn.size) :
    Writes s index data := by
  have cursor := sound index appendable.valid appendable.modest
  have real : data.size < 2 ^ 63 := by omega
  refine ⟨appendable.valid, ?_, ?_, some_, appendable.fresh⟩
  · unfold sgValidateAppendBuffer
    rw [tested_usage, tested_size, tested_update, tested_pos, cast_int_of_small small]
    simp [appendable.usage, appendable.fresh, fits]
  · exact (tested_quiet_iff appendable.modest cursor real).mpr ⟨rewind_quiet appendable, fits⟩

theorem append_succeeds (valid : s.valid = true) (sound : s.Sound) (appendable : Appendable s id index)
    (points : data.ptr.isSome = true) : ∃ result, sgAppendBuffer id data reply s = some result := by
  have cursor : ((s.buffer index).cmn.tested s.frameIndex data.size).Sound :=
    tested_sound appendable.modest (sound index appendable.valid appendable.modest)
  have within := cursor.within
  rw [tested_size] at within
  obtain ⟨nonneg, small⟩ := appendable.modest
  have multiple : sgMultipleU64
      (.ofNat (castSize ((s.buffer index).cmn.tested s.frameIndex data.size).appendPos)) 4 = true := by
    have start := cursor.start
    have aligned := cursor.aligned
    rw [cast_size_of_nonneg start (by omega), multiple_four (by omega)]
    omega
  have fresh : ((s.buffer index).cmn.tested s.frameIndex data.size).updateFrameIndex ≠ s.frameIndex := by
    rw [tested_update]
    exact appendable.fresh
  refine assert_exists valid (assert_exists points (bind_exists appendable.found (assert_exists multiple ?_)))
  dsimp only
  split
  · exact assert_exists fresh ⟨_, rfl⟩
  · exact ⟨_, rfl⟩

-- What makes buffer 65537 of eight bytes ready for an append.
def readyToAppend (s : SgState) : Bool :=
  decide ((s.store .buffer).lookup 65537 = some (some 1)) && decide (((s.store .buffer).slot 1).state = .valid) &&
    decide ((s.buffer 1).cmn.usage = .stream) && decide ((s.buffer 1).cmn.updateFrameIndex ≠ s.frameIndex) &&
    decide ((s.buffer 1).cmn.appendOverflow = false) && decide ((s.buffer 1).cmn.size = 8)

theorem ready_appendable (ready : readyToAppend s = true) : Appendable s 65537 1 := by
  simp only [readyToAppend, Bool.and_eq_true, decide_eq_true_eq] at ready
  obtain ⟨⟨⟨⟨⟨found, valid⟩, usage⟩, fresh⟩, quiet⟩, size⟩ := ready
  refine ⟨found, valid, by rw [usage]; decide, fresh, fun _ => quiet, ?_⟩
  rw [SgBufferCommon.Modest, size]
  decide

def streamBuffer : SgCall := .make .buffer { size := 8, usage := .stream } {}
def fourBytes : SgRange := ⟨some [1, 2, 3, 4], 4⟩
def twelveBytes : SgRange := ⟨some (List.replicate 12 0), 12⟩

theorem ready_reached (check : SgState → Bool)
    (ran : (sgSetup .small >>= fun s => sgRun s [streamBuffer]).any (fun s => readyToAppend s && check s) = true) :
    ∃ s : SgState, s.Reached ∧ Appendable s 65537 1 ∧ check s = true := by
  obtain ⟨start, s, started, done, checked⟩ := small_run [streamBuffer] _ ran
  rw [Bool.and_eq_true] at checked
  have reached : s.Reached := ⟨_, start, [streamBuffer], started, by simp [streamBuffer, SgCall.Real], done⟩
  exact ⟨s, reached, ready_appendable checked.1, checked.2⟩

theorem tested_overflow (sound : s.Sound) (appendable : Appendable s id index) (small : data.size < 2 ^ 63) :
    ((s.buffer index).cmn.tested s.frameIndex data.size).appendOverflow =
      decide ((s.buffer index).cmn.size < ((s.buffer index).cmn.rewind s.frameIndex).appendPos + data.size) := by
  have cursor := sound index appendable.valid appendable.modest
  have quiet : (SgBufferCommon.tested _ s.frameIndex _).appendOverflow = false ↔ _ :=
    tested_quiet_iff appendable.modest cursor small
  simp only [rewind_quiet appendable, true_and] at quiet
  cases flag : ((s.buffer index).cmn.tested s.frameIndex data.size).appendOverflow with
  | false =>
      have fits := quiet.mp flag
      exact (decide_eq_false (by omega)).symm
  | true =>
      have full : ¬ _ ≤ _ := fun fits => Bool.false_ne_true ((quiet.mpr fits).symm.trans flag)
      exact (decide_eq_true (by omega)).symm

-- What an append leaves of its buffer, whether it writes or not.
theorem append_flag {pos : Int} (inv : s.Inv size) (found : (s.store .buffer).Found id index)
    (appends : sgAppendBuffer id data reply s = some (pos, next)) :
    (next.store .buffer).Found id index ∧
      (next.store .buffer).slot index = (s.store .buffer).slot index ∧
      (next.buffer index).cmn.appendOverflow =
        ((s.buffer index).cmn.tested s.frameIndex data.size).appendOverflow := by
  have step : sgStep s (.appendBuffer id data reply) = some next := by
    rw [sgStep, appends]
    rfl
  rcases append_result inv appends with ⟨missing, -, -⟩ | ⟨place, at_, -, slot, written⟩
  · rw [found_lookup found] at missing
    cases missing
  · have eq := at_.named.trans found.named.symm
    subst eq
    refine ⟨found_of_slot (inv .buffer) (step_inv inv step .buffer) found (congrArg SgSlot.id slot), slot, ?_⟩
    rcases written with ⟨-, buffer⟩ | ⟨-, buffer⟩
    · rw [buffer]
      rfl
    · rw [buffer]

-- A buffer that has overflown after it was appended to in this frame.
structure Overflown (s : SgState) (id : UInt32) (index : Nat) (held : SgBuffer) : Prop where
  found : (s.store .buffer).Found id index
  valid : ((s.store .buffer).slot index).state = .valid
  holds : s.buffer index = held
  current : held.cmn.appendFrameIndex = s.frameIndex
  flag : held.cmn.appendOverflow = true

theorem step_overflown {call : SgCall} {held : SgBuffer} (inv : s.Inv size) (full : Overflown s id index held)
    (spares : call.Spares id) (done : sgStep s call = some next) : Overflown next id index held := by
  have frame := step_frame_index inv done spares.1
  have kept (found : (next.store .buffer).Found id index)
      (slot : (next.store .buffer).slot index = (s.store .buffer).slot index)
      (buffer : next.buffer index = s.buffer index) : Overflown next id index held :=
    ⟨found, slot ▸ full.valid, buffer.trans full.holds, full.current.trans frame.symm, full.flag⟩
  have same (store : next.store = s.store) : Overflown next id index held := by
    refine kept ?_ ?_ ?_
    · rw [store]
      exact full.found
    · rw [store]
    · rw [SgState.buffer, SgState.buffer, store]
  by_cases named : call.names .buffer id
  · cases call with
    | dealloc k other =>
        obtain ⟨rfl, rfl⟩ := named
        exact same (early_call_refused full.found full.valid (Or.inl rfl) done)
    | init k other desc reply =>
        obtain ⟨rfl, rfl⟩ := named
        exact same (early_call_refused full.found full.valid (Or.inr (Or.inl ⟨desc, reply, rfl⟩)) done)
    | fail k other =>
        obtain ⟨rfl, rfl⟩ := named
        exact same (early_call_refused full.found full.valid (Or.inr (Or.inr rfl)) done)
    | uninit k other =>
        obtain ⟨rfl, rfl⟩ := named
        exact absurd rfl spares.2.1
    | destroy k other =>
        obtain ⟨rfl, rfl⟩ := named
        exact absurd rfl spares.2.2
    | updateBuffer other data reply =>
        obtain ⟨-, rfl⟩ := named
        rcases update_result inv done with store | ⟨place, found, apart, -, -⟩
        · exact same store
        · have eq := found.named.trans full.found.named.symm
          subst eq
          rw [full.holds] at apart
          exact absurd full.current apart
    | appendBuffer other data reply =>
        obtain ⟨-, rfl⟩ := named
        have whole := step_inv inv done .buffer
        obtain ⟨⟨pos, appended⟩, appends, done'⟩ := bind_some done
        cases done'
        rcases append_result inv appends with ⟨missing, -, -⟩ | ⟨place, found, -, slot, written⟩
        · rw [found_lookup full.found] at missing
          cases missing
        · have eq := found.named.trans full.found.named.symm
          subst eq
          have still := found_of_slot (inv .buffer) whole full.found (congrArg SgSlot.id slot)
          have tested : held.cmn.tested s.frameIndex data.size = held.cmn := by
            unfold SgBufferCommon.tested SgBufferCommon.testOverflow
            rw [rewind_same full.current, ← full.flag]
            split <;> rfl
          rcases written with ⟨writes, -⟩ | ⟨-, buffer⟩
          · have quiet := writes.quiet
            rw [full.holds, tested, full.flag] at quiet
            cases quiet
          · rw [full.holds, tested] at buffer
            exact kept still slot (buffer.trans full.holds.symm)
    | _ => exact named.elim
  · obtain ⟨item, found⟩ := step_untouched inv full.found named done
    exact kept found (congrArg SgItem.slot item) (congrArg SgItem.body item)

theorem run_overflown {calls : List SgCall} {held : SgBuffer} (inv : s.Inv size) (full : Overflown s id index held)
    (spares : ∀ call ∈ calls, call.Spares id) (done : sgRun s calls = some final) :
    Overflown final id index held := by
  induction calls generalizing s with
  | nil =>
      cases done
      exact full
  | cons call rest ih =>
      obtain ⟨middle, step, done⟩ := run_cons_some done
      exact ih (step_inv inv step) (step_overflown inv full (spares call (by simp)) step)
        (fun other member => spares other (by simp [member])) done

end Step

end WakeAlpha.Gfx
