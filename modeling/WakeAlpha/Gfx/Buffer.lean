import WakeAlpha.Gfx.Frame

set_option autoImplicit false

namespace WakeAlpha.Gfx

-- What Map answers: whether it succeeds, and what the memory holds after D3D11_MAP_WRITE_DISCARD.
structure MapReply where
  mapped : Bool := true
  discarded : Nat → UInt8 := fun _ => 0

-- A cast of an int to size_t.
def castSize (value : Int) : Nat := (BitVec.ofInt 64 value).toNat

-- _sg_roundup_u64.
def sgRoundupU64 (val roundTo : UInt64) : UInt64 := (val + (roundTo - 1)) &&& ~~~(roundTo - 1)

-- _sg_roundup.
def sgRoundup (val roundTo : BitVec 32) : BitVec 32 := (val + (roundTo - 1)) &&& ~~~(roundTo - 1)

def sgMultipleU64 (val divisor : UInt64) : Bool := decide (val &&& (divisor - 1) = 0)

def writeAt (memory : Nat → UInt8) (pos : Nat) (bytes : List UInt8) : Nat → UInt8 := fun offset =>
  if pos ≤ offset ∧ offset < pos + bytes.length then bytes.getD (offset - pos) 0 else memory offset

def SgState.buffer (s : SgState) (index : Nat) : SgBuffer := (s.store .buffer).body index

def SgState.setBuffer (s : SgState) (index : Nat) (buffer : SgBuffer) : SgState :=
  s.setStore .buffer ((s.store .buffer).put index ⟨(s.store .buffer).slot index, buffer⟩)

-- _sg_d3d11_update_buffer.
def d3d11UpdateBuffer (data : SgRange) (reply : MapReply) (memory : Nat → UInt8) : Nat → UInt8 :=
  if reply.mapped then writeAt reply.discarded 0 ((data.ptr.getD []).take data.size) else memory

-- _sg_d3d11_append_buffer: a new frame discards what the buffer holds.
def d3d11AppendBuffer (data : SgRange) (newFrame : Bool) (pos : Int) (reply : MapReply)
    (memory : Nat → UInt8) : Nat → UInt8 :=
  if reply.mapped then
    writeAt (if newFrame then reply.discarded else memory) pos.toNat ((data.ptr.getD []).take data.size)
  else memory

def sgValidateUpdateBuffer (s : SgState) (cmn : SgBufferCommon) (data : SgRange) : Bool :=
  if s.validation then
    decide (cmn.usage ≠ .immutable) && decide (castInt data.size ≤ cmn.size) &&
      decide (cmn.updateFrameIndex ≠ s.frameIndex) && decide (cmn.appendFrameIndex ≠ s.frameIndex)
  else true

def sgValidateAppendBuffer (s : SgState) (cmn : SgBufferCommon) (data : SgRange) : Bool :=
  if s.validation then
    decide (cmn.usage ≠ .immutable) && decide (cmn.appendPos + castInt data.size ≤ cmn.size) &&
      decide (cmn.updateFrameIndex ≠ s.frameIndex)
  else true

def sgUpdateBuffer (id : UInt32) (data : SgRange) (reply : MapReply) (s : SgState) : Checked SgState := do
  sokolAssert (s.valid = true)
  sokolAssert (data.ptr.isSome = true ∧ 0 < data.size)
  let counted := s.count fun stats => { stats with numUpdateBuffer := stats.numUpdateBuffer + 1 }
  match ← (counted.store .buffer).lookup id with
  | some index =>
      let buffer := counted.buffer index
      if ((counted.store .buffer).slot index).state = .valid ∧
          sgValidateUpdateBuffer counted buffer.cmn data = true then
        sokolAssert (data.size ≤ castSize buffer.cmn.size)
        sokolAssert (buffer.cmn.updateFrameIndex ≠ counted.frameIndex)
        sokolAssert (buffer.cmn.appendFrameIndex ≠ counted.frameIndex)
        return counted.setBuffer index
          ⟨{ buffer.cmn with updateFrameIndex := counted.frameIndex }, d3d11UpdateBuffer data reply buffer.memory⟩
      else return counted
  | none => return counted

-- The append cursor goes back to the start in a new frame.
def SgBufferCommon.rewind (cmn : SgBufferCommon) (frameIndex : UInt32) : SgBufferCommon :=
  if cmn.appendFrameIndex ≠ frameIndex then { cmn with appendPos := 0, appendOverflow := false } else cmn

def SgBufferCommon.testOverflow (cmn : SgBufferCommon) (size : Nat) : SgBufferCommon :=
  if (castSize cmn.appendPos + size) % 2 ^ 64 > castSize cmn.size then { cmn with appendOverflow := true }
  else cmn

-- The result is the offset at which the data starts.
def sgAppendBuffer (id : UInt32) (data : SgRange) (reply : MapReply) (s : SgState) : Checked (Int × SgState) := do
  sokolAssert (s.valid = true)
  sokolAssert (data.ptr.isSome = true)
  let counted := s.count fun stats => { stats with numAppendBuffer := stats.numAppendBuffer + 1 }
  match ← (counted.store .buffer).lookup id with
  | some index =>
      let buffer := counted.buffer index
      let newFrame := decide (buffer.cmn.appendFrameIndex ≠ counted.frameIndex)
      let tested := (buffer.cmn.rewind counted.frameIndex).testOverflow data.size
      sokolAssert (sgMultipleU64 (.ofNat (castSize tested.appendPos)) 4 = true)
      if ((counted.store .buffer).slot index).state = .valid ∧
          sgValidateAppendBuffer counted tested data = true ∧ tested.appendOverflow = false ∧ 0 < data.size then
        sokolAssert (tested.updateFrameIndex ≠ counted.frameIndex)
        let appended := { tested with
          appendPos := tested.appendPos + castInt (sgRoundupU64 (.ofNat data.size) 4).toNat
          appendFrameIndex := counted.frameIndex }
        return (tested.appendPos, counted.setBuffer index
          ⟨appended, d3d11AppendBuffer data newFrame tested.appendPos reply buffer.memory⟩)
      else return (tested.appendPos, counted.setBuffer index { buffer with cmn := tested })
  | none => return (0, counted)

def sgQueryBufferOverflow (id : UInt32) (s : SgState) : Checked Bool := do
  sokolAssert (s.valid = true)
  match ← (s.store .buffer).lookup id with
  | some index => return (s.buffer index).cmn.appendOverflow
  | none => return false

def sgQueryBufferWillOverflow (id : UInt32) (size : Nat) (s : SgState) : Checked Bool := do
  sokolAssert (s.valid = true)
  match ← (s.store .buffer).lookup id with
  | some index =>
      let cmn := (s.buffer index).cmn
      let appendPos := if cmn.appendFrameIndex ≠ s.frameIndex then 0 else cmn.appendPos
      return decide (appendPos + (sgRoundup (.ofNat 32 size) 4).toInt > cmn.size)
  | none => return false

end WakeAlpha.Gfx
