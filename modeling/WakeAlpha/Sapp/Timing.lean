import Mathlib.Algebra.BigOperators.Group.List.Basic
import Mathlib.Algebra.Order.Field.Rat
import Mathlib.Tactic.Linarith
import WakeAlpha.Gfx.Slot
import WakeAlpha.Queues.Ring

set_option autoImplicit false

namespace WakeAlpha.Sapp

open WakeAlpha.Gfx WakeAlpha.Queues

def sappRingNumSlots : Nat := 256

-- The C ring holds doubles; the model computes with exact rationals.
abbrev SappRing := RingBuffer Rat

def sappRingIdx (i : Nat) : Nat := i % sappRingNumSlots
def sappRingInit (ring : SappRing) : SappRing := ⟨0, 0, ring.buf⟩
def sappRingFull (ring : SappRing) : Bool := decide (sappRingIdx (ring.head + 1) = ring.tail)
def sappRingEmpty (ring : SappRing) : Bool := decide (ring.head = ring.tail)

def sappRingEnqueue (ring : SappRing) (val : Rat) : Checked SappRing := do
  sokolAssert (sappRingFull ring = false)
  return ⟨sappRingIdx (ring.head + 1), ring.tail, Function.update ring.buf ring.head val⟩

def sappRingDequeue (ring : SappRing) : Checked (Rat × SappRing) := do
  sokolAssert (sappRingEmpty ring = false)
  return (ring.buf ring.tail, { ring with tail := sappRingIdx (ring.tail + 1) })

theorem ring_enqueue {ring : SappRing} (free : ring.full sappRingNumSlots = false) (val : Rat) :
    sappRingEnqueue ring val = some (ring.push sappRingNumSlots val) := assert_bind free _

theorem ring_dequeue {ring : SappRing} (some_ : ring.head ≠ ring.tail) :
    sappRingDequeue ring = some (ring.pop sappRingNumSlots) := assert_bind (decide_eq_false some_) _

structure SappTiming where
  last : Rat := 0
  accum : Rat := 0
  avg : Rat := 0
  spikeCount : Nat := 0
  num : Int := 0
  ring : SappRing

def sappTimingReset (t : SappTiming) : SappTiming :=
  { t with last := 0, accum := 0, spikeCount := 0, num := 0, ring := sappRingInit t.ring }

def sappTimingInit (t : SappTiming) : SappTiming := sappTimingReset { t with avg := 1 / 60 }

-- The durations that are taken for the average, and the room that is made for one more.
def validWindow (full : Bool) (avg : Rat) : Rat × Rat := if full then (avg * (4/5), avg * (6/5)) else (0, 1/10)

def dropOldest (t : SappTiming) : Checked SappTiming :=
  if sappRingFull t.ring then do
    let (oldVal, ring) ← sappRingDequeue t.ring
    return { t with accum := t.accum - oldVal, num := t.num - 1, ring := ring }
  else return t

def sappTimingPut (t : SappTiming) (dur : Rat) : Checked SappTiming :=
  let (minDur, maxDur) := validWindow (sappRingFull t.ring) t.avg
  if dur < minDur ∨ maxDur < dur then
    let spiked := { t with spikeCount := t.spikeCount + 1 }
    return if 20 < spiked.spikeCount then sappTimingReset spiked else spiked
  else do
    let room ← dropOldest t
    let ring ← sappRingEnqueue room.ring dur
    let num := room.num + 1
    sokolAssert (0 < num)
    let accum := room.accum + dur
    return { room with accum := accum, avg := accum / num, spikeCount := 0, num := num, ring := ring }

def sappTimingDiscontinuity (t : SappTiming) : SappTiming := { t with last := 0 }

-- _sapp_timing_measure reads the clock and goes on as _sapp_timing_external.
def sappTimingExternal (t : SappTiming) (now : Rat) : Checked SappTiming :=
  if 0 < t.last then do return { ← sappTimingPut t (now - t.last) with last := now }
  else return { t with last := now }

structure DxgiFrameStats where
  syncRefreshCount : UInt32
  now : Rat
deriving DecidableEq, Repr

-- What the frame finds when it measures: the frame statistics of the swap chain, none when they are not
-- used or not to be had, and the clock.
structure ClockReply where
  dxgi : Option DxgiFrameStats := none
  now : Rat

structure FrameClock where
  syncRefreshCount : UInt32 := 0
  timing : SappTiming

-- _sapp_win32_timing_measure.
def sappWin32TimingMeasure (c : FrameClock) (reply : ClockReply) : Checked FrameClock :=
  match reply.dxgi with
  | some stats =>
      if stats.syncRefreshCount ≠ c.syncRefreshCount then do
        let timing :=
          if c.syncRefreshCount + 1 ≠ stats.syncRefreshCount then sappTimingDiscontinuity c.timing else c.timing
        return ⟨stats.syncRefreshCount, ← sappTimingExternal timing stats.now⟩
      else return c
  | none => do return { c with timing := ← sappTimingExternal c.timing reply.now }

-- What happens to the timing after _sapp_init_state: a frame, or a reset because the display or the
-- monitor of the window has changed.
inductive TimingOp where
  | measure (reply : ClockReply)
  | reset

def timingStep (c : FrameClock) : TimingOp → Checked FrameClock
  | .measure reply => sappWin32TimingMeasure c reply
  | .reset => return { c with timing := sappTimingReset c.timing }

def timingRun (c : FrameClock) (ops : List TimingOp) : Checked FrameClock := ops.foldlM timingStep c

def sappFrameDuration (c : FrameClock) : Rat := c.timing.avg

end WakeAlpha.Sapp
