import Mathlib.Algebra.Order.BigOperators.Group.List
import WakeAlpha.Sapp.Timing

set_option autoImplicit false

namespace WakeAlpha.Sapp

open WakeAlpha.Gfx WakeAlpha.Queues

-- What reaches _sapp_timing_t: a reading of a clock, a gap between two readings, or a reset.
inductive Tick where
  | reading (now : Rat)
  | gap
  | reset

def Tick.run (t : SappTiming) : Tick → Checked SappTiming
  | .reading now => sappTimingExternal t now
  | .gap => return sappTimingDiscontinuity t
  | .reset => return sappTimingReset t

-- The ticks of an operation, and the refresh count after it. A refresh that was measured before brings
-- nothing new, and one that was missed is a gap.
def TimingOp.ticks (count : UInt32) : TimingOp → List Tick × UInt32
  | .reset => ([.reset], count)
  | .measure ⟨none, now⟩ => ([.reading now], count)
  | .measure ⟨some stats, _⟩ =>
      if stats.syncRefreshCount ≠ count then
        ((if count + 1 ≠ stats.syncRefreshCount then [.gap] else []) ++ [.reading stats.now], stats.syncRefreshCount)
      else ([], count)

def ticks : UInt32 → List TimingOp → List Tick
  | _, [] => []
  | count, op :: rest => (op.ticks count).1 ++ ticks (op.ticks count).2 rest

-- The measure that the ring and its sums stand for: the durations that count, oldest first.
structure Meter where
  last : Rat := 0
  samples : List Rat := []
  mean : Rat := 1 / 60
  spikes : Nat := 0

def sampleRoom : Nat := sappRingNumSlots - 1

def Meter.cleared (m : Meter) : Meter := { m with last := 0, samples := [], spikes := 0 }

def Meter.put (m : Meter) (dur : Rat) : Meter :=
  let (minDur, maxDur) := validWindow (decide (m.samples.length = sampleRoom)) m.mean
  if dur < minDur ∨ maxDur < dur then
    if 20 ≤ m.spikes then m.cleared else { m with spikes := m.spikes + 1 }
  else
    let samples := (m.samples ++ [dur]).drop (m.samples.length + 1 - sampleRoom)
    { m with samples := samples, mean := samples.sum / samples.length, spikes := 0 }

def Meter.tick (m : Meter) : Tick → Meter
  | .reading now => { (if 0 < m.last then m.put (now - m.last) else m) with last := now }
  | .gap => { m with last := 0 }
  | .reset => m.cleared

structure Measures (t : SappTiming) (m : Meter) : Prop where
  inv : t.ring.Inv sappRingNumSlots
  samples : t.ring.contents sappRingNumSlots = m.samples
  accum : t.accum = m.samples.sum
  num : t.num = m.samples.length
  mean : t.avg = m.mean
  last : t.last = m.last
  spikes : t.spikeCount = m.spikes

variable {t : SappTiming} {m : Meter}

theorem ring_length (measures : Measures t m) : t.ring.count sappRingNumSlots = m.samples.length := by
  rw [← measures.samples, contents_length]

theorem ring_full (measures : Measures t m) : sappRingFull t.ring = decide (m.samples.length = sampleRoom) := by
  have filled : sappRingFull t.ring = true ↔ t.ring.count sappRingNumSlots + 1 = sappRingNumSlots :=
    full_iff measures.inv
  rw [ring_length measures] at filled
  rw [Bool.eq_iff_iff, filled, decide_eq_true_eq, sampleRoom, sappRingNumSlots]
  omega

theorem sample_room (measures : Measures t m) : m.samples.length ≤ sampleRoom := by
  have bound := count_lt measures.inv
  rw [ring_length measures] at bound
  exact Nat.le_sub_one_of_lt bound

theorem reset_measures (measures : Measures t m) : Measures (sappTimingReset t) m.cleared :=
  ⟨empty_ring_inv (by decide) t.ring.buf, rfl, rfl, rfl, measures.mean, rfl, rfl⟩

-- A timing with the measure m but one sample less where the ring is full.
structure Roomy (t : SappTiming) (m : Meter) (room : SappTiming) : Prop where
  inv : room.ring.Inv sappRingNumSlots
  free : room.ring.full sappRingNumSlots = false
  samples : room.ring.contents sappRingNumSlots = m.samples.drop (m.samples.length + 1 - sampleRoom)
  accum : room.accum = (m.samples.drop (m.samples.length + 1 - sampleRoom)).sum
  num : room.num = (m.samples.drop (m.samples.length + 1 - sampleRoom)).length
  last : room.last = t.last

theorem drop_oldest_result (measures : Measures t m) : ∃ room, dropOldest t = some room ∧ Roomy t m room := by
  have filled := ring_full measures
  by_cases all : m.samples.length = sampleRoom
  · rw [decide_eq_true all] at filled
    have count := ring_length measures
    have some_ : t.ring.count sappRingNumSlots ≠ 0 := by
      rw [count, all]
      decide
    have unempty : t.ring.head ≠ t.ring.tail := fun same => some_ ((count_zero_iff measures.inv).mpr same)
    have popped := pop_contents measures.inv some_
    have fewer : (t.ring.pop sappRingNumSlots).2.count sappRingNumSlots + 1 = sampleRoom :=
      (pop_count measures.inv some_).trans (count.trans all)
    have one : m.samples.length + 1 - sampleRoom = 1 := by omega
    rw [measures.samples] at popped
    refine ⟨⟨t.last, t.accum - t.ring.buf t.ring.tail, t.avg, t.spikeCount, t.num - 1,
      (t.ring.pop sappRingNumSlots).2⟩, ?_, ?_⟩
    · rw [dropOldest, if_pos filled, ring_dequeue unempty]
      rfl
    · rw [popped] at one
      refine ⟨pop_inv measures.inv, ?_, ?_, ?_, ?_, rfl⟩
      · rw [Bool.eq_false_iff, ne_eq, full_iff (pop_inv measures.inv), fewer]
        decide
      · rw [popped, one, List.drop_one, List.tail_cons]
      · change t.accum - (t.ring.pop sappRingNumSlots).1 = _
        rw [measures.accum, popped, one, List.drop_one, List.tail_cons, List.sum_cons, add_sub_cancel_left]
      · change t.num - 1 = _
        rw [measures.num, popped, one, List.drop_one, List.tail_cons, List.length_cons, Nat.cast_succ,
          add_sub_cancel_right]
  · rw [decide_eq_false all] at filled
    have bound := sample_room measures
    have none_ : m.samples.length + 1 - sampleRoom = 0 := by omega
    refine ⟨t, ?_, measures.inv, filled, ?_, ?_, ?_, rfl⟩
    · rw [dropOldest, filled]
      rfl
    · rw [none_, List.drop_zero]
      exact measures.samples
    · rw [none_, List.drop_zero]
      exact measures.accum
    · rw [none_, List.drop_zero]
      exact measures.num

theorem put_measures (measures : Measures t m) (dur : Rat) :
    ∃ next, sappTimingPut t dur = some next ∧ Measures next (m.put dur) := by
  unfold sappTimingPut Meter.put
  rw [ring_full measures, measures.mean]
  dsimp only
  generalize validWindow (decide (m.samples.length = sampleRoom)) m.mean = window
  by_cases spike : dur < window.1 ∨ window.2 < dur
  · rw [if_pos spike, if_pos spike]
    refine ⟨_, rfl, ?_⟩
    by_cases many : 20 ≤ m.spikes
    · rw [if_pos many, if_pos (by rw [measures.spikes]; omega)]
      exact ⟨empty_ring_inv (by decide) t.ring.buf, rfl, rfl, rfl, rfl, rfl, rfl⟩
    · rw [if_neg many, if_neg (by rw [measures.spikes]; omega)]
      exact ⟨measures.inv, measures.samples, measures.accum, measures.num, rfl, measures.last,
        congrArg (· + 1) measures.spikes⟩
  · rw [if_neg spike, if_neg spike]
    obtain ⟨room, drops, roomy⟩ := drop_oldest_result measures
    have bound := sample_room measures
    have kept : (m.samples ++ [dur]).drop (m.samples.length + 1 - sampleRoom) =
        m.samples.drop (m.samples.length + 1 - sampleRoom) ++ [dur] := by
      apply List.drop_append_of_le_length
      rw [sampleRoom, sappRingNumSlots] at bound ⊢
      omega
    have positive : 0 < room.num + 1 := by
      rw [roomy.num]
      exact Int.lt_add_one_of_le (Int.natCast_nonneg _)
    refine ⟨⟨room.last, room.accum + dur, (room.accum + dur) / (room.num + 1 : Int), 0, room.num + 1,
      room.ring.push sappRingNumSlots dur⟩, ?_, ?_⟩
    · rw [drops]
      change (sappRingEnqueue room.ring dur >>= fun ring => _) = _
      rw [ring_enqueue roomy.free]
      exact assert_bind positive _
    · refine ⟨push_inv roomy.inv dur, ?_, ?_, ?_, ?_, roomy.last.trans measures.last, rfl⟩
      · rw [push_contents roomy.inv roomy.free, roomy.samples, kept]
      · rw [kept, List.sum_append, List.sum_singleton, ← roomy.accum]
      · rw [kept, List.length_append, List.length_singleton, Nat.cast_succ, ← roomy.num]
      · rw [kept, List.sum_append, List.sum_singleton, ← roomy.accum, List.length_append, List.length_singleton,
          Nat.cast_succ, roomy.num, Int.cast_add, Int.cast_natCast, Int.cast_one]

theorem tick_measures (measures : Measures t m) (tick : Tick) :
    ∃ next, tick.run t = some next ∧ Measures next (m.tick tick) := by
  cases tick with
  | reading now =>
      by_cases known : 0 < t.last
      · obtain ⟨next, puts, measured⟩ := put_measures measures (now - t.last)
        refine ⟨{ next with last := now }, ?_, ?_⟩
        · rw [Tick.run, sappTimingExternal, if_pos known, puts]
          rfl
        · rw [measures.last] at known measured
          rw [Meter.tick, if_pos known]
          exact ⟨measured.inv, measured.samples, measured.accum, measured.num, measured.mean, rfl, measured.spikes⟩
      · refine ⟨{ t with last := now }, ?_, ?_⟩
        · rw [Tick.run, sappTimingExternal, if_neg known]
          rfl
        · rw [measures.last] at known
          rw [Meter.tick, if_neg known]
          exact ⟨measures.inv, measures.samples, measures.accum, measures.num, measures.mean, rfl, measures.spikes⟩
  | gap =>
      exact ⟨_, rfl, measures.inv, measures.samples, measures.accum, measures.num, measures.mean, rfl, measures.spikes⟩
  | reset => exact ⟨_, rfl, reset_measures measures⟩

def tickRun (t : SappTiming) (ts : List Tick) : Checked SappTiming := ts.foldlM Tick.run t

theorem tick_run_split {next : SappTiming} {first second : List Tick}
    (ran : tickRun t (first ++ second) = some next) :
    ∃ middle, tickRun t first = some middle ∧ tickRun middle second = some next := by
  have split : tickRun t (first ++ second) = (tickRun t first >>= fun middle => tickRun middle second) :=
    List.foldlM_append
  rw [split] at ran
  exact Option.bind_eq_some_iff.mp ran

theorem ticks_measures (measures : Measures t m) (ts : List Tick) :
    ∃ next, tickRun t ts = some next ∧ Measures next (ts.foldl Meter.tick m) := by
  induction ts generalizing t m with
  | nil => exact ⟨t, rfl, measures⟩
  | cons tick rest ih =>
      obtain ⟨middle, ticked, measured⟩ := tick_measures measures tick
      obtain ⟨next, ran, last⟩ := ih measured
      refine ⟨next, ?_, last⟩
      rw [tickRun, List.foldlM_cons, ticked]
      exact ran

theorem tick_run_one {tick : Tick} {next : SappTiming} (ran : tickRun t [tick] = some next) :
    tick.run t = some next := by
  obtain ⟨middle, ticked, rest⟩ := Option.bind_eq_some_iff.mp ran
  cases rest
  exact ticked

-- An operation of sapp does to the timing what its ticks do.
theorem step_ticks {c : FrameClock} {next : SappTiming} {op : TimingOp}
    (ran : tickRun c.timing (op.ticks c.syncRefreshCount).1 = some next) :
    timingStep c op = some ⟨(op.ticks c.syncRefreshCount).2, next⟩ := by
  cases op with
  | reset =>
      cases ran
      rfl
  | measure reply =>
      obtain ⟨dxgi, now⟩ := reply
      cases dxgi with
      | none =>
          have measured : sappTimingExternal c.timing now = some next := tick_run_one ran
          change (sappTimingExternal c.timing now >>= fun timing => _) = _
          rw [measured]
          rfl
      | some stats =>
          dsimp only [TimingOp.ticks] at ran ⊢
          by_cases fresh : stats.syncRefreshCount ≠ c.syncRefreshCount
          · rw [if_pos fresh] at ran ⊢
            let timing :=
              if c.syncRefreshCount + 1 ≠ stats.syncRefreshCount then sappTimingDiscontinuity c.timing else c.timing
            obtain ⟨middle, gap, ran⟩ := tick_run_split ran
            have begun : middle = timing := by
              by_cases missed : c.syncRefreshCount + 1 ≠ stats.syncRefreshCount
              · rw [if_pos missed] at gap
                cases gap
                exact (if_pos missed).symm
              · rw [if_neg missed] at gap
                cases gap
                exact (if_neg missed).symm
            rw [begun] at ran
            have measured : sappTimingExternal timing stats.now = some next := tick_run_one ran
            refine (if_pos fresh).trans ?_
            change (sappTimingExternal timing stats.now >>= fun timing => _) = _
            rw [measured]
            rfl
          · rw [if_neg fresh] at ran ⊢
            cases ran
            exact if_neg fresh

theorem run_ticks {c : FrameClock} {next : SappTiming} {ops : List TimingOp}
    (ran : tickRun c.timing (ticks c.syncRefreshCount ops) = some next) :
    ∃ final, timingRun c ops = some final ∧ final.timing = next := by
  induction ops generalizing c with
  | nil =>
      cases ran
      exact ⟨c, rfl, rfl⟩
  | cons op rest ih =>
      obtain ⟨middle, ticked, ran⟩ := tick_run_split ran
      obtain ⟨final, run, timing⟩ : ∃ final, timingRun ⟨_, middle⟩ rest = some final ∧ final.timing = next := ih ran
      refine ⟨final, ?_, timing⟩
      rw [timingRun, List.foldlM_cons, step_ticks ticked]
      exact run

theorem start_measures (t : SappTiming) : Measures (sappTimingInit t) {} :=
  ⟨empty_ring_inv (by decide) t.ring.buf, rfl, rfl, rfl, rfl, rfl, rfl⟩

structure Meter.Sound (m : Meter) : Prop where
  mean : m.samples ≠ [] → m.mean = m.samples.sum / m.samples.length

theorem put_sound (sound : m.Sound) (dur : Rat) : (m.put dur).Sound := by
  unfold Meter.put
  dsimp only
  generalize validWindow (decide (m.samples.length = sampleRoom)) m.mean = window
  split
  · split
    · exact ⟨fun some_ => absurd rfl some_⟩
    · exact ⟨sound.mean⟩
  · constructor
    intro _
    dsimp only

theorem tick_sound (sound : m.Sound) (tick : Tick) : (m.tick tick).Sound := by
  cases tick with
  | reading now =>
      rw [Meter.tick]
      split
      · exact ⟨(put_sound sound _).mean⟩
      · exact ⟨sound.mean⟩
  | gap => exact ⟨sound.mean⟩
  | reset => exact ⟨fun some_ => absurd rfl some_⟩

theorem ticks_sound (sound : m.Sound) (ts : List Tick) : (ts.foldl Meter.tick m).Sound := by
  induction ts generalizing m with
  | nil => exact sound
  | cons tick rest ih => exact ih (tick_sound sound tick)

def Tick.time : Tick → Option Rat
  | .reading now => some now
  | _ => none

-- The last reading is earlier than those to come, and what was measured is positive.
structure Meter.Forward (m : Meter) (later : List Rat) : Prop where
  last : 0 < m.last → ∀ now ∈ later, m.last < now
  samples : ∀ dur ∈ m.samples, 0 < dur
  mean : 0 < m.mean

theorem put_forward {later : List Rat} {dur : Rat} (forward : m.Forward later) (pos : 0 < dur) :
    (m.put dur).Forward later := by
  unfold Meter.put
  dsimp only
  generalize validWindow (decide (m.samples.length = sampleRoom)) m.mean = window
  split
  · split
    · exact ⟨fun later => absurd later (lt_irrefl 0), fun _ member => absurd member List.not_mem_nil, forward.mean⟩
    · exact ⟨forward.last, forward.samples, forward.mean⟩
  · have positive : ∀ other ∈ (m.samples ++ [dur]).drop (m.samples.length + 1 - sampleRoom), 0 < other := by
      intro other member
      obtain old | new := List.mem_append.mp (List.mem_of_mem_drop member)
      · exact forward.samples other old
      · rw [List.mem_singleton.mp new]
        exact pos
    have some_ : 0 < ((m.samples ++ [dur]).drop (m.samples.length + 1 - sampleRoom)).length := by
      rw [List.length_drop, List.length_append, List.length_singleton, sampleRoom, sappRingNumSlots]
      omega
    have total := List.sum_pos _ positive (List.ne_nil_of_length_pos some_)
    have mean := div_pos total (Nat.cast_pos.mpr some_ : (0 : Rat) < _)
    generalize (m.samples ++ [dur]).drop (m.samples.length + 1 - sampleRoom) = samples at positive mean
    exact ⟨forward.last, positive, mean⟩

theorem tick_forward {tick : Tick} {later : List Rat} (forward : m.Forward (tick.time.toList ++ later))
    (onward : ∀ now ∈ tick.time.toList, ∀ next ∈ later, now < next) : (m.tick tick).Forward later := by
  cases tick with
  | reading now =>
      have ahead : 0 < now → ∀ next ∈ later, now < next := fun _ => onward now (by simp [Tick.time])
      rw [Meter.tick]
      by_cases known : 0 < m.last
      · have pos : 0 < now - m.last := sub_pos.mpr (forward.last known now (by simp [Tick.time]))
        rw [if_pos known]
        have put := put_forward forward pos
        exact ⟨ahead, put.samples, put.mean⟩
      · rw [if_neg known]
        exact ⟨ahead, forward.samples, forward.mean⟩
  | gap => exact ⟨fun later => absurd later (lt_irrefl 0), forward.samples, forward.mean⟩
  | reset =>
      exact ⟨fun later => absurd later (lt_irrefl 0), fun _ member => absurd member List.not_mem_nil, forward.mean⟩

theorem ticks_forward {ts : List Tick} (forward : m.Forward (ts.filterMap Tick.time))
    (onward : (ts.filterMap Tick.time).Pairwise (· < ·)) : (ts.foldl Meter.tick m).Forward [] := by
  induction ts generalizing m with
  | nil => exact forward
  | cons tick rest ih =>
      have split : (tick :: rest).filterMap Tick.time = tick.time.toList ++ rest.filterMap Tick.time := by
        rw [List.filterMap_cons]
        cases tick.time <;> rfl
      rw [split] at forward onward
      rw [List.pairwise_append] at onward
      exact ih (tick_forward forward onward.2.2) onward.2.1

end WakeAlpha.Sapp
