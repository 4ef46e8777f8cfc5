import WakeAlpha.Gfx.Lifecycle
import WakeAlpha.Trace.Monitor

set_option autoImplicit false

namespace WakeAlpha.Gfx

open WakeAlpha.Trace

-- What the device knows of the calls it gets: whether it is in a pass, and the pipeline that was
-- applied last in this pass, zero for none.
structure Device where
  inPass : Bool := false
  pipeline : UInt32 := 0
deriving DecidableEq, Repr

-- Passes do not nest, nothing is set or drawn outside of a pass and no frame ends inside of one.
-- Bindings and uniforms need a pipeline of the same pass; draws need one when bound says so.
def deviceMonitor (bound : Bool) : Monitor Device BackendCall where
  step d
    | .beginPass .. => if d.inPass then none else some ⟨true, 0⟩
    | .applyViewport .. | .applyScissorRect .. => if d.inPass then some d else none
    | .applyPipeline id => if d.inPass ∧ id ≠ 0 then some ⟨true, id⟩ else none
    | .applyBindings _ | .applyUniforms .. => if d.inPass ∧ d.pipeline ≠ 0 then some d else none
    | .draw .. => if d.inPass ∧ (bound = true → d.pipeline ≠ 0) then some d else none
    | .endPass => if d.inPass then some {} else none
    | .commit | .notify _ => if d.inPass then none else some d
    | .resetStateCache => some d

-- The library keeps in cur_pass and cur_pipeline what the device knows.
def SgState.device (s : SgState) : Device := ⟨s.curPass.inPass, s.curPipeline⟩

structure Streams (bound : Bool) (s : SgState) : Prop where
  accepted : (deviceMonitor bound).run {} s.calls = some s.device
  outside : s.curPass.inPass = false → s.curPipeline = 0
  d3d11 : s.d3d11Pipeline ≠ 0 → s.d3d11Pipeline = s.curPipeline
  pass : s.curPass.valid = s.curPass.inPass

variable {bound : Bool} {size : Kind → Nat} {s next final : SgState}

theorem kept_streams (streams : Streams bound s) (kept : Kept s next) : Streams bound next := by
  refine ⟨?_, ?_, ?_, ?_⟩
  · rw [kept.calls, streams.accepted, SgState.device, SgState.device, kept.curPass, kept.curPipeline]
  · rw [kept.curPass, kept.curPipeline]
    exact streams.outside
  · rw [kept.curPipeline]
    rcases kept.d3d11Pipeline with same | gone
    · rw [same]
      exact streams.d3d11
    · exact fun some_ => absurd gone some_
  · rw [kept.curPass]
    exact streams.pass

-- A call the device accepts in the state the library believes it to be in.
theorem emit_accepted {base : SgState} {call : BackendCall} {after : Device} (streams : Streams bound s)
    (calls : base.calls = s.calls) (accepts : (deviceMonitor bound).step s.device call = some after) :
    (deviceMonitor bound).run {} (base.emit call).calls = some after := by
  change (deviceMonitor bound).run {} (base.calls ++ [call]) = some after
  rw [calls, run_append_of_some _ _ streams.accepted, run_cons, accepts]
  rfl

theorem emit_streams {base : SgState} {call : BackendCall} (streams : Streams bound s) (kept : Kept s base)
    (accepts : (deviceMonitor bound).step s.device call = some s.device) : Streams bound (base.emit call) := by
  have basic := kept_streams streams kept
  refine ⟨?_, basic.outside, basic.d3d11, basic.pass⟩
  rw [emit_accepted streams kept.calls accepts]
  change some s.device = some base.device
  rw [SgState.device, SgState.device, kept.curPass, kept.curPipeline]

theorem disarm_streams (streams : Streams bound s) : Streams bound s.disarm :=
  ⟨streams.accepted, streams.outside, streams.d3d11, streams.pass⟩

theorem lookup_some_ne_zero {k : Kind} {id : UInt32} {index : Nat}
    (looked : (s.store k).lookup id = some (some index)) : id ≠ 0 := by
  intro zero
  subst zero
  cases looked

-- A draw reaches the device only if the call before it left one that needs no pipeline, or one is bound.
theorem step_streams {call : SgCall} (inv : s.Inv size) (streams : Streams bound s)
    (done : sgStep s call = some next)
    (draws : ∀ base elements instances, call = .draw base elements instances → bound = true →
      s.curPass.inPass = true → s.nextDrawValid = true → s.curPipeline ≠ 0) : Streams bound next := by
  cases call with
  | alloc _ | dealloc _ _ | init _ _ _ _ | uninit _ _ | fail _ _ | make _ _ _ | destroy _ _ | updateBuffer _ _ _
  | appendBuffer _ _ _ => exact kept_streams streams (step_kept inv done rfl)
  | beginPass pass validated =>
      obtain ⟨outside, rfl | rfl | ⟨current, valid, inside, rfl⟩⟩ := begin_pass_result done
      · exact streams
      · exact kept_streams streams (kept_error s _)
      · have none_ := streams.outside outside
        have accepts : (deviceMonitor bound).step s.device
            (.beginPass current.attsId current.width current.height) = some ⟨true, 0⟩ := by
          simp [deviceMonitor, SgState.device, outside]
        refine ⟨Eq.trans (emit_accepted streams rfl accepts) ?_, fun _ => none_, streams.d3d11, ?_⟩
        · simp [SgState.device, SgState.emit, inside, none_]
        · exact valid.trans inside.symm
  | applyViewport x y width height originTopLeft =>
      obtain ⟨inside, rfl | rfl⟩ := apply_rect_result done
      · exact kept_streams streams (kept_count s _)
      · exact emit_streams streams (kept_count s _) (by simp [deviceMonitor, SgState.device, inside])
  | applyScissorRect x y width height originTopLeft =>
      obtain ⟨inside, rfl | rfl⟩ := apply_rect_result done
      · exact kept_streams streams (kept_count s _)
      · exact emit_streams streams (kept_count s _) (by simp [deviceMonitor, SgState.device, inside])
  | applyPipeline id formats =>
      obtain ⟨inside, counted, rfl, rfl | ⟨-, rfl⟩ | ⟨index, looked, -, rfl⟩⟩ := apply_pipeline_result done
      · exact disarm_streams (kept_streams streams (kept_count s _))
      · exact kept_streams streams (kept_count s _)
      · have named := lookup_some_ne_zero looked
        have accepts : (deviceMonitor bound).step s.device (.applyPipeline id) = some ⟨true, id⟩ := by
          simp [deviceMonitor, SgState.device, inside, named]
        refine ⟨Eq.trans (emit_accepted streams rfl accepts) ?_, ?_, fun _ => rfl, streams.pass⟩
        · simp [SgState.device, SgState.emit, SgState.count, inside]
        · intro outside
          exact absurd (inside.symm.trans outside) (by decide)
  | applyBindings bindings validated =>
      obtain ⟨inside, counted, rfl, rfl | ⟨-, rfl⟩ | ⟨-, ⟨index, looked⟩, rfl⟩⟩ := apply_bindings_result done
      · exact disarm_streams (kept_streams streams (kept_count s _))
      · exact kept_streams streams (kept_count s _)
      · have named := lookup_some_ne_zero looked
        exact emit_streams streams (kept_count s _) (by simp [deviceMonitor, SgState.device, inside, named])
  | applyUniforms stage ubIndex data =>
      obtain ⟨inside, counted, rfl, rfl | rfl | ⟨-, bound_, rfl⟩⟩ := apply_uniforms_result done
      · exact disarm_streams (kept_streams streams (kept_count s _))
      · exact kept_streams streams (kept_count s _)
      · have named : s.curPipeline ≠ 0 := by
          rw [← streams.d3d11 bound_]
          exact bound_
        exact emit_streams streams (kept_count s _) (by simp [deviceMonitor, SgState.device, inside, named])
  | draw base elements instances =>
      obtain ⟨inside, counted, rfl, ⟨rfl, -⟩ | ⟨-, armed, rfl⟩⟩ := draw_result done
      · exact kept_streams streams (kept_count s _)
      · have named := fun strict => draws base elements instances rfl strict inside armed
        exact emit_streams streams (kept_count s _) (by simpa [deviceMonitor, SgState.device, inside] using named)
  | endPass =>
      obtain ⟨inside, rfl⟩ := end_pass_result done
      refine ⟨?_, fun _ => rfl, fun none_ => absurd rfl none_, rfl⟩
      exact emit_accepted streams rfl (by simp [deviceMonitor, SgState.device, inside])
  | commit =>
      obtain ⟨outside, rfl⟩ := commit_result done
      refine ⟨?_, streams.outside, streams.d3d11, streams.pass⟩
      change (deviceMonitor bound).run {} (s.calls ++ [.commit] ++ _) = some s.device
      rw [List.append_assoc, run_append_of_some _ _ streams.accepted]
      refine run_ignored _ fun entry member => ?_
      rcases List.mem_append.mp member with commit | notified
      · rw [List.mem_singleton.mp commit]
        simp [deviceMonitor, SgState.device, outside]
      · obtain ⟨listener, -, rfl⟩ := List.mem_map.mp notified
        simp [deviceMonitor, SgState.device, outside]
  | resetStateCache =>
      obtain ⟨-, done⟩ := assert_some done
      cases done
      exact emit_streams streams (kept_refl s) rfl
  | addCommitListener listener =>
      obtain ⟨⟨added, changed⟩, adds, done⟩ := bind_some done
      cases done
      rcases add_listener_result adds with ⟨error, -, -, rfl⟩ | ⟨listeners, -, -, rfl⟩
      · exact kept_streams streams (kept_error s _)
      · exact ⟨streams.accepted, streams.outside, streams.d3d11, streams.pass⟩
  | removeCommitListener listener =>
      obtain ⟨⟨removed, changed⟩, removes, done⟩ := bind_some done
      cases done
      obtain ⟨listeners, -, rfl⟩ := remove_listener_result removes
      exact ⟨streams.accepted, streams.outside, streams.d3d11, streams.pass⟩
  | enableFrameStats =>
      obtain ⟨-, done⟩ := assert_some done
      cases done
      exact ⟨streams.accepted, streams.outside, streams.d3d11, streams.pass⟩
  | disableFrameStats =>
      obtain ⟨-, done⟩ := assert_some done
      cases done
      exact ⟨streams.accepted, streams.outside, streams.d3d11, streams.pass⟩

theorem started_streams {desc : SgDesc} (started : Started desc s) : Streams bound s := by
  refine ⟨?_, fun _ => started.curPipeline, fun some_ => absurd started.d3d11Pipeline some_, ?_⟩
  · rw [started.calls, SgState.device, started.curPass, started.curPipeline]
    rfl
  · rw [started.curPass]

theorem run_streams {calls : List SgCall} (inv : s.Inv size) (streams : Streams false s)
    (done : sgRun s calls = some final) : Streams false final := by
  induction calls generalizing s with
  | nil =>
      cases done
      exact streams
  | cons call rest ih =>
      obtain ⟨middle, step, done⟩ := run_cons_some done
      refine ih (step_inv inv step) (step_streams inv streams step ?_) done
      intro _ _ _ _ strict
      cases strict

def SgPass.small : SgPass := { swapchain := ⟨8, 6, 1, true⟩ }

def smallFrame : List SgCall :=
  [.make .shader {} {}, .make .pipeline { shader := 65537 } {}, .beginPass .small true, .applyPipeline 65537 true,
    .applyBindings {} true, .draw 0 6 1, .endPass]

-- Whatever a program calls, the device sees passes that do not nest, everything inside of one, and
-- bindings and uniforms for a pipeline of their own pass.
theorem stream_bracketed {desc : SgDesc} {calls : List SgCall} (started : sgSetup desc = some s)
    (done : sgRun s calls = some final) : (deviceMonitor false).run {} final.calls = some final.device := by
  have begun := setup_result started
  exact (run_streams (started_inv begun) (started_streams begun) done).accepted

theorem small_frame_bracketed : ∃ final : SgState, .draw 0 6 1 ∈ final.calls ∧
    (deviceMonitor false).run {} final.calls = some final.device := by
  obtain ⟨s, final, started, done, checked⟩ := small_run smallFrame (fun s => decide (.draw 0 6 1 ∈ s.calls)) rfl
  rw [decide_eq_true_eq] at checked
  exact ⟨final, checked, stream_bracketed started done⟩

-- A program that never draws in a pass before it has applied a pipeline or bindings in it.
def drawMonitor : Monitor Bool SgCall where
  step ready
    | .beginPass .. => some false
    | .applyPipeline .. | .applyBindings .. => some true
    | .draw .. => if ready then some true else none
    | _ => some ready

-- Once the program is ready, an armed draw has a pipeline.
def Ready (ready : Bool) (s : SgState) : Prop :=
  ready = true → s.curPass.inPass = true → s.nextDrawValid = true → s.curPipeline ≠ 0

theorem ready_mono {ready : Bool} (begun : Ready ready s) (pass : next.curPass = s.curPass)
    (pipeline : next.curPipeline = s.curPipeline)
    (armed : next.nextDrawValid = true → s.nextDrawValid = true) : Ready ready next := by
  unfold Ready
  rw [pass, pipeline]
  exact fun ready inside drawn => begun ready inside (armed drawn)

theorem step_ready {call : SgCall} {ready after : Bool} (inv : s.Inv size) (begun : Ready ready s)
    (pass : s.curPass.valid = s.curPass.inPass) (done : sgStep s call = some next)
    (orderly : drawMonitor.step ready call = some after) : Ready after next := by
  cases call with
  | alloc _ | dealloc _ _ | init _ _ _ _ | uninit _ _ | fail _ _ | make _ _ _ | destroy _ _ | updateBuffer _ _ _
  | appendBuffer _ _ _ =>
      have kept := step_kept inv done rfl
      cases orderly
      exact ready_mono begun kept.curPass kept.curPipeline fun armed => kept.nextDrawValid ▸ armed
  | beginPass pass validated =>
      cases orderly
      exact fun ready => absurd ready Bool.false_ne_true
  | applyViewport x y width height originTopLeft =>
      cases orderly
      obtain ⟨-, rfl | rfl⟩ := apply_rect_result done
      · exact ready_mono begun rfl rfl id
      · exact ready_mono begun rfl rfl id
  | applyScissorRect x y width height originTopLeft =>
      cases orderly
      obtain ⟨-, rfl | rfl⟩ := apply_rect_result done
      · exact ready_mono begun rfl rfl id
      · exact ready_mono begun rfl rfl id
  | applyPipeline id formats =>
      obtain ⟨inside, counted, rfl, rfl | ⟨invalid, -⟩ | ⟨index, looked, -, rfl⟩⟩ := apply_pipeline_result done
      · exact fun _ _ armed => absurd armed Bool.false_ne_true
      · rw [pass, inside] at invalid
        cases invalid
      · exact fun _ _ _ => lookup_some_ne_zero looked
  | applyBindings bindings validated =>
      obtain ⟨inside, counted, rfl, rfl | ⟨invalid, -⟩ | ⟨-, ⟨index, looked⟩, rfl⟩⟩ := apply_bindings_result done
      · exact fun _ _ armed => absurd armed Bool.false_ne_true
      · rw [pass, inside] at invalid
        cases invalid
      · exact fun _ _ _ => lookup_some_ne_zero looked
  | applyUniforms stage ubIndex data =>
      cases orderly
      obtain ⟨-, counted, rfl, rfl | rfl | ⟨-, -, rfl⟩⟩ := apply_uniforms_result done
      · exact fun _ _ armed => absurd armed Bool.false_ne_true
      · exact ready_mono begun rfl rfl id
      · exact ready_mono begun rfl rfl id
  | draw base elements instances =>
      have readied : ready = true := by
        cases ready with
        | true => rfl
        | false => cases orderly
      subst readied
      cases orderly
      obtain ⟨-, counted, rfl, ⟨rfl, -⟩ | ⟨-, -, rfl⟩⟩ := draw_result done
      · exact ready_mono begun rfl rfl id
      · exact ready_mono begun rfl rfl id
  | endPass =>
      obtain ⟨-, rfl⟩ := end_pass_result done
      exact fun _ inside => absurd inside Bool.false_ne_true
  | commit =>
      cases orderly
      obtain ⟨-, rfl⟩ := commit_result done
      exact ready_mono begun rfl rfl id
  | resetStateCache =>
      cases orderly
      obtain ⟨-, done⟩ := assert_some done
      cases done
      exact ready_mono begun rfl rfl id
  | addCommitListener listener =>
      cases orderly
      obtain ⟨⟨added, changed⟩, adds, done⟩ := bind_some done
      cases done
      rcases add_listener_result adds with ⟨error, -, -, rfl⟩ | ⟨listeners, -, -, rfl⟩
      · exact ready_mono begun rfl rfl id
      · exact ready_mono begun rfl rfl id
  | removeCommitListener listener =>
      cases orderly
      obtain ⟨⟨removed, changed⟩, removes, done⟩ := bind_some done
      cases done
      obtain ⟨listeners, -, rfl⟩ := remove_listener_result removes
      exact ready_mono begun rfl rfl id
  | enableFrameStats =>
      cases orderly
      obtain ⟨-, done⟩ := assert_some done
      cases done
      exact ready_mono begun rfl rfl id
  | disableFrameStats =>
      cases orderly
      obtain ⟨-, done⟩ := assert_some done
      cases done
      exact ready_mono begun rfl rfl id

theorem run_bound {calls : List SgCall} {ready after : Bool} (inv : s.Inv size) (streams : Streams true s)
    (begun : Ready ready s) (orderly : drawMonitor.run ready calls = some after)
    (done : sgRun s calls = some final) : Streams true final := by
  induction calls generalizing s ready with
  | nil =>
      cases done
      exact streams
  | cons call rest ih =>
      obtain ⟨middle, step, done⟩ := run_cons_some done
      obtain ⟨now, first, orderly⟩ := bind_some orderly
      refine ih (step_inv inv step) (step_streams inv streams step ?_)
        (step_ready inv begun streams.pass step first) orderly done
      intro base elements instances eq _ inside armed
      subst eq
      cases ready with
      | true => exact begun rfl inside armed
      | false => cases first

-- Every draw that reaches the device then has a pipeline of its own pass. sg_end_pass leaves the
-- draw armed, so this is more than the library itself makes sure of.
theorem draws_bound {desc : SgDesc} {calls : List SgCall} {after : Bool} (started : sgSetup desc = some s)
    (orderly : drawMonitor.run false calls = some after) (done : sgRun s calls = some final) :
    (deviceMonitor true).run {} final.calls = some final.device := by
  have begun := setup_result started
  have unready : Ready false s := fun ready => absurd ready Bool.false_ne_true
  exact (run_bound (started_inv begun) (started_streams begun) unready orderly done).accepted

theorem small_frame_bound : ∃ final : SgState, .draw 0 6 1 ∈ final.calls ∧
    (deviceMonitor true).run {} final.calls = some final.device := by
  obtain ⟨s, final, started, done, checked⟩ := small_run smallFrame (fun s => decide (.draw 0 6 1 ∈ s.calls)) rfl
  rw [decide_eq_true_eq] at checked
  have orderly : drawMonitor.run false smallFrame = some true := rfl
  exact ⟨final, checked, draws_bound started orderly done⟩

-- A swapchain pass that sg_begin_pass accepts.
structure SgPass.Presentable (pass : SgPass) (defaultSampleCount : Int) : Prop where
  swapchain : pass.attachments = 0
  width : 0 < pass.swapchain.width
  height : 0 < pass.swapchain.height
  samples : 0 < sgDef pass.swapchain.sampleCount defaultSampleCount
  view : pass.swapchain.renderView = true

-- A swapchain pass after it has begun.
def SgState.opened (s : SgState) (pass : SgPass) : SgState :=
  { s with curPass := { s.curPass with
      valid := true
      inPass := true
      width := pass.swapchain.width
      height := pass.swapchain.height } }.emit
        (.beginPass s.curPass.attsId pass.swapchain.width pass.swapchain.height)

theorem begin_pass_presentable {pass : SgPass} (valid : s.valid = true) (outside : s.curPass.inPass = false)
    (closed : s.curPass.valid = false) (presentable : pass.Presentable s.defaultSampleCount) :
    sgStep s (.beginPass pass true) = some (s.opened pass) := by
  have samples := presentable.samples
  simp [sgStep, sgBeginPass, sgPassDefaults, sokolAssert, valid, outside, closed, presentable.swapchain,
    presentable.width, presentable.height, presentable.view, samples, SgState.opened]

theorem draw_armed {base elements instances : Int} (valid : s.valid = true) (inside : s.curPass.inPass = true)
    (opened : s.curPass.valid = true) (armed : s.nextDrawValid = true) (start : 0 ≤ base) (some_ : 0 < elements)
    (copies : 0 < instances) :
    sgStep s (.draw base elements instances) =
      some ((s.count fun stats => { stats with numDraw := stats.numDraw + 1 }).emit
        (.draw base.toNat elements.toNat instances.toNat)) := by
  have drawn : ¬ (elements = 0 ∨ instances = 0) := by omega
  have elementsLe : 0 ≤ elements := by omega
  have instancesLe : 0 ≤ instances := by omega
  simp [sgStep, sgDraw, sokolAssert, SgState.count, valid, inside, opened, armed, start, elementsLe, instancesLe, drawn]

-- The order is needed: a draw that is still armed when a pass ends reaches the device in the next
-- pass, where no pipeline is bound.
theorem armed_draw_unbound {pass : SgPass} {base elements instances : Int} (streams : Streams true s)
    (valid : s.valid = true) (outside : s.curPass.inPass = false) (armed : s.nextDrawValid = true)
    (presentable : pass.Presentable s.defaultSampleCount) (start : 0 ≤ base) (some_ : 0 < elements)
    (copies : 0 < instances) :
    ∃ final, sgRun s [.beginPass pass true, .draw base elements instances] = some final ∧
      (deviceMonitor true).run {} final.calls = none := by
  have closed : s.curPass.valid = false := streams.pass.trans outside
  have begins := begin_pass_presentable valid outside closed presentable
  have none_ := streams.outside outside
  have draws : sgStep (s.opened pass) (.draw base elements instances) = some _ :=
    draw_armed valid rfl rfl armed start some_ copies
  refine ⟨_, (run_next _ begins).trans (run_next _ draws), ?_⟩
  change (deviceMonitor true).run {} (s.calls ++ [.beginPass _ _ _] ++ [.draw _ _ _]) = none
  rw [List.append_assoc, run_append_of_some _ _ streams.accepted]
  simp [deviceMonitor, SgState.device, outside]

theorem second_pass_unbound : ∃ s final, sgRun s [.beginPass .small true, .draw 0 6 1] = some final ∧
    (deviceMonitor true).run {} final.calls = none := by
  obtain ⟨start, s, started, done, checked⟩ := small_run smallFrame
    (fun s => decide (s.valid = true) && decide (s.curPass.inPass = false) && decide (s.nextDrawValid = true)) rfl
  simp only [Bool.and_eq_true, decide_eq_true_eq] at checked
  obtain ⟨⟨valid, outside⟩, armed⟩ := checked
  have begun := setup_result started
  have unready : Ready false start := fun ready => absurd ready Bool.false_ne_true
  have orderly : drawMonitor.run false smallFrame = some true := rfl
  have streams := run_bound (started_inv begun) (started_streams begun) unready orderly done
  have presentable : SgPass.small.Presentable s.defaultSampleCount :=
    ⟨rfl, by decide, by decide, by simp [SgPass.small, sgDef], rfl⟩
  exact ⟨s, armed_draw_unbound streams valid outside armed presentable (by decide) (by decide) (by decide)⟩

end WakeAlpha.Gfx
