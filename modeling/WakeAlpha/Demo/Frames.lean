import WakeAlpha.Demo.Brackets
import WakeAlpha.Demo.App
import WakeAlpha.Imgui.Overlay

set_option autoImplicit false

namespace WakeAlpha.Demo

open WakeAlpha.Gfx WakeAlpha.Imgui

-- The uniform blocks of the shader, up to the first unused one.
def Layout.blocks (layout : Layout) : SgShaderStage → List Nat :=
  fun stage => (layout.uniformBlocks stage).takeWhile fun size => size ≠ 0

def Layout.uniforms (layout : Layout) (block : FsParams) : SgUniforms := ⟨.fs, 0, rangeOf (layout.block block)⟩

def App.on (d : App) (g : Simgui) (s : SgState) : App := { d with gfx := some s, gui := some g }

def JcFile.vertices : JcFile → List Rat
  | .quad => Quad.vertices
  | .shadertoy => Shadertoy.vertices
  | .tot => Tot.vertices

-- The bytes that a buffer starts with.
def holds (data : List UInt8) (body : SgBuffer) : Bool := decide (∀ i < data.length, body.memory i = data.getD i 0)

-- The quad of a program can be drawn, and its buffers hold what init_quad has put there.
structure QuadLive (layout : Layout) (quad : List Rat) (d : App) (s : SgState) : Prop where
  drawable : Drawable s d.pip d.shd layout.blocks d.bind
  vertices : ∀ id ∈ d.bind.vertexBuffers, Live s .buffer (holds (quad.flatMap layout.float)) id
  indices : Live s .buffer (holds (quadIndices.flatMap indexBytes)) d.bind.indexBuffer

-- simgui can render, the program can draw its quad, and neither uses the buffers of the other.
structure Prepared (layout : Layout) (quad : List Rat) (num : Nat) (size : Kind → Nat) (d : App) (g : Simgui)
    (s : SgState) : Prop where
  equipped : Equipped num size g s
  quad : QuadLive layout quad d s
  stages : d.bind.vs = {} ∧ d.bind.fs = {}
  vertices : ∀ id ∈ d.bind.vertexBuffers, id ≠ g.vbuf ∧ id ≠ g.ibuf
  indices : d.bind.indexBuffer ≠ g.vbuf ∧ d.bind.indexBuffer ≠ g.ibuf
  quiet : s.commitListeners.notified = []

structure InPass (s : SgState) : Prop where
  inPass : s.curPass.inPass = true
  pass : s.curPass.valid = true
  swapchain : s.curPass.attsId = 0

-- What a frame relies on: a swapchain, validations that pass, and draw lists without user callbacks.
structure Host.Fair (num : Nat) (host : Host) (input : FrameInput) : Prop where
  samples : 0 < input.sapp.sampleCount
  view : host.renderView = true
  validated : host.passValidated = true ∧ host.formats = true ∧ host.bindingsValidated = true
  formats : ∀ id, host.render.formats id = true
  points : host.render.vsParams.ptr.isSome = true
  params : host.render.vsParams.size = sizeofVsParams
  font : ImageInRange num (UInt32.ofNat host.render.fontTexId)
  textures : ∀ cl ∈ host.cmdLists, ∀ cmd ∈ cl.cmdBuffer, ImageInRange num (UInt32.ofNat cmd.textureId)
  elements : ∀ cl ∈ host.cmdLists, ∀ cmd ∈ cl.cmdBuffer, cmd.callback = .none →
    cmd.idxOffset.toNat + cmd.elemCount.toNat ≤ cl.idxBuffer.length
  plain : ∀ cl ∈ host.cmdLists, ∀ cmd ∈ cl.cmdBuffer, ∀ made, cmd.callback ≠ .user made

variable {layout : Layout} {quad : List Rat} {num : Nat} {size : Kind → Nat} {host : Host} {input : FrameInput}
variable {d : App} {g : Simgui} {s next : SgState}

theorem lib_run_append {first second : List LibCall} {middle : App}
    (begins : libRun layout host input first d = some middle) :
    libRun layout host input (first ++ second) d = libRun layout host input second middle := by
  rw [libRun, List.foldlM_append]
  change (libRun layout host input first d >>= fun between => libRun layout host input second between) = _
  rw [begins]
  rfl

theorem lib_run_one {call : LibCall} {after : App} (done : libStep layout host input d call = some after) :
    libRun layout host input [call] d = some after := by
  rw [libRun, List.foldlM_cons, done]
  rfl

-- What app_frame calls stays with Dear ImGui and the window.
theorem aside_run {calls : List LibCall} (aside : ∀ call ∈ calls, call.inAppFrame = true) :
    libRun layout host input calls d = some d := by
  induction calls with
  | nil => rfl
  | cons call rest ih =>
      have stays : libStep layout host input d call = some d := by
        have inside := aside call (by simp)
        cases call with
        | igSetNextWindowPos | igSetNextWindowSize | igBegin | igEnd | styleWindowBgAlpha | igText | sappQuit
        | sappToggleFullscreen => rfl
        | _ => cases inside
      exact (lib_run_append (lib_run_one stays)).trans (ih fun other member => aside other (by simp [member]))

theorem sg_calls_run {pairs : List (LibCall × SgCall)}
    (through : ∀ pair ∈ pairs, ∀ s, libStep layout host input (d.on g s) pair.1 = (d.on g s).sg pair.2)
    (done : sgRun s (pairs.map Prod.snd) = some next) :
    libRun layout host input (pairs.map Prod.fst) (d.on g s) = some (d.on g next) := by
  induction pairs generalizing s with
  | nil =>
      cases done
      rfl
  | cons pair rest ih =>
      obtain ⟨middle, step, done⟩ := run_cons_some done
      have one : libStep layout host input (d.on g s) pair.1 = some (d.on g middle) := by
        rw [through pair (by simp)]
        change (sgStep s pair.2 >>= fun _ => _) = _
        rw [step]
        rfl
      exact (lib_run_append (lib_run_one one)).trans (ih (fun other member => through other (by simp [member])) done)

theorem step_quad {call : SgCall} (inv : s.Inv size) (live : QuadLive layout quad d s)
    (avoids : call.Avoids d.pip d.shd d.bind) (done : sgStep s call = some next) : QuadLive layout quad d next :=
  ⟨step_drawable inv live.drawable avoids done,
    fun id member => step_live inv (live.vertices id member) (avoids.vertices id member) done,
    step_live inv live.indices avoids.indices done⟩

theorem run_quad {calls : List SgCall} (inv : s.Inv size) (live : QuadLive layout quad d s)
    (avoids : ∀ call ∈ calls, call.Avoids d.pip d.shd d.bind) (done : sgRun s calls = some next) :
    QuadLive layout quad d next := by
  induction calls generalizing s with
  | nil =>
      cases done
      exact live
  | cons call rest ih =>
      obtain ⟨middle, step, done⟩ := run_cons_some done
      exact ih (step_inv inv step) (step_quad inv live (avoids call (by simp)) step)
        (fun other member => avoids other (by simp [member])) done

-- A call of simgui names none of the handles of the program.
theorem overlay_avoids (ready : Prepared layout quad num size d g s) {call : SgCall}
    (own : ∀ k id, call.names k id → k = .image ∨ k = .sampler ∨ (k = .buffer ∧ (id = g.vbuf ∨ id = g.ibuf))) :
    call.Avoids d.pip d.shd d.bind := by
  have buffers (id : UInt32) (apart : id ≠ g.vbuf ∧ id ≠ g.ibuf) : ¬ call.names .buffer id := by
    intro named
    rcases own _ _ named with wrong | wrong | ⟨-, same | same⟩
    · cases wrong
    · cases wrong
    · exact apart.1 same
    · exact apart.2 same
  have nothing : SgStageBindings.Avoids {} call :=
    ⟨List.forall_mem_nil _, List.forall_mem_nil _, List.forall_mem_nil _⟩
  refine ⟨?_, ?_, fun id member => buffers id (ready.vertices id member), buffers _ ready.indices, ?_, ?_⟩
  · intro named
    rcases own _ _ named with wrong | wrong | ⟨wrong, -⟩ <;> cases wrong
  · intro named
    rcases own _ _ named with wrong | wrong | ⟨wrong, -⟩ <;> cases wrong
  · rw [ready.stages.1]
    exact nothing
  · rw [ready.stages.2]
    exact nothing

theorem new_frame_ready (ready : Prepared layout quad num size d g s) : ∃ gui next,
    libStep layout host input (d.on g s) (newFrame input) = some (d.on gui next) ∧
      Prepared layout quad num size d gui next ∧ next.curPass = s.curPass ∧ next.calls = s.calls := by
  let frame : NewFrame := ⟨Sapp.sappWidth input.sapp, Sapp.sappHeight input.sapp, host.texReady, host.atlas⟩
  obtain ⟨gui, next, done, step⟩ :
      ∃ gui next, simguiNewFrame frame g s = some (gui, next) ∧ FontStep num size g s gui next :=
    new_frame_total ready.equipped (Sapp.sapp_width_pos _) (Sapp.sapp_height_pos _)
  obtain ⟨calls, textures, ran⟩ := step.run
  have kept := run_kept ready.equipped.inv textures.resources ran
  have avoids : ∀ call ∈ calls, call.Avoids d.pip d.shd d.bind := fun call member =>
    overlay_avoids ready fun k id named => (textures.names call member k id named).imp_right Or.inl
  refine ⟨gui, next, ?_, ⟨font_step_equipped ready.equipped step,
    run_quad ready.equipped.inv ready.quad avoids ran, ready.stages, ?_, ?_, ?_⟩, kept.curPass, kept.calls⟩
  · change (simguiNewFrame frame g s >>= fun _ => _) = _
    rw [done]
    rfl
  · rw [step.same.vbuf, step.same.ibuf]
    exact ready.vertices
  · rw [step.same.vbuf, step.same.ibuf]
    exact ready.indices
  · rw [kept.commitListeners]
    exact ready.quiet

theorem unnamed_ready {call : SgCall} (ready : Prepared layout quad num size d g s) (unnamed : ∀ k id, ¬ call.names k id)
    (listeners : next.commitListeners = s.commitListeners) (done : sgStep s call = some next) :
    Prepared layout quad num size d g next :=
  ⟨step_equipped ready.equipped (leaves_unnamed unnamed) done,
    step_quad ready.equipped.inv ready.quad
      (overlay_avoids ready fun k id named => absurd named (unnamed k id)) done,
    ready.stages, ready.vertices, ready.indices, by rw [listeners, ready.quiet]⟩


theorem begin_ready (ready : Prepared layout quad num size d g s) (outside : s.curPass = {}) (fair : host.Fair num input) :
    ∃ next, libStep layout host input (d.on g s) .sgBeginPass = some (d.on g next) ∧
      Prepared layout quad num size d g next ∧ InPass next ∧
      next.calls = s.calls ++ [.beginPass 0 (Sapp.sappWidth input.sapp) (Sapp.sappHeight input.sapp)] := by
  let pass : SgPass := { swapchain := sglueSwapchain input.sapp host.renderView }
  let opened : SgState := { s with curPass := { s.curPass with
    valid := true
    inPass := true
    width := Sapp.sappWidth input.sapp
    height := Sapp.sappHeight input.sapp } }
  let begun := opened.emit (.beginPass s.curPass.attsId (Sapp.sappWidth input.sapp) (Sapp.sappHeight input.sapp))
  have wide : 0 < Sapp.sappWidth input.sapp := Sapp.sapp_width_pos _
  have high : 0 < Sapp.sappHeight input.sapp := Sapp.sapp_height_pos _
  have samples : sgDef input.sapp.sampleCount s.defaultSampleCount = input.sapp.sampleCount :=
    if_neg (ne_of_gt fair.samples)
  have begins : sgStep s (.beginPass pass true) = some begun := by
    change sgBeginPass pass true s = _
    rw [sgBeginPass, assert_bind ready.equipped.valid, assert_bind (by rw [outside]), assert_bind (by rw [outside])]
    change (sokolAssert (0 < Sapp.sappWidth input.sapp) >>= fun _ =>
      sokolAssert (0 < Sapp.sappHeight input.sapp) >>= fun _ =>
      sokolAssert (0 < sgDef input.sapp.sampleCount s.defaultSampleCount) >>= fun _ =>
      sokolAssert (host.renderView = true) >>= fun _ => _) = _
    rw [assert_bind wide, assert_bind high, samples, assert_bind fair.samples, assert_bind fair.view]
    rfl
  have unnamed : ∀ k id, ¬ SgCall.names k id (.beginPass pass true) := fun _ _ => not_false
  refine ⟨begun, ?_, unnamed_ready ready unnamed rfl begins, ⟨rfl, rfl, ?_⟩, ?_⟩
  · change (sgStep s (.beginPass pass host.passValidated) >>= fun _ => _) = _
    rw [fair.validated.1, begins]
    rfl
  · change s.curPass.attsId = 0
    rw [outside]
  · change s.calls ++ [.beginPass s.curPass.attsId _ _] = _
    rw [outside]

-- The calls that draw the quad, and those of sokol_gfx they make.
def quadCalls (params : Option FsParams) : List LibCall :=
  [.sgApplyPipeline, .sgApplyBindings] ++ params.toList.map .sgApplyUniforms ++ [.sgDraw 0 6 1]

theorem in_pass_open (ready : Prepared layout quad num size d g s) (inside : InPass s) : Open s :=
  ⟨ready.equipped.valid, inside.inPass, inside.pass, fun offscreen => absurd inside.swapchain offscreen⟩

theorem quad_ready {params : Option FsParams} (ready : Prepared layout quad num size d g s) (inside : InPass s)
    (fair : host.Fair num input) (fits : ∀ block ∈ params, (layout.uniforms block).Fits layout.blocks) :
    ∃ next, libRun layout host input (quadCalls params) (d.on g s) = some (d.on g next) ∧
      Prepared layout quad num size d g next ∧ InPass next ∧
      next.calls = s.calls ++ drawSent d.pip d.bind (params.toList.map layout.uniforms) 0 6 1 := by
  have blocks : ∀ u ∈ params.toList.map layout.uniforms, u.Fits layout.blocks := by
    intro u member
    obtain ⟨block, listed, rfl⟩ := List.mem_map.mp member
    exact fits block (Option.mem_toList.mp listed)
  obtain ⟨next, ran, within⟩ := drawable_draws (in_pass_open ready inside) ready.quad.drawable blocks
    (le_refl 0) (by decide : (0 : Int) < 6) (by decide : (0 : Int) < 1)
  let pairs : List (LibCall × SgCall) :=
    [(.sgApplyPipeline, .applyPipeline d.pip true), (.sgApplyBindings, .applyBindings d.bind true)] ++
      params.toList.map (fun block => (.sgApplyUniforms block, (layout.uniforms block).call)) ++
      [(.sgDraw 0 6 1, .draw 0 6 1)]
  have calls : pairs.map Prod.fst = quadCalls params := by
    simp [pairs, quadCalls, Function.comp_def]
  have made : pairs.map Prod.snd = drawCalls d.pip d.bind (params.toList.map layout.uniforms) 0 6 1 := by
    simp [pairs, drawCalls, Function.comp_def]
  have through : ∀ pair ∈ pairs, ∀ s, libStep layout host input (d.on g s) pair.1 = (d.on g s).sg pair.2 := by
    intro pair member s
    simp only [pairs, List.mem_append, List.mem_cons, List.not_mem_nil, or_false, List.mem_map] at member
    rcases member with ((rfl | rfl) | ⟨block, -, rfl⟩) | rfl
    · change (d.on g s).sg (.applyPipeline d.pip host.formats) = _
      rw [fair.validated.2.1]
    · change (d.on g s).sg (.applyBindings d.bind host.bindingsValidated) = _
      rw [fair.validated.2.2]
    · rfl
    · rfl
  have unnamed : ∀ call ∈ drawCalls d.pip d.bind (params.toList.map layout.uniforms) 0 6 1,
      call.midPass = true ∧ ∀ k id, ¬ call.names k id := by
    intro call member
    simp only [drawCalls, List.mem_append, List.mem_cons, List.not_mem_nil, or_false, List.mem_map] at member
    rcases member with ((rfl | rfl) | ⟨u, -, rfl⟩) | rfl
    all_goals exact ⟨rfl, fun _ _ => not_false⟩
  have passed := run_through ready.equipped.inv (fun call member => (unnamed call member).1) ran
  refine ⟨next, ?_, ⟨?_, ?_, ready.stages, ready.vertices, ready.indices,
    ?_⟩, ⟨?_, ?_, ?_⟩, within.calls⟩
  · rw [← calls]
    exact sg_calls_run through (made ▸ ran)
  · exact run_equipped ready.equipped (fun call member => leaves_unnamed (unnamed call member).2) ran
  · exact run_quad ready.equipped.inv ready.quad (fun call member => overlay_avoids ready fun k id named =>
      absurd named ((unnamed call member).2 k id)) ran
  · rw [passed.commitListeners]
    exact ready.quiet
  · rw [passed.curPass]
    exact inside.inPass
  · rw [passed.curPass]
    exact inside.pass
  · rw [passed.curPass]
    exact inside.swapchain

-- Without user callbacks simgui names its own buffers only.
theorem render_own {cmdLists : List ImDrawList} {frame : RenderFrame} {calls : List ImCall} {call : SgCall}
    (rendered : simguiRender g frame (some cmdLists) = some calls)
    (plain : ∀ cl ∈ cmdLists, ∀ cmd ∈ cl.cmdBuffer, ∀ made, cmd.callback ≠ .user made)
    (member : call ∈ calls.flatMap ImCall.calls) :
    call.midPass = true ∧ g.Leaves call ∧ ∀ k id, call.names k id → k = .buffer ∧ (id = g.vbuf ∨ id = g.ibuf) := by
  obtain ⟨im, listed, inside⟩ := List.mem_flatMap.mp member
  obtain ⟨-, rfl⟩ | ⟨rest, rfl, emits⟩ := render_emits rendered
  · cases listed
  · obtain early | late := List.mem_append.mp listed
    · rcases Imgui.uploaded early with ⟨-, rfl⟩ | ⟨-, rfl⟩
      · rw [List.mem_singleton.mp inside]
        exact ⟨rfl, Or.inl ⟨_, _, _, rfl⟩, fun k id named => ⟨named.1.symm, Or.inl named.2.symm⟩⟩
      · rw [List.mem_singleton.mp inside]
        exact ⟨rfl, Or.inl ⟨_, _, _, rfl⟩, fun k id named => ⟨named.1.symm, Or.inr named.2.symm⟩⟩
    · cases emits im late with
      | callback cl shown cmd within made user =>
          exact absurd user (plain cl (copied_listed g cmdLists cl shown) cmd within made)
      | _ =>
          cases List.mem_singleton.mp inside
          exact ⟨rfl, leaves_unnamed fun _ _ => not_false, fun _ _ named => named.elim⟩

theorem render_ready (ready : Prepared layout quad num size d g s) (inside : InPass s) (fair : host.Fair num input) :
    ∃ next sent, libStep layout host input (d.on g s) .simguiRender = some (d.on g next) ∧
      Prepared layout quad num size d g next ∧ InPass next ∧ (∀ call ∈ sent, call.midPass = true) ∧
      next.calls = s.calls ++ sent := by
  have presenting : Presenting num size g s := ⟨ready.equipped, inside.inPass, inside.pass, inside.swapchain⟩
  have frame : Fair num g host.render := ⟨⟨fair.formats _, fair.formats _⟩, fair.points, fair.params, fair.font⟩
  have own : ∀ cl ∈ host.cmdLists, ∀ cmd ∈ cl.cmdBuffer, cmd.Fair num size g cl := fun cl listed cmd drawn =>
    ⟨fair.textures cl listed cmd drawn, fair.elements cl listed cmd drawn,
      fun made user => absurd user (fair.plain cl listed cmd drawn made),
      fun made user => absurd user (fair.plain cl listed cmd drawn made)⟩
  obtain ⟨calls, rendered, serves⟩ := render_serves presenting frame own
  obtain ⟨next, ran, last⟩ := serves s presenting
  have made (call : SgCall) (member : call ∈ calls.flatMap ImCall.calls) := render_own rendered fair.plain member
  have passed := run_through ready.equipped.inv (fun call member => (made call member).1) ran
  have avoids : ∀ call ∈ calls.flatMap ImCall.calls, call.Avoids d.pip d.shd d.bind := fun call member =>
    overlay_avoids ready fun k id named => Or.inr (Or.inr ((made call member).2.2 k id named))
  obtain ⟨sent, mid, more⟩ := passed.calls
  refine ⟨next, sent, ?_, ⟨last.equipped, run_quad ready.equipped.inv ready.quad avoids ran, ready.stages,
    ready.vertices, ready.indices, ?_⟩, ⟨last.inPass, last.pass, last.swapchain⟩, mid, more⟩
  · change (simguiRender g host.render (some host.cmdLists) >>= fun _ => _) = _
    rw [rendered]
    change (sgRun s (calls.flatMap ImCall.calls) >>= fun _ => _) = _
    rw [show sgRun s (calls.flatMap ImCall.calls) = some next from ran]
    rfl
  · rw [passed.commitListeners]
    exact ready.quiet


theorem end_ready (ready : Prepared layout quad num size d g s) (inside : InPass s) :
    ∃ next, libRun layout host input [.sgEndPass, .sgCommit] (d.on g s) = some (d.on g next) ∧
      Prepared layout quad num size d g next ∧ next.curPass = {} ∧ next.calls = s.calls ++ [.endPass, .commit] := by
  obtain ⟨ended, ends⟩ : ∃ ended, sgStep s .endPass = some ended :=
    assert_exists ready.equipped.valid (assert_exists inside.inPass
      (assert_exists (fun offscreen => absurd inside.swapchain offscreen) ⟨_, rfl⟩))
  obtain ⟨-, same⟩ := end_pass_result ends
  have unnamedEnd : ∀ k id, ¬ SgCall.names k id .endPass := fun _ _ => not_false
  have unnamedCommit : ∀ k id, ¬ SgCall.names k id .commit := fun _ _ => not_false
  have listeners : ended.commitListeners = s.commitListeners := by rw [same]; rfl
  have endedReady := unnamed_ready ready unnamedEnd listeners ends
  have closed : ended.curPass = {} := by rw [same]
  obtain ⟨committed, commits⟩ : ∃ committed, sgStep ended .commit = some committed :=
    assert_exists endedReady.equipped.valid (assert_exists (by rw [closed]) (assert_exists (by rw [closed]) ⟨_, rfl⟩))
  obtain ⟨-, final⟩ := commit_result commits
  refine ⟨committed, ?_, unnamed_ready endedReady unnamedCommit (by rw [final]) commits, by rw [final, closed], ?_⟩
  · let pairs : List (LibCall × SgCall) := [(.sgEndPass, .endPass), (.sgCommit, .commit)]
    have through : ∀ pair ∈ pairs, ∀ s, libStep layout host input (d.on g s) pair.1 = (d.on g s).sg pair.2 := by
      intro pair member s
      simp only [pairs, List.mem_cons, List.not_mem_nil, or_false] at member
      rcases member with rfl | rfl <;> rfl
    exact sg_calls_run through ((run_next _ ends).trans ((run_next _ commits).trans rfl))
  · rw [final]
    change ended.calls ++ [.commit] ++ ended.commitListeners.notified.map .notify = _
    rw [endedReady.quiet, same]
    change s.calls ++ [.endPass] ++ [.commit] ++ [] = _
    simp

def passCalls (file : JcFile) (block : FsParams) : List LibCall :=
  match file with
  | .quad => [.simguiRender] ++ quadCalls none
  | .shadertoy | .tot => quadCalls (some block) ++ [.simguiRender]

-- The uniform block that a program draws with; quad.jc has none.
def JcFile.params (file : JcFile) (block : FsParams) : Option FsParams :=
  match file with
  | .quad => none
  | .shadertoy | .tot => some block

theorem frame_calls (file : JcFile) (input : FrameInput) (vars : Vars) : ∃ before window after,
    (file.program.frame input vars).2 = before ++ [newFrame input] ++ window ++ [.sgBeginPass] ++
      passCalls file (file.program.frame input vars).1.shParams ++ [.sgEndPass, .sgCommit] ++ after ∧
    (∀ call ∈ before, call.inAppFrame = true) ∧ (∀ call ∈ window, call.inAppFrame = true) ∧
      ∀ call ∈ after, call.inAppFrame = true := by
  cases file with
  | quad =>
      refine ⟨[], (Quad.appFrame input (Sapp.sappWidth input.sapp) (Sapp.sappHeight input.sapp) vars).2, [], ?_,
        List.forall_mem_nil _, window_frame_in_app_frame _ _ _ _ _ (quad_shape.inside input), List.forall_mem_nil _⟩
      change [newFrame input] ++ _ ++ _ = _
      simp only [passCalls, quadCalls, List.append_assoc, List.append_nil]
      rfl
  | shadertoy =>
      refine ⟨[], (Shadertoy.appFrame input (Sapp.sappWidth input.sapp) (Sapp.sappHeight input.sapp) vars).2,
        if input.requestClose then [.sappQuit] else [], ?_, List.forall_mem_nil _,
        window_frame_in_app_frame _ _ _ _ _ (shadertoy_shape.inside input), ?_⟩
      · change [newFrame input] ++ _ ++ _ ++ _ = _
        simp only [passCalls, quadCalls, List.append_assoc]
        rfl
      · split
        · exact List.forall_mem_singleton.mpr rfl
        · exact List.forall_mem_nil _
  | tot =>
      refine ⟨Tot.reflectKeyboard input.keys,
        (Tot.appFrame input (Sapp.sappWidth input.sapp) (Sapp.sappHeight input.sapp) vars).2, [], ?_, ?_,
        window_frame_in_app_frame _ _ _ _ _ (tot_shape.inside input), List.forall_mem_nil _⟩
      · change Tot.reflectKeyboard input.keys ++ [newFrame input] ++ _ ++ _ = _
        simp only [passCalls, quadCalls, List.append_assoc, List.append_nil]
        rfl
      · intro call member
        rw [tot_keyboard_quits input.keys call member]
        rfl

-- A frame on the screen: in one pass over the whole window the quad is drawn with the uniforms of the
-- frame, and what else reaches the device belongs to Dear ImGui.
def Presented (layout : Layout) (d : App) (params : Option FsParams) (width height : Int)
    (sent : List BackendCall) : Prop :=
  ∃ before after, (∀ call ∈ before ++ after, call.midPass = true) ∧
    sent = [.beginPass 0 width height] ++ before ++ drawSent d.pip d.bind (params.toList.map layout.uniforms) 0 6 1 ++
      after ++ [.endPass, .commit]

theorem pass_ready (file : JcFile) {block : FsParams} (ready : Prepared layout quad num size d g s) (inside : InPass s)
    (fair : host.Fair num input)
    (fits : ∀ given ∈ file.params block, (layout.uniforms given).Fits layout.blocks) :
    ∃ next before after, libRun layout host input (passCalls file block) (d.on g s) = some (d.on g next) ∧
      Prepared layout quad num size d g next ∧ InPass next ∧ (∀ call ∈ before ++ after, call.midPass = true) ∧
      next.calls = s.calls ++ before ++
        drawSent d.pip d.bind ((file.params block).toList.map layout.uniforms) 0 6 1 ++ after := by
  cases file with
  | quad =>
      obtain ⟨middle, sent, renders, middleReady, open_, mid, calls⟩ := render_ready ready inside fair
      obtain ⟨next, draws, nextReady, still, drawn⟩ := quad_ready middleReady open_ fair fits
      refine ⟨next, sent, [], (lib_run_append (lib_run_one renders)).trans draws, nextReady, still, ?_, ?_⟩
      · rw [List.append_nil]
        exact mid
      · rw [drawn, calls, List.append_nil]
  | shadertoy | tot =>
      obtain ⟨middle, draws, middleReady, open_, drawn⟩ := quad_ready ready inside fair fits
      obtain ⟨next, sent, renders, nextReady, still, mid, calls⟩ := render_ready middleReady open_ fair
      refine ⟨next, [], sent, (lib_run_append draws).trans (lib_run_one renders), nextReady, still, mid, ?_⟩
      rw [calls, drawn, List.append_nil]

theorem frame_ready (file : JcFile) {vars : Vars} (ready : Prepared layout quad num size d g s) (outside : s.curPass = {})
    (fair : host.Fair num input)
    (fits : ∀ given ∈ file.params (file.program.frame input vars).1.shParams,
      (layout.uniforms given).Fits layout.blocks) :
    ∃ gui next sent, libRun layout host input (file.program.frame input vars).2 (d.on g s) = some (d.on gui next) ∧
      Prepared layout quad num size d gui next ∧ next.curPass = {} ∧ next.calls = s.calls ++ sent ∧
      Presented layout d (file.params (file.program.frame input vars).1.shParams)
        (Sapp.sappWidth input.sapp) (Sapp.sappHeight input.sapp) sent := by
  obtain ⟨lead, window, trail, calls, quits, windows, asides⟩ := frame_calls file input vars
  obtain ⟨gui, fresh, frames, freshReady, freshOutside, freshCalls⟩ :
      ∃ gui next, libStep layout host input (d.on g s) (newFrame input) = some (d.on gui next) ∧
        Prepared layout quad num size d gui next ∧ next.curPass = s.curPass ∧ next.calls = s.calls :=
    new_frame_ready ready
  obtain ⟨begun, begins, begunReady, open_, begunCalls⟩ := begin_ready freshReady (freshOutside.trans outside) fair
  obtain ⟨drawn, before, after, draws, drawnReady, still, mid, drawnCalls⟩ := pass_ready file begunReady open_ fair fits
  obtain ⟨final, ends, finalReady, closed, finalCalls⟩ :
      ∃ next, libRun layout host input [.sgEndPass, .sgCommit] (d.on gui drawn) = some (d.on gui next) ∧
        Prepared layout quad num size d gui next ∧ next.curPass = {} ∧ next.calls = drawn.calls ++ [.endPass, .commit] :=
    end_ready drawnReady still
  refine ⟨gui, final, _, ?_, finalReady, closed, ?_, before, after, mid, rfl⟩
  · rw [calls]
    simp only [List.append_assoc]
    exact (lib_run_append (aside_run quits)).trans <| (lib_run_append (lib_run_one frames)).trans <|
      (lib_run_append (aside_run windows)).trans <| (lib_run_append (lib_run_one begins)).trans <|
      (lib_run_append draws).trans <| (lib_run_append ends).trans (aside_run asides)
  · rw [finalCalls, drawnCalls, begunCalls, freshCalls]
    simp only [List.append_assoc]

end WakeAlpha.Demo
