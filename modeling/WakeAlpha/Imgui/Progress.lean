import WakeAlpha.Imgui.Emits
import WakeAlpha.Imgui.Equipped
import WakeAlpha.Trace.Triples

set_option autoImplicit false

namespace WakeAlpha.Imgui

open Relation (ReflTransGen)
open WakeAlpha.Gfx WakeAlpha.Trace

-- simgui_render may run: a pass of the swapchain is open.
structure Presenting (num : Nat) (size : Kind → Nat) (g : Simgui) (s : SgState) : Prop where
  equipped : Equipped num size g s
  inPass : s.curPass.inPass = true
  pass : s.curPass.valid = true
  swapchain : s.curPass.attsId = 0

-- In that pass a pipeline of simgui is bound.
structure Piped (num : Nat) (size : Kind → Nat) (g : Simgui) (s : SgState) : Prop where
  presenting : Presenting num size g s
  own : s.curPipeline = g.defPip ∨ s.curPipeline = g.pipUnfilterable
  device : s.d3d11Pipeline = s.curPipeline

abbrev Renders (pre : SgState → Prop) (calls : List ImCall) (post : SgState → Prop) : Prop :=
  Leads sgStep pre (calls.flatMap ImCall.calls) post

variable {num : Nat} {size : Kind → Nat} {g : Simgui} {s next : SgState} {frame : RenderFrame}

theorem serves_append {pre mid post : SgState → Prop} {first second : List ImCall} (one : Renders pre first mid)
    (two : Renders mid second post) : Renders pre (first ++ second) post := by
  rw [Renders, List.flatMap_append]
  exact leads_append one two

theorem presenting_open (presenting : Presenting num size g s) : Open s :=
  ⟨presenting.equipped.valid, presenting.inPass, presenting.pass, fun offscreen => absurd presenting.swapchain offscreen⟩

theorem run_presenting {calls : List SgCall} (presenting : Presenting num size g s)
    (inside : ∀ call ∈ calls, call.midPass = true ∧ g.Leaves call) (done : sgRun s calls = some next) :
    Presenting num size g next := by
  have through := run_through presenting.equipped.inv (fun call member => (inside call member).1) done
  refine ⟨run_equipped presenting.equipped (fun call member => (inside call member).2) done, ?_, ?_, ?_⟩
  all_goals rw [through.curPass]
  · exact presenting.inPass
  · exact presenting.pass
  · exact presenting.swapchain

theorem step_presenting {call : SgCall} (presenting : Presenting num size g s) (inside : call.midPass = true)
    (leaves : g.Leaves call) (done : sgStep s call = some next) : Presenting num size g next := by
  refine run_presenting presenting (fun other member => ?_) ((run_next [] done).trans rfl)
  rw [List.mem_singleton.mp member]
  exact ⟨inside, leaves⟩

theorem leaves_unnamed {call : SgCall} (unnamed : ∀ k id, ¬ call.names k id) : g.Leaves call :=
  Or.inr fun h _ => unnamed h.1 h.2

-- A call that succeeds whenever a pass is open.
theorem presenting_serves {call : SgCall} (inside : call.midPass = true) (leaves : g.Leaves call)
    (total : ∀ s, Presenting num size g s → ∃ next, sgStep s call = some next) :
    Renders (Presenting num size g) [.sg call] (Presenting num size g) := by
  apply leads_one
  intro s presenting
  obtain ⟨next, done⟩ := total s presenting
  exact ⟨next, done, step_presenting presenting inside leaves done⟩

theorem piped_serves {call : SgCall} (keeps : call.keepsPipeline = true)
    (total : ∀ s, Piped num size g s → ∃ next, sgStep s call = some next) :
    Renders (Piped num size g) [.sg call] (Piped num size g) := by
  apply leads_one
  intro s piped
  obtain ⟨next, done⟩ := total s piped
  have inside : call.midPass = true ∧ ∀ k id, ¬ call.names k id := by
    cases call with
    | applyViewport _ _ _ _ _ | applyScissorRect _ _ _ _ _ | applyBindings _ _ | applyUniforms _ _ _ | draw _ _ _ =>
        exact ⟨rfl, fun _ _ => not_false⟩
    | _ => cases keeps
  obtain ⟨current, device⟩ := step_keeps_pipeline keeps done
  refine ⟨next, done, step_presenting piped.presenting inside.1 (leaves_unnamed inside.2) done, ?_, ?_⟩
  · rw [current]
    exact piped.own
  · rw [device, current]
    exact piped.device

theorem viewport_serves : Renders (Presenting num size g) [applyViewport frame] (Presenting num size g) :=
  presenting_serves rfl (leaves_unnamed fun _ _ => not_false) fun _ presenting =>
    rect_total presenting.equipped.valid presenting.inPass

theorem scissor_serves (r : Rect) : Renders (Presenting num size g) [applyScissorRect r] (Presenting num size g) :=
  presenting_serves rfl (leaves_unnamed fun _ _ => not_false) fun _ presenting =>
    rect_total presenting.equipped.valid presenting.inPass

theorem clip_serves (r : Rect) : Renders (Piped num size g) [applyScissorRect r] (Piped num size g) :=
  piped_serves rfl fun _ piped => rect_total piped.presenting.equipped.valid piped.presenting.inPass

-- What simgui_render is given for a frame is as sokol_imgui and the backend make it.
structure Fair (num : Nat) (g : Simgui) (frame : RenderFrame) : Prop where
  formats : frame.formats g.defPip = true ∧ frame.formats g.pipUnfilterable = true
  points : frame.vsParams.ptr.isSome = true
  params : frame.vsParams.size = sizeofVsParams
  font : ImageInRange num (UInt32.ofNat frame.fontTexId)

theorem own_live {pip : UInt32} (equipped : Equipped num size g s) (own : pip = g.defPip ∨ pip = g.pipUnfilterable) :
    ∃ shd, PipelineLive s pip shd simguiShaderDesc.uniformBlocks := by
  rcases own with rfl | rfl
  · exact ⟨g.defShd, equipped.default⟩
  · exact ⟨g.shdUnfilterable, equipped.unfilterable⟩

theorem pipeline_serves {pip : UInt32} (fair : Fair num g frame) (own : pip = g.defPip ∨ pip = g.pipUnfilterable) :
    Renders (Presenting num size g) [applyPipeline frame pip] (Piped num size g) := by
  have formats : frame.formats pip = true := by
    rcases own with rfl | rfl
    · exact fair.formats.1
    · exact fair.formats.2
  apply leads_one
  intro s presenting
  obtain ⟨shd, live⟩ := own_live presenting.equipped own
  obtain ⟨next, done, -, armed⟩ := apply_pipeline_live (presenting_open presenting) live
  rw [formats]
  have unnamed : ∀ k id, ¬ SgCall.names k id (.applyPipeline pip true) := fun _ _ => not_false
  refine ⟨next, done, step_presenting presenting rfl (leaves_unnamed unnamed) done, ?_, ?_⟩
  · rw [armed.curPipeline]
    exact own
  · rw [armed.d3d11Pipeline, armed.curPipeline]

theorem uniforms_serve (fair : Fair num g frame) :
    Renders (Piped num size g) [applyUniforms frame] (Piped num size g) := by
  refine piped_serves rfl fun s piped => ?_
  obtain ⟨shd, live⟩ := own_live piped.presenting.equipped piped.own
  let u : SgUniforms := ⟨.vs, 0, frame.vsParams⟩
  have fits : u.Fits simguiShaderDesc.uniformBlocks := by
    refine ⟨Nat.succ_pos _, Nat.succ_pos _, fair.points, ?_, fair.params⟩
    change 0 < frame.vsParams.size
    rw [fair.params]
    decide
  exact ⟨_, apply_uniforms_result_live (presenting_open piped.presenting) live rfl piped.device fits⟩

theorem texture_at (equipped : Equipped num size g s) {texId : Nat} {img : SimguiImage}
    (found : g.imageAt texId = some img) : Textured size g img := by
  unfold Simgui.imageAt at found
  split at found
  · rename_i index looked
    cases found
    exact equipped.textures index (lookup_found equipped.images.inv looked).used.live
  · cases found

theorem bindings_in_range (equipped : Equipped num size g s) (texId : Nat) (vbOffset ibOffset : Int) :
    BindingsInRange size (g.bindingsFor texId vbOffset ibOffset) := by
  have own (h : Handle) (listed : h ∈ g.resources) : InRange size h.1 h.2 :=
    equipped.inRange h (List.mem_append_left _ listed)
  refine ⟨?_, own (.buffer, g.ibuf) (by simp [Simgui.resources]),
    ⟨List.forall_mem_nil _, List.forall_mem_nil _, List.forall_mem_nil _⟩, ?_⟩
  · intro id member
    rw [List.mem_singleton.mp member]
    exact own (.buffer, g.vbuf) (by simp [Simgui.resources])
  · unfold Simgui.bindingsFor
    dsimp only
    split
    · rename_i img found
      have textured := texture_at equipped found
      constructor
      · exact fun id member => List.mem_singleton.mp member ▸ textured.image
      · exact fun id member => List.mem_singleton.mp member ▸ textured.sampler
      · exact List.forall_mem_nil _
    · constructor
      · exact fun id member => List.mem_singleton.mp member ▸ own (.image, g.defImg) (by simp [Simgui.resources])
      · exact fun id member => List.mem_singleton.mp member ▸ own (.sampler, g.defSmp) (by simp [Simgui.resources])
      · exact List.forall_mem_nil _

theorem bindings_serve (texId : Nat) (vbOffset ibOffset : Int) :
    Renders (Piped num size g) [applyBindings frame (g.bindingsFor texId vbOffset ibOffset)] (Piped num size g) := by
  refine piped_serves rfl fun s piped => ?_
  have equipped := piped.presenting.equipped
  have current : InRange size .pipeline s.curPipeline := by
    rcases piped.own with same | same
    · rw [same]
      exact equipped.inRange (.pipeline, g.defPip) (by simp [Simgui.resources])
    · rw [same]
      exact equipped.inRange (.pipeline, g.pipUnfilterable) (by simp [Simgui.resources])
  exact bindings_total equipped.inv equipped.valid piped.presenting.inPass current (bindings_in_range equipped ..)

variable {cl : ImDrawList} {cmd : ImDrawCmd} {state : RenderState} {ibOffset : Int}

-- A command whose texture simgui may have handed out, whose elements are in its list, and whose callback
-- keeps to the pass and succeeds.
structure ImDrawCmd.Fair (num : Nat) (size : Kind → Nat) (g : Simgui) (cl : ImDrawList) (cmd : ImDrawCmd) : Prop where
  texture : ImageInRange num (UInt32.ofNat cmd.textureId)
  elements : cmd.callback = .none → cmd.idxOffset.toNat + cmd.elemCount.toNat ≤ cl.idxBuffer.length
  inside : ∀ made, cmd.callback = .user made → ∀ call ∈ made, call.midPass = true ∧ g.Leaves call
  succeeds : ∀ made, cmd.callback = .user made → ∀ s, Presenting num size g s → ∃ next, sgRun s made = some next

theorem draw_serves (elements : cmd.idxOffset.toNat + cmd.elemCount.toNat ≤ cl.idxBuffer.length)
    (small : cl.idxBuffer.length < 2 ^ 31) : Renders (Piped num size g) [drawElements cmd] (Piped num size g) := by
  refine piped_serves rfl fun s piped => ?_
  refine draw_total piped.presenting.equipped.valid piped.presenting.inPass ?_ ?_ (by decide)
  · rw [cast_int_of_small (by omega)]
    exact Int.natCast_nonneg _
  · rw [cast_int_of_small (by omega)]
    exact Int.natCast_nonneg _

theorem callback_serves {made : List SgCall} (fair : Fair num g frame) (own : cmd.Fair num size g cl)
    (callback : cmd.callback = .user made) (texId : Nat) (vbOffset ibOffset : Int) :
    Renders (Piped num size g) [.callback made, .sg .resetStateCache, applyViewport frame, applyPipeline frame g.defPip,
      applyUniforms frame, applyBindings frame (g.bindingsFor texId vbOffset ibOffset)] (Piped num size g) := by
  have first : Renders (Piped num size g) [.callback made] (Presenting num size g) := by
    intro s piped
    obtain ⟨next, done⟩ := own.succeeds made callback s piped.presenting
    rw [List.flatMap_singleton]
    exact ⟨next, done, run_presenting piped.presenting (own.inside made callback) done⟩
  have second : Renders (Presenting num size g) [.sg .resetStateCache] (Presenting num size g) :=
    presenting_serves rfl (leaves_unnamed fun _ _ => not_false) fun _ presenting =>
      assert_exists presenting.equipped.valid ⟨_, rfl⟩
  exact serves_append first (serves_append second (serves_append viewport_serves
    (serves_append (pipeline_serves fair (Or.inl rfl)) (serves_append (uniforms_serve fair) (bindings_serve _ _ _)))))

theorem pip_own (equipped : Equipped num size g s) (texId : Nat) :
    g.pipOf texId = g.defPip ∨ g.pipOf texId = g.pipUnfilterable := by
  unfold Simgui.pipOf
  split
  · rename_i img found
    exact (texture_at equipped found).pip
  · exact Or.inl rfl

theorem bind_total (equipped : Equipped num size g s) {texId : Nat} (range : ImageInRange num (UInt32.ofNat texId))
    (bind : SgBindings) : ∃ img bound, bindImageSampler g bind texId = some (img, bound) := by
  obtain ⟨answer, looked⟩ := image_lookup_total equipped.images range
  rw [bindImageSampler, looked]
  cases answer with
  | none => exact ⟨_, _, rfl⟩
  | some index => exact ⟨_, _, rfl⟩

theorem render_cmd_serves (vbOffset : Int) (equipped : Equipped num size g s) (fair : Fair num g frame) (own : cmd.Fair num size g cl)
    (small : cl.idxBuffer.length < 2 ^ 31) (binds : g.Binds ibOffset state.bind) :
    ∃ calls next, renderCmd g frame vbOffset state cmd = some (calls, next) ∧ g.Binds ibOffset next.bind ∧
      Renders (Piped num size g) calls (Piped num size g) := by
  obtain ⟨old, oldOffset, bind⟩ := binds
  rw [renderCmd]
  cases callback : cmd.callback with
  | user made =>
      refine ⟨_, _, rfl, ⟨old, oldOffset, bind⟩, ?_⟩
      rw [bind]
      exact callback_serves fair own callback _ _ _
  | resetRenderState => exact ⟨_, _, rfl, ⟨old, oldOffset, bind⟩, leads_nil⟩
  | none =>
      have drawing : Renders (Piped num size g) [applyScissorRect cmd.clip, drawElements cmd] (Piped num size g) :=
        serves_append (clip_serves cmd.clip) (draw_serves (own.elements callback) small)
      dsimp only
      by_cases changed : state.texId ≠ cmd.textureId ∨ state.vtxOffset ≠ cmd.vtxOffset
      · obtain ⟨img, bound, binds⟩ := bind_total equipped own.texture state.bind
        obtain ⟨rfl, rfl⟩ := bind_image_sampler_result
          (vbOffset + castInt (cmd.vtxOffset.toNat * sizeofImDrawVert)) ibOffset binds
        rw [if_pos changed, binds]
        refine ⟨_, _, rfl, ?_, serves_append ?_ drawing⟩
        · dsimp only
          rw [bind, bindings_rebound]
          exact ⟨cmd.textureId, _, rfl⟩
        · rw [bind, bindings_rebound]
          have piped : Renders (Piped num size g) [applyPipeline frame (g.pipOf cmd.textureId)] (Piped num size g) :=
            leads_of_imp (fun _ piped => piped.presenting) (pipeline_serves fair (pip_own equipped cmd.textureId))
          exact serves_append piped (serves_append (uniforms_serve fair) (bindings_serve _ _ _))
      · rw [if_neg changed]
        exact ⟨_, _, rfl, ⟨old, oldOffset, bind⟩, drawing⟩

theorem render_cmds_serve {cmds : List ImDrawCmd} (vbOffset : Int) (equipped : Equipped num size g s) (fair : Fair num g frame)
    (own : ∀ cmd ∈ cmds, cmd.Fair num size g cl) (small : cl.idxBuffer.length < 2 ^ 31)
    (binds : g.Binds ibOffset state.bind) :
    ∃ calls next, renderCmds g frame vbOffset cmds state = some (calls, next) ∧ g.Binds ibOffset next.bind ∧
      Renders (Piped num size g) calls (Piped num size g) := by
  induction cmds generalizing state with
  | nil => exact ⟨_, _, rfl, binds, leads_nil⟩
  | cons cmd rest ih =>
      obtain ⟨first, middle, renders, binds, serves⟩ :=
        render_cmd_serves vbOffset equipped fair (own cmd (by simp)) small binds
      obtain ⟨others, last, rendered, binds, later⟩ := ih (fun other member => own other (by simp [member])) binds
      refine ⟨first ++ others, last, ?_, binds, serves_append serves later⟩
      rw [renderCmds, renders]
      change (renderCmds g frame vbOffset rest middle >>= fun _ => _) = _
      rw [rendered]
      rfl

theorem render_lists_serve {lists : List ImDrawList} (vbOffset ibOffset : Int) (equipped : Equipped num size g s) (fair : Fair num g frame)
    (own : ∀ cl ∈ lists, ∀ cmd ∈ cl.cmdBuffer, cmd.Fair num size g cl)
    (small : ∀ cl ∈ lists, cl.idxBuffer.length < 2 ^ 31)
    (binds : ∃ texId, ∀ vb ib, { state.bind with vertexBufferOffsets := [vb], indexBufferOffset := ib } =
      g.bindingsFor texId vb ib) :
    ∃ calls, renderLists g frame lists vbOffset ibOffset state = some calls ∧
      Renders (Piped num size g) calls (Piped num size g) := by
  induction lists generalizing state vbOffset ibOffset with
  | nil => exact ⟨_, rfl, leads_nil⟩
  | cons cl rest ih =>
      obtain ⟨texId, begun⟩ := binds
      let start : RenderState := ⟨g.bindingsFor texId vbOffset ibOffset, state.texId, 0⟩
      have bound : g.Binds ibOffset start.bind := ⟨texId, vbOffset, rfl⟩
      obtain ⟨first, middle, renders, ⟨last, vb, bind⟩, serves⟩ :=
        render_cmds_serve vbOffset equipped fair (own cl (by simp)) (small cl (by simp)) bound
      have still : ∀ vb ib, { middle.bind with vertexBufferOffsets := [vb], indexBufferOffset := ib } =
          g.bindingsFor last vb ib := by
        rw [bind]
        exact fun _ _ => rfl
      obtain ⟨others, rendered, later⟩ := ih _ _ (fun other member => own other (by simp [member]))
        (fun other member => small other (by simp [member])) ⟨last, still⟩
      refine ⟨[applyBindings frame (g.bindingsFor texId vbOffset ibOffset)] ++ first ++ others, ?_,
        serves_append (serves_append (bindings_serve _ _ _) serves) later⟩
      rw [renderLists, begun]
      change (renderCmds g frame vbOffset cl.cmdBuffer start >>= fun _ => _) = _
      rw [renders]
      change (renderLists g frame rest _ _ middle >>= fun _ => _) = _
      rw [rendered]
      rfl

end WakeAlpha.Imgui
