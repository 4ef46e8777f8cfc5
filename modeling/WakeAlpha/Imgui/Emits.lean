import WakeAlpha.Imgui.Draws

set_option autoImplicit false

namespace WakeAlpha.Imgui

open WakeAlpha.Gfx

-- The calls that simgui_render makes after its uploads.
inductive Emitted (g : Simgui) (frame : RenderFrame) (lists : List ImDrawList) : ImCall → Prop where
  | viewport : Emitted g frame lists (applyViewport frame)
  | scissorRect (r : Rect) : Emitted g frame lists (applyScissorRect r)
  | defaultPipeline : Emitted g frame lists (applyPipeline frame g.defPip)
  | pipeline (texId : Nat) : Emitted g frame lists (applyPipeline frame (g.pipOf texId))
  | uniforms : Emitted g frame lists (applyUniforms frame)
  | bindings (texId : Nat) (vbOffset ibOffset : Int) :
      Emitted g frame lists (applyBindings frame (g.bindingsFor texId vbOffset ibOffset))
  | draw (cl : ImDrawList) (listed : cl ∈ lists) (cmd : ImDrawCmd) (inside : cmd ∈ cl.cmdBuffer)
      (drawn : cmd.callback = .none) : Emitted g frame lists (drawElements cmd)
  | callback (cl : ImDrawList) (listed : cl ∈ lists) (cmd : ImDrawCmd) (inside : cmd ∈ cl.cmdBuffer)
      (calls : List SgCall) (user : cmd.callback = .user calls) : Emitted g frame lists (.callback calls)
  | resetStateCache : Emitted g frame lists (.sg .resetStateCache)

variable {g : Simgui} {frame : RenderFrame} {vbOffset ibOffset : Int} {lists : List ImDrawList}
variable {state next : RenderState} {cl : ImDrawList} {cmd : ImDrawCmd} {calls : List ImCall}

-- The bindings of the loop are always those of some texture.
def Simgui.Binds (g : Simgui) (ibOffset : Int) (bind : SgBindings) : Prop :=
  ∃ texId vbOffset, bind = g.bindingsFor texId vbOffset ibOffset

theorem render_cmd_emits (binds : g.Binds ibOffset state.bind) (listed : cl ∈ lists) (inside : cmd ∈ cl.cmdBuffer)
    (done : renderCmd g frame vbOffset state cmd = some (calls, next)) :
    g.Binds ibOffset next.bind ∧ ∀ call ∈ calls, Emitted g frame lists call := by
  obtain ⟨old, oldOffset, bind⟩ := binds
  rw [renderCmd] at done
  cases callback : cmd.callback with
  | user made =>
      rw [callback] at done
      cases done
      refine ⟨⟨old, oldOffset, bind⟩, ?_⟩
      rw [bind]
      simp only [List.forall_mem_cons]
      exact ⟨.callback cl listed cmd inside made callback, .resetStateCache, .viewport, .defaultPipeline, .uniforms,
        .bindings .., List.forall_mem_nil _⟩
  | resetRenderState =>
      rw [callback] at done
      cases done
      exact ⟨⟨old, oldOffset, bind⟩, List.forall_mem_nil _⟩
  | none =>
      rw [callback] at done
      dsimp only at done
      by_cases changed : state.texId ≠ cmd.textureId ∨ state.vtxOffset ≠ cmd.vtxOffset
      · rw [if_pos changed] at done
        obtain ⟨⟨img, bound⟩, bound_, done⟩ := Option.bind_eq_some_iff.mp done
        obtain ⟨rfl, rfl⟩ := bind_image_sampler_result
          (vbOffset + castInt (cmd.vtxOffset.toNat * sizeofImDrawVert)) ibOffset bound_
        dsimp only at done
        rw [bind, bindings_rebound] at done
        cases done
        refine ⟨⟨cmd.textureId, _, rfl⟩, ?_⟩
        simp only [List.cons_append, List.nil_append, List.forall_mem_cons]
        exact ⟨.pipeline cmd.textureId, .uniforms, .bindings .., .scissorRect _,
          .draw cl listed cmd inside callback, List.forall_mem_nil _⟩
      · rw [if_neg changed] at done
        cases done
        refine ⟨⟨old, oldOffset, bind⟩, ?_⟩
        simp only [List.forall_mem_cons]
        exact ⟨.scissorRect _, .draw cl listed cmd inside callback, List.forall_mem_nil _⟩

theorem emits_append {first second : List ImCall} (former : ∀ call ∈ first, Emitted g frame lists call)
    (latter : ∀ call ∈ second, Emitted g frame lists call) : ∀ call ∈ first ++ second, Emitted g frame lists call := by
  intro call member
  obtain early | late := List.mem_append.mp member
  · exact former call early
  · exact latter call late

theorem render_cmds_emits {cmds : List ImDrawCmd} (binds : g.Binds ibOffset state.bind) (listed : cl ∈ lists)
    (inside : ∀ cmd ∈ cmds, cmd ∈ cl.cmdBuffer)
    (done : renderCmds g frame vbOffset cmds state = some (calls, next)) :
    g.Binds ibOffset next.bind ∧ ∀ call ∈ calls, Emitted g frame lists call := by
  induction cmds generalizing state calls with
  | nil =>
      cases done
      exact ⟨binds, List.forall_mem_nil _⟩
  | cons cmd rest ih =>
      obtain ⟨⟨first, middle⟩, renders, done⟩ := Option.bind_eq_some_iff.mp done
      obtain ⟨⟨others, last⟩, rendered, done⟩ := Option.bind_eq_some_iff.mp done
      cases done
      obtain ⟨binds, former⟩ := render_cmd_emits binds listed (inside cmd (by simp)) renders
      obtain ⟨binds, latter⟩ := ih binds (fun other member => inside other (by simp [member])) rendered
      exact ⟨binds, emits_append former latter⟩

theorem render_lists_emits {some_ : List ImDrawList}
    (binds : ∃ texId, ∀ vb ib, { state.bind with vertexBufferOffsets := [vb], indexBufferOffset := ib } =
      g.bindingsFor texId vb ib)
    (listed : ∀ cl ∈ some_, cl ∈ lists)
    (done : renderLists g frame some_ vbOffset ibOffset state = some calls) :
    ∀ call ∈ calls, Emitted g frame lists call := by
  induction some_ generalizing state calls vbOffset ibOffset with
  | nil =>
      cases done
      exact List.forall_mem_nil _
  | cons cl rest ih =>
      obtain ⟨⟨first, middle⟩, renders, done⟩ := Option.bind_eq_some_iff.mp done
      obtain ⟨others, rendered, done⟩ := Option.bind_eq_some_iff.mp done
      cases done
      obtain ⟨texId, begun⟩ := binds
      rw [begun] at renders ⊢
      obtain ⟨⟨last, vb, bind⟩, former⟩ := render_cmds_emits ⟨texId, vbOffset, rfl⟩ (listed cl (by simp)) (fun _ => id) renders
      have still : ∀ vb ib, { middle.bind with vertexBufferOffsets := [vb], indexBufferOffset := ib } =
          g.bindingsFor last vb ib := by
        rw [bind]
        exact fun _ _ => rfl
      have latter := ih ⟨last, still⟩ (fun other member => listed other (by simp [member])) rendered
      refine emits_append (emits_append ?_ former) latter
      simp only [List.forall_mem_cons]
      exact ⟨.bindings .., List.forall_mem_nil _⟩

theorem uploaded {vtx idx : List UInt8} {call : ImCall} (member : call ∈ uploads g frame vtx idx) :
    (0 < vtx.length ∧ call = .sg (.updateBuffer g.vbuf ⟨some vtx, vtx.length⟩ frame.vbufReply)) ∨
      (0 < idx.length ∧ call = .sg (.updateBuffer g.ibuf ⟨some idx, idx.length⟩ frame.ibufReply)) := by
  rw [uploads, List.mem_append] at member
  refine member.imp ?_ ?_ <;> intro inside
  · by_cases some_ : 0 < vtx.length
    · rw [if_pos some_, List.mem_singleton] at inside
      exact ⟨some_, inside⟩
    · rw [if_neg some_] at inside
      cases inside
  · by_cases some_ : 0 < idx.length
    · rw [if_pos some_, List.mem_singleton] at inside
      exact ⟨some_, inside⟩
    · rw [if_neg some_] at inside
      cases inside

-- simgui_render uploads what fits and then makes none but these calls.
theorem render_emits {cmdLists : List ImDrawList} (done : simguiRender g frame (some cmdLists) = some calls) :
    ((copyLists g cmdLists [] []).1 = [] ∧ calls = []) ∨
      ∃ rest, calls = uploads g frame (copyLists g cmdLists [] []).2.1 (copyLists g cmdLists [] []).2.2 ++ rest ∧
        ∀ call ∈ rest, Emitted g frame (copyLists g cmdLists [] []).1 call := by
  obtain empty | ⟨img, bind, shown, binds, rendered, rfl⟩ := render_result done
  · exact Or.inl empty
  · have inner := render_lists_emits ⟨frame.fontTexId, bound_for binds⟩ (fun _ => id) rendered
    refine Or.inr ⟨_, rfl, emits_append (emits_append ?_ inner) ?_⟩
    · simp only [List.forall_mem_cons]
      exact ⟨.viewport, .scissorRect _, .defaultPipeline, .uniforms, List.forall_mem_nil _⟩
    · simp only [List.forall_mem_cons]
      exact ⟨.viewport, .scissorRect _, List.forall_mem_nil _⟩

end WakeAlpha.Imgui
