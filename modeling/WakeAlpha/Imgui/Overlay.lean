import WakeAlpha.Imgui.Custody
import WakeAlpha.Imgui.Progress

set_option autoImplicit false

namespace WakeAlpha.Imgui

open Relation (ReflTransGen)
open WakeAlpha.Gfx WakeAlpha.Trace

variable {num : Nat} {size : Kind → Nat} {g : Simgui} {s next : SgState} {frame : RenderFrame}

-- What is copied fits into the buffers of simgui.
theorem copied_fits (g : Simgui) (cmdLists : List ImDrawList) :
    (copyLists g cmdLists [] []).2.1.length ≤ g.vertices ∧ (copyLists g cmdLists [] []).2.2.length ≤ g.indices ∧
      ∀ cl ∈ (copyLists g cmdLists [] []).1, cl.idxBuffer.length ≤ g.indices := by
  obtain ⟨count, copied⟩ := copy_result g cmdLists (show g.Fits [] [] [] from ⟨Nat.zero_le _, Nat.zero_le _⟩)
  obtain ⟨vertices, indices⟩ := (copied.longest count copied.bound).mpr (Nat.le_refl _)
  rw [copied.result]
  refine ⟨vertices, indices, fun cl member => ?_⟩
  have inside : cl.indices.length ≤ ((cmdLists.take count).flatMap ImDrawList.indices).length :=
    (List.sublist_flatten_of_mem (List.mem_map_of_mem member)).length_le
  rw [indices_length, sizeofImDrawIdx] at inside
  rw [List.nil_append] at indices
  omega

theorem uploads_serve {vtx idx : List UInt8} (vertices : vtx.length ≤ g.vertices) (indices : idx.length ≤ g.indices) :
    Renders (Presenting num size g) (uploads g frame vtx idx) (Presenting num size g) := by
  have upload (id : UInt32) (n : Nat) (data : List UInt8) (reply : MapReply) (room : data.length ≤ n)
      (sized_ : ∀ s, Presenting num size g s → n < 2 ^ 31 ∧ Live s .buffer (sized n) id) :
      Renders (Presenting num size g)
        (if 0 < data.length then [.sg (.updateBuffer id ⟨some data, data.length⟩ reply)] else [])
        (Presenting num size g) := by
    by_cases some_ : 0 < data.length
    · rw [if_pos some_]
      refine presenting_serves rfl (Or.inl ⟨_, _, _, rfl⟩) fun s presenting => ?_
      obtain ⟨small, live⟩ := sized_ s presenting
      exact update_total presenting.equipped.valid presenting.equipped.validation live small rfl some_ room
    · rw [if_neg some_]
      exact leads_nil
  exact serves_append
    (upload _ _ _ _ vertices fun s presenting => ⟨presenting.equipped.small.1, presenting.equipped.vertices⟩)
    (upload _ _ _ _ indices fun s presenting => ⟨presenting.equipped.small.2, presenting.equipped.indices⟩)

-- No assertion fails while simgui renders, and the pass stays open.
theorem render_serves {cmdLists : List ImDrawList} (presenting : Presenting num size g s) (fair : Fair num g frame)
    (own : ∀ cl ∈ cmdLists, ∀ cmd ∈ cl.cmdBuffer, cmd.Fair num size g cl) :
    ∃ calls, simguiRender g frame (some cmdLists) = some calls ∧
      Renders (Presenting num size g) calls (Presenting num size g) := by
  have equipped := presenting.equipped
  obtain ⟨vertices, indices, small⟩ := copied_fits g cmdLists
  rw [simguiRender, assert_bind equipped.cookie]
  dsimp only
  by_cases empty : (copyLists g cmdLists [] []).1 = []
  · rw [if_pos empty]
    exact ⟨[], rfl, leads_nil⟩
  · rw [if_neg empty]
    obtain ⟨img, bind, binds⟩ := bind_total equipped fair.font { vertexBuffers := [g.vbuf], indexBuffer := g.ibuf }
    let state : RenderState := ⟨bind, frame.fontTexId, 0⟩
    have bound : ∃ texId, ∀ vb ib, { state.bind with vertexBufferOffsets := [vb], indexBufferOffset := ib } =
        g.bindingsFor texId vb ib := ⟨frame.fontTexId, bound_for binds⟩
    obtain ⟨calls, rendered, serves⟩ := render_lists_serve 0 0 equipped fair
      (fun cl member => own cl (copied_listed g cmdLists cl member))
      (fun cl member => Nat.lt_of_le_of_lt (small cl member) equipped.small.2) bound
    rw [binds]
    change ∃ result, (renderLists g frame _ 0 0 state >>= fun _ => _) = some result ∧ _
    rw [rendered]
    refine ⟨_, rfl, ?_⟩
    have begins : Renders (Presenting num size g)
        [applyViewport frame, applyScissorRect ⟨0, 0, frame.fbWidth, frame.fbHeight⟩, applyPipeline frame g.defPip,
          applyUniforms frame] (Piped num size g) :=
      serves_append viewport_serves (serves_append (scissor_serves _)
        (serves_append (pipeline_serves fair (Or.inl rfl)) (uniforms_serve fair)))
    have ends : Renders (Piped num size g)
        [applyViewport frame, applyScissorRect ⟨0, 0, frame.fbWidth, frame.fbHeight⟩] (Presenting num size g) :=
      leads_of_imp (fun _ piped => piped.presenting) (serves_append viewport_serves (scissor_serves _))
    exact serves_append (serves_append (serves_append (uploads_serve vertices indices) begins) serves) ends

-- A resource that has been made, and what it must be when it is valid.
structure Want where
  kind : Kind
  ready : Body kind → Bool
  id : UInt32

def AllFit (s : SgState) (wants : List Want) : Prop := ∀ want ∈ wants, Fit s want.kind want.ready want.id

section Making

variable {k : Kind} {id : UInt32} {desc : Desc k} {reply : InitReply} {wants : List Want}

theorem run_fits {calls : List SgCall} (inv : s.Inv size) (fits : AllFit s wants)
    (unnamed : ∀ call ∈ calls, ∀ want ∈ wants, ¬ call.names want.kind want.id) (done : sgRun s calls = some next) :
    AllFit next wants := by
  induction calls generalizing s with
  | nil =>
      cases done
      exact fits
  | cons call rest ih =>
      obtain ⟨middle, step, done⟩ := run_cons_some done
      exact ih (step_inv inv step) (fun want member => step_fit inv (fits want member) (unnamed call (by simp) want member) step)
        (fun other member => unnamed other (by simp [member])) done

theorem make_keeps (inv : s.Inv size) (fits : AllFit s wants) (done : sgMake k desc reply s = some (id, next)) :
    AllFit next wants := by
  intro want member
  have unnamed : ¬ SgCall.names want.kind want.id (.make k desc reply) := fun names => names
  exact step_fit inv (fits want member) unnamed (make_step done)

theorem make_wanted {ready : Body k → Bool} (inv : s.Inv size) (fits : AllFit s wants)
    (done : sgMake k desc reply s = some (id, next)) (fit : Fit next k ready id) :
    AllFit next (⟨k, ready, id⟩ :: wants) := by
  intro want member
  rcases List.mem_cons.mp member with rfl | before
  · exact fit
  · exact make_keeps inv fits done want before

end Making

-- What simgui_setup makes and cannot render without.
def Simgui.wants (g : Simgui) : List Want :=
  [⟨.buffer, sized g.indices, g.ibuf⟩, ⟨.buffer, sized g.vertices, g.vbuf⟩,
    ⟨.pipeline, fun body => decide (body = ⟨slotIndexOf g.shdUnfilterable, g.shdUnfilterable⟩), g.pipUnfilterable⟩,
    ⟨.shader, hasBlocks simguiShaderDesc.uniformBlocks, g.shdUnfilterable⟩,
    ⟨.pipeline, fun body => decide (body = ⟨slotIndexOf g.defShd, g.defShd⟩), g.defPip⟩,
    ⟨.shader, hasBlocks simguiShaderDesc.uniformBlocks, g.defShd⟩]

-- simgui can render as soon as its equipment is valid.
structure Furnished (num : Nat) (size : Kind → Nat) (g : Simgui) (s : SgState) : Prop extends Outfit num size g s where
  fits : AllFit s g.wants

theorem furnished_equipped (furnished : Furnished num size g s)
    (made : ∀ h ∈ g.equipment, sgQueryState h.1 h.2 s = some .valid) : Equipped num size g s := by
  have fits := furnished.fits
  simp only [AllFit, Simgui.wants, List.forall_mem_cons] at fits
  simp only [Simgui.equipment, List.forall_mem_cons] at made
  obtain ⟨ibuf, vbuf, pipUnfilterable, shdUnfilterable, defPip, defShd, -⟩ := fits
  obtain ⟨defShdMade, defPipMade, shdUnfilterableMade, pipUnfilterableMade, vbufMade, ibufMade, -⟩ := made
  exact ⟨furnished.toOutfit, ⟨fit_live defPip defPipMade, fit_live defShd defShdMade⟩,
    ⟨fit_live pipUnfilterable pipUnfilterableMade, fit_live shdUnfilterable shdUnfilterableMade⟩,
    fit_live vbuf vbufMade, fit_live ibuf ibufMade⟩

theorem font_step_furnished {gui : Simgui} {gfx : SgState} (furnished : Furnished num size g s)
    (step : FontStep num size g s gui gfx) : Furnished num size gui gfx := by
  obtain ⟨calls, textures, ran⟩ := step.run
  refine ⟨step.outfit, ?_⟩
  have wants : gui.wants = g.wants := by
    simp only [Simgui.wants, step.same.defShd, step.same.defPip, step.same.shdUnfilterable, step.same.pipUnfilterable,
      step.same.vbuf, step.same.ibuf, step.same.vertices, step.same.indices]
  rw [wants]
  refine run_fits furnished.inv furnished.fits (fun call member want listed named => ?_) ran
  have kind := textures.names call member _ _ named
  simp only [Simgui.wants, List.mem_cons, List.not_mem_nil, or_false] at listed
  rcases listed with rfl | rfl | rfl | rfl | rfl | rfl <;> rcases kind with wrong | wrong <;> cases wrong

section Setup

variable {desc : SimguiDesc} {replies : SetupReplies} {atlas : FontAtlas} {begun : SgState}

theorem setup_vertices (done : simguiSetup desc replies atlas s = some (g, begun)) :
    g.vertices = (simguiDescDefaults desc).maxVertices.toNat * sizeofImDrawVert := by
  obtain ⟨m, ⟨rfl, -⟩ | creates⟩ := setup_made done
  · rfl
  · obtain ⟨-, creates⟩ := assert_some creates
    obtain ⟨-, creates⟩ := assert_some creates
    obtain ⟨-, creates⟩ := assert_some creates
    obtain ⟨_, -, creates⟩ := bind_some creates
    obtain ⟨_, -, creates⟩ := bind_some creates
    obtain ⟨⟨_, named⟩, makes, creates⟩ := bind_some creates
    cases creates
    exact (made_same_equipment (make_image_result (setup_images m.pool) makes).2).vertices

theorem setup_furnished (inv : s.Inv size) (valid : s.valid = true) (validation : s.validation = true)
    (done : simguiSetup desc replies atlas s = some (g, begun)) (small : g.vertices < 2 ^ 31) :
    Furnished (simguiDescDefaults desc).imagePoolSize.toNat size g begun ∧ Kept s begun := by
  rw [setup_vertices done] at small
  obtain ⟨m, fonts⟩ := setup_made done
  obtain ⟨-, room, fresh⟩ := setup_some m.pool
  have positive := m.positive
  have inv₁ := step_inv inv (make_step m.first)
  have inv₂ := step_inv inv₁ (make_step m.second)
  have inv₃ := step_inv inv₂ (make_step m.third)
  have inv₄ := step_inv inv₃ (make_step m.fourth)
  have inv₅ := step_inv inv₄ (make_step m.fifth)
  have inv₆ := step_inv inv₅ (make_step m.sixth)
  have inv₇ := step_inv inv₆ (make_step m.seventh)
  have kept : Kept s m.s₈ :=
    kept_trans (step_kept inv (make_step m.first) rfl) <| kept_trans (step_kept inv₁ (make_step m.second) rfl) <|
      kept_trans (step_kept inv₂ (make_step m.third) rfl) <| kept_trans (step_kept inv₃ (make_step m.fourth) rfl) <|
      kept_trans (step_kept inv₄ (make_step m.fifth) rfl) <| kept_trans (step_kept inv₅ (make_step m.sixth) rfl) <|
      kept_trans (step_kept inv₆ (make_step m.seventh) rfl) (step_kept inv₇ (make_step m.eighth) rfl)
  have some_ : (simguiDescDefaults desc).maxVertices.toNat ≠ 0 := by omega
  have fits := make_wanted inv (List.forall_mem_nil _ : AllFit s []) m.first (make_shader_fit inv m.first)
  have fits := make_wanted inv₁ fits m.second (make_pipeline_fit inv₁ m.second)
  have fits := make_wanted inv₂ fits m.third (make_shader_fit inv₂ m.third)
  have fits := make_wanted inv₃ fits m.fourth (make_pipeline_fit inv₃ m.fourth)
  have fits := make_wanted inv₄ fits m.fifth (make_buffer_fit inv₄ (Nat.mul_ne_zero some_ (by decide)) m.fifth)
  have fits := make_wanted inv₅ fits m.sixth
    (make_buffer_fit inv₅ (Nat.mul_ne_zero (Nat.mul_ne_zero some_ (by decide)) (by decide)) m.sixth)
  have fits := make_keeps inv₇ (make_keeps inv₆ fits m.seventh) m.eighth
  have outfit : Outfit (simguiDescDefaults desc).imagePoolSize.toNat size m.gui m.s₈ := by
    refine ⟨step_inv inv₇ (make_step m.eighth), kept.valid.trans valid, kept.validation.trans validation, rfl,
      setup_images m.pool, ⟨small, ?_⟩, ?_, Or.inl rfl, ?_⟩
    · change (simguiDescDefaults desc).maxVertices.toNat * 20 < 2 ^ 31 at small
      change (simguiDescDefaults desc).maxVertices.toNat * 3 * 2 < 2 ^ 31
      omega
    · simp only [Simgui.resources, Simgui.fontResources, List.cons_append, List.nil_append, List.forall_mem_cons]
      exact ⟨made_in_range inv₇ m.eighth, made_in_range inv₆ m.seventh, made_in_range inv₅ m.sixth,
        made_in_range inv₄ m.fifth, made_in_range inv₃ m.fourth, made_in_range inv₂ m.third,
        made_in_range inv₁ m.second, made_in_range inv m.first, Or.inl rfl, Or.inl rfl, List.forall_mem_nil _⟩
    · intro index alive
      change (m.images.slot index).state.Live at alive
      rw [fresh] at alive
      simp [SgStore.fresh, SgStore.slot, SgResourceState.Live] at alive
  rcases fonts with ⟨rfl, rfl⟩ | creates
  · exact ⟨⟨outfit, fits⟩, kept⟩
  · have fonts := create_fonts_result outfit creates
    obtain ⟨calls, textures, ran⟩ := fonts.run
    exact ⟨font_step_furnished ⟨outfit, fits⟩ fonts, kept_trans kept (run_kept outfit.inv textures.resources ran)⟩

end Setup

-- What the rest of the program keeps to: it leaves simgui its equipment, and its images have handles that
-- sokol_gfx can hand out.
def Rules.leaving (size : Kind → Nat) : Rules :=
  ⟨Simgui.Leaves, fun desc => InRange size .image desc.image ∧ InRange size .sampler desc.sampler⟩

theorem emitted_leaves {lists : List ImDrawList} {im : ImCall} {call : SgCall}
    (callbacks : ∀ cl ∈ lists, ∀ cmd ∈ cl.cmdBuffer, ∀ made, cmd.callback = .user made → ∀ call ∈ made, g.Leaves call)
    (emitted : Emitted g frame lists im) (inside : call ∈ im.calls) : g.Leaves call := by
  cases emitted with
  | callback cl listed cmd within made user => exact callbacks cl listed cmd within made user call inside
  | _ =>
      cases List.mem_singleton.mp inside
      exact leaves_unnamed fun _ _ => not_false

theorem step_scene {w after : Scene} (equipped : Equipped num size w.gui w.gfx) (step : SceneStep (.leaving size) w after) :
    Equipped num size after.gui after.gfx := by
  cases step with
  | gfx call next leaves done => exact step_equipped equipped leaves done
  | newFrame frame gui gfx done => exact font_step_equipped equipped (new_frame_result equipped.toOutfit done)
  | render frame cmdLists calls gfx leaves rendered done =>
      refine run_equipped equipped (fun call member => ?_) done
      obtain ⟨im, listed, inside⟩ := List.mem_flatMap.mp member
      obtain ⟨-, rfl⟩ | ⟨rest, rfl, emits⟩ := render_emits rendered
      · cases listed
      · obtain early | late := List.mem_append.mp listed
        · rcases uploaded early with ⟨-, rfl⟩ | ⟨-, rfl⟩
          · exact Or.inl ⟨_, _, _, List.mem_singleton.mp inside⟩
          · exact Or.inl ⟨_, _, _, List.mem_singleton.mp inside⟩
        · exact emitted_leaves (fun cl drawn => leaves cl (copied_listed w.gui cmdLists cl drawn)) (emits im late) inside
  | makeImage desc filterable id gui fair done =>
      obtain ⟨-, outfit, same⟩ := make_image_outfit equipped.toOutfit fair.1 fair.2 done
      exact equipped_of_same equipped outfit same
  | destroyImage id gui done =>
      obtain ⟨outfit, same⟩ := drop_image_outfit equipped.toOutfit done
      exact equipped_of_same equipped outfit same

theorem shutdown_total (equipped : Equipped num size g s) : ∃ result, simguiShutdown g s = some result := by
  have fair : ∀ call ∈ g.releaseCalls, call.Fair size := by
    intro call member
    obtain ⟨⟨q, h⟩, listed, rfl⟩ := List.mem_map.mp member
    refine equipped.inRange h (List.mem_append.mpr ?_)
    exact (released_listed g listed).imp And.right And.right
  obtain ⟨final, ran⟩ := run_total equipped.inv equipped.valid fair
  obtain ⟨gui, shuts⟩ := shutdown_runs equipped.cookie equipped.images ran
  exact ⟨(gui, final), shuts⟩

-- What simgui can be asked without an assertion failing.
structure Serving (num : Nat) (size : Kind → Nat) (w : Scene) : Prop where
  newFrame : ∀ frame : NewFrame, 0 < frame.width → 0 < frame.height →
    ∃ result, simguiNewFrame frame w.gui w.gfx = some result
  render : ∀ (frame : RenderFrame) (cmdLists : List ImDrawList), Fair num w.gui frame →
    (∀ cl ∈ cmdLists, ∀ cmd ∈ cl.cmdBuffer, cmd.Fair num size w.gui cl) →
    w.gfx.curPass.inPass = true → w.gfx.curPass.valid = true → w.gfx.curPass.attsId = 0 →
    ∃ calls gfx, simguiRender w.gui frame (some cmdLists) = some calls ∧
      sgRun w.gfx (calls.flatMap ImCall.calls) = some gfx ∧ gfx.curPass.inPass = true ∧ gfx.curPass.valid = true
  makeImage : ∀ (desc : SimguiImageDesc) (filterable : UInt32 → Bool),
    ∃ id gui, simguiMakeImage desc filterable w.gui = some (id, gui) ∧ ImageInRange num id
  destroyImage : ∀ id, ImageInRange num id → ∃ gui, simguiDestroyImage id w.gui = some gui
  shutdown : ∃ result, simguiShutdown w.gui w.gfx = some result

theorem equipped_serving {w : Scene} (equipped : Equipped num size w.gui w.gfx) : Serving num size w := by
  constructor
  · intro frame width height
    obtain ⟨gui, gfx, done, -⟩ := new_frame_total equipped width height
    exact ⟨(gui, gfx), done⟩
  · intro frame cmdLists fair own inPass pass swapchain
    have presenting : Presenting num size w.gui w.gfx := ⟨equipped, inPass, pass, swapchain⟩
    obtain ⟨calls, rendered, serves⟩ := render_serves presenting fair own
    obtain ⟨gfx, ran, last⟩ := serves w.gfx presenting
    exact ⟨calls, gfx, rendered, ran, last.inPass, last.pass⟩
  · intro desc filterable
    obtain ⟨id, gui, done⟩ := image_served desc filterable equipped
    exact ⟨id, gui, done, (make_image_result equipped.images done).1⟩
  · intro id range
    exact drop_image_total equipped.images equipped.cookie range
  · exact shutdown_total equipped

end WakeAlpha.Imgui
