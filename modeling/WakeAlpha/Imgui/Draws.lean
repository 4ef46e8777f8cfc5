import WakeAlpha.Imgui.Render
import WakeAlpha.Words.Records

set_option autoImplicit false

namespace WakeAlpha.Imgui

open WakeAlpha.Gfx WakeAlpha.Words

theorem vertices_length (cl : ImDrawList) : cl.vertices.length = cl.vtxBuffer.length * sizeofImDrawVert :=
  records_length ImDrawVert.sizeof cl.vtxBuffer

theorem indices_length (cl : ImDrawList) : cl.indices.length = cl.idxBuffer.length * sizeofImDrawIdx :=
  records_length ImDrawIdx.sizeof cl.idxBuffer

-- Lists whose data still fits after what is there.
def Simgui.Fits (g : Simgui) (vtx idx : List UInt8) (lists : List ImDrawList) : Prop :=
  (vtx ++ lists.flatMap ImDrawList.vertices).length ≤ g.vertices ∧
    (idx ++ lists.flatMap ImDrawList.indices).length ≤ g.indices

-- copyLists takes the first count lists and no more would fit.
structure Copied (g : Simgui) (cmdLists : List ImDrawList) (vtx idx : List UInt8) (count : Nat) : Prop where
  bound : count ≤ cmdLists.length
  result : copyLists g cmdLists vtx idx = (cmdLists.take count,
    vtx ++ (cmdLists.take count).flatMap ImDrawList.vertices, idx ++ (cmdLists.take count).flatMap ImDrawList.indices)
  longest : ∀ n ≤ cmdLists.length, g.Fits vtx idx (cmdLists.take n) ↔ n ≤ count

theorem fits_cons (g : Simgui) (vtx idx : List UInt8) (cl : ImDrawList) (lists : List ImDrawList) :
    g.Fits vtx idx (cl :: lists) ↔ g.Fits (vtx ++ cl.vertices) (idx ++ cl.indices) lists := by
  unfold Simgui.Fits
  rw [List.flatMap_cons, List.flatMap_cons, List.append_assoc, List.append_assoc]

theorem copy_result (g : Simgui) (cmdLists : List ImDrawList) {vtx idx : List UInt8} (fits : g.Fits vtx idx []) :
    ∃ count, Copied g cmdLists vtx idx count := by
  induction cmdLists generalizing vtx idx with
  | nil =>
      refine ⟨0, Nat.zero_le _, ?_, ?_⟩
      · simp [copyLists]
      · intro n bound
        exact ⟨fun _ => bound, fun _ => by rwa [List.take_nil]⟩
  | cons cl rest ih =>
      have sizes : (vtx.length + cl.vtxBuffer.length * sizeofImDrawVert > g.vertices ∨
          idx.length + cl.idxBuffer.length * sizeofImDrawIdx > g.indices) ↔
          ¬ g.Fits (vtx ++ cl.vertices) (idx ++ cl.indices) [] := by
        simp only [Simgui.Fits, List.flatMap_nil, List.append_nil, List.length_append, vertices_length,
          indices_length, not_and_or, Nat.not_le, gt_iff_lt]
      by_cases room : g.Fits (vtx ++ cl.vertices) (idx ++ cl.indices) []
      · obtain ⟨count, copied⟩ := ih room
        refine ⟨count + 1, Nat.succ_le_succ copied.bound, ?_, ?_⟩
        · rw [copyLists, if_neg (fun large => sizes.mp large room), copied.result]
          simp only [List.take_succ_cons, List.flatMap_cons, List.append_assoc]
        · intro n bound
          cases n with
          | zero => exact ⟨fun _ => Nat.zero_le _, fun _ => fits⟩
          | succ n =>
              rw [List.take_succ_cons, fits_cons, copied.longest n (Nat.le_of_succ_le_succ bound)]
              exact Nat.succ_le_succ_iff.symm
      · refine ⟨0, Nat.zero_le _, ?_, ?_⟩
        · rw [copyLists, if_pos (sizes.mpr room)]
          simp
        · intro n bound
          cases n with
          | zero => exact ⟨fun _ => Nat.le_refl 0, fun _ => fits⟩
          | succ n =>
              rw [List.take_succ_cons, fits_cons]
              constructor
              · intro more
                apply absurd _ room
                simp only [Simgui.Fits, List.flatMap_nil, List.append_nil, List.length_append] at more ⊢
                omega
              · intro impossible
                omega

theorem copied_listed (g : Simgui) (cmdLists : List ImDrawList) :
    ∀ cl ∈ (copyLists g cmdLists [] []).1, cl ∈ cmdLists := by
  obtain ⟨count, copied⟩ := copy_result g cmdLists (show g.Fits [] [] [] from ⟨Nat.zero_le _, Nat.zero_le _⟩)
  intro cl member
  rw [copied.result] at member
  exact List.mem_of_mem_take member

-- The state a draw is made with, as far as it is known: nothing is known after a user callback.
structure DrawState where
  viewport : Option Rect := none
  scissor : Option Rect := none
  pipeline : Option UInt32 := none
  uniforms : Option SgRange := none
  bindings : Option SgBindings := none
deriving DecidableEq

structure Draw where
  state : DrawState
  baseElement : Int
  numElements : Int
  numInstances : Int
deriving DecidableEq

def DrawState.after (d : DrawState) : ImCall → DrawState
  | .callback _ => {}
  | .sg (.applyViewport x y width height _) => { d with viewport := some ⟨x, y, width, height⟩ }
  | .sg (.applyScissorRect x y width height _) => { d with scissor := some ⟨x, y, width, height⟩ }
  | .sg (.applyPipeline id _) => { d with pipeline := some id }
  | .sg (.applyUniforms _ _ data) => { d with uniforms := some data }
  | .sg (.applyBindings bindings _) => { d with bindings := some bindings }
  | .sg _ => d

def drawAt (d : DrawState) : ImCall → List Draw
  | .sg (.draw baseElement numElements numInstances) => [⟨d, baseElement, numElements, numInstances⟩]
  | _ => []

def drawsOf (d : DrawState) : List ImCall → List Draw
  | [] => []
  | call :: rest => drawAt d call ++ drawsOf (d.after call) rest

theorem draws_append (d : DrawState) (first second : List ImCall) :
    drawsOf d (first ++ second) = drawsOf d first ++ drawsOf (first.foldl DrawState.after d) second := by
  induction first generalizing d with
  | nil => rfl
  | cons call rest ih =>
      rw [List.cons_append, drawsOf, drawsOf, ih, List.append_assoc]
      rfl

-- The image a texture id stands for, and what is bound for it.
def Simgui.imageAt (g : Simgui) (texId : Nat) : Option SimguiImage :=
  match g.images.lookup (UInt32.ofNat texId) with
  | some (some index) => some (g.images.body index)
  | _ => none

def Simgui.pipOf (g : Simgui) (texId : Nat) : UInt32 :=
  match g.imageAt texId with
  | some img => img.pip
  | none => g.defPip

def Simgui.bindingsFor (g : Simgui) (texId : Nat) (vbOffset ibOffset : Int) : SgBindings :=
  { vertexBuffers := [g.vbuf]
    vertexBufferOffsets := [vbOffset]
    indexBuffer := g.ibuf
    indexBufferOffset := ibOffset
    fs :=
      match g.imageAt texId with
      | some img => { images := [img.image], samplers := [img.sampler] }
      | none => { images := [g.defImg], samplers := [g.defSmp] } }

-- The renderer without the variables of its loop: every draw sets all of its state.
def plainCmd (g : Simgui) (frame : RenderFrame) (vbOffset ibOffset : Int) (cmd : ImDrawCmd) : List ImCall :=
  match cmd.callback with
  | .user calls => [.callback calls]
  | .resetRenderState => []
  | .none =>
      [applyViewport frame, applyPipeline frame (g.pipOf cmd.textureId), applyUniforms frame,
        applyBindings frame (g.bindingsFor cmd.textureId
          (vbOffset + castInt (cmd.vtxOffset.toNat * sizeofImDrawVert)) ibOffset),
        applyScissorRect cmd.clip, drawElements cmd]

def plainLists (g : Simgui) (frame : RenderFrame) : List ImDrawList → (vbOffset ibOffset : Int) → List ImCall
  | [], _, _ => []
  | cl :: rest, vbOffset, ibOffset =>
      cl.cmdBuffer.flatMap (plainCmd g frame vbOffset ibOffset) ++
        plainLists g frame rest (vbOffset + castInt (cl.vtxBuffer.length * sizeofImDrawVert))
          (ibOffset + castInt (cl.idxBuffer.length * sizeofImDrawIdx))

-- The two renderers are compared in three ways. A user callback makes simgui_render go back to its
-- default pipeline, whatever the texture needs.
inductive Comparison where
  | apartFromPipelines
  | withoutCallbacks
  | defaultPipelines
deriving DecidableEq

def Draw.seen (mode : Comparison) (draw : Draw) : Draw :=
  match mode with
  | .apartFromPipelines => { draw with state := { draw.state with pipeline := none } }
  | _ => draw

def Comparison.Covers (mode : Comparison) (g : Simgui) (cmd : ImDrawCmd) : Prop :=
  match mode with
  | .apartFromPipelines => True
  | .withoutCallbacks => ∀ calls, cmd.callback ≠ .user calls
  | .defaultPipelines => g.pipOf cmd.textureId = g.defPip

-- The variables of the loop and the state of the device, between two commands of a list.
structure Shows (mode : Comparison) (g : Simgui) (frame : RenderFrame) (vbOffset ibOffset : Int)
    (state : RenderState) (d : DrawState) : Prop where
  viewport : d.viewport = some ⟨0, 0, frame.fbWidth, frame.fbHeight⟩
  uniforms : d.uniforms = some frame.vsParams
  bindings : d.bindings = some state.bind
  bind : state.bind =
    g.bindingsFor state.texId (vbOffset + castInt (state.vtxOffset.toNat * sizeofImDrawVert)) ibOffset
  pipeline : mode ≠ .apartFromPipelines → d.pipeline = some (g.pipOf state.texId)
  default : mode = .defaultPipelines → g.pipOf state.texId = g.defPip

variable {mode : Comparison} {g : Simgui} {frame : RenderFrame} {vbOffset ibOffset : Int}
variable {state next : RenderState} {d : DrawState} {cmd : ImDrawCmd} {calls : List ImCall}

theorem bind_image_sampler_result {bind bound : SgBindings} {texId : Nat} {img : Option SimguiImage}
    (vbOffset ibOffset : Int) (done : bindImageSampler g bind texId = some (img, bound)) :
    img = g.imageAt texId ∧
      bound = { bind with fs := { bind.fs with
        images := (g.bindingsFor texId vbOffset ibOffset).fs.images
        samplers := (g.bindingsFor texId vbOffset ibOffset).fs.samplers } } := by
  unfold Simgui.bindingsFor Simgui.imageAt
  obtain ⟨answer, looked, done⟩ := Option.bind_eq_some_iff.mp done
  rw [looked]
  cases answer with
  | none =>
      cases done
      exact ⟨rfl, rfl⟩
  | some index =>
      cases done
      exact ⟨rfl, rfl⟩

theorem bound_for {bind : SgBindings} {texId : Nat} {img : Option SimguiImage}
    (done : bindImageSampler g { vertexBuffers := [g.vbuf], indexBuffer := g.ibuf } texId = some (img, bind))
    (vbOffset ibOffset : Int) :
    { bind with vertexBufferOffsets := [vbOffset], indexBufferOffset := ibOffset } =
      g.bindingsFor texId vbOffset ibOffset := by
  rw [(bind_image_sampler_result vbOffset ibOffset done).2]
  unfold Simgui.bindingsFor
  cases g.imageAt texId <;> rfl

-- Bindings that are changed where a command changes them are the bindings of its texture.
theorem bindings_rebound (g : Simgui) (old texId : Nat) (oldOffset vbOffset ibOffset : Int) :
    { g.bindingsFor old oldOffset ibOffset with
      vertexBufferOffsets := [vbOffset]
      fs := { (g.bindingsFor old oldOffset ibOffset).fs with
        images := (g.bindingsFor texId vbOffset ibOffset).fs.images
        samplers := (g.bindingsFor texId vbOffset ibOffset).fs.samplers } } =
      g.bindingsFor texId vbOffset ibOffset := by
  unfold Simgui.bindingsFor
  cases g.imageAt old with
  | none => cases g.imageAt texId <;> rfl
  | some img => cases g.imageAt texId <;> rfl

-- What a draw of the plain renderer shows does not depend on what came before it.
theorem plain_draws (d : DrawState) (drawn : cmd.callback = .none) :
    drawsOf d (plainCmd g frame vbOffset ibOffset cmd) =
      [⟨⟨some ⟨0, 0, frame.fbWidth, frame.fbHeight⟩, some cmd.clip, some (g.pipOf cmd.textureId),
          some frame.vsParams, some (g.bindingsFor cmd.textureId
            (vbOffset + castInt (cmd.vtxOffset.toNat * sizeofImDrawVert)) ibOffset)⟩,
        castInt cmd.idxOffset.toNat, castInt cmd.elemCount.toNat, 1⟩] := by
  rw [plainCmd, drawn]
  rfl

theorem seen_eq {a b : Draw} (same : a.state = { b.state with pipeline := a.state.pipeline })
    (pipeline : mode ≠ .apartFromPipelines → a.state.pipeline = b.state.pipeline)
    (counts : (a.baseElement, a.numElements, a.numInstances) = (b.baseElement, b.numElements, b.numInstances)) :
    a.seen mode = b.seen mode := by
  obtain ⟨first, _, _, _⟩ := a
  obtain ⟨second, _, _, _⟩ := b
  cases counts
  dsimp only at same pipeline
  cases mode with
  | apartFromPipelines =>
      simp only [Draw.seen]
      rw [same]
  | withoutCallbacks =>
      have eq := pipeline (by decide)
      rw [eq] at same
      simp only [Draw.seen]
      rw [same]
  | defaultPipelines =>
      have eq := pipeline (by decide)
      rw [eq] at same
      simp only [Draw.seen]
      rw [same]

theorem render_cmd_shows (shows_ : Shows mode g frame vbOffset ibOffset state d) (covers : mode.Covers g cmd)
    (done : renderCmd g frame vbOffset state cmd = some (calls, next)) :
    Shows mode g frame vbOffset ibOffset next (calls.foldl DrawState.after d) ∧
      ∀ other, (drawsOf d calls).map (Draw.seen mode) =
        (drawsOf other (plainCmd g frame vbOffset ibOffset cmd)).map (Draw.seen mode) := by
  unfold renderCmd at done
  cases callback : cmd.callback with
  | user calls =>
      rw [callback] at done
      cases done
      constructor
      · -- everything is applied again, with the default pipeline
        refine ⟨rfl, rfl, rfl, shows_.bind, ?_, shows_.default⟩
        intro whole
        cases mode with
        | apartFromPipelines => contradiction
        | withoutCallbacks => exact absurd callback (covers calls)
        | defaultPipelines => exact congrArg some (shows_.default rfl).symm
      · intro other
        rw [plainCmd, callback]
        rfl
  | resetRenderState =>
      rw [callback] at done
      cases done
      constructor
      · exact shows_
      · intro other
        rw [plainCmd, callback]
        rfl
  | none =>
      rw [callback] at done
      dsimp only at done
      by_cases changed : state.texId ≠ cmd.textureId ∨ state.vtxOffset ≠ cmd.vtxOffset
      · rw [if_pos changed] at done
        obtain ⟨⟨img, bound⟩, binds, done⟩ := Option.bind_eq_some_iff.mp done
        obtain ⟨rfl, rfl⟩ := bind_image_sampler_result
          (vbOffset + castInt (cmd.vtxOffset.toNat * sizeofImDrawVert)) ibOffset binds
        have rebound := bindings_rebound g state.texId cmd.textureId
          (vbOffset + castInt (state.vtxOffset.toNat * sizeofImDrawVert))
          (vbOffset + castInt (cmd.vtxOffset.toNat * sizeofImDrawVert)) ibOffset
        rw [← shows_.bind] at rebound
        dsimp only at done
        rw [rebound] at done
        cases done
        constructor
        · refine ⟨shows_.viewport, rfl, rfl, rfl, fun _ => rfl, ?_⟩
          intro plain
          subst plain
          exact covers
        · intro other
          rw [plain_draws other callback, ← shows_.viewport]
          rfl
      · rw [if_neg changed] at done
        rw [not_or, not_not, not_not] at changed
        obtain ⟨texture, offset⟩ := changed
        cases done
        have bind := shows_.bind
        rw [texture, offset] at bind
        constructor
        · exact ⟨shows_.viewport, shows_.uniforms, shows_.bindings, shows_.bind, shows_.pipeline, shows_.default⟩
        · intro other
          rw [plain_draws other callback]
          apply congrArg (fun draw => [draw])
          apply seen_eq
          · change DrawState.mk d.viewport (some cmd.clip) d.pipeline d.uniforms d.bindings = _
            rw [shows_.viewport, shows_.uniforms, shows_.bindings, bind]
            rfl
          · intro whole
            rw [← texture]
            exact shows_.pipeline whole
          · rfl

theorem render_cmds_shows {cmds : List ImDrawCmd} (shows_ : Shows mode g frame vbOffset ibOffset state d)
    (covers : ∀ cmd ∈ cmds, mode.Covers g cmd) (done : renderCmds g frame vbOffset cmds state = some (calls, next)) :
    Shows mode g frame vbOffset ibOffset next (calls.foldl DrawState.after d) ∧
      ∀ other, (drawsOf d calls).map (Draw.seen mode) =
        (drawsOf other (cmds.flatMap (plainCmd g frame vbOffset ibOffset))).map (Draw.seen mode) := by
  induction cmds generalizing state d calls with
  | nil =>
      cases done
      exact ⟨shows_, fun _ => rfl⟩
  | cons cmd rest ih =>
      obtain ⟨⟨first, middle⟩, renders, done⟩ := Option.bind_eq_some_iff.mp done
      obtain ⟨⟨others, last⟩, rendered, done⟩ := Option.bind_eq_some_iff.mp done
      cases done
      obtain ⟨shown, here⟩ := render_cmd_shows shows_ (covers cmd (by simp)) renders
      obtain ⟨final, later⟩ := ih shown (fun other member => covers other (by simp [member])) rendered
      constructor
      · rw [List.foldl_append]
        exact final
      · intro other
        rw [List.flatMap_cons, draws_append, draws_append, List.map_append, List.map_append, here other]
        exact congrArg _ (later _)

-- Between two lists the offsets of the bindings are still to be set.
structure Carries (mode : Comparison) (g : Simgui) (frame : RenderFrame) (state : RenderState) (d : DrawState) :
    Prop where
  viewport : d.viewport = some ⟨0, 0, frame.fbWidth, frame.fbHeight⟩
  uniforms : d.uniforms = some frame.vsParams
  bind : ∀ vbOffset ibOffset,
    { state.bind with vertexBufferOffsets := [vbOffset], indexBufferOffset := ibOffset } =
      g.bindingsFor state.texId vbOffset ibOffset
  pipeline : mode ≠ .apartFromPipelines → d.pipeline = some (g.pipOf state.texId)
  default : mode = .defaultPipelines → g.pipOf state.texId = g.defPip

theorem shows_carries (shows_ : Shows mode g frame vbOffset ibOffset state d) : Carries mode g frame state d := by
  apply Carries.mk shows_.viewport shows_.uniforms _ shows_.pipeline shows_.default
  intro vb ib
  rw [shows_.bind]
  rfl

theorem render_lists_shows {lists : List ImDrawList} (carries : Carries mode g frame state d)
    (covers : ∀ cl ∈ lists, ∀ cmd ∈ cl.cmdBuffer, mode.Covers g cmd)
    (done : renderLists g frame lists vbOffset ibOffset state = some calls) (other : DrawState) :
    (drawsOf d calls).map (Draw.seen mode) =
      (drawsOf other (plainLists g frame lists vbOffset ibOffset)).map (Draw.seen mode) := by
  induction lists generalizing state d calls vbOffset ibOffset other with
  | nil =>
      cases done
      rfl
  | cons cl rest ih =>
      obtain ⟨⟨first, middle⟩, renders, done⟩ := Option.bind_eq_some_iff.mp done
      obtain ⟨others, rendered, done⟩ := Option.bind_eq_some_iff.mp done
      cases done
      have zero : vbOffset + castInt ((0 : UInt32).toNat * sizeofImDrawVert) = vbOffset := Int.add_zero vbOffset
      let bind : SgBindings := { state.bind with vertexBufferOffsets := [vbOffset], indexBufferOffset := ibOffset }
      have begun : Shows mode g frame vbOffset ibOffset ⟨bind, state.texId, 0⟩ { d with bindings := some bind } := by
        have bound : bind = g.bindingsFor state.texId vbOffset ibOffset := carries.bind vbOffset ibOffset
        rw [← zero] at bound
        exact ⟨carries.viewport, carries.uniforms, rfl, bound, carries.pipeline, carries.default⟩
      obtain ⟨shown, here⟩ := render_cmds_shows begun (covers cl (by simp)) renders
      have later := ih (shows_carries shown) (fun other member => covers other (by simp [member])) rendered
      change (drawsOf { d with bindings := some bind } (first ++ others)).map (Draw.seen mode) = _
      rw [plainLists, draws_append, draws_append, List.map_append, List.map_append, ← here other]
      exact congrArg _ (later _)

theorem uploads_shown (g : Simgui) (frame : RenderFrame) (d : DrawState) (vtx idx : List UInt8) :
    (uploads g frame vtx idx).foldl DrawState.after d = d ∧ drawsOf d (uploads g frame vtx idx) = [] := by
  unfold uploads
  by_cases vertices : 0 < vtx.length <;> by_cases indices : 0 < idx.length <;>
    simp only [vertices, indices, if_true, if_false] <;> exact ⟨rfl, rfl⟩

theorem render_result {cmdLists : List ImDrawList} (done : simguiRender g frame (some cmdLists) = some calls) :
    ((copyLists g cmdLists [] []).1 = [] ∧ calls = []) ∨
      ∃ img bind shown,
        bindImageSampler g { vertexBuffers := [g.vbuf], indexBuffer := g.ibuf } frame.fontTexId = some (img, bind) ∧
        renderLists g frame (copyLists g cmdLists [] []).1 0 0 ⟨bind, frame.fontTexId, 0⟩ = some shown ∧
        calls = uploads g frame (copyLists g cmdLists [] []).2.1 (copyLists g cmdLists [] []).2.2 ++
          ([applyViewport frame, applyScissorRect ⟨0, 0, frame.fbWidth, frame.fbHeight⟩,
            applyPipeline frame g.defPip, applyUniforms frame] ++ shown ++
            [applyViewport frame, applyScissorRect ⟨0, 0, frame.fbWidth, frame.fbHeight⟩]) := by
  obtain ⟨_, _, done⟩ := Option.bind_eq_some_iff.mp done
  dsimp only at done
  by_cases empty : (copyLists g cmdLists [] []).1 = []
  · rw [if_pos empty] at done
    cases done
    exact .inl ⟨empty, rfl⟩
  · rw [if_neg empty] at done
    obtain ⟨⟨img, bind⟩, binds, done⟩ := Option.bind_eq_some_iff.mp done
    obtain ⟨shown, rendered, done⟩ := Option.bind_eq_some_iff.mp done
    cases done
    exact .inr ⟨img, bind, shown, binds, rendered, by simp only [List.append_assoc]⟩

theorem render_shows {cmdLists : List ImDrawList} (done : simguiRender g frame (some cmdLists) = some calls)
    (covers : ∀ cl ∈ (copyLists g cmdLists [] []).1, ∀ cmd ∈ cl.cmdBuffer, mode.Covers g cmd)
    (font : mode ≠ .apartFromPipelines → g.pipOf frame.fontTexId = g.defPip) :
    (drawsOf {} calls).map (Draw.seen mode) =
      (drawsOf {} (plainLists g frame (copyLists g cmdLists [] []).1 0 0)).map (Draw.seen mode) := by
  obtain ⟨empty, rfl⟩ | ⟨img, bind, shown, binds, rendered, rfl⟩ := render_result done
  · rw [empty]
    rfl
  · obtain ⟨kept, undrawn⟩ := uploads_shown g frame {} (copyLists g cmdLists [] []).2.1 (copyLists g cmdLists [] []).2.2
    let whole : Rect := ⟨0, 0, frame.fbWidth, frame.fbHeight⟩
    let begun : DrawState := ⟨some whole, some whole, some g.defPip, some frame.vsParams, none⟩
    have carries : Carries mode g frame ⟨bind, frame.fontTexId, 0⟩ begun := by
      apply Carries.mk rfl rfl (bound_for binds) (fun apart => congrArg some (font apart).symm)
      intro plain
      apply font
      rw [plain]
      decide
    rw [draws_append, undrawn, kept, draws_append, draws_append, ← render_lists_shows carries covers rendered {}]
    change (([] ++ drawsOf begun shown) ++ []).map _ = _
    rw [List.append_nil, List.nil_append]

theorem seen_whole (draws : List Draw) (whole : mode ≠ .apartFromPipelines) : draws.map (Draw.seen mode) = draws := by
  cases mode with
  | apartFromPipelines => contradiction
  | withoutCallbacks | defaultPipelines => exact List.map_id draws

-- A renderer with room for three vertices and three indices.
def smallGui : Simgui :=
  { initCookie := true, images := SgStore.fresh 1, vertices := 60, indices := 6, vbuf := 1, ibuf := 2, defPip := 3 }

def smallVert : ImDrawVert := ⟨List.replicate sizeofImDrawVert 7, rfl⟩
def smallIdx : ImDrawIdx := ⟨[0, 0], rfl⟩
def smallList : ImDrawList := ⟨[smallVert], [smallIdx, smallIdx, smallIdx], [{ elemCount := 3 }]⟩

end WakeAlpha.Imgui
