import WakeAlpha.Demo.Frames

set_option autoImplicit false

namespace WakeAlpha.Demo

open WakeAlpha.Gfx WakeAlpha.Imgui

variable {layout : Layout} {quad : List Rat} {num : Nat} {size : Kind → Nat} {host : Host} {input : FrameInput}
variable {d after : App} {g : Simgui} {s next : SgState} {hosts : Nat → Host} {inputs : Nat → FrameInput}

theorem frames_ready (file : JcFile) (ready : Prepared layout quad num size d g s) (outside : s.curPass = {})
    (fair : ∀ k, (hosts k).Fair num (inputs k))
    (fits : ∀ block, ∀ given ∈ file.params block, (layout.uniforms given).Fits layout.blocks) (n : Nat) :
    ∃ (gui : Simgui) (next : SgState) (sent : List (List BackendCall)),
      runFrames layout file hosts inputs (d.on g s) n = some (d.on gui next) ∧
      Prepared layout quad num size d gui next ∧ next.curPass = {} ∧
      sent.length = n ∧ next.calls = s.calls ++ sent.flatten ∧
      ∀ k < n, ∃ frame, sent[k]? = some frame ∧
        Presented layout d (file.params (file.program.varsAt inputs (k + 1)).shParams)
          (Sapp.sappWidth (inputs k).sapp) (Sapp.sappHeight (inputs k).sapp) frame := by
  induction n with
  | zero =>
      exact ⟨g, s, [], rfl, ready, outside, rfl, (List.append_nil _).symm,
        fun k before => absurd before (Nat.not_lt_zero k)⟩
  | succ n ih =>
      obtain ⟨gui, middle, sent, ran, middleReady, closed, count, calls, shown⟩ := ih
      obtain ⟨last, next, frame, frames, nextReady, nextClosed, nextCalls, presented⟩ :=
        frame_ready file middleReady closed (fair n) (fits (file.program.varsAt inputs (n + 1)).shParams)
      refine ⟨last, next, sent ++ [frame], ?_, nextReady, nextClosed, ?_, ?_, ?_⟩
      · change (runFrames layout file hosts inputs (d.on g s) n >>= fun _ => _) = _
        rw [ran]
        exact frames
      · rw [List.length_append, count]
        rfl
      · rw [nextCalls, calls, List.flatten_append, List.flatten_singleton, List.append_assoc]
      · intro k before
        rcases Nat.lt_succ_iff_lt_or_eq.mp before with earlier | rfl
        · obtain ⟨old, listed, was⟩ := shown k earlier
          refine ⟨old, ?_, was⟩
          rw [List.getElem?_append_left (by omega), listed]
        · refine ⟨frame, ?_, presented⟩
          rw [← count]
          simp

theorem lib_run_cons_some {call : LibCall} {rest : List LibCall}
    (done : libRun layout host input (call :: rest) d = some after) :
    ∃ middle, libStep layout host input d call = some middle ∧ libRun layout host input rest middle = some after := by
  rw [libRun, List.foldlM_cons] at done
  exact bind_some done

def App.made (d : App) (g : Simgui) : List Handle :=
  g.equipment ++ [(.pipeline, d.pip), (.shader, d.shd), (.buffer, d.bind.indexBuffer)] ++
    d.bind.vertexBuffers.map fun id => (.buffer, id)

-- What a buffer is made with is in it, and it takes part in draws as soon as it is valid.
theorem make_buffer_loaded {bytes : List UInt8} {type : SgBufferType} {reply : InitReply} {id : UInt32}
    (inv : s.Inv size) (done : sgMake .buffer { type := type, data := rangeOf bytes } reply s = some (id, next)) :
    Fit next .buffer (fun body => notOverflown body && holds bytes body) id := by
  refine make_fit inv done fun before old body _ inits => ?_
  simp only [initBody, sgInitBuffer, pure, Option.some.injEq] at inits
  split at inits
  · obtain ⟨-, rfl⟩ := Prod.mk.injEq .. ▸ inits
    rw [Bool.and_eq_true]
    exact ⟨rfl, decide_eq_true fun _ _ => rfl⟩
  · cases inits

theorem live_and {k : Kind} {first second : Body k → Bool} {id : UInt32}
    (live : Live s k (fun body => first body && second body) id) : Live s k first id ∧ Live s k second id := by
  obtain ⟨index, found, valid, both⟩ := live
  obtain ⟨one, two⟩ := (Bool.and_eq_true _ _).mp both
  exact ⟨⟨index, found, valid, one⟩, index, found, valid, two⟩

theorem made_apart {k : Kind} {desc : Desc k} {reply : InitReply} {id : UInt32} {wants : List Want} {want : Want}
    (inv : s.Inv size) (fits : AllFit s wants) (listed : want ∈ wants) (some_ : want.id ≠ 0)
    (done : sgMake k desc reply s = some (id, next)) (same : want.kind = k) : id ≠ want.id := by
  obtain zero | ⟨index, found, -⟩ := fits want listed
  · exact absurd zero some_
  · rcases make_result_handles inv done with ⟨rfl, -⟩ | ⟨-, fresh, -⟩
    · exact some_.symm
    · rintro rfl
      subst same
      exact fresh ⟨index, found⟩

-- What init leaves: the quad and simgui, each with resources of its own, and nothing sent to the device yet.
theorem init_ready {file : JcFile} (begun : libRun layout host input file.program.init {} = some d)
    (gui : d.gui = some g) (gfx : d.gfx = some s) (made : ∀ h ∈ d.made g, sgQueryState h.1 h.2 s = some .valid) :
    ∃ size, Prepared layout file.vertices (simguiDescDefaults {}).imagePoolSize.toNat size d g s ∧
      s.curPass = {} ∧ s.calls = [] := by
  obtain ⟨attrs, calls⟩ : ∃ attrs, file.program.init = setupWith (makeQuad file.vertices attrs) := by
    cases file <;> exact ⟨_, rfl⟩
  rw [calls] at begun
  obtain ⟨d₁, setup, begun⟩ := lib_run_cons_some begun
  obtain ⟨s₁, started, setup⟩ := bind_some setup
  cases setup
  obtain ⟨d₂, overlay, begun⟩ := lib_run_cons_some begun
  obtain ⟨_, ⟨⟩, overlay⟩ := bind_some overlay
  obtain ⟨⟨g₂, s₂⟩, overlays, overlay⟩ := bind_some overlay
  cases overlay
  obtain ⟨d₃, third, begun⟩ := lib_run_cons_some begun
  obtain ⟨_, ⟨⟩, third⟩ := bind_some third
  obtain ⟨⟨vbuf, s₃⟩, vertexBuffer, third⟩ := bind_some third
  cases third
  obtain ⟨d₄, fourth, begun⟩ := lib_run_cons_some begun
  obtain ⟨_, ⟨⟩, fourth⟩ := bind_some fourth
  obtain ⟨⟨ibuf, s₄⟩, indexBuffer, fourth⟩ := bind_some fourth
  cases fourth
  obtain ⟨d₅, fifth, begun⟩ := lib_run_cons_some begun
  obtain ⟨_, ⟨⟩, fifth⟩ := bind_some fifth
  obtain ⟨⟨shd, s₅⟩, shader, fifth⟩ := bind_some fifth
  cases fifth
  obtain ⟨d₆, sixth, begun⟩ := lib_run_cons_some begun
  obtain ⟨_, ⟨⟩, sixth⟩ := bind_some sixth
  obtain ⟨⟨pip, s₆⟩, pipeline, sixth⟩ := bind_some sixth
  cases sixth
  cases begun
  obtain rfl : g₂ = g := Option.some.inj gui
  obtain rfl : s₆ = s := Option.some.inj gfx
  have start := setup_result started
  have small : g₂.vertices < 2 ^ 31 := by
    rw [setup_vertices overlays]
    decide
  have inv₁ := started_inv start
  obtain ⟨furnished, kept₁⟩ := setup_furnished inv₁ start.valid start.validation overlays small
  have inv₂ := furnished.inv
  have inv₃ := step_inv inv₂ (make_step vertexBuffer)
  have inv₄ := step_inv inv₃ (make_step indexBuffer)
  have inv₅ := step_inv inv₄ (make_step shader)
  have outfit := step_outfit (step_outfit (step_outfit (step_outfit furnished.toOutfit (make_step vertexBuffer))
    (make_step indexBuffer)) (make_step shader)) (make_step pipeline)
  have kept : Kept s₁ s₆ :=
    kept_trans kept₁ <| kept_trans (step_kept inv₂ (make_step vertexBuffer) rfl) <|
      kept_trans (step_kept inv₃ (make_step indexBuffer) rfl) <|
      kept_trans (step_kept inv₄ (make_step shader) rfl) (step_kept inv₅ (make_step pipeline) rfl)
  have fits := make_wanted inv₂ furnished.fits vertexBuffer (make_buffer_loaded inv₂ vertexBuffer)
  have fits := make_wanted inv₃ fits indexBuffer (make_buffer_loaded inv₃ indexBuffer)
  have fits := make_wanted inv₄ fits shader (make_shader_fit inv₄ shader)
  have fits := make_wanted inv₅ fits pipeline (make_pipeline_fit inv₅ pipeline)
  obtain ⟨pipFit, fits⟩ := List.forall_mem_cons.mp fits
  obtain ⟨shdFit, fits⟩ := List.forall_mem_cons.mp fits
  obtain ⟨ibufFit, fits⟩ := List.forall_mem_cons.mp fits
  obtain ⟨vbufFit, wants⟩ := List.forall_mem_cons.mp fits
  obtain ⟨before, vbufMade⟩ := List.forall_mem_append.mp made
  obtain ⟨equipmentMade, quadMade⟩ := List.forall_mem_append.mp before
  simp only [List.map_cons, List.map_nil, List.forall_mem_singleton] at vbufMade
  simp only [List.forall_mem_cons] at quadMade
  obtain ⟨pipMade, shdMade, ibufMade, -⟩ := quadMade
  have equipped := furnished_equipped ⟨outfit, wants⟩ equipmentMade
  have own : ⟨.buffer, sized g₂.vertices, g₂.vbuf⟩ ∈ g₂.wants ∧
      ⟨.buffer, sized g₂.indices, g₂.ibuf⟩ ∈ g₂.wants := by
    simp [Simgui.wants]
  have vertexNamed := live_ne_zero equipped.vertices
  have indexNamed := live_ne_zero equipped.indices
  have later := make_keeps inv₂ furnished.fits vertexBuffer
  obtain ⟨vertexRoom, vertexData⟩ := live_and (fit_live vbufFit vbufMade)
  obtain ⟨indexRoom, indexData⟩ := live_and (fit_live ibufFit ibufMade)
  have drawable : Drawable s₆ pip shd layout.blocks { vertexBuffers := [vbuf], indexBuffer := ibuf } := by
    refine ⟨⟨fit_live pipFit pipMade, fit_live shdFit shdMade⟩, ?_, ?_, ?_, ?_⟩
    · intro id member
      rw [List.mem_singleton.mp (mem_bound member)]
      exact vertexRoom
    · intro id member
      rw [List.mem_singleton.mp (mem_bound member)]
      exact indexRoom
    · exact ⟨List.forall_mem_nil _, List.forall_mem_nil _, List.forall_mem_nil _⟩
    · exact ⟨List.forall_mem_nil _, List.forall_mem_nil _, List.forall_mem_nil _⟩
  refine ⟨_, ⟨equipped, ⟨drawable, List.forall_mem_singleton.mpr vertexData, indexData⟩, ⟨rfl, rfl⟩, ?_, ?_, ?_⟩,
    ?_, ?_⟩
  · exact List.forall_mem_singleton.mpr ⟨made_apart inv₂ furnished.fits own.1 vertexNamed vertexBuffer rfl,
      made_apart inv₂ furnished.fits own.2 indexNamed vertexBuffer rfl⟩
  · exact ⟨made_apart inv₃ later own.1 vertexNamed indexBuffer rfl,
      made_apart inv₃ later own.2 indexNamed indexBuffer rfl⟩
  · rw [SgCommitListeners.notified, kept.commitListeners, start.listeners]
    rfl
  · rw [kept.curPass, start.curPass]
  · rw [kept.calls, start.calls]

-- Floats of four zero bytes, and the uniform block of 48 bytes that sokol-shdc makes of fs_params.
def blankLayout : Layout where
  float _ := List.replicate 4 0
  block _ := List.replicate 48 0
  uniformBlocks stage := if stage = .fs then [48] else []

def blankHost : Host := { render := { vsParams := rangeOf (List.replicate sizeofVsParams 0) } }

end WakeAlpha.Demo
