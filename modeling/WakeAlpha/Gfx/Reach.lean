import WakeAlpha.Gfx.Stream

set_option autoImplicit false

namespace WakeAlpha.Gfx

variable {size : Kind → Nat} {s next final : SgState} {k : Kind} {id : UInt32}

-- A resource that is found under its handle, is valid, and is ready.
def Live (s : SgState) (k : Kind) (ready : Body k → Bool) (id : UInt32) : Prop :=
  ∃ index, (s.store k).Found id index ∧ ((s.store k).slot index).state = .valid ∧
    ready ((s.store k).body index) = true

theorem live_of_store {ready : Body k → Bool} (live : Live s k ready id) (same : next.store = s.store) :
    Live next k ready id := by
  unfold Live
  rw [same]
  exact live

theorem step_live {ready : Body k → Bool} {call : SgCall} (inv : s.Inv size) (live : Live s k ready id)
    (unnamed : ¬ call.names k id) (done : sgStep s call = some next) : Live next k ready id := by
  obtain ⟨index, found, valid, is_⟩ := live
  obtain ⟨item, still⟩ := step_untouched inv found unnamed done
  refine ⟨index, still, ?_, ?_⟩
  · change ((next.store k).items index).slot.state = .valid
    rw [item]
    exact valid
  · change ready ((next.store k).items index).body = true
    rw [item]
    exact is_

theorem live_ready {ready : Body k → Bool} (live : Live s k ready id) : bindingReady k ready s id = some true := by
  obtain ⟨index, found, valid, is_⟩ := live
  rw [bindingReady, found_lookup found]
  change some (decide (((s.store k).slot index).state = .valid) && ready ((s.store k).body index)) = some true
  rw [valid, is_]
  rfl

theorem lives_ready {ready : Body k → Bool} {ids : List UInt32} (live : ∀ id ∈ ids, Live s k ready id) :
    bindingsReady k ready s ids = some true := by
  induction ids with
  | nil => rfl
  | cons id rest ih =>
      rw [bindingsReady, live_ready (live id (by simp)), ih fun other member => live other (by simp [member])]
      rfl

def hasBlocks (blocks : SgShaderStage → List Nat) (shader : SgShaderCommon) : Bool :=
  decide (shader.uniformBlocks .vs = blocks .vs ∧ shader.uniformBlocks .fs = blocks .fs)

theorem blocks_eq {blocks : SgShaderStage → List Nat} {shader : SgShaderCommon}
    (has : hasBlocks blocks shader = true) (stage : SgShaderStage) : shader.uniformBlocks stage = blocks stage := by
  obtain ⟨vs, fs⟩ := of_decide_eq_true has
  cases stage with
  | vs => exact vs
  | fs => exact fs

-- A pipeline that is alive with its shader shd, which has these uniform blocks.
structure PipelineLive (s : SgState) (pip shd : UInt32) (blocks : SgShaderStage → List Nat) : Prop where
  pipeline : Live s .pipeline (fun body => decide (body = ⟨slotIndexOf shd, shd⟩)) pip
  shader : Live s .shader (hasBlocks blocks) shd

-- What a draw needs to stay alive: its pipeline and all that it binds.
structure StageLive (s : SgState) (stage : SgStageBindings) : Prop where
  images : ∀ id ∈ boundIds stage.images, Live s .image (fun _ => true) id
  samplers : ∀ id ∈ boundIds stage.samplers, Live s .sampler (fun _ => true) id
  storage : ∀ id ∈ boundIds stage.storageBuffers, Live s .buffer (fun _ => true) id

structure Drawable (s : SgState) (pip shd : UInt32) (blocks : SgShaderStage → List Nat) (bindings : SgBindings) :
    Prop where
  pipeline : PipelineLive s pip shd blocks
  vertices : ∀ id ∈ boundIds bindings.vertexBuffers, Live s .buffer notOverflown id
  indices : ∀ id ∈ boundIds [bindings.indexBuffer], Live s .buffer notOverflown id
  vs : StageLive s bindings.vs
  fs : StageLive s bindings.fs

-- A call that is given none of the handles a draw needs.
def SgStageBindings.Avoids (stage : SgStageBindings) (call : SgCall) : Prop :=
  (∀ id ∈ stage.images, ¬ call.names .image id) ∧ (∀ id ∈ stage.samplers, ¬ call.names .sampler id) ∧
    ∀ id ∈ stage.storageBuffers, ¬ call.names .buffer id

structure SgCall.Avoids (call : SgCall) (pip shd : UInt32) (bindings : SgBindings) : Prop where
  pipeline : ¬ call.names .pipeline pip
  shader : ¬ call.names .shader shd
  vertices : ∀ id ∈ bindings.vertexBuffers, ¬ call.names .buffer id
  indices : ¬ call.names .buffer bindings.indexBuffer
  vs : bindings.vs.Avoids call
  fs : bindings.fs.Avoids call

theorem mem_bound {ids : List UInt32} (member : id ∈ boundIds ids) : id ∈ ids :=
  (List.takeWhile_sublist _).subset member

theorem step_stage_live {call : SgCall} {stage : SgStageBindings} (inv : s.Inv size) (live : StageLive s stage)
    (avoids : stage.Avoids call) (done : sgStep s call = some next) : StageLive next stage := by
  obtain ⟨images, samplers, storage⟩ := avoids
  constructor
  · exact fun id member => step_live inv (live.images id member) (images id (mem_bound member)) done
  · exact fun id member => step_live inv (live.samplers id member) (samplers id (mem_bound member)) done
  · exact fun id member => step_live inv (live.storage id member) (storage id (mem_bound member)) done

variable {pip shd : UInt32} {blocks : SgShaderStage → List Nat} {bindings : SgBindings}

theorem step_pipeline_live {call : SgCall} (inv : s.Inv size) (live : PipelineLive s pip shd blocks)
    (pipeline : ¬ call.names .pipeline pip) (shader : ¬ call.names .shader shd) (done : sgStep s call = some next) :
    PipelineLive next pip shd blocks :=
  ⟨step_live inv live.pipeline pipeline done, step_live inv live.shader shader done⟩

theorem step_drawable {call : SgCall} (inv : s.Inv size) (drawable : Drawable s pip shd blocks bindings)
    (avoids : call.Avoids pip shd bindings) (done : sgStep s call = some next) : Drawable next pip shd blocks bindings := by
  constructor
  · exact step_pipeline_live inv drawable.pipeline avoids.pipeline avoids.shader done
  · exact fun id member => step_live inv (drawable.vertices id member) (avoids.vertices id (mem_bound member)) done
  · intro id member
    have only : id = bindings.indexBuffer := List.mem_singleton.mp (mem_bound member)
    subst only
    exact step_live inv (drawable.indices _ member) avoids.indices done
  · exact step_stage_live inv drawable.vs avoids.vs done
  · exact step_stage_live inv drawable.fs avoids.fs done

theorem run_drawable {calls : List SgCall} (inv : s.Inv size) (drawable : Drawable s pip shd blocks bindings)
    (avoids : ∀ call ∈ calls, call.Avoids pip shd bindings) (done : sgRun s calls = some final) :
    Drawable final pip shd blocks bindings := by
  induction calls generalizing s with
  | nil =>
      cases done
      exact drawable
  | cons call rest ih =>
      obtain ⟨middle, step, done⟩ := run_cons_some done
      exact ih (step_inv inv step) (step_drawable inv drawable (avoids call (by simp)) step)
        (fun other member => avoids other (by simp [member])) done

theorem stage_ready {stage : SgStageBindings} (live : StageLive s stage) : stageReady stage s = some true := by
  rw [stageReady, lives_ready live.images, lives_ready live.samplers, lives_ready live.storage]
  rfl

theorem stage_of_store {stage : SgStageBindings} (live : StageLive s stage) (same : next.store = s.store) :
    StageLive next stage :=
  ⟨fun id member => live_of_store (live.images id member) same,
    fun id member => live_of_store (live.samplers id member) same,
    fun id member => live_of_store (live.storage id member) same⟩

theorem pipeline_of_store (live : PipelineLive s pip shd blocks) (same : next.store = s.store) :
    PipelineLive next pip shd blocks :=
  ⟨live_of_store live.pipeline same, live_of_store live.shader same⟩

theorem drawable_of_store (drawable : Drawable s pip shd blocks bindings) (same : next.store = s.store) :
    Drawable next pip shd blocks bindings :=
  ⟨pipeline_of_store drawable.pipeline same, fun id member => live_of_store (drawable.vertices id member) same,
    fun id member => live_of_store (drawable.indices id member) same,
    stage_of_store drawable.vs same, stage_of_store drawable.fs same⟩

-- A pass that can be drawn to: the swapchain's, or one with attachments that are still there.
structure Open (s : SgState) : Prop where
  library : s.valid = true
  inPass : s.curPass.inPass = true
  pass : s.curPass.valid = true
  attachments : s.curPass.attsId ≠ 0 →
    ((s.store .attachments).slot s.curPass.atts).id = s.curPass.attsId ∧
      ((s.store .attachments).slot s.curPass.atts).state = .valid

-- What the calls that set the state of a draw leave as it is.
structure Within (s next : SgState) (sent : List BackendCall) : Prop where
  calls : next.calls = s.calls ++ sent
  store : next.store = s.store
  curPass : next.curPass = s.curPass
  valid : next.valid = s.valid

structure Armed (s : SgState) (pip : UInt32) : Prop where
  nextDrawValid : s.nextDrawValid = true
  curPipeline : s.curPipeline = pip
  d3d11Pipeline : s.d3d11Pipeline = pip

theorem open_of_within {sent : List BackendCall} (open_ : Open s) (within : Within s next sent) : Open next := by
  refine ⟨within.valid.trans open_.library, ?_, ?_, ?_⟩
  · rw [within.curPass]
    exact open_.inPass
  · rw [within.curPass]
    exact open_.pass
  · rw [within.curPass, within.store]
    exact open_.attachments

theorem shader_alive_live (live : PipelineLive s pip shd blocks) {index : Nat}
    (body : (s.store .pipeline).body index = ⟨slotIndexOf shd, shd⟩) :
    shaderAlive s ((s.store .pipeline).body index) = true := by
  obtain ⟨shader, found, -, -⟩ := live.shader
  have named := found.named
  subst named
  rw [body, shaderAlive, found.id, decide_eq_true (Nat.ne_of_gt found.pos), decide_eq_true rfl]
  rfl

theorem validate_pipeline_live (open_ : Open s) (live : PipelineLive s pip shd blocks) :
    sgValidateApplyPipeline pip true s = some true := by
  obtain ⟨index, found, valid, body⟩ := live.pipeline
  obtain ⟨shader, shaderFound, shaderValid, -⟩ := live.shader
  have body := of_decide_eq_true body
  have named := shaderFound.named
  subst named
  rw [sgValidateApplyPipeline]
  by_cases validation : s.validation = true
  · rw [if_pos validation, found_lookup found]
    change (sokolAssert (((s.store .pipeline).body index).shader ≠ 0) >>= fun _ => _) = _
    rw [body, assert_bind (Nat.ne_of_gt shaderFound.pos), valid]
    dsimp only
    rw [shaderFound.id, shaderValid]
    by_cases offscreen : s.curPass.attsId ≠ 0
    · obtain ⟨same, alive⟩ := open_.attachments offscreen
      rw [if_pos offscreen, same, alive]
      simp
    · rw [if_neg offscreen]
      simp
  · rw [if_neg validation]
    rfl

theorem apply_pipeline_live (open_ : Open s) (live : PipelineLive s pip shd blocks) :
    ∃ next, sgStep s (.applyPipeline pip true) = some next ∧ Within s next [.applyPipeline pip] ∧
      Armed next pip := by
  let counted := s.count fun stats => { stats with numApplyPipeline := stats.numApplyPipeline + 1 }
  have counts : Open counted := ⟨open_.library, open_.inPass, open_.pass, open_.attachments⟩
  have still : PipelineLive counted pip shd blocks := pipeline_of_store live rfl
  obtain ⟨index, found, valid, body⟩ := still.pipeline
  have alive := shader_alive_live still (of_decide_eq_true body)
  refine ⟨{ counted with
    curPipeline := pip
    d3d11Pipeline := pip
    nextDrawValid := true }.emit (.applyPipeline pip), ?_, ⟨rfl, rfl, rfl, rfl⟩, ⟨rfl, rfl, rfl⟩⟩
  change sgApplyPipeline pip true s = _
  rw [sgApplyPipeline, assert_bind open_.library, assert_bind open_.inPass]
  change (sgValidateApplyPipeline pip true counted >>= fun _ => _) = _
  rw [validate_pipeline_live counts still]
  change (if counted.curPass.valid then _ else _) = _
  rw [if_pos counts.pass, found_lookup found]
  change (sokolAssert (shaderAlive counted ((counted.store .pipeline).body index) = true) >>= fun _ => _) = _
  rw [assert_bind alive, valid]
  rfl

theorem apply_bindings_live (open_ : Open s) (drawable : Drawable s pip shd blocks bindings)
    (armed : Armed s pip) :
    ∃ next, sgStep s (.applyBindings bindings true) = some next ∧ Within s next [.applyBindings bindings] ∧
      Armed next pip := by
  let counted := s.count fun stats => { stats with numApplyBindings := stats.numApplyBindings + 1 }
  have draws : Drawable counted pip shd blocks bindings := drawable_of_store drawable rfl
  obtain ⟨index, found, -, -⟩ := draws.pipeline.pipeline
  refine ⟨{ counted with nextDrawValid := true }.emit (.applyBindings bindings), ?_, ⟨rfl, rfl, rfl, rfl⟩,
    ⟨rfl, armed.curPipeline, armed.d3d11Pipeline⟩⟩
  change sgApplyBindings bindings true s = _
  rw [sgApplyBindings, assert_bind open_.library, assert_bind open_.inPass]
  have pass : counted.curPass.valid = true := open_.pass
  change (if counted.curPass.valid then _ else _) = _
  rw [if_pos pass]
  change ((counted.store .pipeline).lookup s.curPipeline >>= fun _ => _) = _
  rw [armed.curPipeline, found_lookup found, lives_ready draws.vertices, lives_ready draws.indices, stage_ready draws.vs,
    stage_ready draws.fs]
  have ready : counted.nextDrawValid = true := armed.nextDrawValid
  change some (if counted.nextDrawValid && true && true && true && true && true then _ else _) = _
  rw [ready]
  rfl

-- A uniform block of the shader, with data of its size.
structure SgUniforms where
  stage : SgShaderStage
  ubIndex : Nat
  data : SgRange

structure SgUniforms.Fits (u : SgUniforms) (blocks : SgShaderStage → List Nat) : Prop where
  index : u.ubIndex < sgMaxShaderstageUbs
  block : u.ubIndex < (blocks u.stage).length
  points : u.data.ptr.isSome = true
  some_ : 0 < u.data.size
  size : u.data.size = (blocks u.stage).getD u.ubIndex 0

def SgUniforms.call (u : SgUniforms) : SgCall := .applyUniforms u.stage u.ubIndex u.data
def SgUniforms.sent (u : SgUniforms) : BackendCall := .applyUniforms u.stage u.ubIndex u.data

theorem uniforms_fit (live : PipelineLive s pip shd blocks) {u : SgUniforms} (fits : u.Fits blocks) :
    uniformsFit s ⟨slotIndexOf shd, shd⟩ u.stage u.ubIndex u.data = true := by
  obtain ⟨shader, found, -, has⟩ := live.shader
  have named := found.named
  subst named
  rw [uniformsFit, blocks_eq has u.stage, decide_eq_true fits.block, decide_eq_true fits.size]
  rfl

def SgState.uniformsCounted (s : SgState) : SgState :=
  s.count fun stats => { stats with numApplyUniforms := stats.numApplyUniforms + 1 }

-- The uniforms reach the device when the next draw is armed.
theorem apply_uniforms_result_live (open_ : Open s) (live : PipelineLive s pip shd blocks)
    (current : s.curPipeline = pip) (device : s.d3d11Pipeline = pip) {u : SgUniforms} (fits : u.Fits blocks) :
    sgStep s u.call =
      some (if s.nextDrawValid = true then s.uniformsCounted.emit u.sent else s.uniformsCounted) := by
  let counted := s.uniformsCounted
  have still : PipelineLive counted pip shd blocks := pipeline_of_store live rfl
  obtain ⟨index, found, -, body⟩ := still.pipeline
  have body := of_decide_eq_true body
  have alive := shader_alive_live still body
  have fit := uniforms_fit still fits
  have named := found.named
  subst named
  have validated : sgValidateApplyUniforms u.stage u.ubIndex u.data counted = some true := by
    rw [sgValidateApplyUniforms]
    by_cases validation : counted.validation = true
    · have current : counted.curPipeline = pip := current
      rw [if_pos validation, current, found_lookup found]
      change (sokolAssert (shaderAlive counted ((counted.store .pipeline).body (slotIndexOf pip)) = true) >>=
        fun _ => _) = _
      rw [assert_bind alive, body, fit]
      rfl
    · rw [if_neg validation]
      rfl
  have accepted : d3d11AcceptsUniforms u.stage u.ubIndex u.data counted = true := by
    have current : counted.d3d11Pipeline = pip := device
    have named : pip ≠ 0 := by
      intro zero
      subst zero
      exact absurd found.pos (by decide)
    rw [d3d11AcceptsUniforms, current, alive, body, fit, found.id, decide_eq_true named, decide_eq_true rfl]
    rfl
  change sgApplyUniforms u.stage u.ubIndex u.data s = _
  rw [sgApplyUniforms, assert_bind open_.library, assert_bind open_.inPass, assert_bind fits.index,
    assert_bind ⟨fits.points, fits.some_⟩]
  change (sgValidateApplyUniforms u.stage u.ubIndex u.data counted >>= fun _ => _) = _
  rw [validated]
  change (if (counted.curPass.valid && counted.nextDrawValid) = true then _ else _) = _
  have pass : counted.curPass.valid = true := open_.pass
  rw [pass, Bool.true_and]
  by_cases armed : s.nextDrawValid = true
  · rw [if_pos armed, if_pos (show counted.nextDrawValid = true from armed)]
    change (sokolAssert (d3d11AcceptsUniforms u.stage u.ubIndex u.data counted = true) >>= fun _ => _) = _
    rw [assert_bind accepted]
    rfl
  · rw [if_neg armed, if_neg (show ¬ counted.nextDrawValid = true from armed)]
    rfl

theorem apply_uniforms_live (open_ : Open s) (live : PipelineLive s pip shd blocks) (armed : Armed s pip)
    {u : SgUniforms} (fits : u.Fits blocks) :
    ∃ next, sgStep s u.call = some next ∧ Within s next [u.sent] ∧ Armed next pip := by
  have applied := apply_uniforms_result_live open_ live armed.curPipeline armed.d3d11Pipeline fits
  rw [if_pos armed.nextDrawValid] at applied
  exact ⟨_, applied, ⟨rfl, rfl, rfl, rfl⟩, ⟨armed.nextDrawValid, armed.curPipeline, armed.d3d11Pipeline⟩⟩

theorem apply_all_uniforms (open_ : Open s) (live : PipelineLive s pip shd blocks) (armed : Armed s pip)
    {us : List SgUniforms} (fits : ∀ u ∈ us, u.Fits blocks) :
    ∃ next, sgRun s (us.map SgUniforms.call) = some next ∧ Within s next (us.map SgUniforms.sent) ∧ Armed next pip := by
  induction us generalizing s with
  | nil => exact ⟨s, rfl, ⟨(List.append_nil _).symm, rfl, rfl, rfl⟩, armed⟩
  | cons u rest ih =>
      obtain ⟨middle, applies, within, still⟩ := apply_uniforms_live open_ live armed (fits u (by simp))
      obtain ⟨next, ran, others, last⟩ := ih (open_of_within open_ within) (pipeline_of_store live within.store)
        still (fun other member => fits other (by simp [member]))
      refine ⟨next, (run_next _ applies).trans ran, ⟨?_, others.store.trans within.store,
        others.curPass.trans within.curPass, others.valid.trans within.valid⟩, last⟩
      rw [others.calls, within.calls, List.append_assoc]
      rfl

def drawCalls (pip : UInt32) (bindings : SgBindings) (us : List SgUniforms) (base elements instances : Int) :
    List SgCall :=
  [.applyPipeline pip true, .applyBindings bindings true] ++ us.map SgUniforms.call ++ [.draw base elements instances]

def drawSent (pip : UInt32) (bindings : SgBindings) (us : List SgUniforms) (base elements instances : Int) :
    List BackendCall :=
  [.applyPipeline pip, .applyBindings bindings] ++ us.map SgUniforms.sent ++
    [.draw base.toNat elements.toNat instances.toNat]

theorem drawable_draws {us : List SgUniforms} {base elements instances : Int} (open_ : Open s)
    (drawable : Drawable s pip shd blocks bindings) (fits : ∀ u ∈ us, u.Fits blocks) (start : 0 ≤ base)
    (some_ : 0 < elements) (copies : 0 < instances) :
    ∃ next, sgRun s (drawCalls pip bindings us base elements instances) = some next ∧
      Within s next (drawSent pip bindings us base elements instances) := by
  obtain ⟨one, applies, first, armed⟩ := apply_pipeline_live open_ drawable.pipeline
  have oneOpen := open_of_within open_ first
  have oneDraws := drawable_of_store drawable first.store
  obtain ⟨two, binds, second, armed⟩ := apply_bindings_live oneOpen oneDraws armed
  have twoOpen := open_of_within oneOpen second
  obtain ⟨three, uniforms, third, armed⟩ :=
    apply_all_uniforms twoOpen (pipeline_of_store oneDraws.pipeline second.store) armed fits
  have threeOpen := open_of_within twoOpen third
  obtain ⟨four, draws, last⟩ : ∃ four, sgStep three (.draw base elements instances) = some four ∧
      Within three four [.draw base.toNat elements.toNat instances.toNat] :=
    ⟨_, draw_armed threeOpen.library threeOpen.inPass threeOpen.pass armed.nextDrawValid start some_ copies,
      ⟨rfl, rfl, rfl, rfl⟩⟩
  refine ⟨four, ?_, ⟨?_, last.store.trans (third.store.trans (second.store.trans first.store)),
    last.curPass.trans (third.curPass.trans (second.curPass.trans first.curPass)),
    last.valid.trans (third.valid.trans (second.valid.trans first.valid))⟩⟩
  · exact (run_next _ applies).trans ((run_next _ binds).trans ((run_then _ uniforms).trans (run_next _ draws)))
  · rw [last.calls, third.calls, second.calls, first.calls, drawSent]
    simp only [List.append_assoc, List.cons_append, List.nil_append]

theorem nothing_bound (pipeline : PipelineLive s pip shd blocks) : Drawable s pip shd blocks {} := by
  have none_ : StageLive s {} := ⟨List.forall_mem_nil _, List.forall_mem_nil _, List.forall_mem_nil _⟩
  exact ⟨pipeline, List.forall_mem_nil _, fun _ => nofun, none_, none_⟩

-- A buffer is made and a pass begun.
def smallBetween : List SgCall := [dynamicBuffer, .beginPass .small true]

end WakeAlpha.Gfx
