import WakeAlpha.Gfx.Resource

set_option autoImplicit false

namespace WakeAlpha.Gfx

-- renderView says whether the D3D11 render target view is there. The formats are left out.
structure SgSwapchain where
  width : Int := 0
  height : Int := 0
  sampleCount : Int := 0
  renderView : Bool := false
deriving DecidableEq, Repr

structure SgPass where
  attachments : UInt32 := 0
  swapchain : SgSwapchain := {}
deriving DecidableEq, Repr

-- _sg_stats_add.
def SgState.count (s : SgState) (add : SgFrameStats → SgFrameStats) : SgState :=
  { s with stats := if s.statsEnabled then add s.stats else s.stats }

def SgState.disarm (s : SgState) : SgState := { s with nextDrawValid := false }

-- A swapchain pass takes the default sample count, 1 unless the environment names one.
def sgPassDefaults (defaultSampleCount : Int) (pass : SgPass) : SgPass :=
  if pass.attachments = 0 then
    { pass with swapchain := { pass.swapchain with
        sampleCount := sgDef pass.swapchain.sampleCount defaultSampleCount } }
  else pass

-- validated is what _sg_validate_begin_pass answers.
def sgBeginPass (pass : SgPass) (validated : Bool) (s : SgState) : Checked SgState := do
  sokolAssert (s.valid = true)
  sokolAssert (s.curPass.valid = false)
  sokolAssert (s.curPass.inPass = false)
  let resolved := sgPassDefaults s.defaultSampleCount pass
  if validated then
    if resolved.attachments ≠ 0 then
      sokolAssert (s.curPass.atts = 0)
      match ← (s.store .attachments).lookup resolved.attachments with
      | some atts =>
          let size := (s.store .attachments).body atts
          return { s with curPass := ⟨true, true, resolved.attachments, atts, size.width, size.height⟩ }.emit
            (.beginPass resolved.attachments size.width size.height)
      | none => return s.error .beginpassAttachmentInvalid
    else
      sokolAssert (0 < resolved.swapchain.width)
      sokolAssert (0 < resolved.swapchain.height)
      sokolAssert (0 < resolved.swapchain.sampleCount)
      sokolAssert (resolved.swapchain.renderView = true)
      return { s with curPass := { s.curPass with
          valid := true
          inPass := true
          width := resolved.swapchain.width
          height := resolved.swapchain.height } }.emit
            (.beginPass s.curPass.attsId resolved.swapchain.width resolved.swapchain.height)
  else return s

-- sg_apply_viewport and sg_apply_scissor_rect differ in the counter and in the backend's function.
def applyRect (add : SgFrameStats → SgFrameStats) (call : BackendCall) (s : SgState) : Checked SgState := do
  sokolAssert (s.valid = true)
  sokolAssert (s.curPass.inPass = true)
  let counted := s.count add
  if counted.curPass.valid then return counted.emit call else return counted

def sgApplyViewport (x y width height : Int) (originTopLeft : Bool) : SgState → Checked SgState :=
  applyRect (fun stats => { stats with numApplyViewport := stats.numApplyViewport + 1 })
    (.applyViewport x y width height originTopLeft)

def sgApplyScissorRect (x y width height : Int) (originTopLeft : Bool) : SgState → Checked SgState :=
  applyRect (fun stats => { stats with numApplyScissorRect := stats.numApplyScissorRect + 1 })
    (.applyScissorRect x y width height originTopLeft)

-- The shader pointer of a pipeline leads to the shader the pipeline was made with.
def shaderAlive (s : SgState) (pip : SgPipeline) : Bool :=
  decide (pip.shader ≠ 0) && decide (((s.store .shader).slot pip.shader).id = pip.shaderId)

-- formats stands for the comparisons of the pixel formats and sample counts with those of the pass.
def sgValidateApplyPipeline (id : UInt32) (formats : Bool) (s : SgState) : Checked Bool :=
  if s.validation then do
    match ← (s.store .pipeline).lookup id with
    | some index =>
        let pip := (s.store .pipeline).body index
        sokolAssert (pip.shader ≠ 0)
        let shader := (s.store .shader).slot pip.shader
        let pass :=
          if s.curPass.attsId ≠ 0 then
            decide (((s.store .attachments).slot s.curPass.atts).id = s.curPass.attsId) &&
              decide (((s.store .attachments).slot s.curPass.atts).state = SgResourceState.valid)
          else true
        return decide (((s.store .pipeline).slot index).state = SgResourceState.valid) && decide (shader.id = pip.shaderId) &&
          decide (shader.state = SgResourceState.valid) && pass && formats
    | none => return false
  else return true

def sgApplyPipeline (id : UInt32) (formats : Bool) (s : SgState) : Checked SgState := do
  sokolAssert (s.valid = true)
  sokolAssert (s.curPass.inPass = true)
  let counted := s.count fun stats => { stats with numApplyPipeline := stats.numApplyPipeline + 1 }
  if ← sgValidateApplyPipeline id formats counted then
    if counted.curPass.valid then
      match ← (counted.store .pipeline).lookup id with
      | some index =>
          sokolAssert (shaderAlive counted ((counted.store .pipeline).body index) = true)
          return { counted with
            curPipeline := id
            d3d11Pipeline := id
            nextDrawValid := decide (((counted.store .pipeline).slot index).state = SgResourceState.valid) }.emit (.applyPipeline id)
      | none => none
    else return counted
  else return counted.disarm

-- The loops over the binding arrays stop at the first unused entry.
def boundIds (ids : List UInt32) : List UInt32 := ids.takeWhile fun id => id ≠ 0

-- What one bound resource must be for the next draw: found, valid and, for vertex and index
-- buffers, not overflown.
def bindingReady (k : Kind) (ready : Body k → Bool) (s : SgState) (id : UInt32) : Checked Bool := do
  match ← (s.store k).lookup id with
  | some index => return decide (((s.store k).slot index).state = SgResourceState.valid) && ready ((s.store k).body index)
  | none => return false

def bindingsReady (k : Kind) (ready : Body k → Bool) (s : SgState) : List UInt32 → Checked Bool
  | [] => return true
  | id :: rest => do
      let first ← bindingReady k ready s id
      let others ← bindingsReady k ready s rest
      return first && others

def notOverflown (buffer : SgBuffer) : Bool := !buffer.cmn.appendOverflow

def stageReady (stage : SgStageBindings) (s : SgState) : Checked Bool := do
  let images ← bindingsReady .image (fun _ => true) s (boundIds stage.images)
  let samplers ← bindingsReady .sampler (fun _ => true) s (boundIds stage.samplers)
  let storage ← bindingsReady .buffer (fun _ => true) s (boundIds stage.storageBuffers)
  return images && samplers && storage

-- validated is what _sg_validate_apply_bindings answers. The D3D11 backend's own function always
-- returns true.
def sgApplyBindings (bindings : SgBindings) (validated : Bool) (s : SgState) : Checked SgState := do
  sokolAssert (s.valid = true)
  sokolAssert (s.curPass.inPass = true)
  let counted := s.count fun stats => { stats with numApplyBindings := stats.numApplyBindings + 1 }
  if validated then
    if counted.curPass.valid then
      let pip ← (counted.store .pipeline).lookup counted.curPipeline
      let vertices ← bindingsReady .buffer notOverflown counted (boundIds bindings.vertexBuffers)
      let indices ← bindingsReady .buffer notOverflown counted (boundIds [bindings.indexBuffer])
      let vs ← stageReady bindings.vs counted
      let fs ← stageReady bindings.fs counted
      let armed := counted.nextDrawValid && pip.isSome && vertices && indices && vs && fs
      let next := { counted with nextDrawValid := armed }
      return if armed then next.emit (.applyBindings bindings) else next
    else return counted
  else return counted.disarm

def sgMaxShaderstageUbs : Nat := 4

def uniformsFit (s : SgState) (pip : SgPipeline) (stage : SgShaderStage) (ubIndex : Nat) (data : SgRange) : Bool :=
  let blocks := ((s.store .shader).body pip.shader).uniformBlocks stage
  decide (ubIndex < blocks.length) && decide (data.size = blocks.getD ubIndex 0)

def sgValidateApplyUniforms (stage : SgShaderStage) (ubIndex : Nat) (data : SgRange) (s : SgState) : Checked Bool :=
  if s.validation then do
    match ← (s.store .pipeline).lookup s.curPipeline with
    | some index =>
        let pip := (s.store .pipeline).body index
        sokolAssert (shaderAlive s pip = true)
        return uniformsFit s pip stage ubIndex data
    | none => none
  else return true

-- The asserts of _sg_d3d11_apply_uniforms.
def d3d11AcceptsUniforms (stage : SgShaderStage) (ubIndex : Nat) (data : SgRange) (s : SgState) : Bool :=
  let index := slotIndexOf s.d3d11Pipeline
  let pip := (s.store .pipeline).body index
  decide (s.d3d11Pipeline ≠ 0) && decide (((s.store .pipeline).slot index).id = s.d3d11Pipeline) &&
    shaderAlive s pip && uniformsFit s pip stage ubIndex data

def sgApplyUniforms (stage : SgShaderStage) (ubIndex : Nat) (data : SgRange) (s : SgState) : Checked SgState := do
  sokolAssert (s.valid = true)
  sokolAssert (s.curPass.inPass = true)
  sokolAssert (ubIndex < sgMaxShaderstageUbs)
  sokolAssert (data.ptr.isSome = true ∧ 0 < data.size)
  let counted := s.count fun stats => { stats with numApplyUniforms := stats.numApplyUniforms + 1 }
  if ← sgValidateApplyUniforms stage ubIndex data counted then
    if counted.curPass.valid && counted.nextDrawValid then
      sokolAssert (d3d11AcceptsUniforms stage ubIndex data counted = true)
      return counted.emit (.applyUniforms stage ubIndex data)
    else return counted
  else return counted.disarm

def sgDraw (baseElement numElements numInstances : Int) (s : SgState) : Checked SgState := do
  sokolAssert (s.valid = true)
  sokolAssert (s.curPass.inPass = true)
  sokolAssert (0 ≤ baseElement)
  sokolAssert (0 ≤ numElements)
  sokolAssert (0 ≤ numInstances)
  let counted := s.count fun stats => { stats with numDraw := stats.numDraw + 1 }
  if counted.curPass.valid then
    if counted.nextDrawValid then
      if numElements = 0 ∨ numInstances = 0 then return counted
      else return counted.emit (.draw baseElement.toNat numElements.toNat numInstances.toNat)
    else return counted
  else return counted

-- The attachments of an offscreen pass must still be there. next_draw_valid is not reset.
def sgEndPass (s : SgState) : Checked SgState := do
  sokolAssert (s.valid = true)
  sokolAssert (s.curPass.inPass = true)
  sokolAssert (s.curPass.attsId ≠ 0 →
    s.curPass.atts ≠ 0 ∧ ((s.store .attachments).slot s.curPass.atts).id = s.curPass.attsId)
  let ended := (s.count fun stats => { stats with numPasses := stats.numPasses + 1 }).emit .endPass
  return { ended with curPipeline := 0, d3d11Pipeline := 0, curPass := {} }

def SgState.notify (s : SgState) : SgState :=
  { s with calls := s.calls ++ s.commitListeners.notified.map .notify }

def sgCommit (s : SgState) : Checked SgState := do
  sokolAssert (s.valid = true)
  sokolAssert (s.curPass.valid = false)
  sokolAssert (s.curPass.inPass = false)
  let committed := s.emit .commit
  let rolled := { committed with prevStats := { s.stats with frameIndex := s.frameIndex }, stats := {} }
  return { rolled.notify with frameIndex := s.frameIndex + 1 }

def sgResetStateCache (s : SgState) : Checked SgState := do
  sokolAssert (s.valid = true)
  return s.emit .resetStateCache

def sgAddCommitListener (listener : SgCommitListener) (s : SgState) : Checked (Bool × SgState) := do
  sokolAssert (s.valid = true)
  match ← s.commitListeners.add listener with
  | .ok listeners => return (true, { s with commitListeners := listeners })
  | .error error => return (false, s.error (.listener error))

def sgRemoveCommitListener (listener : SgCommitListener) (s : SgState) : Checked (Bool × SgState) := do
  sokolAssert (s.valid = true)
  let (removed, listeners) ← s.commitListeners.remove listener
  return (removed, { s with commitListeners := listeners })

def sgEnableFrameStats (s : SgState) : Checked SgState := do
  sokolAssert (s.valid = true)
  return { s with statsEnabled := true }

def sgDisableFrameStats (s : SgState) : Checked SgState := do
  sokolAssert (s.valid = true)
  return { s with statsEnabled := false }

end WakeAlpha.Gfx
