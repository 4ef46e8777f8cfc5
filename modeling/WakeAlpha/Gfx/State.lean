import WakeAlpha.Gfx.Listeners
import WakeAlpha.Gfx.Store

set_option autoImplicit false

namespace WakeAlpha.Gfx

-- The six kinds of resources, each with a pool of its own.
inductive Kind where
  | buffer
  | image
  | sampler
  | shader
  | pipeline
  | attachments
deriving DecidableEq, Repr

inductive SgUsage where
  | default
  | immutable
  | dynamic
  | stream
deriving DecidableEq, Repr

inductive SgBufferType where
  | default
  | vertexBuffer
  | indexBuffer
  | storageBuffer
deriving DecidableEq, Repr

inductive SgShaderStage where
  | vs
  | fs
deriving DecidableEq, Repr

-- An sg_range: the bytes ptr points to, none for the null pointer, and the size it is given.
structure SgRange where
  ptr : Option (List UInt8) := none
  size : Nat := 0
deriving DecidableEq, Repr

structure SgBufferCommon where
  size : Int := 0
  appendPos : Int := 0
  appendOverflow : Bool := false
  updateFrameIndex : UInt32 := 0
  appendFrameIndex : UInt32 := 0
  type : SgBufferType := .default
  usage : SgUsage := .default
deriving DecidableEq, Repr

-- memory is what the D3D11 buffer of the item holds.
structure SgBuffer where
  cmn : SgBufferCommon := {}
  memory : Nat → UInt8 := fun _ => 0

structure SgImage where
  width : Int := 0
  height : Int := 0
deriving DecidableEq, Repr

-- The sizes of the uniform blocks of each stage, up to the first unused block.
structure SgShaderCommon where
  uniformBlocks : SgShaderStage → List Nat := fun _ => []

-- shader is the slot index the shader pointer leads to, zero the null pointer.
structure SgPipeline where
  shader : Nat := 0
  shaderId : UInt32 := 0
deriving DecidableEq, Repr

structure SgAttachments where
  width : Int := 0
  height : Int := 0
deriving DecidableEq, Repr

-- What an item of each kind keeps beside its slot, as far as a modelled function reads it.
abbrev Body : Kind → Type
  | .buffer => SgBuffer
  | .image => SgImage
  | .sampler => Unit
  | .shader => SgShaderCommon
  | .pipeline => SgPipeline
  | .attachments => SgAttachments

-- What _sg_clear leaves.
def Body.cleared : (k : Kind) → Body k
  | .buffer => ({} : SgBuffer)
  | .image => ({} : SgImage)
  | .sampler => ()
  | .shader => ({} : SgShaderCommon)
  | .pipeline => ({} : SgPipeline)
  | .attachments => ({} : SgAttachments)

instance (k : Kind) : Inhabited (Body k) := ⟨Body.cleared k⟩

structure SgBufferDesc where
  size : Nat := 0
  data : SgRange := {}
  type : SgBufferType := .default
  usage : SgUsage := .default
  injected : Bool := false
deriving DecidableEq, Repr

structure SgImageDesc where
  width : Int := 0
  height : Int := 0
deriving DecidableEq, Repr

structure SgShaderDesc where
  uniformBlocks : SgShaderStage → List Nat := fun _ => []

structure SgPipelineDesc where
  shader : UInt32 := 0
deriving DecidableEq, Repr

structure SgAttachmentDesc where
  image : UInt32 := 0
  mipLevel : Nat := 0
deriving DecidableEq, Repr

-- Each color surface goes with the image of its resolve surface.
structure SgAttachmentsDesc where
  colors : List (SgAttachmentDesc × UInt32) := []
  depthStencil : SgAttachmentDesc := {}
deriving DecidableEq, Repr

abbrev Desc : Kind → Type
  | .buffer => SgBufferDesc
  | .image => SgImageDesc
  | .sampler => Unit
  | .shader => SgShaderDesc
  | .pipeline => SgPipelineDesc
  | .attachments => SgAttachmentsDesc

structure SgStageBindings where
  images : List UInt32 := []
  samplers : List UInt32 := []
  storageBuffers : List UInt32 := []
deriving DecidableEq, Repr

-- The arrays end where their lists end; the rest of a C array is zero.
structure SgBindings where
  vertexBuffers : List UInt32 := []
  vertexBufferOffsets : List Int := []
  indexBuffer : UInt32 := 0
  indexBufferOffset : Int := 0
  vs : SgStageBindings := {}
  fs : SgStageBindings := {}
deriving DecidableEq, Repr

-- cur_pass; atts is the slot index of the attachments, zero the null pointer.
structure SgCurPass where
  valid : Bool := false
  inPass : Bool := false
  attsId : UInt32 := 0
  atts : Nat := 0
  width : Int := 0
  height : Int := 0
deriving DecidableEq, Repr

structure SgFrameStats where
  frameIndex : UInt32 := 0
  numPasses : UInt32 := 0
  numApplyViewport : UInt32 := 0
  numApplyScissorRect : UInt32 := 0
  numApplyPipeline : UInt32 := 0
  numApplyBindings : UInt32 := 0
  numApplyUniforms : UInt32 := 0
  numDraw : UInt32 := 0
  numUpdateBuffer : UInt32 := 0
  numAppendBuffer : UInt32 := 0
deriving DecidableEq, Repr

-- The messages of _SG_ERROR; those of the validation layer are not kept. The pool of attachments
-- reports PASS_POOL_EXHAUSTED.
inductive SgLogItem where
  | poolExhausted (kind : Kind)
  | deallocInvalidState (kind : Kind)
  | initInvalidState (kind : Kind)
  | uninitInvalidState (kind : Kind)
  | failInvalidState (kind : Kind)
  | beginpassAttachmentInvalid
  | listener (error : ListenerError)
deriving DecidableEq, Repr

-- What leaves the library: the calls of the backend, and the commit listeners it notifies.
inductive BackendCall where
  | beginPass (attsId : UInt32) (width height : Int)
  | applyViewport (x y width height : Int) (originTopLeft : Bool)
  | applyScissorRect (x y width height : Int) (originTopLeft : Bool)
  | applyPipeline (id : UInt32)
  | applyBindings (bindings : SgBindings)
  | applyUniforms (stage : SgShaderStage) (ubIndex : Nat) (data : SgRange)
  | draw (baseElement numElements numInstances : Nat)
  | endPass
  | commit
  | resetStateCache
  | notify (listener : SgCommitListener)
deriving DecidableEq, Repr

structure SgDesc where
  poolSize : Kind → Int := fun _ => 0
  maxCommitListeners : Int := 0
  defaultSampleCount : Int := 0
  validation : Bool := true

-- _sg. validation is SOKOL_DEBUG without desc.disable_validation, and d3d11Pipeline is the
-- cur_pipeline_id of the backend.
structure SgState where
  valid : Bool := false
  validation : Bool := true
  defaultSampleCount : Int := 1
  frameIndex : UInt32 := 0
  curPass : SgCurPass := {}
  curPipeline : UInt32 := 0
  nextDrawValid : Bool := false
  d3d11Pipeline : UInt32 := 0
  store : (k : Kind) → SgStore (Body k)
  statsEnabled : Bool := false
  stats : SgFrameStats := {}
  prevStats : SgFrameStats := {}
  commitListeners : SgCommitListeners := {}
  log : List SgLogItem := []
  calls : List BackendCall := []

def SgState.setStore (s : SgState) (k : Kind) (store : SgStore (Body k)) : SgState :=
  { s with store := Function.update s.store k store }

def SgState.error (s : SgState) (item : SgLogItem) : SgState := { s with log := s.log ++ [item] }
def SgState.emit (s : SgState) (call : BackendCall) : SgState := { s with calls := s.calls ++ [call] }

@[simp] theorem set_store_self (s : SgState) (k : Kind) (store : SgStore (Body k)) :
    (s.setStore k store).store k = store := by
  simp [SgState.setStore]

theorem set_store_other (s : SgState) {k other : Kind} (store : SgStore (Body k)) (ne : other ≠ k) :
    (s.setStore k store).store other = s.store other := by
  simp [SgState.setStore, Function.update_of_ne ne]

-- _sg_def.
def sgDef (val default : Int) : Int := if val = 0 then default else val

def Kind.defaultPoolSize : Kind → Int
  | .buffer => 128
  | .image => 128
  | .sampler => 64
  | .shader => 32
  | .pipeline => 64
  | .attachments => 16

def sgDescDefaults (desc : SgDesc) : SgDesc :=
  { desc with
    poolSize := fun k => sgDef (desc.poolSize k) k.defaultPoolSize
    maxCommitListeners := sgDef desc.maxCommitListeners 1024
    defaultSampleCount := sgDef desc.defaultSampleCount 1 }

def setupPool (k : Kind) (desc : SgDesc) : Checked (SgStore (Body k)) :=
  SgStore.setup (desc.poolSize k).toNat

def sgSetup (desc : SgDesc) : Checked SgState := do
  let resolved := sgDescDefaults desc
  let buffers ← setupPool .buffer resolved
  let images ← setupPool .image resolved
  let samplers ← setupPool .sampler resolved
  let shaders ← setupPool .shader resolved
  let pipelines ← setupPool .pipeline resolved
  let attachments ← setupPool .attachments resolved
  let listeners ← SgCommitListeners.setup resolved.maxCommitListeners.toNat
  return {
    valid := true
    validation := desc.validation
    defaultSampleCount := resolved.defaultSampleCount
    frameIndex := 1
    store := fun
      | .buffer => buffers
      | .image => images
      | .sampler => samplers
      | .shader => shaders
      | .pipeline => pipelines
      | .attachments => attachments
    statsEnabled := true
    commitListeners := listeners }

end WakeAlpha.Gfx
