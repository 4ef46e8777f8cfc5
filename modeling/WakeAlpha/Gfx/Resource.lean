import WakeAlpha.Gfx.State

set_option autoImplicit false

namespace WakeAlpha.Gfx

-- What the validation layer and the backend answer while a resource is initialized: whether the
-- descriptor passes, and whether _sg_create_* returns SG_RESOURCESTATE_VALID. The descriptor of a
-- buffer is validated by the model itself.
structure InitReply where
  validated : Bool := true
  created : Bool := true
deriving DecidableEq, Repr

-- A cast of a size_t to int.
def castInt (size : Nat) : Int := (BitVec.ofNat 32 size).toInt

theorem cast_int_of_small {size : Nat} (small : size < 2 ^ 31) : castInt size = size := by
  rw [castInt, BitVec.toInt_eq_toNat_of_lt (by rw [BitVec.toNat_ofNat]; omega), BitVec.toNat_ofNat,
    Nat.mod_eq_of_lt (by omega)]

def sgBufferDescDefaults (desc : SgBufferDesc) : SgBufferDesc :=
  { desc with
    type := if desc.type = .default then .vertexBuffer else desc.type
    usage := if desc.usage = .default then .immutable else desc.usage
    size := if desc.size = 0 then desc.data.size else desc.size
    data :=
      if desc.size ≠ 0 ∧ desc.data.size = 0 then { desc.data with size := desc.size } else desc.data }

-- The D3D11 backend supports storage buffers.
def sgValidateBufferDesc (s : SgState) (desc : SgBufferDesc) : Bool :=
  if s.validation then
    decide (0 < desc.size) &&
      (if !desc.injected && decide (desc.usage = .immutable) then
        desc.data.ptr.isSome && decide (0 < desc.data.size) && decide (desc.size = desc.data.size)
      else desc.data.ptr.isNone) &&
      (if desc.type = .storageBuffer then decide (desc.size % 4 = 0) else true)
  else true

def sgBufferCommonInit (desc : SgBufferDesc) : SgBufferCommon :=
  { size := castInt desc.size
    type := desc.type
    usage := desc.usage }

-- CreateBuffer copies the data it is given.
def bufferMemory (data : SgRange) : Nat → UInt8 := fun offset => (data.ptr.getD []).getD offset 0

def sgStateOf (created : Bool) : SgResourceState := if created then .valid else .failed

def sgInitBuffer (s : SgState) (old : SgBuffer) (desc : SgBufferDesc) (reply : InitReply) :
    SgResourceState × SgBuffer :=
  if sgValidateBufferDesc s desc then
    (sgStateOf reply.created, ⟨sgBufferCommonInit desc, bufferMemory desc.data⟩)
  else (.failed, old)

def sgInitShader (old : SgShaderCommon) (desc : SgShaderDesc) (reply : InitReply) :
    SgResourceState × SgShaderCommon :=
  if reply.validated then
    (sgStateOf reply.created, ⟨fun stage => (desc.uniformBlocks stage).takeWhile fun size => size ≠ 0⟩)
  else (.failed, old)

-- A pipeline takes hold of its shader only when that is valid.
def sgInitPipeline (s : SgState) (old : SgPipeline) (desc : SgPipelineDesc) (reply : InitReply) :
    Checked (SgResourceState × SgPipeline) :=
  if reply.validated then do
    match ← (s.store .shader).lookup desc.shader with
    | some shader =>
        if ((s.store .shader).slot shader).state = .valid then
          return (sgStateOf reply.created, ⟨shader, desc.shader⟩)
        else return (.failed, old)
    | none => return (.failed, old)
  else return (.failed, old)

-- _sg_miplevel_dim.
def sgMiplevelDim (baseDim : Int) (mipLevel : Nat) : Int := max (baseDim >>> mipLevel) 1

-- The image of a surface when it is valid, else none.
def validImage (s : SgState) (id : UInt32) : Checked (Option SgImage) := do
  match ← (s.store .image).lookup id with
  | some index =>
      if ((s.store .image).slot index).state = .valid then return some ((s.store .image).body index)
      else return none
  | none => return none

def surfaceSize (desc : SgAttachmentDesc) (image : SgImage) : SgAttachments :=
  ⟨sgMiplevelDim image.width desc.mipLevel, sgMiplevelDim image.height desc.mipLevel⟩

-- The size of a surface that is used replaces the size so far; none says that its image is not valid.
def applySurface (s : SgState) (desc : SgAttachmentDesc) (size : SgAttachments) : Checked (Option SgAttachments) :=
  if desc.image ≠ 0 then do
    let image ← validImage s desc.image
    return image.map (surfaceSize desc)
  else return some size

def colorSurfaces (s : SgState) : List (SgAttachmentDesc × UInt32) → SgAttachments → Checked (Option SgAttachments)
  | [], size => return some size
  | (color, resolve) :: rest, size => do
      match ← applySurface s color size with
      | none => return none
      | some next =>
          if resolve ≠ 0 then
            match ← validImage s resolve with
            | some _ => colorSurfaces s rest next
            | none => return none
          else colorSurfaces s rest next

def sgInitAttachments (s : SgState) (old : SgAttachments) (desc : SgAttachmentsDesc) (reply : InitReply) :
    Checked (SgResourceState × SgAttachments) :=
  if reply.validated then do
    match ← colorSurfaces s desc.colors {} with
    | none => return (.failed, old)
    | some colors =>
        match ← applySurface s desc.depthStencil colors with
        | none => return (.failed, old)
        | some size =>
            sokolAssert (0 < size.width ∧ 0 < size.height)
            return (sgStateOf reply.created, size)
  else return (.failed, old)

def sgInitImage (old : SgImage) (desc : SgImageDesc) (reply : InitReply) : SgResourceState × SgImage :=
  if reply.validated then (sgStateOf reply.created, ⟨desc.width, desc.height⟩) else (.failed, old)

def sgInitSampler (reply : InitReply) : SgResourceState :=
  if reply.validated then sgStateOf reply.created else .failed

def initBody (s : SgState) : (k : Kind) → Body k → Desc k → InitReply → Checked (SgResourceState × Body k)
  | .buffer, old, desc, reply => return sgInitBuffer s old (sgBufferDescDefaults desc) reply
  | .image, old, desc, reply => return sgInitImage old desc reply
  | .sampler, old, _, reply => return (sgInitSampler reply, old)
  | .shader, old, desc, reply => return sgInitShader old desc reply
  | .pipeline, old, desc, reply => sgInitPipeline s old desc reply
  | .attachments, old, desc, reply => sgInitAttachments s old desc reply

-- _sg_init_buffer and its siblings on the item at index.
def initItem (k : Kind) (index : Nat) (desc : Desc k) (reply : InitReply) (s : SgState) : Checked SgState := do
  let store := s.store k
  sokolAssert ((store.slot index).state = .alloc)
  let (state, body) ← initBody s k (store.body index) desc reply
  sokolAssert (state = .valid ∨ state = .failed)
  return s.setStore k (store.put index ⟨{ store.slot index with state := state }, body⟩)

-- The public functions of the six kinds. The state is what the C functions keep in _sg.
def sgAlloc (k : Kind) (s : SgState) : Checked (UInt32 × SgState) := do
  sokolAssert (s.valid = true)
  let (id, store) ← (s.store k).alloc
  let next := s.setStore k store
  return (id, if id = 0 then next.error (.poolExhausted k) else next)

def sgDealloc (k : Kind) (id : UInt32) (s : SgState) : Checked SgState := do
  sokolAssert (s.valid = true)
  match ← (s.store k).lookup id with
  | some index =>
      if ((s.store k).slot index).state = .alloc then return s.setStore k (← (s.store k).dealloc index)
      else return s.error (.deallocInvalidState k)
  | none => return s

def sgInit (k : Kind) (id : UInt32) (desc : Desc k) (reply : InitReply) (s : SgState) : Checked SgState := do
  sokolAssert (s.valid = true)
  match ← (s.store k).lookup id with
  | some index =>
      if ((s.store k).slot index).state = .alloc then initItem k index desc reply s
      else return s.error (.initInvalidState k)
  | none => return s

-- The D3D11 backend lets go of the pipeline it has bound when that pipeline is discarded.
def SgState.discard (s : SgState) (k : Kind) (index : Nat) : SgState :=
  { s with d3d11Pipeline :=
      if k = .pipeline ∧ index = slotIndexOf s.d3d11Pipeline then 0 else s.d3d11Pipeline }

def sgUninit (k : Kind) (id : UInt32) (s : SgState) : Checked SgState := do
  sokolAssert (s.valid = true)
  match ← (s.store k).lookup id with
  | some index =>
      if ((s.store k).slot index).state = .valid ∨ ((s.store k).slot index).state = .failed then
        return (s.discard k index).setStore k (← (s.store k).uninit index)
      else return s.error (.uninitInvalidState k)
  | none => return s

def sgFail (k : Kind) (id : UInt32) (s : SgState) : Checked SgState := do
  sokolAssert (s.valid = true)
  let store := s.store k
  match ← store.lookup id with
  | some index =>
      if (store.slot index).state = .alloc then
        return s.setStore k (store.put index { store.items index with slot := { store.slot index with state := .failed } })
      else return s.error (.failInvalidState k)
  | none => return s

def sgQueryState (k : Kind) (id : UInt32) (s : SgState) : Checked SgResourceState := do
  sokolAssert (s.valid = true)
  match ← (s.store k).lookup id with
  | some index => return ((s.store k).slot index).state
  | none => return .invalid

def sgMake (k : Kind) (desc : Desc k) (reply : InitReply) (s : SgState) : Checked (UInt32 × SgState) := do
  let (id, allocated) ← sgAlloc k s
  if id ≠ 0 then
    let index ← (allocated.store k).itemAt id
    return (id, ← initItem k index desc reply allocated)
  else return (id, allocated)

def sgDestroy (k : Kind) (id : UInt32) (s : SgState) : Checked SgState := do
  sokolAssert (s.valid = true)
  match ← (s.store k).lookup id with
  | some index =>
      let state := ((s.store k).slot index).state
      let uninited ←
        if state = .valid ∨ state = .failed then do
          pure ((s.discard k index).setStore k (← (s.store k).uninit index))
        else pure s
      if ((uninited.store k).slot index).state = .alloc then
        return uninited.setStore k (← (uninited.store k).dealloc index)
      else return uninited
  | none => return s

end WakeAlpha.Gfx
