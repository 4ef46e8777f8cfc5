import WakeAlpha.Gfx.Api
import WakeAlpha.Imgui.State

set_option autoImplicit false

namespace WakeAlpha.Imgui

open WakeAlpha.Gfx

structure ImDrawVert where
  bytes : List UInt8
  sizeof : bytes.length = sizeofImDrawVert

structure ImDrawIdx where
  bytes : List UInt8
  sizeof : bytes.length = sizeofImDrawIdx

structure Rect where
  x : Int := 0
  y : Int := 0
  width : Int := 0
  height : Int := 0
deriving DecidableEq, Repr

-- A user callback is the calls it makes into sokol_gfx.
inductive ImDrawCallback where
  | none
  | resetRenderState
  | user (calls : List SgCall)

-- clip is the scissor rectangle that ClipRect and the dpi scale give; the floats are left out.
structure ImDrawCmd where
  callback : ImDrawCallback := .none
  textureId : Nat := 0
  vtxOffset : UInt32 := 0
  idxOffset : UInt32 := 0
  elemCount : UInt32 := 0
  clip : Rect := {}

structure ImDrawList where
  vtxBuffer : List ImDrawVert
  idxBuffer : List ImDrawIdx
  cmdBuffer : List ImDrawCmd

def ImDrawList.vertices (cl : ImDrawList) : List UInt8 := cl.vtxBuffer.flatMap ImDrawVert.bytes
def ImDrawList.indices (cl : ImDrawList) : List UInt8 := cl.idxBuffer.flatMap ImDrawIdx.bytes

-- What simgui_render takes from ImGuiIO and the current dpi scale, and the answers of the validation
-- layer to the calls it makes.
structure RenderFrame where
  fbWidth : Int := 0
  fbHeight : Int := 0
  vsParams : SgRange := {}
  fontTexId : Nat := 0
  formats : UInt32 → Bool := fun _ => true
  validated : SgBindings → Bool := fun _ => true
  vbufReply : MapReply := {}
  ibufReply : MapReply := {}

-- The calls simgui_render makes into sokol_gfx, and those its user callbacks make.
inductive ImCall where
  | sg (call : SgCall)
  | callback (calls : List SgCall)

def ImCall.calls : ImCall → List SgCall
  | .sg call => [call]
  | .callback calls => calls

-- The lists that fit into the intermediate buffers one after the other, and what is copied there.
def copyLists (g : Simgui) : List ImDrawList → List UInt8 → List UInt8 → List ImDrawList × List UInt8 × List UInt8
  | [], vtx, idx => ([], vtx, idx)
  | cl :: rest, vtx, idx =>
      let vtxSize := cl.vtxBuffer.length * sizeofImDrawVert
      let idxSize := cl.idxBuffer.length * sizeofImDrawIdx
      if vtx.length + vtxSize > g.vertices ∨ idx.length + idxSize > g.indices then ([], vtx, idx)
      else
        let (lists, allVtx, allIdx) := copyLists g rest (vtx ++ cl.vertices) (idx ++ cl.indices)
        (cl :: lists, allVtx, allIdx)

-- The variables of the loop: the bindings, and the texture and offset they were last made for.
structure RenderState where
  bind : SgBindings := {}
  texId : Nat := 0
  vtxOffset : UInt32 := 0

-- _simgui_bind_image_sampler.
def bindImageSampler (g : Simgui) (bind : SgBindings) (texId : Nat) : Checked (Option SimguiImage × SgBindings) := do
  match ← g.images.lookup (UInt32.ofNat texId) with
  | some index =>
      let img := g.images.body index
      return (some img, { bind with fs := { bind.fs with images := [img.image], samplers := [img.sampler] } })
  | none => return (none, { bind with fs := { bind.fs with images := [g.defImg], samplers := [g.defSmp] } })

def applyUniforms (frame : RenderFrame) : ImCall := .sg (.applyUniforms .vs 0 frame.vsParams)
def applyViewport (frame : RenderFrame) : ImCall := .sg (.applyViewport 0 0 frame.fbWidth frame.fbHeight true)
def applyPipeline (frame : RenderFrame) (pip : UInt32) : ImCall := .sg (.applyPipeline pip (frame.formats pip))
def applyBindings (frame : RenderFrame) (bind : SgBindings) : ImCall := .sg (.applyBindings bind (frame.validated bind))
def applyScissorRect (r : Rect) : ImCall := .sg (.applyScissorRect r.x r.y r.width r.height true)

def drawElements (cmd : ImDrawCmd) : ImCall :=
  .sg (.draw (castInt cmd.idxOffset.toNat) (castInt cmd.elemCount.toNat) 1)

def renderCmd (g : Simgui) (frame : RenderFrame) (vbOffset : Int) (state : RenderState) (cmd : ImDrawCmd) :
    Checked (List ImCall × RenderState) :=
  match cmd.callback with
  | .user calls =>
      return ([.callback calls, .sg .resetStateCache, applyViewport frame, applyPipeline frame g.defPip,
        applyUniforms frame, applyBindings frame state.bind], state)
  | .resetRenderState => return ([], state)
  | .none => do
      let drawing := [applyScissorRect cmd.clip, drawElements cmd]
      if state.texId ≠ cmd.textureId ∨ state.vtxOffset ≠ cmd.vtxOffset then
        let (img, bound) ← bindImageSampler g state.bind cmd.textureId
        let pip := match img with
          | some img => img.pip
          | none => g.defPip
        let bind := { bound with
          vertexBufferOffsets := [vbOffset + castInt (cmd.vtxOffset.toNat * sizeofImDrawVert)] }
        return ([applyPipeline frame pip, applyUniforms frame, applyBindings frame bind] ++ drawing,
          ⟨bind, cmd.textureId, cmd.vtxOffset⟩)
      else return (drawing, state)

def renderCmds (g : Simgui) (frame : RenderFrame) (vbOffset : Int) :
    List ImDrawCmd → RenderState → Checked (List ImCall × RenderState)
  | [], state => return ([], state)
  | cmd :: rest, state => do
      let (first, next) ← renderCmd g frame vbOffset state cmd
      let (others, last) ← renderCmds g frame vbOffset rest next
      return (first ++ others, last)

def renderLists (g : Simgui) (frame : RenderFrame) :
    List ImDrawList → (vbOffset ibOffset : Int) → RenderState → Checked (List ImCall)
  | [], _, _, _ => return []
  | cl :: rest, vbOffset, ibOffset, state => do
      let bind := { state.bind with vertexBufferOffsets := [vbOffset], indexBufferOffset := ibOffset }
      let (calls, next) ← renderCmds g frame vbOffset cl.cmdBuffer { state with bind := bind, vtxOffset := 0 }
      let others ← renderLists g frame rest
        (vbOffset + castInt (cl.vtxBuffer.length * sizeofImDrawVert))
        (ibOffset + castInt (cl.idxBuffer.length * sizeofImDrawIdx)) next
      return [applyBindings frame bind] ++ calls ++ others

def uploads (g : Simgui) (frame : RenderFrame) (vtx idx : List UInt8) : List ImCall :=
  (if 0 < vtx.length then [ImCall.sg (.updateBuffer g.vbuf ⟨some vtx, vtx.length⟩ frame.vbufReply)] else []) ++
    (if 0 < idx.length then [ImCall.sg (.updateBuffer g.ibuf ⟨some idx, idx.length⟩ frame.ibufReply)] else [])

-- none is the null pointer of igGetDrawData.
def simguiRender (g : Simgui) (frame : RenderFrame) (drawData : Option (List ImDrawList)) : Checked (List ImCall) := do
  sokolAssert (g.initCookie = true)
  match drawData with
  | none => return []
  | some cmdLists =>
      let (lists, vtx, idx) := copyLists g cmdLists [] []
      if lists = [] then return []
      else
        let (_, bind) ← bindImageSampler g { vertexBuffers := [g.vbuf], indexBuffer := g.ibuf } frame.fontTexId
        let calls ← renderLists g frame lists 0 0 ⟨bind, frame.fontTexId, 0⟩
        let whole : Rect := ⟨0, 0, frame.fbWidth, frame.fbHeight⟩
        return uploads g frame vtx idx ++
          [applyViewport frame, applyScissorRect whole, applyPipeline frame g.defPip, applyUniforms frame] ++
          calls ++ [applyViewport frame, applyScissorRect whole]

end WakeAlpha.Imgui
