import WakeAlpha.Demo.Program
import WakeAlpha.Imgui.Resources
import WakeAlpha.Imgui.Render

set_option autoImplicit false

namespace WakeAlpha.Demo

open WakeAlpha.Gfx WakeAlpha.Imgui

-- How the C compiler lays out floats and the uniform block in memory, and the uniform blocks of the shader
-- that sokol-shdc makes of the .glsl file.
structure Layout where
  float : Rat → List UInt8
  block : FsParams → List UInt8
  uniformBlocks : SgShaderStage → List Nat

-- What the backend, the window and Dear ImGui answer while init or a frame runs.
structure Host where
  setup : SetupReplies := {}
  atlas : FontAtlas := {}
  vertexBuffer : InitReply := {}
  indexBuffer : InitReply := {}
  shader : InitReply := {}
  pipeline : InitReply := {}
  texReady : Bool := true
  renderView : Bool := true
  passValidated : Bool := true
  formats : Bool := true
  bindingsValidated : Bool := true
  render : RenderFrame := {}
  cmdLists : List ImDrawList := []

-- The two libraries, none while they are down, and the handles a program keeps: state.bind, state.pip and
-- the local shd of init_quad.
structure App where
  gfx : Option SgState := none
  gui : Option Simgui := none
  bind : SgBindings := {}
  shd : UInt32 := 0
  pip : UInt32 := 0

-- SG_RANGE.
def rangeOf (bytes : List UInt8) : SgRange := ⟨some bytes, bytes.length⟩

def indexBytes (index : Nat) : List UInt8 := [UInt8.ofNat index, UInt8.ofNat (index / 256)]

-- sglue_swapchain, without the formats and the views of the other backends.
def sglueSwapchain (sapp : Sapp.SappState) (renderView : Bool) : SgSwapchain :=
  { width := Sapp.sappWidth sapp
    height := Sapp.sappHeight sapp
    sampleCount := sapp.sampleCount
    renderView := renderView }

def App.sg (d : App) (call : SgCall) : Checked App := do return { d with gfx := ← sgStep (← d.gfx) call }

variable (layout : Layout)

-- What a call of a .jc program does to the libraries. Dear ImGui keeps its windows to itself.
def libStep (host : Host) (input : FrameInput) (d : App) : LibCall → Checked App
  | .sgSetup => do return { d with gfx := ← sgSetup { defaultSampleCount := input.sapp.sampleCount } }
  | .simguiSetup => do
      let (gui, gfx) ← simguiSetup {} host.setup host.atlas (← d.gfx)
      return { d with gfx, gui }
  | .sgMakeVertexBuffer data => do
      let vertices := rangeOf (data.flatMap layout.float)
      let (id, gfx) ← sgMake .buffer { data := vertices } host.vertexBuffer (← d.gfx)
      return { d with gfx, bind := { d.bind with vertexBuffers := [id] } }
  | .sgMakeIndexBuffer data => do
      let indices := rangeOf (data.flatMap indexBytes)
      let (id, gfx) ← sgMake .buffer { type := .indexBuffer, data := indices } host.indexBuffer (← d.gfx)
      return { d with gfx, bind := { d.bind with indexBuffer := id } }
  | .sgMakeShader => do
      let (id, gfx) ← sgMake .shader ⟨layout.uniformBlocks⟩ host.shader (← d.gfx)
      return { d with gfx, shd := id }
  | .sgMakePipeline _ => do
      let (id, gfx) ← sgMake .pipeline ⟨d.shd⟩ host.pipeline (← d.gfx)
      return { d with gfx, pip := id }
  | .simguiNewFrame width height _ _ => do
      let (gui, gfx) ← simguiNewFrame ⟨width, height, host.texReady, host.atlas⟩ (← d.gui) (← d.gfx)
      return { d with gfx, gui }
  | .sgBeginPass => d.sg (.beginPass { swapchain := sglueSwapchain input.sapp host.renderView } host.passValidated)
  | .sgApplyPipeline => d.sg (.applyPipeline d.pip host.formats)
  | .sgApplyBindings => d.sg (.applyBindings d.bind host.bindingsValidated)
  | .sgApplyUniforms block => d.sg (.applyUniforms .fs 0 (rangeOf (layout.block block)))
  | .sgDraw base elements instances => d.sg (.draw base elements instances)
  | .simguiRender => do
      let calls ← simguiRender (← d.gui) host.render (some host.cmdLists)
      return { d with gfx := ← sgRun (← d.gfx) (calls.flatMap ImCall.calls) }
  | .sgEndPass => d.sg .endPass
  | .sgCommit => d.sg .commit
  | .simguiShutdown => do
      let (gui, gfx) ← simguiShutdown (← d.gui) (← d.gfx)
      return { d with gfx, gui }
  | .sgShutdown => return { d with gfx := none }
  | .igSetNextWindowPos _ _ | .igSetNextWindowSize _ _ | .igBegin _ _ | .styleWindowBgAlpha _ | .igText _ _
  | .igEnd | .sappQuit | .sappToggleFullscreen => return d

def libRun (host : Host) (input : FrameInput) (calls : List LibCall) (d : App) : Checked App :=
  calls.foldlM (libStep layout host input) d

-- The first n frames after init, each with what it is answered and what it finds.
def runFrames (file : JcFile) (hosts : Nat → Host) (inputs : Nat → FrameInput) (d : App) : Nat → Checked App
  | 0 => some d
  | n + 1 => do libRun layout (hosts n) (inputs n) (file.program.callsAt inputs n) (← runFrames file hosts inputs d n)

end WakeAlpha.Demo
