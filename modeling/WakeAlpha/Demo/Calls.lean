import WakeAlpha.Geometry.Vec
import WakeAlpha.Sapp.State

set_option autoImplicit false

namespace WakeAlpha.Demo

open WakeAlpha.Geometry

-- The uniform block fs_params. The C struct holds floats; the model computes with rationals.
structure FsParams where
  iMouse : Vec4 Rat := ⟨0, 0, 0, 0⟩
  iResolution : Vec3 Rat := ⟨0, 0, 0⟩
  iTime : Rat := 0
  iTimeDelta : Rat := 0
  iFrameRate : Rat := 0
deriving DecidableEq, Repr

-- The calls of a .jc program that do something. Those that only ask (igGetIO, sapp_width,
-- jit_time, GetAsyncKeyState) are answered by the frame's input.
inductive LibCall where
  | sgSetup
  | simguiSetup
  | sgMakeVertexBuffer (data : List Rat)
  | sgMakeIndexBuffer (data : List Nat)
  | sgMakeShader
  | sgMakePipeline (attrFloats : List Nat)
  | simguiNewFrame (width height : Int) (deltaTime dpiScale : Rat)
  | igSetNextWindowPos (x y : Rat)
  | igSetNextWindowSize (width height : Int)
  | igBegin (name : String) (result : Bool)
  | styleWindowBgAlpha (alpha : Rat)
  | igText (format : String) (args : List Rat)
  | igEnd
  | sgBeginPass
  | sgApplyPipeline
  | sgApplyBindings
  | sgApplyUniforms (block : FsParams)
  | sgDraw (baseElement numElements numInstances : Nat)
  | simguiRender
  | sgEndPass
  | sgCommit
  | sappQuit
  | sappToggleFullscreen
  | simguiShutdown
  | sgShutdown
deriving DecidableEq, Repr

-- What one frame finds when it asks: the answers of sapp, of the clock, of Dear ImGui, of
-- GetAsyncKeyState and of the JIT. closes tells whether igBegin clears app_open.
structure FrameInput where
  sapp : Sapp.SappState := {}
  frameDuration : Rat := 0
  time : Rat := 0
  mouse : Vec2 Rat := ⟨0, 0⟩
  begins : Bool := true
  closes : Bool := false
  escapePressed : Bool := false
  keys : Nat → BitVec 16 := fun _ => 0
  requestClose : Bool := false

-- The globals of the three programs; quad.jc has app_open alone, and only shadertoy.jc has on.
structure Vars where
  appOpen : Bool := true
  on : Bool := false
  shParams : FsParams := {}
deriving DecidableEq, Repr

end WakeAlpha.Demo
