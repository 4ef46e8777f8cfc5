import WakeAlpha.Demo.Keyboard

set_option autoImplicit false

namespace WakeAlpha.Demo

abbrev Step := Vars × List LibCall

-- What app_frame of each program does around the body of its window. igBegin runs only while
-- app_open is set, and the body and igEnd only when it returns true.
def windowFrame (input : FrameInput) (body : Vars → Step) (width height : Int) (vars : Vars) : Step :=
  let placed : List LibCall := [.igSetNextWindowPos 0 0, .igSetNextWindowSize width height]
  if vars.appOpen then
    let begun := { vars with appOpen := !input.closes }
    if input.begins then
      let (next, calls) := body begun
      (next, placed ++ [.igBegin "App" true] ++ calls ++ [.igEnd])
    else (begun, placed ++ [.igBegin "App" false])
  else (vars, placed)

def newFrame (input : FrameInput) : LibCall :=
  .simguiNewFrame (Sapp.sappWidth input.sapp) (Sapp.sappHeight input.sapp) input.frameDuration
    input.sapp.dpiScale

def quadIndices : List Nat := [0, 1, 2, 0, 2, 3]

-- init_quad of each program, with its vertices and the floats of each vertex attribute.
def makeQuad (vertices : List Rat) (attrFloats : List Nat) : List LibCall :=
  [.sgMakeVertexBuffer vertices, .sgMakeIndexBuffer quadIndices, .sgMakeShader,
    .sgMakePipeline attrFloats]

def setupWith (quad : List LibCall) : List LibCall := [.sgSetup, .simguiSetup] ++ quad

def shutdownAll : List LibCall := [.simguiShutdown, .sgShutdown]

-- The uniform block that app_update of shadertoy.jc and tot.jc writes, field by field.
def updateParams (input : FrameInput) (block : FsParams) : FsParams :=
  { block with
    iMouse := { block.iMouse with x := input.mouse.x, y := input.mouse.y }
    iResolution := ⟨Sapp.sappWidth input.sapp, Sapp.sappHeight input.sapp, Sapp.sappHeight input.sapp⟩
    iTime := input.time
    iTimeDelta := input.time }

structure Program where
  init : List LibCall
  frame : FrameInput → Vars → Step
  cleanup : List LibCall

namespace Quad

def appUpdate (input : FrameInput) (vars : Vars) : Step :=
  (vars,
    [.igText "iTime %lf" [input.time],
      .igText "iResolution %d %d" [(Sapp.sappWidth input.sapp : Rat), (Sapp.sappHeight input.sapp : Rat)],
      .igText "iMouse %f %f" [input.mouse.x, input.mouse.y]])

def appFrame (input : FrameInput) : Int → Int → Vars → Step := windowFrame input (appUpdate input)

def frame (input : FrameInput) (vars : Vars) : Step :=
  let (next, window) := appFrame input (Sapp.sappWidth input.sapp) (Sapp.sappHeight input.sapp) vars
  (next,
    [newFrame input] ++ window ++
      [.sgBeginPass, .simguiRender, .sgApplyPipeline, .sgApplyBindings, .sgDraw 0 6 1, .sgEndPass, .sgCommit])

def vertices : List Rat :=
  [-1/2,  1/2, 1/2, 1, 0, 0, 1,
    1/2,  1/2, 1/2, 0, 1, 0, 1,
    1/2, -1/2, 1/2, 0, 0, 1, 1,
   -1/2, -1/2, 1/2, 1, 1, 0, 1]

def attrFloats : List Nat := [3, 4]
def initQuad : List LibCall := makeQuad vertices attrFloats
def init : List LibCall := setupWith initQuad
def cleanup : List LibCall := shutdownAll
def program : Program := ⟨init, frame, cleanup⟩

end Quad

namespace Shadertoy

def appUpdate (input : FrameInput) (vars : Vars) : Step :=
  ({ vars with shParams := updateParams input vars.shParams },
    [.styleWindowBgAlpha (1/5), .igText "iTime %.2f" [input.time],
      .igText "iResolution %d %d" [(Sapp.sappWidth input.sapp : Rat), (Sapp.sappHeight input.sapp : Rat)]] ++
    (if 0 < input.mouse.x then [.igText "iMouse %.f %.f" [input.mouse.x, input.mouse.y]] else []) ++
    [.igText "----------------------------------" [], .igText "----Welcome to my JIT editor --" [],
      .igText "----------------------------------" []])

def readKeys : KeyReader FrameInput := fun key input => (input.keys key, input)

def windowBody (input : FrameInput) (vars : Vars) : Step :=
  let (updated, texts) := appUpdate input vars
  let reflected := reflectKeyboard readKeys input updated.on
  ({ updated with on := reflected.on }, texts ++ reflected.calls)

def appFrame (input : FrameInput) : Int → Int → Vars → Step := windowFrame input (windowBody input)

def frame (input : FrameInput) (vars : Vars) : Step :=
  let (next, window) := appFrame input (Sapp.sappWidth input.sapp) (Sapp.sappHeight input.sapp) vars
  (next,
    [newFrame input] ++ window ++
      [.sgBeginPass, .sgApplyPipeline, .sgApplyBindings, .sgApplyUniforms next.shParams, .sgDraw 0 6 1,
        .simguiRender, .sgEndPass, .sgCommit] ++
      (if input.requestClose then [.sappQuit] else []))

def vertices : List Rat :=
  [-1,  1, 1,
    1,  1, 1,
    1, -1, 1,
   -1, -1, 1]

def attrFloats : List Nat := [3]
def initQuad : List LibCall := makeQuad vertices attrFloats
def init : List LibCall := setupWith initQuad
def cleanup : List LibCall := shutdownAll
def program : Program := ⟨init, frame, cleanup⟩

end Shadertoy

namespace Tot

def appUpdate (input : FrameInput) (vars : Vars) : Step :=
  ({ vars with shParams := updateParams input vars.shParams },
    [.styleWindowBgAlpha 0] ++ (if input.escapePressed then [.sappQuit] else []))

def appFrame (input : FrameInput) : Int → Int → Vars → Step := windowFrame input (appUpdate input)

def frame (input : FrameInput) (vars : Vars) : Step :=
  let (next, window) := appFrame input (Sapp.sappWidth input.sapp) (Sapp.sappHeight input.sapp) vars
  (next,
    reflectKeyboard input.keys ++ [newFrame input] ++ window ++
      [.sgBeginPass, .sgApplyPipeline, .sgApplyBindings, .sgApplyUniforms next.shParams, .sgDraw 0 6 1,
        .simguiRender, .sgEndPass, .sgCommit])

def vertices : List Rat :=
  [-1,  1, 1, 1, 0, 0, 1,
    1,  1, 1, 0, 0, 0, 1,
    1, -1, 1, 0, 1, 0, 1,
   -1, -1, 1, 1, 1, 0, 1]

def attrFloats : List Nat := [3, 4]
def initQuad : List LibCall := makeQuad vertices attrFloats
def init : List LibCall := setupWith initQuad
def cleanup : List LibCall := shutdownAll
def program : Program := ⟨init, frame, cleanup⟩

end Tot

inductive JcFile where
  | quad
  | shadertoy
  | tot
deriving DecidableEq, Repr

def JcFile.program : JcFile → Program
  | .quad => Quad.program
  | .shadertoy => Shadertoy.program
  | .tot => Tot.program

-- A run of frames 0, 1, 2, ... from the static initial values of the globals.
def Program.varsAt (p : Program) (inputs : Nat → FrameInput) : Nat → Vars
  | 0 => {}
  | k + 1 => (p.frame (inputs k) (p.varsAt inputs k)).1

def Program.callsAt (p : Program) (inputs : Nat → FrameInput) (k : Nat) : List LibCall :=
  (p.frame (inputs k) (p.varsAt inputs k)).2

end WakeAlpha.Demo
