import WakeAlpha.Sapp.Win32

set_option autoImplicit false

namespace WakeAlpha.Sapp

-- A C function pointer is its address; zero is the null pointer.
abbrev FnPtr := Nat

-- sapp_desc without the fields no modelled function reads: the title, the icon, the
-- allocator, the logger and the options of the GL, HTML5, iOS and console back ends.
structure SappDesc where
  initCb : FnPtr := 0
  frameCb : FnPtr := 0
  cleanupCb : FnPtr := 0
  eventCb : FnPtr := 0
  userData : Nat := 0
  initUserdataCb : FnPtr := 0
  frameUserdataCb : FnPtr := 0
  cleanupUserdataCb : FnPtr := 0
  eventUserdataCb : FnPtr := 0
  width : Int := 0
  height : Int := 0
  sampleCount : Int := 0
  swapInterval : Int := 0
  highDpi : Bool := false
  fullscreen : Bool := false
  enableClipboard : Bool := false
  clipboardSize : Int := 0
  enableDragndrop : Bool := false
  maxDroppedFiles : Int := 0
  maxDroppedFilePathLength : Int := 0
deriving DecidableEq, Repr

-- The scale factors are C floats; the model computes with exact rationals.
structure SappWin32Dpi where
  aware : Bool := false
  contentScale : Rat := 0
  windowScale : Rat := 0
  mouseScale : Rat := 0
deriving DecidableEq, Repr

structure SappWin32 where
  storedWindowRect : Rect := {}
  inCreateWindow : Bool := false
  iconified : Bool := false
  mouseTracked : Bool := false
  mouseCaptureMask : BitVec 8 := 0
  rawInputMouseposValid : Bool := false
  dpi : SappWin32Dpi := {}
deriving DecidableEq, Repr

structure SappMouse where
  shown : Bool := false
  locked : Bool := false
deriving DecidableEq, Repr

structure SappClipboard where
  enabled : Bool := false
  bufSize : Int := 0
deriving DecidableEq, Repr

structure SappDrop where
  enabled : Bool := false
  maxFiles : Int := 0
  maxPathLength : Int := 0
  bufSize : Int := 0
deriving DecidableEq, Repr

-- The default of every field is the value memset leaves, so {} is the static _sapp before
-- the first run and the record _SAPP_CLEAR_ARC_STRUCT produces.
structure SappState where
  desc : SappDesc := {}
  valid : Bool := false
  fullscreen : Bool := false
  firstFrame : Bool := false
  initCalled : Bool := false
  cleanupCalled : Bool := false
  quitRequested : Bool := false
  quitOrdered : Bool := false
  eventConsumed : Bool := false
  windowWidth : Int := 0
  windowHeight : Int := 0
  framebufferWidth : Int := 0
  framebufferHeight : Int := 0
  sampleCount : Int := 0
  swapInterval : Int := 0
  dpiScale : Rat := 0
  frameCount : Nat := 0
  mouse : SappMouse := {}
  clipboard : SappClipboard := {}
  drop : SappDrop := {}
  win32 : SappWin32 := {}
deriving DecidableEq, Repr

def SappState.cleared : SappState := {}

-- _sapp_def: a zero value stands for the default.
def sappDef (val default : Int) : Int := if val = 0 then default else val

def sappDescDefaults (desc : SappDesc) : SappDesc :=
  { desc with
    sampleCount := sappDef desc.sampleCount 1
    swapInterval := sappDef desc.swapInterval 0
    clipboardSize := sappDef desc.clipboardSize 8192
    maxDroppedFiles := sappDef desc.maxDroppedFiles 1
    maxDroppedFilePathLength := sappDef desc.maxDroppedFilePathLength 2048 }

-- The old state is an argument because the C function overwrites the static _sapp.
def sappInitState (desc : SappDesc) (_old : SappState) : SappState :=
  let resolved := sappDescDefaults desc
  { SappState.cleared with
    desc := resolved
    firstFrame := true
    windowWidth := resolved.width
    windowHeight := resolved.height
    framebufferWidth := resolved.width
    framebufferHeight := resolved.height
    sampleCount := resolved.sampleCount
    swapInterval := resolved.swapInterval
    clipboard :=
      if resolved.enableClipboard then { enabled := true, bufSize := resolved.clipboardSize } else {}
    drop :=
      if resolved.enableDragndrop then
        { enabled := true
          maxFiles := resolved.maxDroppedFiles
          maxPathLength := resolved.maxDroppedFilePathLength
          bufSize := resolved.maxDroppedFiles * resolved.maxDroppedFilePathLength }
      else {}
    dpiScale := 1
    fullscreen := resolved.fullscreen
    mouse := { shown := true } }

def sappDiscardState (_old : SappState) : SappState := SappState.cleared

def sappWidth (sapp : SappState) : Int :=
  if sapp.framebufferWidth > 0 then sapp.framebufferWidth else 1

def sappHeight (sapp : SappState) : Int :=
  if sapp.framebufferHeight > 0 then sapp.framebufferHeight else 1

theorem sapp_width_pos (sapp : SappState) : 1 ≤ sappWidth sapp := by
  unfold sappWidth
  split <;> omega

theorem sapp_height_pos (sapp : SappState) : 1 ≤ sappHeight sapp := by
  unfold sappHeight
  split <;> omega

end WakeAlpha.Sapp
