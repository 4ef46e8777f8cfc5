import WakeAlpha.Sapp.Process

set_option autoImplicit false

namespace WakeAlpha.Demo

open WakeAlpha.Sapp

-- Where the JIT has put the functions that a program's main names in its descriptor.
structure Image where
  init : FnPtr
  frame : FnPtr
  cdbguiEvent : FnPtr
  cleanup : FnPtr

def overlayExStyle : Dword :=
  wsExNoredirectionbitmap ||| wsExTopmost ||| wsExNoactivate ||| wsExTransparent ||| wsExLayered
def overlayStyle : Dword := wsClipsiblings ||| wsClipchildren ||| wsPopup

def quadDesc (image : Image) : SappDesc where
  initCb := image.init
  frameCb := image.frame
  eventCb := image.cdbguiEvent
  cleanupCb := image.cleanup
  width := 800
  height := 10
  swapInterval := 1

def shadertoyDesc (image : Image) : SappDesc where
  initCb := image.init
  frameCb := image.frame
  eventCb := image.cdbguiEvent
  cleanupCb := image.cleanup
  width := 1000
  height := 900
  swapInterval := 1
  fullscreen := true

def totDesc (image : Image) : SappDesc where
  initCb := image.init
  frameCb := image.frame
  eventCb := image.cdbguiEvent
  cleanupCb := image.cleanup
  width := 800
  height := 600
  swapInterval := 1
  fullscreen := true

def quadMain (image : Image) (machine : Win32) (script : RunScript) : Session where
  machine := machine
  desc := quadDesc image
  script := script

def shadertoyMain (image : Image) (machine : Win32) (script : RunScript) : Session where
  machine := machine
  setters := [.createWindowStyle overlayExStyle overlayStyle]
  desc := shadertoyDesc image
  script := script

def totMain (image : Image) (machine : Win32) (script : RunScript) : Session where
  machine := machine
  setters := [.createWindowStyle overlayExStyle overlayStyle]
  desc := totDesc image
  script := script

end WakeAlpha.Demo
