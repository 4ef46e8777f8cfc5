import WakeAlpha.Sapp.State

set_option autoImplicit false

namespace WakeAlpha.Sapp

inductive EventType where
  | keyDown
  | keyUp
  | char
  | mouseDown
  | mouseUp
  | mouseScroll
  | mouseMove
  | mouseEnter
  | mouseLeave
  | resized
  | iconified
  | restored
  | focused
  | unfocused
  | quitRequested
  | clipboardPasted
  | filesDropped
deriving DecidableEq, Repr

-- sapp_event as _sapp_init_event fills it, without the mouse position and its delta.
structure SappEvent where
  type : EventType
  frameCount : Nat
  windowWidth : Int
  windowHeight : Int
  framebufferWidth : Int
  framebufferHeight : Int
deriving DecidableEq, Repr

-- A descriptor callback as it is called: the plain pointer, or the userdata pointer with
-- desc.user_data.
structure Callee where
  fn : FnPtr
  userData : Option Nat
deriving DecidableEq, Repr

inductive AppCallback where
  | init
  | frame
  | event (event : SappEvent)
  | cleanup
deriving DecidableEq, Repr

-- One entry for every call that leaves the library. A callback's entry keeps the library
-- state it can query; initReturned marks the return of init_cb.
inductive Obs where
  | win32 (call : Win32Call)
  | windowCreatedCb (fn : FnPtr) (seen : SappState)
  | wndprocCb (fn : FnPtr) (msg : Msg) (seen : SappState)
  | lresult (result : LResult)
  | called (callback : AppCallback) (callee : Callee) (seen : SappState)
  | initReturned
deriving DecidableEq, Repr

structure World where
  sapp : SappState := {}
  window : Window := {}
  trace : List Obs := []
deriving DecidableEq, Repr

def World.log (w : World) (obs : Obs) : World := { w with trace := w.trace ++ [obs] }

def World.win32 (w : World) (call : Win32Call) : World := w.log (.win32 call)

@[simp] theorem win32_sapp (w : World) (call : Win32Call) : (w.win32 call).sapp = w.sapp := rfl

def setWindowLongPtrStyle (style : Dword) (w : World) : World :=
  { w.win32 (.setWindowLongPtrStyle style) with window := { w.window with style := style } }

-- SWP_SHOWWINDOW and SWP_HIDEWINDOW set and clear WS_VISIBLE.
def shownStyle (style flags : Dword) : Dword :=
  if flags &&& swpShowwindow ≠ 0 then style ||| wsVisible
  else if flags &&& swpHidewindow ≠ 0 then style &&& ~~~wsVisible
  else style

def setWindowPos (x y cx cy : Int) (flags : Dword) (w : World) : World :=
  { w.win32 (.setWindowPos x y cx cy flags) with
    window := { w.window with
      style := shownStyle w.window.style flags
      rect := ⟨x, y, x + cx, y + cy⟩ } }

end WakeAlpha.Sapp
