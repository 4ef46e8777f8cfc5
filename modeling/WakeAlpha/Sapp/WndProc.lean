import WakeAlpha.Sapp.Callbacks

set_option autoImplicit false

namespace WakeAlpha.Sapp

structure HookReply where
  ret : Int := -1
  calls : List ApiCall := []

-- One message on its way to the window procedure, with what the user callbacks do if they are
-- called while it is handled. Messages that Win32 sends from inside a handler follow it.
structure Delivery where
  msg : Msg
  hook : HookReply := {}
  onEvent : EventReply := fun _ => []
  onFrame : FrameReply := {}

def scScreensave : Dword := 0xF140
def scMonitorpower : Dword := 0xF170
def scKeymenu : Dword := 0xF100
def sappMaxKeycodes : Nat := 512

def MouseButton.mask : MouseButton → BitVec 8
  | .left => 1
  | .right => 2
  | .middle => 4

def World.setQuitRequested (w : World) : World :=
  { w with sapp := { w.sapp with quitRequested := true } }
def World.setQuitOrdered (w : World) : World := { w with sapp := { w.sapp with quitOrdered := true } }
def World.setIconified (w : World) (iconified : Bool) : World :=
  { w with sapp := { w.sapp with win32 := { w.sapp.win32 with iconified := iconified } } }
def World.setMouseTracked (w : World) (tracked : Bool) : World :=
  { w with sapp := { w.sapp with win32 := { w.sapp.win32 with mouseTracked := tracked } } }
def World.setRawInputValid (w : World) (valid : Bool) : World :=
  { w with sapp := { w.sapp with win32 := { w.sapp.win32 with rawInputMouseposValid := valid } } }

def World.setDpiScale (w : World) (scale : Rat) : World :=
  { w with sapp := { w.sapp with
      dpiScale := scale
      win32 := { w.sapp.win32 with
        dpi := { w.sapp.win32.dpi with windowScale := scale, contentScale := scale } } } }

-- The user can only intervene through sapp_cancel_quit while no quit is ordered yet.
def orderQuit (reply : EventReply) (w : World) : World :=
  if w.sapp.quitOrdered then w
  else
    let told := sappWin32AppEvent reply .quitRequested w.setQuitRequested
    if told.sapp.quitRequested then told.setQuitOrdered else told

def wmClose (reply : EventReply) (w : World) : World :=
  let ordered := orderQuit reply w
  if ordered.sapp.quitOrdered then ordered.win32 .postQuitMessage else ordered

def wmSysCommand (wParam : Dword) (sapp : SappState) : LResult :=
  let command := wParam &&& 0xFFF0
  if command = scScreensave ∨ command = scMonitorpower then
    if sapp.fullscreen then .value 0 else .defWindowProcW
  else if command = scKeymenu then .value 0
  else .defWindowProcW

def wmSize (reply : EventReply) (iconified : Bool) (w : World) : World :=
  if iconified ≠ w.sapp.win32.iconified then
    sappWin32AppEvent reply (if iconified then .iconified else .restored) (w.setIconified iconified)
  else w

def wmKillFocus (reply : EventReply) (w : World) : World :=
  sappWin32AppEvent reply .unfocused (if w.sapp.mouse.locked then sappWin32LockMouse false w else w)

def sappWin32DpiChanged (dpiForWindow : Option Nat) (proposed : Rect) (w : World) : World :=
  match dpiForWindow with
  | some dpix =>
      setWindowPos proposed.left proposed.top proposed.width proposed.height
        (swpNozorder ||| swpNoactivate) (w.setDpiScale (dpix / 96))
  | none => w

def wmMouseMove (reply : EventReply) (w : World) : World :=
  if w.sapp.mouse.locked then w
  else
    let entered :=
      if w.sapp.win32.mouseTracked then w
      else sappWin32AppEvent reply .mouseEnter (w.setMouseTracked true)
    sappWin32AppEvent reply .mouseMove entered

-- none is a failed GetRawInputData; an absolute position marks the last position as known.
def wmInput (reply : EventReply) (absolute : Option Bool) (w : World) : World :=
  if w.sapp.mouse.locked then
    match absolute with
    | some absolute =>
        sappWin32AppEvent reply .mouseMove
          (w.setRawInputValid (absolute || w.sapp.win32.rawInputMouseposValid))
    | none => w
  else w

def wmMouseLeave (reply : EventReply) (w : World) : World :=
  if w.sapp.mouse.locked then w
  else sappWin32AppEvent reply .mouseLeave (w.setMouseTracked false)

-- The paste event goes out under the same events-enabled test as the key event.
def sappWin32KeyDown (reply : EventReply) (vk : Nat) (pasteChord : Bool) (w : World) : World :=
  if sappEventsEnabled w.sapp && decide (vk < sappMaxKeycodes) then
    let pressed := (sappCallEvent (sappInitEvent .keyDown w.sapp) (reply .keyDown) w).2
    if pressed.sapp.clipboard.enabled && pasteChord then
      (sappCallEvent (sappInitEvent .clipboardPasted pressed.sapp) (reply .clipboardPasted) pressed).2
    else pressed
  else w

def sappWin32FilesDropped (reply : EventReply) (pathsFit : Bool) (w : World) : World :=
  if w.sapp.drop.enabled && pathsFit then sappWin32AppEvent reply .filesDropped w else w

-- The switch of _sapp_win32_wndproc. PATCH_SOKOL_XTR_WIN_MSG adds no case.
def wndprocSwitch (d : Delivery) (w : World) : LResult × World :=
  match d.msg with
  | .close => (.value 0, wmClose d.onEvent w)
  | .sysCommand wParam => (wmSysCommand wParam w.sapp, w)
  | .eraseBkgnd => (.value 1, w)
  | .size minimized => (.defWindowProcW, wmSize d.onEvent minimized w)
  | .setFocus => (.defWindowProcW, sappWin32AppEvent d.onEvent .focused w)
  | .killFocus => (.defWindowProcW, wmKillFocus d.onEvent w)
  | .setCursor hitClient => (if hitClient then .value 1 else .defWindowProcW, w)
  | .dpiChanged dpi proposed => (.defWindowProcW, sappWin32DpiChanged dpi proposed w)
  | .buttonDown button =>
      (.defWindowProcW, sappWin32CaptureMouse button.mask (sappWin32AppEvent d.onEvent .mouseDown w))
  | .buttonUp button =>
      (.defWindowProcW, sappWin32ReleaseMouse button.mask (sappWin32AppEvent d.onEvent .mouseUp w))
  | .mouseMove => (.defWindowProcW, wmMouseMove d.onEvent w)
  | .input absolute => (.defWindowProcW, wmInput d.onEvent absolute w)
  | .mouseLeave => (.defWindowProcW, wmMouseLeave d.onEvent w)
  | .mouseWheel => (.defWindowProcW, sappWin32AppEvent d.onEvent .mouseScroll w)
  | .mouseHWheel => (.defWindowProcW, sappWin32AppEvent d.onEvent .mouseScroll w)
  | .char code => (.defWindowProcW, if 32 ≤ code then sappWin32AppEvent d.onEvent .char w else w)
  | .keyDown vk pasteChord => (.defWindowProcW, sappWin32KeyDown d.onEvent vk pasteChord w)
  | .keyUp vk =>
      (.defWindowProcW, if vk < sappMaxKeycodes then sappWin32AppEvent d.onEvent .keyUp w else w)
  | .enterSizeMove => (.defWindowProcW, w.win32 .setTimer)
  | .exitSizeMove => (.defWindowProcW, w.win32 .killTimer)
  | .timer => (.defWindowProcW, sappFrame d.onFrame w)
  | .ncLButtonDown hitCaption =>
      (.defWindowProcW, if hitCaption then w.win32 .postMessageMouseMove else w)
  | .dropFiles pathsFit => (.defWindowProcW, sappWin32FilesDropped d.onEvent pathsFit w)
  | .displayChange => (.defWindowProcW, w)
  | .destroy => (.defWindowProcW, w)
  | .ncDestroy => (.defWindowProcW, w)
  | .other _ => (.defWindowProcW, w)

-- A null hook is the unpatched procedure; any answer but -1 ends the handling.
def sappWin32Wndproc (hook : FnPtr) (d : Delivery) (w : World) : LResult × World :=
  if w.sapp.win32.inCreateWindow then (.defWindowProcW, w)
  else if hook ≠ 0 then
    let seen := w.enter (.wndprocCb hook d.msg w.sapp) d.hook.calls
    if d.hook.ret ≠ -1 then (.value d.hook.ret, seen) else wndprocSwitch d seen
  else wndprocSwitch d w

def dispatch (hook : FnPtr) (w : World) (d : Delivery) : World :=
  let (result, next) := sappWin32Wndproc hook d w
  next.log (.lresult result)

def dispatchAll (hook : FnPtr) (ds : List Delivery) (w : World) : World := ds.foldl (dispatch hook) w

end WakeAlpha.Sapp
