import WakeAlpha.Sapp.World

set_option autoImplicit false

namespace WakeAlpha.Sapp

-- The calls back into the library that user code makes while one of its callbacks runs.
inductive ApiCall where
  | quit
  | requestQuit
  | cancelQuit
  | consumeEvent
  | lockMouse (lock : Bool)
deriving DecidableEq, Repr

def sappQuit (w : World) : World := { w with sapp := { w.sapp with quitOrdered := true } }
def sappRequestQuit (w : World) : World := { w with sapp := { w.sapp with quitRequested := true } }
def sappCancelQuit (w : World) : World := { w with sapp := { w.sapp with quitRequested := false } }
def sappConsumeEvent (w : World) : World := { w with sapp := { w.sapp with eventConsumed := true } }

def World.setCaptureMask (w : World) (mask : BitVec 8) : World :=
  { w with sapp := { w.sapp with win32 := { w.sapp.win32 with mouseCaptureMask := mask } } }

def sappWin32CaptureMouse (mask : BitVec 8) (w : World) : World :=
  let held := w.sapp.win32.mouseCaptureMask
  (if held = 0 then w.win32 .setCapture else w).setCaptureMask (held ||| mask)

def sappWin32ReleaseMouse (mask : BitVec 8) (w : World) : World :=
  let held := w.sapp.win32.mouseCaptureMask
  if held = 0 then w
  else
    let left := held &&& ~~~mask
    let next := w.setCaptureMask left
    if left = 0 then next.win32 .releaseCapture else next

def World.setLocked (w : World) (lock rawValid : Bool) : World :=
  { w with sapp := { w.sapp with
      mouse := { w.sapp.mouse with locked := lock }
      win32 := { w.sapp.win32 with rawInputMouseposValid := rawValid } } }

def sappWin32LockMouse (lock : Bool) (w : World) : World :=
  if lock = w.sapp.mouse.locked then w
  else
    let valid := w.sapp.win32.rawInputMouseposValid
    let freed := sappWin32ReleaseMouse 0xFF (w.setLocked lock (if lock then false else valid))
    if lock then
      ((freed.win32 (.clipCursor true)).win32 (.showCursor false)).win32 (.registerRawInputDevices false)
    else
      (((freed.win32 (.registerRawInputDevices true)).win32 (.clipCursor false)).win32
        (.showCursor true)).win32 .setCursorPos

def apiCall (w : World) : ApiCall → World
  | .quit => sappQuit w
  | .requestQuit => sappRequestQuit w
  | .cancelQuit => sappCancelQuit w
  | .consumeEvent => sappConsumeEvent w
  | .lockMouse lock => sappWin32LockMouse lock w

-- A user callback leaves its entry in the trace and then makes its calls in order.
def World.enter (w : World) (obs : Obs) (calls : List ApiCall) : World :=
  calls.foldl apiCall (w.log obs)

-- The dispatch all four _sapp_call functions share: the plain pointer first, then the
-- userdata pointer with desc.user_data, else nothing.
def callee (plain withData : FnPtr) (userData : Nat) : Option Callee :=
  if plain ≠ 0 then some ⟨plain, none⟩
  else if withData ≠ 0 then some ⟨withData, some userData⟩
  else none

def SappDesc.initCallee (desc : SappDesc) : Option Callee :=
  callee desc.initCb desc.initUserdataCb desc.userData
def SappDesc.frameCallee (desc : SappDesc) : Option Callee :=
  callee desc.frameCb desc.frameUserdataCb desc.userData
def SappDesc.cleanupCallee (desc : SappDesc) : Option Callee :=
  callee desc.cleanupCb desc.cleanupUserdataCb desc.userData
def SappDesc.eventCallee (desc : SappDesc) : Option Callee :=
  callee desc.eventCb desc.eventUserdataCb desc.userData

def World.callApp (w : World) (callback : AppCallback) (target : Option Callee)
    (calls : List ApiCall) : World :=
  match target with
  | some callee => w.enter (.called callback callee w.sapp) calls
  | none => w

def World.setInitCalled (w : World) : World := { w with sapp := { w.sapp with initCalled := true } }
def World.setCleanupCalled (w : World) : World :=
  { w with sapp := { w.sapp with cleanupCalled := true } }
def World.setFirstFrame (w : World) (first : Bool) : World :=
  { w with sapp := { w.sapp with firstFrame := first } }

def sappCallInit (calls : List ApiCall) (w : World) : World :=
  ((w.callApp .init w.sapp.desc.initCallee calls).log .initReturned).setInitCalled

def sappCallFrame (calls : List ApiCall) (w : World) : World :=
  if w.sapp.initCalled && !w.sapp.cleanupCalled then w.callApp .frame w.sapp.desc.frameCallee calls
  else w

def sappCallCleanup (calls : List ApiCall) (w : World) : World :=
  if w.sapp.cleanupCalled then w
  else (w.callApp .cleanup w.sapp.desc.cleanupCallee calls).setCleanupCalled

-- The result tells whether the callback consumed the event; no caller on Win32 looks at it.
def sappCallEvent (event : SappEvent) (calls : List ApiCall) (w : World) : Bool × World :=
  let called :=
    if w.sapp.cleanupCalled then w else w.callApp (.event event) w.sapp.desc.eventCallee calls
  (called.sapp.eventConsumed, { called with sapp := { called.sapp with eventConsumed := false } })

def sappInitEvent (type : EventType) (sapp : SappState) : SappEvent :=
  { type := type
    frameCount := sapp.frameCount
    windowWidth := sapp.windowWidth
    windowHeight := sapp.windowHeight
    framebufferWidth := sapp.framebufferWidth
    framebufferHeight := sapp.framebufferHeight }

def sappEventsEnabled (sapp : SappState) : Bool :=
  sapp.desc.eventCallee.isSome && sapp.initCalled

-- What the user callbacks do when the library calls them at one point of a run.
structure FrameReply where
  init : List ApiCall := []
  frame : List ApiCall := []

abbrev EventReply := EventType → List ApiCall

-- _sapp_win32_app_event, and the shape _sapp_win32_mouse_event, _scroll_event, _key_event and
-- _char_event share with it once their own guards hold.
def sappWin32AppEvent (reply : EventReply) (type : EventType) (w : World) : World :=
  if sappEventsEnabled w.sapp then (sappCallEvent (sappInitEvent type w.sapp) (reply type) w).2 else w

def World.countFrame (w : World) : World :=
  { w with sapp := { w.sapp with frameCount := w.sapp.frameCount + 1 } }

def sappFrame (reply : FrameReply) (w : World) : World :=
  let started :=
    if w.sapp.firstFrame then sappCallInit reply.init (w.setFirstFrame false) else w
  (sappCallFrame reply.frame started).countFrame

end WakeAlpha.Sapp
