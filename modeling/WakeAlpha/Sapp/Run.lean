import WakeAlpha.Sapp.WndProc

set_option autoImplicit false

namespace WakeAlpha.Sapp

-- The static variables the patch adds beside _sapp.
structure PatchGlobals where
  xtraWinExStyle : Dword := 0
  xtraWinStyle : Dword := 0
  winCreatedCb : FnPtr := 0
  win32WndprocCb : FnPtr := 0
deriving DecidableEq, Repr

def wsappSetCreateWindowStyle (exStyle style : Dword) (g : PatchGlobals) : PatchGlobals :=
  { g with xtraWinExStyle := exStyle, xtraWinStyle := style }
def wsappSetWindowCreatedCb (fn : FnPtr) (g : PatchGlobals) : PatchGlobals := { g with winCreatedCb := fn }
def wsappSetWin32WndprocCb (fn : FnPtr) (g : PatchGlobals) : PatchGlobals :=
  { g with win32WndprocCb := fn }

def roundf (x : Rat) : Int := if 0 ≤ x then (x + 1 / 2).floor else (x - 1 / 2).ceil
def truncate (x : Rat) : Int := if 0 ≤ x then x.floor else x.ceil

def sappWin32InitDpi (win : Win32) (sapp : SappState) : SappState :=
  let aware :=
    if win.hasSetProcessDpiAwareness then sapp.desc.highDpi
    else if win.hasSetProcessDpiAware then true
    else sapp.win32.dpi.aware
  let windowScale : Rat :=
    match win.dpiForMonitor with
    | some dpix => if aware then (dpix : Rat) / 96 else 1
    | none => 1
  let contentScale : Rat := if sapp.desc.highDpi then windowScale else 1
  let mouseScale : Rat := if sapp.desc.highDpi then 1 else 1 / windowScale
  { sapp with
    dpiScale := contentScale
    win32 := { sapp.win32 with dpi := ⟨aware, contentScale, windowScale, mouseScale⟩ } }

def World.setSizes (w : World) (windowWidth windowHeight fbWidth fbHeight : Int) : World :=
  { w with sapp := { w.sapp with
      windowWidth := windowWidth
      windowHeight := windowHeight
      framebufferWidth := fbWidth
      framebufferHeight := fbHeight } }

-- client is what GetClientRect reads, none when it fails. The result says whether the
-- framebuffer size has changed.
def sappWin32UpdateDimensions (client : Option Rect) (w : World) : Bool × World :=
  match client with
  | some rect =>
      let dpi := w.sapp.win32.dpi
      let windowWidth : Rat := rect.width / dpi.windowScale
      let windowHeight : Rat := rect.height / dpi.windowScale
      let scaledWidth := roundf (windowWidth * dpi.contentScale)
      let scaledHeight := roundf (windowHeight * dpi.contentScale)
      let fbWidth := if scaledWidth = 0 then 1 else scaledWidth
      let fbHeight := if scaledHeight = 0 then 1 else scaledHeight
      let changed := fbWidth ≠ w.sapp.framebufferWidth ∨ fbHeight ≠ w.sapp.framebufferHeight
      (decide changed, w.setSizes (roundf windowWidth) (roundf windowHeight) fbWidth fbHeight)
  | none => (false, w.setSizes 1 1 1 1)

def windowedStyle : Dword :=
  wsClipsiblings ||| wsClipchildren ||| wsCaption ||| wsSysmenu ||| wsMinimizebox ||| wsMaximizebox |||
    wsSizebox
def fullscreenStyle : Dword := wsPopup ||| wsSysmenu ||| wsVisible

def World.storeFullscreen (w : World) (fullscreen : Bool) (stored : Rect) : World :=
  { w with sapp := { w.sapp with
      fullscreen := fullscreen
      win32 := { w.sapp.win32 with storedWindowRect := stored } } }

-- styleSent and posSent are the handling of what SetWindowLongPtr and SetWindowPos send.
def sappWin32SetFullscreen (win : Win32) (fullscreen : Bool) (monitor : Rect) (flags : Dword)
    (styleSent posSent : World → World) (w : World) : World :=
  let stored := if fullscreen then w.window.rect else w.sapp.win32.storedWindowRect
  let style := if fullscreen then fullscreenStyle else windowedStyle
  let rect :=
    if fullscreen then
      win.adjustWindowRectEx ⟨monitor.left, monitor.top, monitor.left + monitor.width,
        monitor.top + monitor.height⟩ fullscreenStyle wsExNoredirectionbitmap
    else stored
  let restyled := styleSent (setWindowLongPtrStyle style (w.storeFullscreen fullscreen stored))
  posSent (setWindowPos rect.left rect.top rect.width rect.height (flags ||| swpFramechanged) restyled)

def sappWin32ToggleFullscreen (win : Win32) (monitor : Rect) (styleSent posSent : World → World)
    (w : World) : World :=
  sappWin32SetFullscreen win (!w.sapp.fullscreen) monitor swpShowwindow styleSent posSent w

-- What Win32 does while _sapp_win32_run brings the window up: the rectangles it answers with and
-- the messages it sends at each point.
structure CreationScript where
  rect : Rect
  createSent : List Delivery := []
  created : HookReply := {}
  client : Option Rect := none
  monitor : Rect := {}
  styleSent : List Delivery := []
  posSent : List Delivery := []
  fullscreenClient : Option Rect := none
  showSent : List Delivery := []
  setupSent : List Delivery := []

def createDefaultStyle : Dword :=
  wsClipsiblings ||| wsClipchildren ||| wsCaption ||| wsSysmenu ||| wsMinimizebox ||| wsMaximizebox |||
    wsSizebox

def createWindowExStyle (g : PatchGlobals) : Dword :=
  if g.xtraWinExStyle ≠ 0 then g.xtraWinExStyle else wsExNoredirectionbitmap
def createWindowStyle (g : PatchGlobals) : Dword :=
  if g.xtraWinStyle ≠ 0 then g.xtraWinStyle else createDefaultStyle

def World.setInCreateWindow (w : World) (inside : Bool) : World :=
  { w with sapp := { w.sapp with win32 := { w.sapp.win32 with inCreateWindow := inside } } }

def createWindowExW (exStyle style : Dword) (nWidth nHeight : Int) (rect : Rect) (w : World) : World :=
  { w.win32 (.createWindowExW exStyle style nWidth nHeight) with window := ⟨exStyle, style, rect⟩ }

def showWindow (w : World) : World :=
  { w.win32 .showWindow with window := { w.window with style := w.window.style ||| wsVisible } }

-- Up to the end of CreateWindowExW. The size is adjusted for the default styles even when the
-- patch's styles replace them.
def createHwnd (win : Win32) (hook : FnPtr) (exStyle style : Dword) (script : CreationScript)
    (w : World) : World :=
  let scale := w.sapp.win32.dpi.windowScale
  let rect : Rect :=
    ⟨0, 0, truncate (w.sapp.windowWidth * scale), truncate (w.sapp.windowHeight * scale)⟩
  let adjusted := win.adjustWindowRectEx rect createDefaultStyle wsExNoredirectionbitmap
  let nWidth := if w.sapp.windowWidth = 0 then cwUsedefault else adjusted.width
  let nHeight := if w.sapp.windowHeight = 0 then cwUsedefault else adjusted.height
  let opened := createWindowExW exStyle style nWidth nHeight script.rect (w.setInCreateWindow true)
  (dispatchAll hook script.createSent opened).setInCreateWindow false

def callWindowCreated (fn : FnPtr) (reply : HookReply) (w : World) : World :=
  if fn ≠ 0 then w.enter (.windowCreatedCb fn w.sapp) reply.calls else w

def enterFullscreen (win : Win32) (hook : FnPtr) (script : CreationScript) (w : World) : World :=
  if w.sapp.fullscreen then
    (sappWin32UpdateDimensions script.fullscreenClient
      (sappWin32SetFullscreen win true script.monitor swpHidewindow (dispatchAll hook script.styleSent)
        (dispatchAll hook script.posSent) w)).2
  else w

def sappWin32CreateWindow (win : Win32) (g : PatchGlobals) (script : CreationScript) (w : World) :
    World :=
  let opened :=
    createHwnd win g.win32WndprocCb (createWindowExStyle g) (createWindowStyle g) script w
  let announced := callWindowCreated g.winCreatedCb script.created opened
  let measured := (sappWin32UpdateDimensions script.client announced).2
  let placed := enterFullscreen win g.win32WndprocCb script measured
  (dispatchAll g.win32WndprocCb script.showSent (showWindow placed)).win32 .dragAcceptFiles

-- One entry of the thread's message queue as PeekMessageW removes it.
inductive Queued where
  | wmQuit
  | message (delivery : Delivery)

structure Iteration where
  queue : List Queued := []
  onFrame : FrameReply := {}
  client : Option Rect := none
  onEvent : EventReply := fun _ => []

structure RunScript where
  creation : CreationScript
  iterations : List Iteration := []
  cleanup : List ApiCall := []
  destroySent : List Delivery := []
  onDestroy : HookReply := {}
  onNcDestroy : HookReply := {}

-- WM_QUIT sets done and the pump goes on until the queue is empty.
def pump (hook : FnPtr) : List Queued → Bool → World → Bool × World
  | [], done, w => (done, w)
  | .wmQuit :: rest, _, w => pump hook rest true w
  | .message delivery :: rest, done, w => pump hook rest done (dispatch hook w delivery)

def reportResize (it : Iteration) (w : World) : World :=
  let (changed, measured) := sappWin32UpdateDimensions it.client w
  if changed then sappWin32AppEvent it.onEvent .resized measured else measured

def sappWin32Iteration (hook : FnPtr) (it : Iteration) (done : Bool) (w : World) : Bool × World :=
  let (quit, pumped) := pump hook it.queue done w
  let told := reportResize it (sappFrame it.onFrame pumped)
  (quit, if told.sapp.quitRequested then told.win32 .postMessageClose else told)

-- none: the script ends while the loop still runs.
def sappWin32Loop (hook : FnPtr) : List Iteration → Bool → World → Option World
  | its, done, w =>
      if done || w.sapp.quitOrdered then some w
      else
        match its with
        | [] => none
        | it :: rest =>
            let (quit, next) := sappWin32Iteration hook it done w
            sappWin32Loop hook rest quit next

-- DestroyWindow always sends WM_DESTROY and WM_NCDESTROY, after whatever else it sends.
def RunScript.destroyDeliveries (script : RunScript) : List Delivery :=
  script.destroySent ++
    [{ msg := .destroy, hook := script.onDestroy }, { msg := .ncDestroy, hook := script.onNcDestroy }]

def sappWin32DestroyWindow (hook : FnPtr) (script : RunScript) (w : World) : World :=
  dispatchAll hook script.destroyDeliveries (w.win32 .destroyWindow)

def World.setValid (w : World) : World := { w with sapp := { w.sapp with valid := true } }
def World.discard (w : World) : World := { w with sapp := sappDiscardState w.sapp }

def sappWin32Setup (win : Win32) (g : PatchGlobals) (desc : SappDesc) (script : RunScript)
    (old : SappState) : World :=
  let start : World := { sapp := sappWin32InitDpi win (sappInitState desc old) }
  (dispatchAll g.win32WndprocCb script.creation.setupSent
    (sappWin32CreateWindow win g script.creation start)).setValid

def sappWin32Shutdown (hook : FnPtr) (script : RunScript) (w : World) : World :=
  (sappWin32DestroyWindow hook script (sappCallCleanup script.cleanup w)).discard

def sappWin32Run (win : Win32) (g : PatchGlobals) (desc : SappDesc) (script : RunScript)
    (old : SappState) : Option World :=
  (sappWin32Loop g.win32WndprocCb script.iterations false (sappWin32Setup win g desc script old)).map
    (sappWin32Shutdown g.win32WndprocCb script)

end WakeAlpha.Sapp
