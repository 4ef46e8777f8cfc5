set_option autoImplicit false

namespace WakeAlpha.Sapp

abbrev Dword := BitVec 32

structure Rect where
  left : Int := 0
  top : Int := 0
  right : Int := 0
  bottom : Int := 0
deriving DecidableEq, Repr

def Rect.width (rect : Rect) : Int := rect.right - rect.left
def Rect.height (rect : Rect) : Int := rect.bottom - rect.top

def wsPopup : Dword := 0x80000000
def wsVisible : Dword := 0x10000000
def wsClipsiblings : Dword := 0x04000000
def wsClipchildren : Dword := 0x02000000
def wsCaption : Dword := 0x00C00000
def wsSysmenu : Dword := 0x00080000
def wsSizebox : Dword := 0x00040000
def wsMinimizebox : Dword := 0x00020000
def wsMaximizebox : Dword := 0x00010000
def wsExTopmost : Dword := 0x00000008
def wsExTransparent : Dword := 0x00000020
def wsExLayered : Dword := 0x00080000
def wsExNoredirectionbitmap : Dword := 0x00200000
def wsExNoactivate : Dword := 0x08000000
def swpNozorder : Dword := 0x0004
def swpNoactivate : Dword := 0x0010
def swpFramechanged : Dword := 0x0020
def swpShowwindow : Dword := 0x0040
def swpHidewindow : Dword := 0x0080
def cwUsedefault : Int := -2147483648

-- What the program asks of the machine it runs on: AdjustWindowRectEx, the DPI functions
-- GetProcAddress finds in user32 and shcore, and what GetDpiForMonitor answers.
structure Win32 where
  adjustWindowRectEx : Rect → Dword → Dword → Rect
  hasSetProcessDpiAware : Bool
  hasSetProcessDpiAwareness : Bool
  dpiForMonitor : Option Nat

-- 96 dpi, and windows without a frame.
def plainWin32 : Win32 where
  adjustWindowRectEx rect _ _ := rect
  hasSetProcessDpiAware := true
  hasSetProcessDpiAwareness := true
  dpiForMonitor := some 96

-- The part of a window that GetWindowLongPtr and GetWindowRect read back.
@[ext] structure Window where
  exStyle : Dword := 0
  style : Dword := 0
  rect : Rect := {}
deriving DecidableEq, Repr

inductive MouseButton where
  | left
  | right
  | middle
deriving DecidableEq, Repr

-- The window messages that _sapp_win32_wndproc distinguishes, each with what the code reads
-- from wParam and lParam or asks Win32 while it handles the message.
inductive Msg where
  | close
  | sysCommand (wParam : Dword)
  | eraseBkgnd
  | size (minimized : Bool)
  | setFocus
  | killFocus
  | setCursor (hitClient : Bool)
  | dpiChanged (dpiForWindow : Option Nat) (proposed : Rect)
  | buttonDown (button : MouseButton)
  | buttonUp (button : MouseButton)
  | mouseMove
  | input (absolute : Option Bool)
  | mouseLeave
  | mouseWheel
  | mouseHWheel
  | char (code : Nat)
  | keyDown (vk : Nat) (pasteChord : Bool)
  | keyUp (vk : Nat)
  | enterSizeMove
  | exitSizeMove
  | timer
  | ncLButtonDown (hitCaption : Bool)
  | dropFiles (pathsFit : Bool)
  | displayChange
  | destroy
  | ncDestroy
  | other (message : Nat)
deriving DecidableEq, Repr

inductive Win32Call where
  | createWindowExW (exStyle style : Dword) (nWidth nHeight : Int)
  | setWindowLongPtrStyle (style : Dword)
  | setWindowPos (x y cx cy : Int) (flags : Dword)
  | showWindow
  | dragAcceptFiles
  | destroyWindow
  | postQuitMessage
  | postMessageClose
  | setCapture
  | releaseCapture
  | setTimer
  | killTimer
  | clipCursor (confine : Bool)
  | showCursor (visible : Bool)
  | registerRawInputDevices (remove : Bool)
  | setCursorPos
  | postMessageMouseMove
deriving DecidableEq, Repr

-- What the window procedure hands back to Win32.
inductive LResult where
  | value (result : Int)
  | defWindowProcW
deriving DecidableEq, Repr

end WakeAlpha.Sapp
