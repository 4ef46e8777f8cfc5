import WakeAlpha.Sapp.Run

set_option autoImplicit false

namespace WakeAlpha.Sapp

inductive Setter where
  | createWindowStyle (exStyle style : Dword)
  | windowCreatedCb (fn : FnPtr)
  | win32WndprocCb (fn : FnPtr)
deriving DecidableEq, Repr

def applySetter (g : PatchGlobals) : Setter → PatchGlobals
  | .createWindowStyle exStyle style => wsappSetCreateWindowStyle exStyle style g
  | .windowCreatedCb fn => wsappSetWindowCreatedCb fn g
  | .win32WndprocCb fn => wsappSetWin32WndprocCb fn g

-- What outlives a session while the library stays loaded: the patch's statics and _sapp.
structure Process where
  globals : PatchGlobals := {}
  sapp : SappState := {}

def boot : Process := {}

structure Session where
  machine : Win32
  setters : List Setter := []
  desc : SappDesc
  script : RunScript

-- main: the setters, sapp_run, and the sapp_quit that follows it.
def runSession (session : Session) (p : Process) : Option (Process × List Obs) :=
  let globals := session.setters.foldl applySetter p.globals
  (sappWin32Run session.machine globals session.desc session.script p.sapp).map fun w =>
    (⟨globals, (sappQuit w).sapp⟩, w.trace)

def runHistory (history : List Session) (p : Process) : Option Process :=
  history.foldlM (fun p session => (runSession session p).map Prod.fst) p

def behaviour (session : Session) (p : Process) : Option (List Obs) := (runSession session p).map Prod.snd

end WakeAlpha.Sapp
