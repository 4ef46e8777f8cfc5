import WakeAlpha.Demo.Calls

set_option autoImplicit false

namespace WakeAlpha.Demo

def vkEscape : Nat := 27

-- GetAsyncKeyState as the loop sees it: it answers from some state and may change it.
abbrev KeyReader (σ : Type) := Nat → σ → BitVec 16 × σ

structure Reflection (σ : Type) where
  source : σ
  on : Bool
  calls : List LibCall

-- Win32's view of one key: its level, and whether a key-down has arrived since the last call.
structure KeyState where
  down : Bool := false
  pressedSince : Bool := false
deriving DecidableEq, Repr

abbrev Keyboard := Nat → KeyState

def setKey (vk : Nat) (state : KeyState) (keyboard : Keyboard) : Keyboard :=
  fun key => if key = vk then state else keyboard key

def getAsyncKeyState : KeyReader Keyboard := fun vk keyboard =>
  let key := keyboard vk
  ((if key.down then 0x8000 else 0) ||| (if key.pressedSince then 1 else 0),
    setKey vk { key with pressedSince := false } keyboard)

namespace Shadertoy

-- The SHORT is widened to the int keyState.
def reflectKey {σ : Type} (read : KeyReader σ) (r : Reflection σ) (key : Nat) : Reflection σ :=
  let (state, source) := read key r.source
  let keyState : BitVec 32 := state.signExtend 32
  let on := if key = vkEscape ∧ keyState &&& 0x0001 ≠ 0 then false else r.on
  if keyState &&& 0x8000 ≠ 0 then
    let texts : List LibCall :=
      [.igText "-------------------" [], .igText "|| reflect vk %d ||" [key], .igText "-------------------" []]
    if key = vkEscape ∧ on = false then ⟨source, true, r.calls ++ texts ++ [.sappToggleFullscreen]⟩
    else ⟨source, on, r.calls ++ texts⟩
  else ⟨source, on, r.calls⟩

def reflectKeyboard {σ : Type} (read : KeyReader σ) (source : σ) (on : Bool) : Reflection σ :=
  (List.range' 1 255).foldl (reflectKey read) ⟨source, on, []⟩

end Shadertoy

namespace Tot

def reflectKey (keys : Nat → BitVec 16) (calls : List LibCall) (key : Nat) : List LibCall :=
  if (keys key).signExtend 32 &&& (0x8000 : BitVec 32) ≠ 0 then
    if key = vkEscape then calls ++ [.sappQuit] else calls
  else calls

def reflectKeyboard (keys : Nat → BitVec 16) : List LibCall :=
  (List.range' 1 255).foldl (reflectKey keys) []

end Tot

end WakeAlpha.Demo
