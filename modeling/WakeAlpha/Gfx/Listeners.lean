import WakeAlpha.Gfx.Slot

set_option autoImplicit false

namespace WakeAlpha.Gfx

-- func is the address of a C function, zero the null pointer.
structure SgCommitListener where
  func : Nat := 0
  userData : Nat := 0
deriving DecidableEq, Repr

-- items holds the array below upper; num is the room it has.
structure SgCommitListeners where
  num : Nat := 0
  items : List SgCommitListener := []
deriving DecidableEq, Repr

inductive ListenerError where
  | identicalCommitListener
  | commitListenerArrayFull
deriving DecidableEq, Repr

-- _sg_setup_commit_listeners.
def SgCommitListeners.setup (maxCommitListeners : Nat) : Checked SgCommitListeners := do
  sokolAssert (0 < maxCommitListeners)
  return ⟨maxCommitListeners, []⟩

-- The first hole takes the new listener.
def plugHole (listener : SgCommitListener) : List SgCommitListener → Option (List SgCommitListener)
  | [] => none
  | item :: rest =>
      if item.func = 0 then some (listener :: rest) else (plugHole listener rest).map (item :: ·)

-- _sg_add_commit_listener.
def SgCommitListeners.add (c : SgCommitListeners) (listener : SgCommitListener) :
    Checked (Except ListenerError SgCommitListeners) := do
  sokolAssert (listener.func ≠ 0)
  if listener ∈ c.items then return .error .identicalCommitListener
  else
    match plugHole listener c.items with
    | some items => return .ok { c with items := items }
    | none =>
        if c.items.length < c.num then return .ok { c with items := c.items ++ [listener] }
        else return .error .commitListenerArrayFull

-- Clears the first item that matches in both fields.
def clearMatch (listener : SgCommitListener) : List SgCommitListener → Option (List SgCommitListener)
  | [] => none
  | item :: rest =>
      if item = listener then some ({} :: rest) else (clearMatch listener rest).map (item :: ·)

-- _sg_remove_commit_listener.
def SgCommitListeners.remove (c : SgCommitListeners) (listener : SgCommitListener) :
    Checked (Bool × SgCommitListeners) := do
  sokolAssert (listener.func ≠ 0)
  match clearMatch listener c.items with
  | some items => return (true, { c with items := items })
  | none => return (false, c)

-- The listeners in the order _sg_notify_commit_listeners calls them.
def SgCommitListeners.notified (c : SgCommitListeners) : List SgCommitListener :=
  c.items.filter fun item => item.func ≠ 0

end WakeAlpha.Gfx
