set_option autoImplicit false

namespace WakeAlpha.Geometry

structure Vec2 (K : Type) where
  x : K
  y : K
deriving DecidableEq, Repr

structure Vec3 (K : Type) where
  x : K
  y : K
  z : K
deriving DecidableEq, Repr

structure Vec4 (K : Type) where
  x : K
  y : K
  z : K
  w : K
deriving DecidableEq, Repr

end WakeAlpha.Geometry
