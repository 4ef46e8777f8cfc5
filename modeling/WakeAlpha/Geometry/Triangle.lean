import Mathlib.Algebra.Order.Field.Basic
import Mathlib.Tactic.Linarith
import Mathlib.Tactic.Ring
import WakeAlpha.Geometry.Vec

set_option autoImplicit false

namespace WakeAlpha.Geometry

structure Triangle (V : Type) where
  first : V
  second : V
  third : V
deriving DecidableEq, Repr

def Triangle.map {V U : Type} (f : V → U) (triangle : Triangle V) : Triangle U :=
  ⟨f triangle.first, f triangle.second, f triangle.third⟩

variable {K : Type} [Field K]

structure Affine (K : Type) where
  x : K
  y : K
  const : K

def Affine.eval (f : Affine K) (point : Vec2 K) : K := f.x * point.x + f.y * point.y + f.const

-- From one value at zero to another at size, along one axis.
def Affine.rightwards (left right width : K) : Affine K := ⟨(right - left) / width, 0, left⟩

def Affine.downwards (top bottom height : K) : Affine K := ⟨0, (bottom - top) / height, top⟩

theorem rightwards_ends {width : K} (wide : width ≠ 0) (left right y : K) :
    (Affine.rightwards left right width).eval ⟨0, y⟩ = left ∧
      (Affine.rightwards left right width).eval ⟨width, y⟩ = right := by
  simp only [Affine.rightwards, Affine.eval, div_mul_cancel₀ _ wide]
  constructor <;> ring

theorem downwards_ends {height : K} (high : height ≠ 0) (top bottom x : K) :
    (Affine.downwards top bottom height).eval ⟨x, 0⟩ = top ∧
      (Affine.downwards top bottom height).eval ⟨x, height⟩ = bottom := by
  simp only [Affine.downwards, Affine.eval, div_mul_cancel₀ _ high]
  constructor <;> ring

variable [LinearOrder K]

-- The place of a point of a triangle, as weights of the three corners.
structure Barycentric (K : Type) [Field K] [LinearOrder K] where
  first : K
  second : K
  third : K
  first_nonneg : 0 ≤ first
  second_nonneg : 0 ≤ second
  third_nonneg : 0 ≤ third
  total : first + second + third = 1

def Barycentric.mix (place : Barycentric K) (values : Triangle K) : K :=
  place.first * values.first + place.second * values.second + place.third * values.third

def Barycentric.mix2 (place : Barycentric K) (values : Triangle (Vec2 K)) : Vec2 K :=
  ⟨place.mix (values.map Vec2.x), place.mix (values.map Vec2.y)⟩

def Barycentric.mix4 (place : Barycentric K) (values : Triangle (Vec4 K)) : Vec4 K :=
  ⟨place.mix (values.map Vec4.x), place.mix (values.map Vec4.y),
    place.mix (values.map Vec4.z), place.mix (values.map Vec4.w)⟩

def Triangle.Covers (triangle : Triangle (Vec2 K)) (point : Vec2 K) : Prop :=
  ∃ place : Barycentric K, place.mix2 triangle = point

theorem mix_affine (place : Barycentric K) (f : Affine K) (corners : Triangle (Vec2 K)) :
    place.mix (corners.map f.eval) = f.eval (place.mix2 corners) := by
  have const : place.first * f.const + place.second * f.const + place.third * f.const = f.const := by
    rw [← add_mul, ← add_mul, place.total, one_mul]
  calc place.mix (corners.map f.eval)
      = f.x * (place.mix2 corners).x + f.y * (place.mix2 corners).y +
          (place.first * f.const + place.second * f.const + place.third * f.const) := by
        simp only [Barycentric.mix, Barycentric.mix2, Triangle.map, Affine.eval]
        ring
    _ = f.eval (place.mix2 corners) := by rw [const, Affine.eval]

-- Corners in the order left top, right top, right bottom, left bottom; y grows downwards.
structure Rect (K : Type) [LinearOrder K] where
  left : K
  top : K
  right : K
  bottom : K
  wide : left < right
  high : top < bottom

def Rect.upper (rect : Rect K) : Triangle (Vec2 K) :=
  ⟨⟨rect.left, rect.top⟩, ⟨rect.right, rect.top⟩, ⟨rect.right, rect.bottom⟩⟩

def Rect.lower (rect : Rect K) : Triangle (Vec2 K) :=
  ⟨⟨rect.left, rect.top⟩, ⟨rect.right, rect.bottom⟩, ⟨rect.left, rect.bottom⟩⟩

structure Rect.Contains (rect : Rect K) (point : Vec2 K) : Prop where
  left : rect.left ≤ point.x
  right : point.x ≤ rect.right
  top : rect.top ≤ point.y
  bottom : point.y ≤ rect.bottom

variable [IsStrictOrderedRing K]

theorem fraction_between {low high value : K} (wide : low < high) (above : low ≤ value)
    (below : value ≤ high) :
    ∃ part : K, 0 ≤ part ∧ part ≤ 1 ∧ low + part * (high - low) = value := by
  have span : 0 < high - low := sub_pos.mpr wide
  refine ⟨(value - low) / (high - low), div_nonneg (sub_nonneg.mpr above) span.le, ?_, ?_⟩
  · rw [div_le_one span]
    linarith
  · rw [div_mul_cancel₀ _ span.ne']
    ring

-- The diagonal runs from the left top corner: a point below it is in the lower triangle.
theorem rect_covered (rect : Rect K) {point : Vec2 K} (inside : rect.Contains point) :
    rect.upper.Covers point ∨ rect.lower.Covers point := by
  obtain ⟨u, u_nonneg, u_le, x⟩ := fraction_between rect.wide inside.left inside.right
  obtain ⟨v, v_nonneg, v_le, y⟩ := fraction_between rect.high inside.top inside.bottom
  obtain ⟨pointX, pointY⟩ := point
  subst x y
  by_cases above : v ≤ u
  · left
    refine ⟨⟨1 - u, u - v, v, sub_nonneg.mpr u_le, sub_nonneg.mpr above, v_nonneg, by ring⟩, ?_⟩
    simp only [Barycentric.mix2, Barycentric.mix, Triangle.map, Rect.upper, Vec2.mk.injEq]
    constructor <;> ring
  · right
    have below : u ≤ v := (not_le.mp above).le
    refine ⟨⟨1 - v, u, v - u, sub_nonneg.mpr v_le, u_nonneg, sub_nonneg.mpr below, by ring⟩, ?_⟩
    simp only [Barycentric.mix2, Barycentric.mix, Triangle.map, Rect.lower, Vec2.mk.injEq]
    constructor <;> ring

end WakeAlpha.Geometry
