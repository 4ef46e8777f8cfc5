import Mathlib.Tactic.FieldSimp
import WakeAlpha.Demo.Uniforms
import WakeAlpha.Geometry.Triangle

set_option autoImplicit false

open WakeAlpha.Geometry

namespace WakeAlpha.Demo

-- A float attribute of fewer than four components is filled up with (0, 0, 0, 1).
def widen : List Rat → Vec4 Rat
  | [] => ⟨0, 0, 0, 1⟩
  | [x] => ⟨x, 0, 0, 1⟩
  | [x, y] => ⟨x, y, 0, 1⟩
  | [x, y, z] => ⟨x, y, z, 1⟩
  | x :: y :: z :: w :: _ => ⟨x, y, z, w⟩

def fetch (vertices : List Rat) (attrFloats : List Nat) (index attr : Nat) : Vec4 Rat :=
  let start := index * attrFloats.sum + (attrFloats.take attr).sum
  widen ((vertices.drop start).take (attrFloats.getD attr 0))

def assemble : List Nat → List (Triangle Nat)
  | a :: b :: c :: rest => ⟨a, b, c⟩ :: assemble rest
  | _ => []

structure VsOut where
  position : Vec4 Rat
  out : Vec4 Rat

-- A vertex buffer with the shaders it is drawn with. The fragment shader is kept as far as the
-- coordinate it hands to the picture function.
structure Pipeline where
  vertices : List Rat
  attrFloats : List Nat
  vs : (Nat → Vec4 Rat) → VsOut
  coordinate : FsParams → Vec4 Rat → Vec2 Rat

namespace Shadertoy

def vs (position : Vec4 Rat) : VsOut := ⟨position, { position with x := position.x + 3/10 }⟩

def fragCoord (block : FsParams) (pos : Vec4 Rat) : Vec2 Rat :=
  ⟨(pos.x * (1/2) + 1/2) * block.iResolution.x, (pos.y * (1/2) + 1/2) * block.iResolution.y⟩

def pipeline : Pipeline := ⟨vertices, attrFloats, fun attr => vs (attr 0), fragCoord⟩

end Shadertoy

namespace Tot

def vs (position color0 : Vec4 Rat) : VsOut := ⟨position, color0⟩

def fragCoord (block : FsParams) (color : Vec4 Rat) : Vec2 Rat :=
  ⟨color.x * block.iResolution.x, color.y * block.iResolution.y⟩

def uv (block : FsParams) (color : Vec4 Rat) : Vec2 Rat :=
  let coord := fragCoord block color
  ⟨(coord.x - 1/2 * block.iResolution.x) / block.iResolution.y * 1,
    (coord.y - 1/2 * block.iResolution.y) / block.iResolution.y * (-1)⟩

def pipeline : Pipeline := ⟨vertices, attrFloats, fun attr => vs (attr 0) (attr 1), uv⟩

end Tot

structure Pixel (width height : Int) where
  column : Int
  row : Int
  column_nonneg : 0 ≤ column
  row_nonneg : 0 ≤ row
  column_lt : column < width
  row_lt : row < height

variable {width height : Int}

def Pixel.centre (pixel : Pixel width height) : Vec2 Rat := ⟨pixel.column + 1/2, pixel.row + 1/2⟩

-- The viewport transform, to a picture whose origin is its left top corner.
def windowPos (width height : Int) (position : Vec4 Rat) : Vec2 Rat :=
  ⟨(position.x / position.w + 1) / 2 * width, (1 - position.y / position.w) / 2 * height⟩

def Pipeline.vertex (pipeline : Pipeline) (index : Nat) : VsOut :=
  pipeline.vs (fetch pipeline.vertices pipeline.attrFloats index)

def Pipeline.corners (pipeline : Pipeline) (width height : Int) (triangle : Triangle Nat) :
    Triangle (Vec2 Rat) :=
  triangle.map fun index => windowPos width height (pipeline.vertex index).position

def Pipeline.outs (pipeline : Pipeline) (triangle : Triangle Nat) : Triangle (Vec4 Rat) :=
  triangle.map fun index => (pipeline.vertex index).out

-- The quad covers the pixel's centre, and the coordinate there is the given one, whichever
-- triangle it is interpolated over.
structure Samples (pipeline : Pipeline) (block : FsParams) (pixel : Pixel width height)
    (coordinate : Vec2 Rat) : Prop where
  covered : ∃ triangle ∈ assemble quadIndices,
    (pipeline.corners width height triangle).Covers pixel.centre
  exact : ∀ triangle ∈ assemble quadIndices, ∀ place : Barycentric Rat,
    place.mix2 (pipeline.corners width height triangle) = pixel.centre →
    pipeline.coordinate block (place.mix4 (pipeline.outs triangle)) = coordinate

def Pixel.viewport (pixel : Pixel width height) : Rect Rat where
  left := 0
  top := 0
  right := width
  bottom := height
  wide := by exact_mod_cast lt_of_le_of_lt pixel.column_nonneg pixel.column_lt
  high := by exact_mod_cast lt_of_le_of_lt pixel.row_nonneg pixel.row_lt

theorem centre_between {index size : Int} (nonneg : 0 ≤ index) (within : index < size) :
    (0 : Rat) ≤ index + 1/2 ∧ (index : Rat) + 1/2 ≤ size := by
  have low : (0 : Rat) ≤ index := by exact_mod_cast nonneg
  have high : (index : Rat) + 1 ≤ size := by exact_mod_cast within
  constructor <;> linarith

theorem centre_inside (pixel : Pixel width height) : pixel.viewport.Contains pixel.centre :=
  ⟨(centre_between pixel.column_nonneg pixel.column_lt).1,
    (centre_between pixel.column_nonneg pixel.column_lt).2,
    (centre_between pixel.row_nonneg pixel.row_lt).1, (centre_between pixel.row_nonneg pixel.row_lt).2⟩

structure FullScreen (pipeline : Pipeline) : Prop where
  leftTop : (pipeline.vertex 0).position = ⟨-1, 1, 1, 1⟩
  rightTop : (pipeline.vertex 1).position = ⟨1, 1, 1, 1⟩
  rightBottom : (pipeline.vertex 2).position = ⟨1, -1, 1, 1⟩
  leftBottom : (pipeline.vertex 3).position = ⟨-1, -1, 1, 1⟩

variable {pipeline : Pipeline} {block : FsParams} {coordinate : Vec2 Rat}

theorem window_corners (full : FullScreen pipeline) (width height : Int) :
    windowPos width height (pipeline.vertex 0).position = ⟨0, 0⟩ ∧
      windowPos width height (pipeline.vertex 1).position = ⟨width, 0⟩ ∧
      windowPos width height (pipeline.vertex 2).position = ⟨width, height⟩ ∧
      windowPos width height (pipeline.vertex 3).position = ⟨0, height⟩ := by
  rw [full.leftTop, full.rightTop, full.rightBottom, full.leftBottom]
  norm_num [windowPos]

theorem corners_viewport (full : FullScreen pipeline) (pixel : Pixel width height) :
    pipeline.corners width height ⟨0, 1, 2⟩ = pixel.viewport.upper ∧
      pipeline.corners width height ⟨0, 2, 3⟩ = pixel.viewport.lower := by
  obtain ⟨leftTop, rightTop, rightBottom, leftBottom⟩ := window_corners full width height
  simp only [Pipeline.corners, Triangle.map, leftTop, rightTop, rightBottom, leftBottom]
  exact ⟨rfl, rfl⟩

theorem quad_covers (full : FullScreen pipeline) (pixel : Pixel width height) :
    ∃ triangle ∈ assemble quadIndices,
      (pipeline.corners width height triangle).Covers pixel.centre := by
  obtain ⟨upper, lower⟩ := corners_viewport full pixel
  cases rect_covered pixel.viewport (centre_inside pixel) with
  | inl above =>
      rw [← upper] at above
      exact ⟨_, .head _, above⟩
  | inr below =>
      rw [← lower] at below
      exact ⟨_, .tail _ (.head _), below⟩

-- What an output holds at the four corners of the quad.
structure Corners (pipeline : Pipeline) (field : Vec4 Rat → Rat) (f : Affine Rat)
    (width height : Int) : Prop where
  leftTop : field (pipeline.vertex 0).out = f.eval ⟨0, 0⟩
  rightTop : field (pipeline.vertex 1).out = f.eval ⟨width, 0⟩
  rightBottom : field (pipeline.vertex 2).out = f.eval ⟨width, height⟩
  leftBottom : field (pipeline.vertex 3).out = f.eval ⟨0, height⟩

variable {field : Vec4 Rat → Rat} {f : Affine Rat}

theorem corners_rightwards {left right : Rat} (wide : (width : Rat) ≠ 0)
    (leftTop : field (pipeline.vertex 0).out = left) (rightTop : field (pipeline.vertex 1).out = right)
    (rightBottom : field (pipeline.vertex 2).out = right)
    (leftBottom : field (pipeline.vertex 3).out = left) :
    Corners pipeline field (.rightwards left right width) width height where
  leftTop := leftTop.trans (rightwards_ends wide left right 0).1.symm
  rightTop := rightTop.trans (rightwards_ends wide left right 0).2.symm
  rightBottom := rightBottom.trans (rightwards_ends wide left right height).2.symm
  leftBottom := leftBottom.trans (rightwards_ends wide left right height).1.symm

theorem corners_downwards {top bottom : Rat} (high : (height : Rat) ≠ 0)
    (leftTop : field (pipeline.vertex 0).out = top) (rightTop : field (pipeline.vertex 1).out = top)
    (rightBottom : field (pipeline.vertex 2).out = bottom)
    (leftBottom : field (pipeline.vertex 3).out = bottom) :
    Corners pipeline field (.downwards top bottom height) width height where
  leftTop := leftTop.trans (downwards_ends high top bottom 0).1.symm
  rightTop := rightTop.trans (downwards_ends high top bottom width).1.symm
  rightBottom := rightBottom.trans (downwards_ends high top bottom width).2.symm
  leftBottom := leftBottom.trans (downwards_ends high top bottom 0).2.symm

theorem corners_affine (full : FullScreen pipeline) (given : Corners pipeline field f width height)
    {triangle : Triangle Nat} (drawn : triangle ∈ assemble quadIndices) :
    (pipeline.outs triangle).map field = (pipeline.corners width height triangle).map f.eval := by
  obtain ⟨leftTop, rightTop, rightBottom, leftBottom⟩ := window_corners full width height
  have triangles : triangle = ⟨0, 1, 2⟩ ∨ triangle = ⟨0, 2, 3⟩ := by
    simpa only [quadIndices, assemble, List.mem_cons, List.not_mem_nil, or_false] using drawn
  cases triangles with
  | inl upper =>
      simp only [upper, Pipeline.outs, Pipeline.corners, Triangle.map, leftTop, rightTop, rightBottom,
        given.leftTop, given.rightTop, given.rightBottom]
  | inr lower =>
      simp only [lower, Pipeline.outs, Pipeline.corners, Triangle.map, leftTop, rightBottom, leftBottom,
        given.leftTop, given.rightBottom, given.leftBottom]

-- An output that is affine at the corners is the same affine function at every pixel, in both
-- triangles alike.
theorem interpolated (full : FullScreen pipeline) (pixel : Pixel width height)
    (given : Corners pipeline field f width height) {triangle : Triangle Nat}
    (drawn : triangle ∈ assemble quadIndices) {place : Barycentric Rat}
    (here : place.mix2 (pipeline.corners width height triangle) = pixel.centre) :
    place.mix ((pipeline.outs triangle).map field) = f.eval pixel.centre := by
  rw [corners_affine full given drawn, mix_affine, here]

theorem samples_intro (full : FullScreen pipeline) (pixel : Pixel width height) (fx fy : Affine Rat)
    (x : Corners pipeline Vec4.x fx width height) (y : Corners pipeline Vec4.y fy width height)
    (reads : ∀ out : Vec4 Rat, out.x = fx.eval pixel.centre → out.y = fy.eval pixel.centre →
      pipeline.coordinate block out = coordinate) : Samples pipeline block pixel coordinate where
  covered := quad_covers full pixel
  exact _ drawn _ here :=
    reads _ (interpolated full pixel x drawn here) (interpolated full pixel y drawn here)

theorem samples_unique {other : Vec2 Rat} {pixel : Pixel width height}
    (one : Samples pipeline block pixel coordinate) (two : Samples pipeline block pixel other) :
    coordinate = other := by
  obtain ⟨triangle, drawn, place, here⟩ := one.covered
  exact (one.exact triangle drawn place here).symm.trans (two.exact triangle drawn place here)

theorem shadertoy_full_screen : FullScreen Shadertoy.pipeline := ⟨rfl, rfl, rfl, rfl⟩

theorem tot_full_screen : FullScreen Tot.pipeline := ⟨rfl, rfl, rfl, rfl⟩

theorem viewport_positive (pixel : Pixel width height) : (0 : Rat) < width ∧ (0 : Rat) < height :=
  ⟨pixel.viewport.wide, pixel.viewport.high⟩

-- pos.x += 0.30 moves the varying and not the position: by 3/20 of the width, in pixels.
theorem shadertoy_samples (pixel : Pixel width height)
    (resolution : block.iResolution.x = width ∧ block.iResolution.y = height) :
    Samples Shadertoy.pipeline block pixel
      ⟨pixel.column + 1/2 + 3/20 * width, height - pixel.row - 1/2⟩ := by
  obtain ⟨wide, high⟩ := viewport_positive pixel
  have x : Corners Shadertoy.pipeline Vec4.x (.rightwards (-1 + 3/10) (1 + 3/10) width) width height :=
    corners_rightwards wide.ne' rfl rfl rfl rfl
  have y : Corners Shadertoy.pipeline Vec4.y (.downwards 1 (-1) height) width height :=
    corners_downwards high.ne' rfl rfl rfl rfl
  apply samples_intro shadertoy_full_screen pixel _ _ x y
  intro out outX outY
  simp only [Shadertoy.pipeline, Shadertoy.fragCoord, outX, outY, resolution, Affine.eval,
    Affine.rightwards, Affine.downwards, Pixel.centre, Vec2.mk.injEq]
  constructor
  · field_simp
    ring
  · field_simp
    ring

-- The colours of tot's vertices run from 1 at the left edge to 0 at the right one, and downwards
-- from 0 to 1; main turns only the second around.
theorem tot_samples (pixel : Pixel width height)
    (resolution : block.iResolution.x = width ∧ block.iResolution.y = height) :
    Samples Tot.pipeline block pixel
      ⟨(width - pixel.column - 1/2 - width/2) / height,
        (height - pixel.row - 1/2 - height/2) / height⟩ := by
  obtain ⟨wide, high⟩ := viewport_positive pixel
  have x : Corners Tot.pipeline Vec4.x (.rightwards 1 0 width) width height :=
    corners_rightwards wide.ne' rfl rfl rfl rfl
  have y : Corners Tot.pipeline Vec4.y (.downwards 0 1 height) width height :=
    corners_downwards high.ne' rfl rfl rfl rfl
  apply samples_intro tot_full_screen pixel _ _ x y
  intro out outX outY
  simp only [Tot.pipeline, Tot.uv, Tot.fragCoord, outX, outY, resolution, Affine.eval,
    Affine.rightwards, Affine.downwards, Pixel.centre, Vec2.mk.injEq]
  constructor
  · field_simp
    ring
  · field_simp
    ring

theorem shown_resolution {p : Program} {inputs : Nat → FrameInput} {k : Nat} (refreshes : Refreshes p)
    (shown : Shown p inputs k) (drawn : .sgApplyUniforms block ∈ p.callsAt inputs k) :
    block.iResolution.x = Sapp.sappWidth (inputs k).sapp ∧
      block.iResolution.y = Sapp.sappHeight (inputs k).sapp := by
  have last : block = (p.varsAt inputs (k + 1)).shParams := (refreshes.uploads _ _ _).mp drawn
  rw [last, params_shown refreshes shown]
  exact ⟨rfl, rfl⟩

-- The picture that a frame draws while its window is shown, with the block it uploads.
theorem shadertoy_frame_samples {inputs : Nat → FrameInput} {k : Nat}
    (shown : Shown Shadertoy.program inputs k)
    (drawn : .sgApplyUniforms block ∈ Shadertoy.program.callsAt inputs k)
    (pixel : Pixel (Sapp.sappWidth (inputs k).sapp) (Sapp.sappHeight (inputs k).sapp)) :
    Samples Shadertoy.pipeline block pixel
      ⟨pixel.column + 1/2 + 3/20 * (Sapp.sappWidth (inputs k).sapp : Int),
        (Sapp.sappHeight (inputs k).sapp : Int) - pixel.row - 1/2⟩ :=
  shadertoy_samples pixel (shown_resolution shadertoy_refreshes shown drawn)

theorem tot_frame_samples {inputs : Nat → FrameInput} {k : Nat} (shown : Shown Tot.program inputs k)
    (drawn : .sgApplyUniforms block ∈ Tot.program.callsAt inputs k)
    (pixel : Pixel (Sapp.sappWidth (inputs k).sapp) (Sapp.sappHeight (inputs k).sapp)) :
    Samples Tot.pipeline block pixel
      ⟨((Sapp.sappWidth (inputs k).sapp : Int) - pixel.column - 1/2 -
          (Sapp.sappWidth (inputs k).sapp : Int) / 2) / (Sapp.sappHeight (inputs k).sapp : Int),
        ((Sapp.sappHeight (inputs k).sapp : Int) - pixel.row - 1/2 -
          (Sapp.sappHeight (inputs k).sapp : Int) / 2) / (Sapp.sappHeight (inputs k).sapp : Int)⟩ :=
  tot_samples pixel (shown_resolution tot_refreshes shown drawn)

theorem pixel_coordinates (width height : Int) (pixel : Pixel width height) (block : FsParams)
    (resolution : block.iResolution.x = width ∧ block.iResolution.y = height) :
    Samples Shadertoy.pipeline block pixel
        ⟨pixel.column + 1/2 + 3/20 * width, height - pixel.row - 1/2⟩ ∧
      Samples Tot.pipeline block pixel
        ⟨(width - pixel.column - 1/2 - width/2) / height,
          (height - pixel.row - 1/2 - height/2) / height⟩ :=
  ⟨shadertoy_samples pixel resolution, tot_samples pixel resolution⟩

def leftPixel : Pixel 2 1 where
  column := 0
  row := 0
  column_nonneg := by omega
  row_nonneg := by omega
  column_lt := by omega
  row_lt := by omega

def twoByOne : FsParams := { iResolution := ⟨2, 1, 1⟩ }

theorem pixel_coordinates_left_pixel :
    Samples Shadertoy.pipeline twoByOne leftPixel
        ⟨leftPixel.column + 1/2 + 3/20 * (2 : Int), (1 : Int) - leftPixel.row - 1/2⟩ ∧
      Samples Tot.pipeline twoByOne leftPixel
        ⟨((2 : Int) - leftPixel.column - 1/2 - (2 : Int) / 2) / (1 : Int),
          ((1 : Int) - leftPixel.row - 1/2 - (1 : Int) / 2) / (1 : Int)⟩ :=
  pixel_coordinates 2 1 leftPixel twoByOne ⟨rfl, rfl⟩

-- The left one of two pixels: shadertoy puts it at 4/5 and not at 1/2, and tot on the right.
theorem picture_shifted_and_mirrored :
    (¬ ∀ (width height : Int) (pixel : Pixel width height) (block : FsParams),
      block.iResolution.x = width ∧ block.iResolution.y = height →
      Samples Shadertoy.pipeline block pixel ⟨pixel.column + 1/2, height - pixel.row - 1/2⟩) ∧
    ¬ ∀ (width height : Int) (pixel : Pixel width height) (block : FsParams),
      block.iResolution.x = width ∧ block.iResolution.y = height →
      Samples Tot.pipeline block pixel
        ⟨(pixel.column + 1/2 - width/2) / height, (height - pixel.row - 1/2 - height/2) / height⟩ := by
  have resolution : twoByOne.iResolution.x = (2 : Int) ∧ twoByOne.iResolution.y = (1 : Int) :=
    ⟨rfl, rfl⟩
  constructor
  · intro claimed
    have same := congrArg Vec2.x (samples_unique (shadertoy_samples leftPixel resolution)
      (claimed 2 1 leftPixel twoByOne resolution))
    norm_num [leftPixel] at same
  · intro claimed
    have same := congrArg Vec2.x (samples_unique (tot_samples leftPixel resolution)
      (claimed 2 1 leftPixel twoByOne resolution))
    norm_num [leftPixel] at same

end WakeAlpha.Demo
