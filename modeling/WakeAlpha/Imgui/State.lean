import WakeAlpha.Gfx.Buffer

set_option autoImplicit false

namespace WakeAlpha.Imgui

open WakeAlpha.Gfx

-- What a simgui image keeps beside its slot.
structure SimguiImage where
  image : UInt32 := 0
  sampler : UInt32 := 0
  pip : UInt32 := 0
deriving DecidableEq, Repr, Inhabited

structure SimguiImageDesc where
  image : UInt32 := 0
  sampler : UInt32 := 0
deriving DecidableEq, Repr

structure SimguiDesc where
  maxVertices : Int := 0
  imagePoolSize : Int := 0
  noDefaultFont : Bool := false
deriving DecidableEq, Repr

inductive SimguiLogItem where
  | imagePoolExhausted
deriving DecidableEq, Repr

-- _simgui. initCookie says that the cookie is in place; vertices and indices are the sizes of the
-- intermediate buffers in bytes.
structure Simgui where
  initCookie : Bool := false
  images : SgStore SimguiImage
  vertices : Nat := 0
  indices : Nat := 0
  vbuf : UInt32 := 0
  ibuf : UInt32 := 0
  fontImg : UInt32 := 0
  fontSmp : UInt32 := 0
  defaultFont : UInt32 := 0
  defImg : UInt32 := 0
  defSmp : UInt32 := 0
  defShd : UInt32 := 0
  defPip : UInt32 := 0
  shdUnfilterable : UInt32 := 0
  pipUnfilterable : UInt32 := 0
  log : List SimguiLogItem := []

def sizeofImDrawVert : Nat := 20
def sizeofImDrawIdx : Nat := 2

-- _simgui_desc_defaults.
def simguiDescDefaults (desc : SimguiDesc) : SimguiDesc :=
  { desc with
    maxVertices := sgDef desc.maxVertices 65536
    imagePoolSize := sgDef desc.imagePoolSize 256 }

-- _simgui_image_desc_defaults.
def simguiImageDescDefaults (g : Simgui) (desc : SimguiImageDesc) : SimguiImageDesc :=
  ⟨if desc.image = 0 then g.defImg else desc.image, if desc.sampler = 0 then g.defSmp else desc.sampler⟩

-- filterable is what sg_query_pixelformat says of the format of an image.
def simguiInitImage (g : Simgui) (desc : SimguiImageDesc) (filterable : UInt32 → Bool) : Checked SimguiImage := do
  sokolAssert (g.defPip ≠ 0)
  sokolAssert (g.pipUnfilterable ≠ 0)
  return ⟨desc.image, desc.sampler, if filterable desc.image then g.defPip else g.pipUnfilterable⟩

def simguiMakeImage (desc : SimguiImageDesc) (filterable : UInt32 → Bool) (g : Simgui) : Checked (UInt32 × Simgui) := do
  sokolAssert (g.initCookie = true)
  let resolved := simguiImageDescDefaults g desc
  let (id, images) ← g.images.alloc
  match ← images.lookup id with
  | some index =>
      sokolAssert ((images.slot index).state = .alloc)
      let image ← simguiInitImage g resolved filterable
      return (id, { g with images := images.put index ⟨{ images.slot index with state := .valid }, image⟩ })
  | none => return (id, { g with images := images, log := g.log ++ [.imagePoolExhausted] })

-- _simgui_destroy_image clears the whole item before its slot is queued.
def destroyImage (images : SgStore SimguiImage) (id : UInt32) : Checked (SgStore SimguiImage) := do
  match ← images.lookup id with
  | some index =>
      let cleared := images.put index { body := default }
      let pool ← sgPoolFreeIndex cleared.pool (← sgSlotIndex id)
      return { cleared with pool := pool }
  | none => return images

def simguiDestroyImage (id : UInt32) (g : Simgui) : Checked Simgui := do
  sokolAssert (g.initCookie = true)
  return { g with images := ← destroyImage g.images id }

-- _simgui_destroy_all_images goes over all items, used or not.
def destroyAllImages (images : SgStore SimguiImage) : Checked (SgStore SimguiImage) :=
  (List.range images.pool.size).foldlM (fun images i => destroyImage images (images.slot i).id) images

end WakeAlpha.Imgui
