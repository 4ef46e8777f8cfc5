import WakeAlpha.Imgui.State

set_option autoImplicit false

namespace WakeAlpha.Imgui

open WakeAlpha.Gfx

-- What the backend answers while simgui_setup makes its resources.
structure SetupReplies where
  defShd : InitReply := {}
  defPip : InitReply := {}
  shdUnfilterable : InitReply := {}
  pipUnfilterable : InitReply := {}
  vbuf : InitReply := {}
  ibuf : InitReply := {}
  defSmp : InitReply := {}
  defImg : InitReply := {}

-- The font atlas of Dear ImGui, and what the backend answers when its texture is made.
structure FontAtlas where
  width : Int := 0
  height : Int := 0
  fontSmp : InitReply := {}
  fontImg : InitReply := {}
  filterable : UInt32 → Bool := fun _ => true

def simguiCreateFontsTexture (atlas : FontAtlas) (g : Simgui) (s : SgState) : Checked (Simgui × SgState) := do
  sokolAssert (g.fontSmp = 0)
  sokolAssert (g.fontImg = 0)
  sokolAssert (g.defaultFont = 0)
  let (fontSmp, s) ← sgMake .sampler () atlas.fontSmp s
  let (fontImg, s) ← sgMake .image ⟨atlas.width, atlas.height⟩ atlas.fontImg s
  let (defaultFont, g) ← simguiMakeImage ⟨fontImg, fontSmp⟩ atlas.filterable
    { g with fontSmp := fontSmp, fontImg := fontImg }
  return ({ g with defaultFont := defaultFont }, s)

def simguiDestroyFontsTexture (g : Simgui) (s : SgState) : Checked (Simgui × SgState) := do
  let s ← sgDestroy .sampler g.fontSmp s
  let s ← sgDestroy .image g.fontImg s
  let g ← simguiDestroyImage g.defaultFont g
  return ({ g with fontSmp := 0, fontImg := 0, defaultFont := 0 }, s)

def sizeofVsParams : Nat := 16

-- One uniform block for the vertex shader. The two variants differ in the sample type.
def simguiShaderDesc : SgShaderDesc := { uniformBlocks := fun
  | .vs => [sizeofVsParams]
  | .fs => [] }

def simguiSetup (desc : SimguiDesc) (replies : SetupReplies) (atlas : FontAtlas) (s : SgState) :
    Checked (Simgui × SgState) := do
  let resolved := simguiDescDefaults desc
  let images ← SgStore.setup resolved.imagePoolSize.toNat
  sokolAssert (0 < resolved.maxVertices)
  let vertices := resolved.maxVertices.toNat * sizeofImDrawVert
  let indices := resolved.maxVertices.toNat * 3 * sizeofImDrawIdx
  let (defShd, s) ← sgMake .shader simguiShaderDesc replies.defShd s
  let (defPip, s) ← sgMake .pipeline ⟨defShd⟩ replies.defPip s
  let (shdUnfilterable, s) ← sgMake .shader simguiShaderDesc replies.shdUnfilterable s
  let (pipUnfilterable, s) ← sgMake .pipeline ⟨shdUnfilterable⟩ replies.pipUnfilterable s
  let (vbuf, s) ← sgMake .buffer { usage := .stream, size := vertices } replies.vbuf s
  let (ibuf, s) ← sgMake .buffer { type := .indexBuffer, usage := .stream, size := indices } replies.ibuf s
  let (defSmp, s) ← sgMake .sampler () replies.defSmp s
  let (defImg, s) ← sgMake .image ⟨8, 8⟩ replies.defImg s
  let g : Simgui :=
    { initCookie := true
      images := images
      vertices := vertices
      indices := indices
      vbuf := vbuf
      ibuf := ibuf
      defImg := defImg
      defSmp := defSmp
      defShd := defShd
      defPip := defPip
      shdUnfilterable := shdUnfilterable
      pipUnfilterable := pipUnfilterable }
  if resolved.noDefaultFont then return (g, s) else simguiCreateFontsTexture atlas g s

-- What simgui_new_frame is given, and the state of the font atlas it finds.
structure NewFrame where
  width : Int := 0
  height : Int := 0
  texReady : Bool := true
  atlas : FontAtlas := {}

-- The rest of simgui_new_frame is about ImGuiIO, the keyboard and the mouse cursor.
def simguiNewFrame (frame : NewFrame) (g : Simgui) (s : SgState) : Checked (Simgui × SgState) := do
  sokolAssert (g.initCookie = true)
  sokolAssert (0 < frame.width)
  sokolAssert (0 < frame.height)
  if frame.texReady then return (g, s)
  else
    let (g, s) ← simguiDestroyFontsTexture g s
    simguiCreateFontsTexture frame.atlas g s

def simguiDiscardImages (images : SgStore SimguiImage) : Checked (SgStore SimguiImage) := do
  sokolAssert (images.pool.size ≠ 0)
  return { images with pool := ⟨0, [], fun _ => 0⟩ }

def simguiShutdown (g : Simgui) (s : SgState) : Checked (Simgui × SgState) := do
  sokolAssert (g.initCookie = true)
  let s ← sgDestroy .pipeline g.pipUnfilterable s
  let s ← sgDestroy .shader g.shdUnfilterable s
  let s ← sgDestroy .pipeline g.defPip s
  let s ← sgDestroy .shader g.defShd s
  let s ← sgDestroy .sampler g.fontSmp s
  let s ← sgDestroy .image g.fontImg s
  let s ← sgDestroy .sampler g.defSmp s
  let s ← sgDestroy .image g.defImg s
  let s ← sgDestroy .buffer g.ibuf s
  let s ← sgDestroy .buffer g.vbuf s
  let emptied ← destroyAllImages g.images
  let images ← simguiDiscardImages emptied
  return ({ g with images := images, initCookie := false }, s)

end WakeAlpha.Imgui
