import WakeAlpha.Gfx.Holdings
import WakeAlpha.Imgui.Render
import WakeAlpha.Imgui.Resources

set_option autoImplicit false

namespace WakeAlpha.Imgui

open WakeAlpha.Gfx

-- The handles of a list that are not the invalid id.
def named (handles : List Handle) : Set Handle := {h | h ∈ handles ∧ h.2 ≠ 0}

-- The last that is made comes first.
def Simgui.resources (g : Simgui) : List Handle :=
  [(.image, g.defImg), (.sampler, g.defSmp), (.buffer, g.ibuf), (.buffer, g.vbuf), (.pipeline, g.pipUnfilterable),
    (.shader, g.shdUnfilterable), (.pipeline, g.defPip), (.shader, g.defShd)]

def Simgui.fontResources (g : Simgui) : List Handle := [(.image, g.fontImg), (.sampler, g.fontSmp)]

-- A call of the program that cannot end the life of what simgui holds.
def Simgui.Safe (g : Simgui) (call : SgCall) : Prop :=
  ∀ h, call.mayEnd = some h → h ∉ named g.resources ∧ h ∉ named g.fontResources

-- What a program keeps to in its calls of sokol_gfx, and in the images it gives simgui.
structure Rules where
  call : Simgui → SgCall → Prop
  image : SimguiImageDesc → Prop

def Rules.sparing : Rules := ⟨Simgui.Safe, fun _ => True⟩

-- The two libraries, and the handles that the program has been given and has not ended.
structure Scene where
  gui : Simgui
  gfx : SgState
  mine : Set Handle

-- One call of the program, into one library or the other.
inductive SceneStep (rules : Rules) : Scene → Scene → Prop where
  | gfx (w : Scene) (call : SgCall) (next : SgState) (safe : rules.call w.gui call) (done : sgStep w.gfx call = some next) :
      SceneStep rules w ⟨w.gui, next, call.onHandles w.gfx w.mine⟩
  | newFrame (w : Scene) (frame : NewFrame) (gui : Simgui) (gfx : SgState)
      (done : simguiNewFrame frame w.gui w.gfx = some (gui, gfx)) : SceneStep rules w ⟨gui, gfx, w.mine⟩
  | render (w : Scene) (frame : RenderFrame) (cmdLists : List ImDrawList) (calls : List ImCall) (gfx : SgState)
      (safe : ∀ cl ∈ cmdLists, ∀ cmd ∈ cl.cmdBuffer, ∀ made, cmd.callback = .user made →
        ∀ call ∈ made, rules.call w.gui call)
      (rendered : simguiRender w.gui frame (some cmdLists) = some calls)
      (done : sgRun w.gfx (calls.flatMap ImCall.calls) = some gfx) :
      SceneStep rules w ⟨w.gui, gfx, runOnHandles (calls.flatMap ImCall.calls) w.gfx w.mine⟩
  | makeImage (w : Scene) (desc : SimguiImageDesc) (filterable : UInt32 → Bool) (id : UInt32) (gui : Simgui)
      (fair : rules.image desc) (done : simguiMakeImage desc filterable w.gui = some (id, gui)) : SceneStep rules w ⟨gui, w.gfx, w.mine⟩
  | destroyImage (w : Scene) (id : UInt32) (gui : Simgui) (done : simguiDestroyImage id w.gui = some gui) :
      SceneStep rules w ⟨gui, w.gfx, w.mine⟩

-- What simgui_setup has made before it turns to the font.
structure SetupMade (desc : SimguiDesc) (replies : SetupReplies) (s : SgState) where
  images : SgStore SimguiImage
  (defShd defPip shdUnfilterable pipUnfilterable vbuf ibuf defSmp defImg : UInt32)
  (s₁ s₂ s₃ s₄ s₅ s₆ s₇ s₈ : SgState)
  pool : SgStore.setup (simguiDescDefaults desc).imagePoolSize.toNat = some images
  positive : 0 < (simguiDescDefaults desc).maxVertices
  first : sgMake .shader simguiShaderDesc replies.defShd s = some (defShd, s₁)
  second : sgMake .pipeline ⟨defShd⟩ replies.defPip s₁ = some (defPip, s₂)
  third : sgMake .shader simguiShaderDesc replies.shdUnfilterable s₂ = some (shdUnfilterable, s₃)
  fourth : sgMake .pipeline ⟨shdUnfilterable⟩ replies.pipUnfilterable s₃ = some (pipUnfilterable, s₄)
  fifth : sgMake .buffer
    { usage := .stream, size := (simguiDescDefaults desc).maxVertices.toNat * sizeofImDrawVert } replies.vbuf s₄ =
      some (vbuf, s₅)
  sixth : sgMake .buffer
    { type := .indexBuffer, usage := .stream,
      size := (simguiDescDefaults desc).maxVertices.toNat * 3 * sizeofImDrawIdx } replies.ibuf s₅ = some (ibuf, s₆)
  seventh : sgMake .sampler () replies.defSmp s₆ = some (defSmp, s₇)
  eighth : sgMake .image ⟨8, 8⟩ replies.defImg s₇ = some (defImg, s₈)

section Setup

variable {desc : SimguiDesc} {replies : SetupReplies} {atlas : FontAtlas} {s begun : SgState} {g : Simgui}

def SetupMade.gui (m : SetupMade desc replies s) : Simgui where
  initCookie := true
  images := m.images
  vertices := (simguiDescDefaults desc).maxVertices.toNat * sizeofImDrawVert
  indices := (simguiDescDefaults desc).maxVertices.toNat * 3 * sizeofImDrawIdx
  vbuf := m.vbuf
  ibuf := m.ibuf
  defImg := m.defImg
  defSmp := m.defSmp
  defShd := m.defShd
  defPip := m.defPip
  shdUnfilterable := m.shdUnfilterable
  pipUnfilterable := m.pipUnfilterable

theorem setup_made (done : simguiSetup desc replies atlas s = some (g, begun)) :
    ∃ m : SetupMade desc replies s,
      (g = m.gui ∧ begun = m.s₈) ∨ simguiCreateFontsTexture atlas m.gui m.s₈ = some (g, begun) := by
  obtain ⟨images, pool, done⟩ := bind_some done
  obtain ⟨positive, done⟩ := assert_some done
  obtain ⟨⟨defShd, s₁⟩, first, done⟩ := bind_some done
  obtain ⟨⟨defPip, s₂⟩, second, done⟩ := bind_some done
  obtain ⟨⟨shdUnfilterable, s₃⟩, third, done⟩ := bind_some done
  obtain ⟨⟨pipUnfilterable, s₄⟩, fourth, done⟩ := bind_some done
  obtain ⟨⟨vbuf, s₅⟩, fifth, done⟩ := bind_some done
  obtain ⟨⟨ibuf, s₆⟩, sixth, done⟩ := bind_some done
  obtain ⟨⟨defSmp, s₇⟩, seventh, done⟩ := bind_some done
  obtain ⟨⟨defImg, s₈⟩, eighth, done⟩ := bind_some done
  refine ⟨⟨images, defShd, defPip, shdUnfilterable, pipUnfilterable, vbuf, ibuf, defSmp, defImg, s₁, s₂, s₃, s₄, s₅, s₆,
    s₇, s₈, pool, positive, first, second, third, fourth, fifth, sixth, seventh, eighth⟩, ?_⟩
  dsimp only at done
  split at done
  · cases done
    exact Or.inl ⟨rfl, rfl⟩
  · exact Or.inr done

end Setup

end WakeAlpha.Imgui
