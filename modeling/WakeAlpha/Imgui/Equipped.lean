import WakeAlpha.Gfx.Drawing
import WakeAlpha.Imgui.Images
import WakeAlpha.Imgui.Scene

set_option autoImplicit false

namespace WakeAlpha.Imgui

open WakeAlpha.Gfx

-- An image that can be bound without an assertion failing, with a pipeline of simgui.
structure Textured (size : Kind → Nat) (g : Simgui) (img : SimguiImage) : Prop where
  image : InRange size .image img.image
  sampler : InRange size .sampler img.sampler
  pip : img.pip = g.defPip ∨ img.pip = g.pipUnfilterable

-- The resources that simgui cannot render without.
def Simgui.equipment (g : Simgui) : List Handle :=
  [(.shader, g.defShd), (.pipeline, g.defPip), (.shader, g.shdUnfilterable), (.pipeline, g.pipUnfilterable),
    (.buffer, g.vbuf), (.buffer, g.ibuf)]

-- simgui after its setup, in a debug build of sokol_gfx.
structure Outfit (num : Nat) (size : Kind → Nat) (g : Simgui) (s : SgState) : Prop where
  inv : s.Inv size
  valid : s.valid = true
  validation : s.validation = true
  cookie : g.initCookie = true
  images : ImagesInv num g.images
  small : g.vertices < 2 ^ 31 ∧ g.indices < 2 ^ 31
  inRange : ∀ h ∈ g.resources ++ g.fontResources, InRange size h.1 h.2
  font : ImageInRange num g.defaultFont
  textures : ∀ index, (g.images.slot index).state.Live → Textured size g (g.images.body index)

-- It can render.
structure Equipped (num : Nat) (size : Kind → Nat) (g : Simgui) (s : SgState) : Prop extends Outfit num size g s where
  default : PipelineLive s g.defPip g.defShd simguiShaderDesc.uniformBlocks
  unfilterable : PipelineLive s g.pipUnfilterable g.shdUnfilterable simguiShaderDesc.uniformBlocks
  vertices : Live s .buffer (sized g.vertices) g.vbuf
  indices : Live s .buffer (sized g.indices) g.ibuf

-- A call that does not take the equipment away; its buffers may be written.
def Simgui.Leaves (g : Simgui) (call : SgCall) : Prop :=
  (∃ id data reply, call = .updateBuffer id data reply) ∨ ∀ h ∈ g.equipment, ¬ call.names h.1 h.2

variable {num : Nat} {size : Kind → Nat} {g after : Simgui} {s next : SgState} {k : Kind} {id : UInt32}

theorem live_ne_zero {ready : Body k → Bool} (live : Live s k ready id) : id ≠ 0 := by
  obtain ⟨index, found, -, -⟩ := live
  exact handle_named (h := (k, id)) ⟨index, found⟩

-- A call that names images and samplers only.
theorem leaves_textures {call : SgCall} (names : ∀ k id, call.names k id → k = .image ∨ k = .sampler) :
    g.Leaves call := by
  right
  intro h listed named
  have kind := names h.1 h.2 named
  simp only [Simgui.equipment, List.mem_cons, List.not_mem_nil, or_false] at listed
  rcases listed with rfl | rfl | rfl | rfl | rfl | rfl <;> rcases kind with wrong | wrong <;> cases wrong

theorem step_outfit {call : SgCall} (outfit : Outfit num size g s) (done : sgStep s call = some next) :
    Outfit num size g next :=
  ⟨step_inv outfit.inv done, (step_valid outfit.inv done).trans outfit.valid,
    (step_validation outfit.inv done).trans outfit.validation, outfit.cookie, outfit.images, outfit.small, outfit.inRange,
    outfit.font, outfit.textures⟩

theorem step_equipped {call : SgCall} (equipped : Equipped num size g s) (leaves : g.Leaves call)
    (done : sgStep s call = some next) : Equipped num size g next := by
  have inv := equipped.inv
  have outfit := step_outfit equipped.toOutfit done
  rcases leaves with ⟨id, data, reply, rfl⟩ | unnamed
  · have apart (k : Kind) (other : UInt32) (ne : .buffer ≠ k) :
        ¬ SgCall.names k other (.updateBuffer id data reply) := fun names => ne names.1
    exact ⟨outfit,
      step_pipeline_live inv equipped.default (apart _ _ (by decide)) (apart _ _ (by decide)) done,
      step_pipeline_live inv equipped.unfilterable (apart _ _ (by decide)) (apart _ _ (by decide)) done,
      update_sized inv equipped.vertices done, update_sized inv equipped.indices done⟩
  · have spared (k : Kind) (id : UInt32) (listed : (k, id) ∈ g.equipment) : ¬ call.names k id := unnamed (k, id) listed
    exact ⟨outfit,
      step_pipeline_live inv equipped.default (spared _ _ (by simp [Simgui.equipment]))
        (spared _ _ (by simp [Simgui.equipment])) done,
      step_pipeline_live inv equipped.unfilterable (spared _ _ (by simp [Simgui.equipment]))
        (spared _ _ (by simp [Simgui.equipment])) done,
      step_live inv equipped.vertices (spared _ _ (by simp [Simgui.equipment])) done,
      step_live inv equipped.indices (spared _ _ (by simp [Simgui.equipment])) done⟩

theorem run_equipped {calls : List SgCall} (equipped : Equipped num size g s)
    (leaves : ∀ call ∈ calls, g.Leaves call) (done : sgRun s calls = some next) : Equipped num size g next := by
  induction calls generalizing s with
  | nil =>
      cases done
      exact equipped
  | cons call rest ih =>
      obtain ⟨middle, step, done⟩ := run_cons_some done
      exact ih (step_equipped equipped (leaves call (by simp)) step)
        (fun other member => leaves other (by simp [member])) done

theorem images_outfit {fresh : SimguiImage → Prop} (outfit : Outfit num size g s) (made : ImageMade num fresh g after)
    (textured : ∀ image, fresh image → Textured size g image) : Outfit num size after s := by
  have textures : ∀ index, (after.images.slot index).state.Live → Textured size g (after.images.body index) := by
    intro index live
    rcases made.items index live with ⟨before, same⟩ | new
    · rw [same]
      exact outfit.textures index before
    · exact textured _ new
  have images := made.images
  rw [made.rest] at textures images ⊢
  refine ⟨outfit.inv, outfit.valid, outfit.validation, outfit.cookie, images, outfit.small, outfit.inRange, outfit.font, ?_⟩
  exact fun index live => ⟨(textures index live).image, (textures index live).sampler, (textures index live).pip⟩

theorem fonts_outfit {fontImg fontSmp defaultFont : UInt32} (outfit : Outfit num size g s)
    (image : InRange size .image fontImg) (sampler : InRange size .sampler fontSmp)
    (font : ImageInRange num defaultFont) : Outfit num size { g with fontImg, fontSmp, defaultFont } s := by
  refine ⟨outfit.inv, outfit.valid, outfit.validation, outfit.cookie, outfit.images, outfit.small, ?_, font, ?_⟩
  · intro h listed
    rcases List.mem_append.mp listed with old | new
    · exact outfit.inRange h (List.mem_append_left _ old)
    · simp only [Simgui.fontResources, List.mem_cons, List.not_mem_nil, or_false] at new
      rcases new with rfl | rfl
      · exact image
      · exact sampler
  · intro index live
    have textured := outfit.textures index live
    exact ⟨textured.image, textured.sampler, textured.pip⟩

-- simgui with other images and another font has the same equipment.
structure SameEquipment (g after : Simgui) : Prop where
  defShd : after.defShd = g.defShd
  defPip : after.defPip = g.defPip
  shdUnfilterable : after.shdUnfilterable = g.shdUnfilterable
  pipUnfilterable : after.pipUnfilterable = g.pipUnfilterable
  vbuf : after.vbuf = g.vbuf
  ibuf : after.ibuf = g.ibuf
  vertices : after.vertices = g.vertices
  indices : after.indices = g.indices

theorem same_equipment_trans {first second third : Simgui} (one : SameEquipment first second)
    (two : SameEquipment second third) : SameEquipment first third :=
  ⟨two.defShd.trans one.defShd, two.defPip.trans one.defPip, two.shdUnfilterable.trans one.shdUnfilterable,
    two.pipUnfilterable.trans one.pipUnfilterable, two.vbuf.trans one.vbuf, two.ibuf.trans one.ibuf,
    two.vertices.trans one.vertices, two.indices.trans one.indices⟩

theorem made_same_equipment {fresh : SimguiImage → Prop} (made : ImageMade num fresh g after) : SameEquipment g after := by
  rw [made.rest]
  exact ⟨rfl, rfl, rfl, rfl, rfl, rfl, rfl, rfl⟩

theorem equipped_of_same (equipped : Equipped num size g s) (outfit : Outfit num size after s)
    (same : SameEquipment g after) : Equipped num size after s := by
  refine ⟨outfit, ?_, ?_, ?_, ?_⟩
  · rw [same.defPip, same.defShd]
    exact equipped.default
  · rw [same.pipUnfilterable, same.shdUnfilterable]
    exact equipped.unfilterable
  · rw [same.vbuf, same.vertices]
    exact equipped.vertices
  · rw [same.ibuf, same.indices]
    exact equipped.indices

theorem made_in_range {desc : Desc k} {reply : InitReply} (inv : s.Inv size)
    (done : sgMake k desc reply s = some (id, next)) : InRange size k id := by
  rcases make_result_handles inv done with ⟨invalid, -⟩ | ⟨-, -, inserted⟩
  · exact Or.inl invalid
  · refine handle_in_range (h := (k, id)) (step_inv inv (make_step done)) ?_
    rw [inserted]
    exact Set.mem_insert _ _

theorem init_textured {desc : SimguiImageDesc} {filterable : UInt32 → Bool} (outfit : Outfit num size g s)
    (image : InRange size .image desc.image) (sampler : InRange size .sampler desc.sampler) {made : SimguiImage}
    (inits : simguiInitImage g (simguiImageDescDefaults g desc) filterable = some made) : Textured size g made := by
  obtain ⟨-, inits⟩ := assert_some inits
  obtain ⟨-, inits⟩ := assert_some inits
  cases inits
  refine ⟨?_, ?_, ?_⟩
  · change InRange size .image (if desc.image = 0 then g.defImg else desc.image)
    split_ifs
    · exact outfit.inRange (.image, g.defImg) (by simp [Simgui.resources])
    · exact image
  · change InRange size .sampler (if desc.sampler = 0 then g.defSmp else desc.sampler)
    split_ifs
    · exact outfit.inRange (.sampler, g.defSmp) (by simp [Simgui.resources])
    · exact sampler
  · change (if filterable _ = true then g.defPip else g.pipUnfilterable) = _ ∨ _
    exact ite_eq_or_eq ..

theorem make_equipped {desc : Desc k} {reply : InitReply} (equipped : Equipped num size g s)
    (done : sgMake k desc reply s = some (id, next)) : Equipped num size g next := by
  have unnamed : ∀ h ∈ g.equipment, ¬ SgCall.names h.1 h.2 (.make k desc reply) := fun _ _ names => names
  exact step_equipped equipped (Or.inr unnamed) (make_step done)

theorem make_image_outfit {desc : SimguiImageDesc} {filterable : UInt32 → Bool} (outfit : Outfit num size g s)
    (image : InRange size .image desc.image) (sampler : InRange size .sampler desc.sampler)
    (done : simguiMakeImage desc filterable g = some (id, after)) :
    ImageInRange num id ∧ Outfit num size after s ∧ SameEquipment g after := by
  obtain ⟨range, made⟩ := make_image_result outfit.images done
  exact ⟨range, images_outfit outfit made fun _ inits => init_textured outfit image sampler inits,
    made_same_equipment made⟩

theorem drop_image_outfit (outfit : Outfit num size g s) (done : simguiDestroyImage id g = some after) :
    Outfit num size after s ∧ SameEquipment g after := by
  have made := drop_image_result outfit.images done
  exact ⟨images_outfit outfit made fun _ wrong => wrong.elim, made_same_equipment made⟩

-- Calls that make and destroy images and samplers.
structure Textures (calls : List SgCall) : Prop where
  resources : ∀ call ∈ calls, call.onResources = true
  names : ∀ call ∈ calls, ∀ k id, call.names k id → k = .image ∨ k = .sampler

-- What simgui does to its font leaves its equipment and makes no other calls.
structure FontStep (num : Nat) (size : Kind → Nat) (g : Simgui) (s : SgState) (gui : Simgui) (gfx : SgState) : Prop where
  outfit : Outfit num size gui gfx
  same : SameEquipment g gui
  run : ∃ calls, Textures calls ∧ sgRun s calls = some gfx

theorem destroy_fonts_result {gui : Simgui} {gfx : SgState} (outfit : Outfit num size g s)
    (done : simguiDestroyFontsTexture g s = some (gui, gfx)) : FontStep num size g s gui gfx := by
  obtain ⟨middle, first, done⟩ := bind_some done
  obtain ⟨last, second, done⟩ := bind_some done
  obtain ⟨dropped, third, done⟩ := bind_some done
  cases done
  have firstStep : sgStep s (.destroy .sampler g.fontSmp) = some middle := first
  have secondStep : sgStep middle (.destroy .image g.fontImg) = some gfx := second
  obtain ⟨final, same⟩ := drop_image_outfit (step_outfit (step_outfit outfit firstStep) secondStep) third
  refine ⟨fonts_outfit final (Or.inl rfl) (Or.inl rfl) (Or.inl rfl),
    ⟨same.defShd, same.defPip, same.shdUnfilterable, same.pipUnfilterable, same.vbuf, same.ibuf, same.vertices,
      same.indices⟩,
    [.destroy .sampler g.fontSmp, .destroy .image g.fontImg], ⟨?_, ?_⟩,
    (run_next _ firstStep).trans ((run_next _ secondStep).trans rfl)⟩
  · simp [SgCall.onResources]
  · simp only [List.forall_mem_cons]
    exact ⟨fun _ _ named => Or.inr named.1.symm, fun _ _ named => Or.inl named.1.symm, List.forall_mem_nil _⟩

theorem create_fonts_result {atlas : FontAtlas} {gui : Simgui} {gfx : SgState} (outfit : Outfit num size g s)
    (done : simguiCreateFontsTexture atlas g s = some (gui, gfx)) : FontStep num size g s gui gfx := by
  obtain ⟨-, done⟩ := assert_some done
  obtain ⟨-, done⟩ := assert_some done
  obtain ⟨-, done⟩ := assert_some done
  obtain ⟨⟨fontSmp, middle⟩, first, done⟩ := bind_some done
  obtain ⟨⟨fontImg, last⟩, second, done⟩ := bind_some done
  obtain ⟨⟨defaultFont, named⟩, third, done⟩ := bind_some done
  cases done
  have one := step_outfit outfit (make_step first)
  have image := made_in_range one.inv second
  have sampler := made_in_range outfit.inv first
  have two := fonts_outfit (step_outfit one (make_step second)) image sampler outfit.font
  obtain ⟨font, three, same⟩ := make_image_outfit two image sampler third
  refine ⟨fonts_outfit three (three.inRange (.image, named.fontImg) (by simp [Simgui.fontResources]))
      (three.inRange (.sampler, named.fontSmp) (by simp [Simgui.fontResources])) font,
    ⟨same.defShd, same.defPip, same.shdUnfilterable, same.pipUnfilterable, same.vbuf, same.ibuf, same.vertices,
      same.indices⟩,
    [.make .sampler () atlas.fontSmp, .make .image ⟨atlas.width, atlas.height⟩ atlas.fontImg], ⟨?_, ?_⟩,
    (run_next _ (make_step first)).trans ((run_next _ (make_step second)).trans rfl)⟩
  · simp [SgCall.onResources]
  · simp only [List.forall_mem_cons]
    exact ⟨fun _ _ named => named.elim, fun _ _ named => named.elim, List.forall_mem_nil _⟩

theorem new_frame_result {frame : NewFrame} {gui : Simgui} {gfx : SgState} (outfit : Outfit num size g s)
    (done : simguiNewFrame frame g s = some (gui, gfx)) : FontStep num size g s gui gfx := by
  obtain ⟨-, done⟩ := assert_some done
  obtain ⟨-, done⟩ := assert_some done
  obtain ⟨-, done⟩ := assert_some done
  by_cases ready : frame.texReady = true
  · rw [if_pos ready] at done
    cases done
    exact ⟨outfit, ⟨rfl, rfl, rfl, rfl, rfl, rfl, rfl, rfl⟩, [], ⟨List.forall_mem_nil _, List.forall_mem_nil _⟩, rfl⟩
  · rw [if_neg ready] at done
    obtain ⟨⟨without, between⟩, destroys, creates⟩ := bind_some done
    have first := destroy_fonts_result outfit destroys
    have second := create_fonts_result first.outfit creates
    obtain ⟨calls, textures, ran⟩ := first.run
    obtain ⟨others, more, last⟩ := second.run
    refine ⟨second.outfit, same_equipment_trans first.same second.same, calls ++ others, ⟨?_, ?_⟩,
      (run_then _ ran).trans last⟩
    · exact List.forall_mem_append.mpr ⟨textures.resources, more.resources⟩
    · exact List.forall_mem_append.mpr ⟨textures.names, more.names⟩

theorem font_step_equipped {gui : Simgui} {gfx : SgState} (equipped : Equipped num size g s)
    (step : FontStep num size g s gui gfx) : Equipped num size gui gfx := by
  obtain ⟨calls, textures, ran⟩ := step.run
  exact equipped_of_same (run_equipped equipped (fun call member => leaves_textures (textures.names call member)) ran)
    step.outfit step.same

theorem image_served (desc : SimguiImageDesc) (filterable : UInt32 → Bool) (equipped : Equipped num size g s) :
    ∃ id after, simguiMakeImage desc filterable g = some (id, after) := by
  obtain ⟨⟨id, after⟩, done⟩ : ∃ result, simguiMakeImage desc filterable g = some result :=
    make_image_total equipped.images equipped.cookie (live_ne_zero equipped.default.pipeline)
      (live_ne_zero equipped.unfilterable.pipeline)
  exact ⟨id, after, done⟩

theorem destroy_fonts_total (equipped : Equipped num size g s) :
    ∃ gui gfx, simguiDestroyFontsTexture g s = some (gui, gfx) ∧
      gui.fontSmp = 0 ∧ gui.fontImg = 0 ∧ gui.defaultFont = 0 := by
  obtain ⟨middle, first⟩ : ∃ middle, sgDestroy .sampler g.fontSmp s = some middle :=
    destroy_total equipped.inv equipped.valid (equipped.inRange (.sampler, g.fontSmp) (by simp [Simgui.fontResources]))
  have firstStep : sgStep s (.destroy .sampler g.fontSmp) = some middle := first
  have one := step_outfit equipped.toOutfit firstStep
  obtain ⟨last, second⟩ : ∃ last, sgDestroy .image g.fontImg middle = some last :=
    destroy_total one.inv one.valid (equipped.inRange (.image, g.fontImg) (by simp [Simgui.fontResources]))
  obtain ⟨dropped, third⟩ := drop_image_total equipped.images equipped.cookie equipped.font
  refine ⟨{ dropped with fontSmp := 0, fontImg := 0, defaultFont := 0 }, last, ?_, rfl, rfl, rfl⟩
  rw [simguiDestroyFontsTexture, first]
  change (sgDestroy .image g.fontImg middle >>= fun _ => _) = _
  rw [second]
  change (simguiDestroyImage g.defaultFont g >>= fun _ => _) = _
  rw [third]
  rfl

theorem create_fonts_total (atlas : FontAtlas) (equipped : Equipped num size g s) (noSmp : g.fontSmp = 0)
    (noImg : g.fontImg = 0) (noFont : g.defaultFont = 0) :
    ∃ gui gfx, simguiCreateFontsTexture atlas g s = some (gui, gfx) := by
  obtain ⟨⟨fontSmp, middle⟩, first⟩ : ∃ result, sgMake .sampler () atlas.fontSmp s = some result :=
    make_total equipped.inv equipped.valid trivial
  have one := make_equipped equipped first
  obtain ⟨⟨fontImg, last⟩, second⟩ :
      ∃ result, sgMake .image ⟨atlas.width, atlas.height⟩ atlas.fontImg middle = some result :=
    make_total one.inv one.valid trivial
  have image := made_in_range one.inv second
  have sampler := made_in_range equipped.inv first
  have two := make_equipped one second
  have three : Equipped num size { g with fontSmp, fontImg } last :=
    equipped_of_same two (fonts_outfit two.toOutfit image sampler equipped.font) ⟨rfl, rfl, rfl, rfl, rfl, rfl, rfl, rfl⟩
  obtain ⟨defaultFont, named, third⟩ := image_served ⟨fontImg, fontSmp⟩ atlas.filterable three
  refine ⟨{ named with defaultFont }, last, ?_⟩
  rw [simguiCreateFontsTexture, assert_bind noSmp, assert_bind noImg, assert_bind noFont, first]
  change (sgMake .image ⟨atlas.width, atlas.height⟩ atlas.fontImg middle >>= fun _ => _) = _
  rw [second]
  change (simguiMakeImage ⟨fontImg, fontSmp⟩ atlas.filterable { g with fontSmp, fontImg } >>= fun _ => _) = _
  rw [third]
  rfl

-- No assertion fails at the begin of a frame, and simgui can render after it.
theorem new_frame_total {frame : NewFrame} (equipped : Equipped num size g s) (width : 0 < frame.width)
    (height : 0 < frame.height) :
    ∃ gui gfx, simguiNewFrame frame g s = some (gui, gfx) ∧ FontStep num size g s gui gfx := by
  have served : ∃ result, simguiNewFrame frame g s = some result := by
    refine assert_exists equipped.cookie (assert_exists width (assert_exists height ?_))
    by_cases ready : frame.texReady = true
    · rw [if_pos ready]
      exact ⟨_, rfl⟩
    · rw [if_neg ready]
      obtain ⟨without, between, destroys, noSmp, noImg, noFont⟩ := destroy_fonts_total equipped
      have still := font_step_equipped equipped (destroy_fonts_result equipped.toOutfit destroys)
      obtain ⟨gui, gfx, creates⟩ := create_fonts_total frame.atlas still noSmp noImg noFont
      exact bind_exists destroys ⟨_, creates⟩
  obtain ⟨⟨gui, gfx⟩, done⟩ := served
  exact ⟨gui, gfx, done, new_frame_result equipped.toOutfit done⟩

end WakeAlpha.Imgui
