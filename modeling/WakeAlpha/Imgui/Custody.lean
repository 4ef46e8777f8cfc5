import WakeAlpha.Imgui.Emits
import WakeAlpha.Imgui.Images
import WakeAlpha.Imgui.Scene

set_option autoImplicit false

namespace WakeAlpha.Imgui

open Relation (ReflTransGen)
open WakeAlpha.Gfx WakeAlpha.Slots

section Bookings

variable {ω : Type} [DecidableEq ω] {l : Ledger ω Handle} {p : ω} {size : Kind → Nat} {s next : SgState}
variable {k : Kind} {id : UInt32}

theorem named_nil : named [] = ∅ := by
  ext h
  simp [named]

theorem named_zero (k : Kind) (handles : List Handle) : named ((k, 0) :: handles) = named handles := by
  ext h
  simp only [named, List.mem_cons, Set.mem_ofPred_eq, and_congr_left_iff, or_iff_right_iff_imp]
  rintro positive rfl
  exact absurd rfl positive

theorem make_booked {desc : Desc k} {reply : InitReply} {handles : List Handle} (inv : s.Inv size)
    (accounts : Accounts l s) (held : l.held p = named handles) (done : sgMake k desc reply s = some (id, next)) :
    ∃ l', Entries p l l' ∧ Accounts l' next ∧ l'.held p = named ((k, id) :: handles) ∧ next.Inv size ∧
      next.valid = s.valid := by
  have step := make_step done
  obtain ⟨l', entries, still, held'⟩ := step_booked (p := p) inv accounts (fun _ ends => by cases ends) step
  refine ⟨l', entries, still, ?_, step_inv inv step, step_valid inv step⟩
  rw [held', held]
  by_cases invalid : id = 0
  · subst invalid
    have none_ : SgCall.given s (.make k desc reply) = none := by rw [SgCall.given, done]; rfl
    rw [idle_on_handles rfl none_, named_zero]
  · have given : SgCall.given s (.make k desc reply) = some (k, id) := by
      rw [SgCall.given, done]
      exact if_neg invalid
    ext h
    simp only [SgCall.onHandles, given, SgCall.ended, named, List.mem_cons, Set.mem_ofPred_eq, reduceCtorEq,
      not_false_eq_true, and_true, Option.some.injEq, ne_eq, or_and_right]
    rw [or_comm]
    refine or_congr_left ⟨?_, fun same => same.1.symm⟩
    rintro rfl
    exact ⟨rfl, invalid⟩

-- Handles that are destroyed one after the other, each by the holder it belongs to.
theorem destroys_booked {handles : List (ω × Handle)} (inv : s.Inv size) (accounts : Accounts l s)
    (mine : ∀ e ∈ handles, e.2 ∈ l.inUse → e.2 ∈ l.held e.1)
    (done : sgRun s (handles.map fun e => .destroy e.2.1 e.2.2) = some next) :
    ∃ l' : Ledger ω Handle, Accounts l' next ∧ ∀ q, l'.held q = l.held q \ {h | (q, h) ∈ handles} := by
  induction handles generalizing s l with
  | nil =>
      cases done
      exact ⟨l, accounts, fun q => by simp⟩
  | cons e rest ih =>
      obtain ⟨middle, step, done⟩ := run_cons_some done
      have own := mine e (by simp)
      have removed (set : Set Handle) : SgCall.onHandles (.destroy e.2.1 e.2.2) s set = set \ {e.2} := by
        ext h
        simp [SgCall.onHandles, SgCall.ended, SgCall.given, eq_comm]
      have handles_ := (step_handles inv step).handles
      rw [removed, ← accounts] at handles_
      have accounts' : Accounts (l.release e.1 e.2) middle := (release_in_use own).trans handles_.symm
      have later : ∀ other ∈ rest, other.2 ∈ (l.release e.1 e.2).inUse → other.2 ∈ (l.release e.1 e.2).held other.1 := by
        intro other member used
        rw [release_in_use own] at used
        have holds := mine other (by simp [member]) used.1
        by_cases same : other.1 = e.1
        · rw [same, release_held]
          exact ⟨same ▸ holds, used.2⟩
        · rwa [release_held_other same]
      obtain ⟨l', last, held⟩ := ih (step_inv inv step) accounts' later done
      refine ⟨l', last, fun q => ?_⟩
      rw [held q]
      by_cases same : q = e.1
      · subst same
        rw [release_held]
        ext h
        simp only [Set.mem_sdiff, Set.mem_singleton_iff, Set.mem_ofPred_eq, List.mem_cons, not_or, and_assoc,
          Prod.ext_iff, true_and]
      · rw [release_held_other same]
        ext h
        simp [Prod.ext_iff, same]

end Bookings

-- Who holds the handles of sokol_gfx: the program, and simgui with the texture of its font apart.
inductive Holder where
  | program
  | renderer
  | fonts
deriving DecidableEq, Repr

-- The ledger says of every handle in use whose it is.
structure Custody (num : Nat) (size : Kind → Nat) (l : Ledger Holder Handle) (w : Scene) : Prop where
  inv : w.gfx.Inv size
  valid : w.gfx.valid = true
  images : ImagesInv num w.gui.images
  cookie : w.gui.initCookie = true
  accounts : Accounts l w.gfx
  program : l.held .program = w.mine
  renderer : l.held .renderer = named w.gui.resources
  fonts : l.held .fonts = named w.gui.fontResources

variable {num : Nat} {size : Kind → Nat} {l : Ledger Holder Handle} {w after : Scene} {s : SgState} {g : Simgui}

theorem program_run {calls : List SgCall} {next : SgState} (custody : Custody num size l w)
    (safe : ∀ call ∈ calls, w.gui.Safe call) (done : sgRun w.gfx calls = some next) :
    ∃ l', Custody num size l' ⟨w.gui, next, runOnHandles calls w.gfx w.mine⟩ := by
  have spares : ∀ call ∈ calls, ∀ h, call.mayEnd = some h → ∀ q ≠ Holder.program, h ∉ l.held q := by
    intro call member h ends q ne
    obtain ⟨kept, fonts⟩ := safe call member h ends
    cases q with
    | program => exact absurd rfl ne
    | renderer => rwa [custody.renderer]
    | fonts => rwa [custody.fonts]
  obtain ⟨l', entries, accounts, held⟩ := run_booked custody.inv custody.accounts spares done
  refine ⟨l', run_inv custody.inv done, (run_valid custody.inv done).trans custody.valid, custody.images, custody.cookie, accounts, ?_, ?_, ?_⟩
  · rw [held, custody.program]
  · rw [entries_others entries (by decide), custody.renderer]
  · rw [entries_others entries (by decide), custody.fonts]

-- simgui never ends the life of a handle while it renders; its callbacks may.
theorem rendered_safe {frame : RenderFrame} {cmdLists : List ImDrawList} {calls : List ImCall}
    (safe : ∀ cl ∈ cmdLists, ∀ cmd ∈ cl.cmdBuffer, ∀ made, cmd.callback = .user made → ∀ call ∈ made, g.Safe call)
    (rendered : simguiRender g frame (some cmdLists) = some calls) :
    ∀ call ∈ calls.flatMap ImCall.calls, g.Safe call := by
  intro call member
  obtain ⟨im, listed, inside⟩ := List.mem_flatMap.mp member
  obtain ⟨-, rfl⟩ | ⟨rest, rfl, emits⟩ := render_emits rendered
  · cases listed
  · obtain early | late := List.mem_append.mp listed
    · rcases uploaded early with ⟨-, rfl⟩ | ⟨-, rfl⟩
      · cases List.mem_singleton.mp inside
        exact fun _ ends => by cases ends
      · cases List.mem_singleton.mp inside
        exact fun _ ends => by cases ends
    · cases emits im late with
      | callback cl drawn cmd within made user =>
          exact safe cl (copied_listed g cmdLists cl drawn) cmd within made user call inside
      | _ =>
          cases List.mem_singleton.mp inside
          exact fun _ ends => by cases ends

theorem unlisted {ω κ : Type} {handles : List (ω × κ)} {q : ω} {held : Set κ} (others : ∀ e ∈ handles, e.1 ≠ q) :
    held \ {h | (q, h) ∈ handles} = held := by
  ext h
  simp only [Set.mem_sdiff, Set.mem_ofPred_eq, and_iff_left_iff_imp]
  exact fun _ member => others _ member rfl

-- What simgui holds may be destroyed in its name.
theorem held_by (accounts : Accounts l s) {holder : Holder} {handles : List Handle}
    (held : l.held holder = named handles) {h : Handle} (listed : h ∈ handles) (used : h ∈ l.inUse) :
    h ∈ l.held holder := by
  rw [held]
  rw [accounts] at used
  exact ⟨listed, handle_named used⟩

theorem destroy_fonts_custody {gui : Simgui} {gfx : SgState} (custody : Custody num size l w)
    (done : simguiDestroyFontsTexture w.gui w.gfx = some (gui, gfx)) :
    ∃ l', Custody num size l' ⟨gui, gfx, w.mine⟩ := by
  obtain ⟨middle, first, done⟩ := bind_some done
  obtain ⟨last, second, done⟩ := bind_some done
  obtain ⟨dropped, drops, done⟩ := bind_some done
  cases done
  let fonts : List (Holder × Handle) := w.gui.fontResources.reverse.map (Prod.mk .fonts)
  have one : sgStep w.gfx (.destroy .sampler w.gui.fontSmp) = some middle := first
  have two : sgStep middle (.destroy .image w.gui.fontImg) = some gfx := second
  have ran : sgRun w.gfx (fonts.map fun e => .destroy e.2.1 e.2.2) = some gfx :=
    (run_next _ one).trans ((run_next _ two).trans rfl)
  have mine : ∀ e ∈ fonts, e.2 ∈ l.inUse → e.2 ∈ l.held e.1 := by
    intro e member used
    obtain ⟨h, listed, rfl⟩ := List.mem_map.mp member
    exact held_by custody.accounts custody.fonts (List.mem_reverse.mp listed) used
  obtain ⟨l', accounts, held⟩ := destroys_booked custody.inv custody.accounts mine ran
  have made := drop_image_result custody.images drops
  have others (q : Holder) (ne : Holder.fonts ≠ q) : l'.held q = l.held q := by
    rw [held, unlisted]
    intro e member
    obtain ⟨h, -, rfl⟩ := List.mem_map.mp member
    exact ne
  refine ⟨l', run_inv custody.inv ran, (run_valid custody.inv ran).trans custody.valid, made.images, ?_, accounts, ?_, ?_, ?_⟩
  · rw [made.rest]
    exact custody.cookie
  · rw [others .program (by decide), custody.program]
  · rw [others .renderer (by decide), custody.renderer, made.rest]
    rfl
  · rw [held, custody.fonts]
    change _ = named [(.image, 0), (.sampler, 0)]
    rw [named_zero, named_zero, named_nil, Set.sdiff_eq_empty]
    exact fun h own => List.mem_map_of_mem (List.mem_reverse.mpr own.1)

theorem create_fonts_custody {atlas : FontAtlas} {gui : Simgui} {gfx : SgState} (custody : Custody num size l w)
    (done : simguiCreateFontsTexture atlas w.gui w.gfx = some (gui, gfx)) :
    ∃ l', Custody num size l' ⟨gui, gfx, w.mine⟩ := by
  obtain ⟨noSmp, done⟩ := assert_some done
  obtain ⟨noImg, done⟩ := assert_some done
  obtain ⟨-, done⟩ := assert_some done
  obtain ⟨⟨fontSmp, middle⟩, first, done⟩ := bind_some done
  obtain ⟨⟨fontImg, last⟩, second, done⟩ := bind_some done
  obtain ⟨⟨font, with_⟩, makes, done⟩ := bind_some done
  cases done
  have before : l.held .fonts = named [] := by
    rw [custody.fonts, Simgui.fontResources, noSmp, noImg, named_zero, named_zero]
  obtain ⟨l₁, one, accounts, held, inv, valid₁⟩ := make_booked custody.inv custody.accounts before first
  obtain ⟨l₂, two, accounts, held, inv, valid₂⟩ := make_booked inv accounts held second
  have entries := one.trans two
  have made := (make_image_result (show ImagesInv num { w.gui with fontSmp, fontImg }.images from custody.images) makes).2
  refine ⟨l₂, inv, valid₂.trans (valid₁.trans custody.valid), made.images, ?_, accounts, ?_, ?_, ?_⟩
  · rw [made.rest]
    exact custody.cookie
  · rw [entries_others entries (by decide), custody.program]
  · rw [entries_others entries (by decide), custody.renderer, made.rest]
    rfl
  · rw [held, made.rest]
    rfl

theorem new_frame_custody {frame : NewFrame} {gui : Simgui} {gfx : SgState} (custody : Custody num size l w)
    (done : simguiNewFrame frame w.gui w.gfx = some (gui, gfx)) : ∃ l', Custody num size l' ⟨gui, gfx, w.mine⟩ := by
  obtain ⟨-, done⟩ := assert_some done
  obtain ⟨-, done⟩ := assert_some done
  obtain ⟨-, done⟩ := assert_some done
  by_cases ready : frame.texReady = true
  · rw [if_pos ready] at done
    cases done
    exact ⟨l, custody⟩
  · rw [if_neg ready] at done
    obtain ⟨⟨without, between⟩, destroys, creates⟩ := bind_some done
    obtain ⟨l', custody⟩ := destroy_fonts_custody custody destroys
    exact create_fonts_custody (w := ⟨without, between, w.mine⟩) custody creates

theorem setup_custody {desc : SimguiDesc} {replies : SetupReplies} {atlas : FontAtlas} {begun : SgState}
    (inv : s.Inv size) (valid : s.valid = true) (done : simguiSetup desc replies atlas s = some (g, begun)) :
    ∃ l, Custody (simguiDescDefaults desc).imagePoolSize.toNat size l ⟨g, begun, s.handles⟩ := by
  obtain ⟨m, fonts⟩ := setup_made done
  let before : Ledger Holder Handle := Ledger.sole .program s.handles
  have held : before.held .renderer = named [] := by rw [sole_held_other _ (by decide), named_nil]
  obtain ⟨l₁, one, accounts, held, inv, same₁⟩ := make_booked inv (sole_in_use ..) held m.first
  obtain ⟨l₂, two, accounts, held, inv, same₂⟩ := make_booked inv accounts held m.second
  obtain ⟨l₃, three, accounts, held, inv, same₃⟩ := make_booked inv accounts held m.third
  obtain ⟨l₄, four, accounts, held, inv, same₄⟩ := make_booked inv accounts held m.fourth
  obtain ⟨l₅, five, accounts, held, inv, same₅⟩ := make_booked inv accounts held m.fifth
  obtain ⟨l₆, six, accounts, held, inv, same₆⟩ := make_booked inv accounts held m.sixth
  obtain ⟨l₇, seven, accounts, held, inv, same₇⟩ := make_booked inv accounts held m.seventh
  obtain ⟨l₈, eight, accounts, held, inv, same₈⟩ := make_booked inv accounts held m.eighth
  have entries := one.trans <| two.trans <| three.trans <| four.trans <| five.trans <| six.trans <| seven.trans eight
  have custody : Custody (simguiDescDefaults desc).imagePoolSize.toNat size l₈ ⟨m.gui, m.s₈, s.handles⟩ := by
    refine ⟨inv, ?_, setup_images m.pool, rfl, accounts, ?_, held, ?_⟩
    · rw [same₈, same₇, same₆, same₅, same₄, same₃, same₂, same₁, valid]
    · rw [entries_others entries (by decide), sole_held]
    · rw [entries_others entries (by decide), sole_held_other _ (by decide)]
      change _ = named [(.image, 0), (.sampler, 0)]
      rw [named_zero, named_zero, named_nil]
  rcases fonts with ⟨rfl, rfl⟩ | creates
  · exact ⟨l₈, custody⟩
  · exact create_fonts_custody (w := ⟨m.gui, m.s₈, s.handles⟩) custody creates

theorem step_custody (custody : Custody num size l w) (step : SceneStep .sparing w after) : ∃ l', Custody num size l' after := by
  cases step with
  | gfx call next safe done =>
      have alone : ∀ other ∈ [call], w.gui.Safe other := by
        intro other member
        rw [List.mem_singleton.mp member]
        exact safe
      have ran : sgRun w.gfx [call] = some next := (run_next _ done).trans rfl
      obtain ⟨l', custody⟩ := program_run custody alone ran
      rw [runOnHandles, done] at custody
      exact ⟨l', custody⟩
  | newFrame frame gui gfx done => exact new_frame_custody custody done
  | render frame cmdLists calls gfx safe rendered done =>
      exact program_run custody (rendered_safe safe rendered) done
  | makeImage desc filterable id gui fair done =>
      have made := (make_image_result custody.images done).2
      refine ⟨l, custody.inv, custody.valid, made.images, ?_, custody.accounts, custody.program, ?_, ?_⟩
      · rw [made.rest]
        exact custody.cookie
      · rw [custody.renderer, made.rest]
        rfl
      · rw [custody.fonts, made.rest]
        rfl
  | destroyImage id gui done =>
      have made := drop_image_result custody.images done
      refine ⟨l, custody.inv, custody.valid, made.images, ?_, custody.accounts, custody.program, ?_, ?_⟩
      · rw [made.rest]
        exact custody.cookie
      · rw [custody.renderer, made.rest]
        rfl
      · rw [custody.fonts, made.rest]
        rfl

theorem steps_custody (custody : Custody num size l w) (steps : ReflTransGen (SceneStep .sparing) w after) :
    ∃ l', Custody num size l' after := by
  induction steps with
  | refl => exact ⟨l, custody⟩
  | tail _ step ih =>
      obtain ⟨l', custody⟩ := ih
      exact step_custody custody step

-- What simgui_shutdown destroys, in its order.
def Simgui.releases (g : Simgui) : List (Holder × Handle) :=
  [(.renderer, .pipeline, g.pipUnfilterable), (.renderer, .shader, g.shdUnfilterable), (.renderer, .pipeline, g.defPip),
    (.renderer, .shader, g.defShd), (.fonts, .sampler, g.fontSmp), (.fonts, .image, g.fontImg),
    (.renderer, .sampler, g.defSmp), (.renderer, .image, g.defImg), (.renderer, .buffer, g.ibuf),
    (.renderer, .buffer, g.vbuf)]

def Simgui.releaseCalls (g : Simgui) : List SgCall := g.releases.map fun e => .destroy e.2.1 e.2.2

theorem shutdown_eq (g : Simgui) (s : SgState) :
    simguiShutdown g s = (do
      sokolAssert (g.initCookie = true)
      let s ← sgRun s g.releaseCalls
      let emptied ← destroyAllImages g.images
      let images ← simguiDiscardImages emptied
      return ({ g with images := images, initCookie := false }, s)) := by
  simp only [simguiShutdown, Simgui.releaseCalls, Simgui.releases, sgRun, List.map_cons, List.map_nil,
    List.foldlM_cons, List.foldlM_nil, sgStep, bind_assoc, pure_bind]

theorem shutdown_runs {final : SgState} (cookie : g.initCookie = true) (images : ImagesInv num g.images)
    (ran : sgRun s g.releaseCalls = some final) : ∃ gui, simguiShutdown g s = some (gui, final) := by
  obtain ⟨emptied, empties, whole⟩ := destroy_all_empties images
  have sizes : emptied.pool.size ≠ 0 := by
    rw [whole.whole.inv.size]
    exact Nat.succ_ne_zero _
  rw [shutdown_eq, assert_bind cookie, ran]
  change ∃ gui, (destroyAllImages g.images >>= fun emptied => _) = some (gui, final)
  rw [empties]
  change ∃ gui, (simguiDiscardImages emptied >>= fun images => _) = some (gui, final)
  rw [simguiDiscardImages, assert_bind sizes]
  exact ⟨_, rfl⟩

theorem released_listed (g : Simgui) {q : Holder} {h : Handle} (member : (q, h) ∈ g.releases) :
    (q = .renderer ∧ h ∈ g.resources) ∨ (q = .fonts ∧ h ∈ g.fontResources) := by
  simp only [Simgui.releases, List.mem_cons, Prod.mk.injEq, List.not_mem_nil, or_false] at member
  simp only [Simgui.resources, Simgui.fontResources, List.mem_cons, List.not_mem_nil, or_false]
  tauto

theorem listed_released (g : Simgui) {h : Handle} :
    (h ∈ g.resources → (Holder.renderer, h) ∈ g.releases) ∧ (h ∈ g.fontResources → (Holder.fonts, h) ∈ g.releases) := by
  simp only [Simgui.releases, Simgui.resources, Simgui.fontResources, List.mem_cons, Prod.mk.injEq, List.not_mem_nil,
    or_false, reduceCtorEq, false_and, true_and, false_or, or_false]
  tauto

-- What becomes of a ledger when simgui gives everything back.
theorem released (custody : Custody num size l w) :
    ∃ final, sgRun w.gfx w.gui.releaseCalls = some final ∧ final.handles = w.mine := by
  have own (q : Holder) (h : Handle) (member : (q, h) ∈ w.gui.releases) (used : h ∈ l.inUse) : h ∈ l.held q := by
    rcases released_listed w.gui member with ⟨rfl, listed⟩ | ⟨rfl, listed⟩
    · exact held_by custody.accounts custody.renderer listed used
    · exact held_by custody.accounts custody.fonts listed used
  have fair : ∀ call ∈ w.gui.releaseCalls, call.Fair size := by
    intro call member
    obtain ⟨⟨q, h⟩, listed, rfl⟩ := List.mem_map.mp member
    by_cases invalid : h.2 = 0
    · exact Or.inl invalid
    · refine handle_in_range custody.inv ?_
      rw [← custody.accounts]
      rcases released_listed w.gui listed with ⟨-, here⟩ | ⟨-, here⟩
      · exact ⟨.renderer, by rw [custody.renderer]; exact ⟨here, invalid⟩⟩
      · exact ⟨.fonts, by rw [custody.fonts]; exact ⟨here, invalid⟩⟩
  obtain ⟨final, ran⟩ := run_total custody.inv custody.valid fair
  obtain ⟨l', accounts, held⟩ := destroys_booked custody.inv custody.accounts (fun e => own e.1 e.2) ran
  refine ⟨final, ran, ?_⟩
  have mine : l'.held .program = w.mine := by
    rw [held, unlisted, custody.program]
    rintro ⟨q, h⟩ member rfl
    rcases released_listed w.gui member with ⟨wrong, -⟩ | ⟨wrong, -⟩ <;> cases wrong
  rw [← accounts, ← mine]
  ext h
  refine ⟨?_, fun holds => ⟨.program, holds⟩⟩
  rintro ⟨q, holds⟩
  cases q with
  | program => exact holds
  | renderer =>
      rw [held, custody.renderer] at holds
      exact absurd ((listed_released w.gui).1 holds.1.1) holds.2
  | fonts =>
      rw [held, custody.fonts] at holds
      exact absurd ((listed_released w.gui).2 holds.1.1) holds.2

-- However a program uses the two libraries: simgui_shutdown succeeds, it gives back all that simgui has
-- made since simgui_setup, and leaves in use exactly the handles of the program, each with its item.
theorem shutdown_releases {desc : SimguiDesc} {replies : SetupReplies} {atlas : FontAtlas} {begun : SgState}
    (inv : s.Inv size) (valid : s.valid = true) (setup : simguiSetup desc replies atlas s = some (g, begun))
    (steps : ReflTransGen (SceneStep .sparing) ⟨g, begun, s.handles⟩ w) :
    ∃ gui final, simguiShutdown w.gui w.gfx = some (gui, final) ∧ final.handles = w.mine ∧
      ∀ h ∈ w.mine, (final.store h.1).items (slotIndexOf h.2) = (w.gfx.store h.1).items (slotIndexOf h.2) := by
  obtain ⟨l, custody⟩ := setup_custody inv valid setup
  obtain ⟨l, custody⟩ := steps_custody custody steps
  obtain ⟨final, ran, handles⟩ := released custody
  obtain ⟨gui, shuts⟩ := shutdown_runs custody.cookie custody.images ran
  refine ⟨gui, final, shuts, handles, ?_⟩
  · intro h own
    have holds : h ∈ l.held .program := by rwa [custody.program]
    obtain ⟨index, found⟩ : h ∈ w.gfx.handles := by
      rw [← custody.accounts]
      exact ⟨.program, holds⟩
    have named := found.named
    subst named
    have unnamed : ∀ call ∈ w.gui.releaseCalls, ¬ call.names h.1 h.2 := by
      intro call member
      obtain ⟨⟨q, other⟩, listed, rfl⟩ := List.mem_map.mp member
      rintro ⟨kind, id⟩
      have same : other = h := Prod.ext kind id
      subst same
      have positive := handle_named ⟨_, found⟩
      rcases released_listed w.gui listed with ⟨-, here⟩ | ⟨-, here⟩
      · have theirs : other ∈ l.held .renderer := by
          rw [custody.renderer]
          exact ⟨here, positive⟩
        cases l.apart _ _ _ holds theirs
      · have theirs : other ∈ l.held .fonts := by
          rw [custody.fonts]
          exact ⟨here, positive⟩
        cases l.apart _ _ _ holds theirs
    exact (untouched_kept custody.inv found unnamed ran).1

-- The font texture is made a second time.
def rebuiltFrame : NewFrame := { width := 8, height := 6, texReady := false }

theorem rebuilt_fonts_released : ∃ (w : Scene) (gui : Simgui) (final : SgState),
    simguiShutdown w.gui w.gfx = some (gui, final) ∧ final.handles = w.mine := by
  have ran : (sgSetup { poolSize := fun _ => 2 } >>= fun s =>
      simguiSetup { maxVertices := 3, imagePoolSize := 1 } {} {} s >>= fun made =>
        simguiNewFrame rebuiltFrame made.1 made.2).isSome = true := rfl
  obtain ⟨⟨gui, gfx⟩, both⟩ := Option.isSome_iff_exists.mp ran
  obtain ⟨s, started, rest⟩ := bind_some both
  obtain ⟨⟨g, begun⟩, setup, frame⟩ := bind_some rest
  have begun_ := setup_result started
  obtain ⟨last, final, shuts, handles, -⟩ := shutdown_releases (started_inv begun_) begun_.valid setup
    (.single (.newFrame ⟨g, begun, s.handles⟩ rebuiltFrame gui gfx frame))
  exact ⟨⟨gui, gfx, s.handles⟩, last, final, shuts, handles⟩

end WakeAlpha.Imgui
