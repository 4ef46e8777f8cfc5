import WakeAlpha.Gfx.Lifecycle

set_option autoImplicit false

namespace WakeAlpha.Gfx

variable {size : Kind → Nat} {s next : SgState} {k : Kind} {id : UInt32}

-- The ids a library with these sizes can hand out, and the invalid id.
def InRange (size : Kind → Nat) (k : Kind) (id : UInt32) : Prop :=
  id = 0 ∨ (0 < slotIndexOf id ∧ slotIndexOf id ≤ size k)

theorem lookup_total (inv : s.Inv size) (range : InRange size k id) :
    ∃ answer, (s.store k).lookup id = some answer := by
  rcases range with rfl | ⟨pos, le⟩
  · exact ⟨none, rfl⟩
  · have sizes := (inv k).size
    exact ⟨_, lookup_in_range _ pos (by omega)⟩

-- Attachments are made of at least one surface.
def FairDesc (size : Kind → Nat) : (k : Kind) → Desc k → Prop
  | .pipeline, desc => InRange size .shader desc.shader
  | .attachments, desc =>
      (∀ color ∈ desc.colors, InRange size .image color.1.image ∧ InRange size .image color.2) ∧
        InRange size .image desc.depthStencil.image ∧
        ((∃ color ∈ desc.colors, color.1.image ≠ 0) ∨ desc.depthStencil.image ≠ 0)
  | _, _ => True

theorem valid_image_total (inv : s.Inv size) (range : InRange size .image id) :
    ∃ image, validImage s id = some image := by
  obtain ⟨answer, looked⟩ := lookup_total inv range
  refine bind_exists looked ?_
  cases answer with
  | none => exact ⟨none, rfl⟩
  | some index =>
      dsimp only
      split
      · exact ⟨_, rfl⟩
      · exact ⟨_, rfl⟩

def SgAttachments.Positive (size : SgAttachments) : Prop := 0 < size.width ∧ 0 < size.height

theorem surface_positive (desc : SgAttachmentDesc) (image : SgImage) : (surfaceSize desc image).Positive := by
  unfold surfaceSize sgMiplevelDim SgAttachments.Positive
  dsimp only
  omega

-- One surface, used or not; its size is positive when it is used.
theorem surface_total (inv : s.Inv size) (desc : SgAttachmentDesc) (range : InRange size .image desc.image)
    (start : SgAttachments) :
    ∃ sized, applySurface s desc start = some sized ∧
      ∀ result, sized = some result → (start.Positive ∨ desc.image ≠ 0) → result.Positive := by
  unfold applySurface
  by_cases used : desc.image ≠ 0
  · obtain ⟨image, found⟩ := valid_image_total inv range
    rw [if_pos used, found]
    refine ⟨image.map (surfaceSize desc), rfl, ?_⟩
    intro result same _
    obtain ⟨inner, -, rfl⟩ := Option.map_eq_some_iff.mp same
    exact surface_positive desc inner
  · rw [if_neg used]
    refine ⟨some start, rfl, ?_⟩
    rintro result same (positive | named)
    · cases same
      exact positive
    · exact absurd named used

-- The size is positive as soon as one surface is used.
theorem color_surfaces_total (inv : s.Inv size) {colors : List (SgAttachmentDesc × UInt32)}
    (range : ∀ color ∈ colors, InRange size .image color.1.image ∧ InRange size .image color.2)
    (start : SgAttachments) :
    ∃ answer, colorSurfaces s colors start = some answer ∧
      ∀ result, answer = some result → (start.Positive ∨ ∃ color ∈ colors, color.1.image ≠ 0) →
        result.Positive := by
  induction colors generalizing start with
  | nil =>
      refine ⟨some start, rfl, ?_⟩
      rintro result same (positive | ⟨color, member, -⟩)
      · cases same
        exact positive
      · cases member
  | cons color rest ih =>
      obtain ⟨⟨image, resolved⟩, later⟩ := And.intro (range color (by simp)) fun other member =>
        range other (List.mem_cons_of_mem color member)
      obtain ⟨sized, first, positive⟩ := surface_total inv color.1 image start
      have wider (result : SgAttachments) (same : sized = some result)
          (some_ : start.Positive ∨ ∃ other ∈ color :: rest, other.1.image ≠ 0) :
          result.Positive ∨ ∃ other ∈ rest, other.1.image ≠ 0 := by
        rcases some_ with before | ⟨other, member, used⟩
        · exact Or.inl (positive result same (Or.inl before))
        · rcases List.mem_cons.mp member with rfl | inRest
          · exact Or.inl (positive result same (Or.inr used))
          · exact Or.inr ⟨other, inRest, used⟩
      rw [colorSurfaces, first, Option.bind_eq_bind, Option.bind_some]
      cases sized with
      | none => exact ⟨none, rfl, fun _ wrong => by cases wrong⟩
      | some start' =>
          obtain ⟨answer, done, last⟩ := ih later start'
          have settled (result : SgAttachments) (same : answer = some result)
              (some_ : start.Positive ∨ ∃ other ∈ color :: rest, other.1.image ≠ 0) : result.Positive :=
            last result same (wider start' rfl some_)
          dsimp only
          split
          · obtain ⟨target, found⟩ := valid_image_total inv resolved
            rw [found, Option.bind_eq_bind, Option.bind_some]
            cases target with
            | none => exact ⟨none, rfl, fun _ wrong => by cases wrong⟩
            | some _ => exact ⟨answer, done, settled⟩
          · exact ⟨answer, done, settled⟩

def SgResourceState.Settled (state : SgResourceState) : Prop := state = .valid ∨ state = .failed

theorem state_of_settled (created : Bool) : (sgStateOf created).Settled := by
  cases created
  · exact Or.inr rfl
  · exact Or.inl rfl

theorem init_body_total (inv : s.Inv size) (old : Body k) (desc : Desc k) (reply : InitReply)
    (fair : FairDesc size k desc) : ∃ result, initBody s k old desc reply = some result ∧ result.1.Settled := by
  cases k with
  | buffer =>
      refine ⟨sgInitBuffer s old (sgBufferDescDefaults desc) reply, rfl, ?_⟩
      unfold sgInitBuffer
      split
      · exact state_of_settled _
      · exact Or.inr rfl
  | image =>
      refine ⟨sgInitImage old desc reply, rfl, ?_⟩
      unfold sgInitImage
      split
      · exact state_of_settled _
      · exact Or.inr rfl
  | sampler =>
      refine ⟨(sgInitSampler reply, old), rfl, ?_⟩
      unfold sgInitSampler
      split
      · exact state_of_settled _
      · exact Or.inr rfl
  | shader =>
      refine ⟨sgInitShader old desc reply, rfl, ?_⟩
      unfold sgInitShader
      split
      · exact state_of_settled _
      · exact Or.inr rfl
  | pipeline =>
      obtain ⟨answer, looked⟩ := lookup_total inv fair
      simp only [initBody, sgInitPipeline]
      split
      · rw [looked, Option.bind_eq_bind, Option.bind_some]
        cases answer with
        | none => exact ⟨_, rfl, Or.inr rfl⟩
        | some shader =>
            dsimp only
            split
            · exact ⟨_, rfl, state_of_settled _⟩
            · exact ⟨_, rfl, Or.inr rfl⟩
      · exact ⟨_, rfl, Or.inr rfl⟩
  | attachments =>
      obtain ⟨range, depth, some_⟩ := fair
      obtain ⟨colors, first, positive⟩ := color_surfaces_total inv range {}
      simp only [initBody, sgInitAttachments]
      split
      · rw [first, Option.bind_eq_bind, Option.bind_some]
        cases colors with
        | none => exact ⟨_, rfl, Or.inr rfl⟩
        | some sized =>
            obtain ⟨whole, second, positive'⟩ := surface_total inv desc.depthStencil depth sized
            dsimp only
            rw [second, Option.bind_some]
            cases whole with
            | none => exact ⟨_, rfl, Or.inr rfl⟩
            | some final =>
                have large : final.Positive := by
                  rcases some_ with color | used
                  · exact positive' final rfl (Or.inl (positive sized rfl (Or.inr color)))
                  · exact positive' final rfl (Or.inr used)
                dsimp only
                rw [assert_bind (show 0 < final.width ∧ 0 < final.height from large)]
                exact ⟨_, rfl, state_of_settled _⟩
      · exact ⟨_, rfl, Or.inr rfl⟩

theorem init_item_total {index : Nat} {desc : Desc k} {reply : InitReply} (inv : s.Inv size)
    (state : ((s.store k).slot index).state = .alloc) (fair : FairDesc size k desc) :
    ∃ next, initItem k index desc reply s = some next := by
  obtain ⟨⟨settled, body⟩, inits, ends⟩ := init_body_total inv ((s.store k).body index) desc reply fair
  exact assert_exists state (bind_exists inits (assert_exists ends ⟨_, rfl⟩))

theorem alloc_total (inv : s.Inv size) (valid : s.valid = true) : ∃ result, sgAlloc k s = some result := by
  refine assert_exists valid ?_
  cases queue : (s.store k).pool.freeQueue with
  | nil => exact bind_exists (alloc_exhausted queue) ⟨_, rfl⟩
  | cons index rest => exact bind_exists (alloc_next (inv k) queue) ⟨_, rfl⟩

theorem dealloc_total (inv : s.Inv size) (valid : s.valid = true) (range : InRange size k id) :
    ∃ next, sgDealloc k id s = some next := by
  obtain ⟨answer, looked⟩ := lookup_total inv range
  refine assert_exists valid (bind_exists looked ?_)
  cases answer with
  | none => exact ⟨s, rfl⟩
  | some index =>
      have found := lookup_found (inv k) looked
      by_cases state : ((s.store k).slot index).state = .alloc
      · dsimp only
        rw [if_pos state]
        exact bind_exists (dealloc_used (inv k) found.pos found.inside found.used state) ⟨_, rfl⟩
      · dsimp only
        rw [if_neg state]
        exact ⟨_, rfl⟩

theorem init_total {desc : Desc k} {reply : InitReply} (inv : s.Inv size) (valid : s.valid = true)
    (range : InRange size k id) (fair : FairDesc size k desc) : ∃ next, sgInit k id desc reply s = some next := by
  obtain ⟨answer, looked⟩ := lookup_total inv range
  refine assert_exists valid (bind_exists looked ?_)
  cases answer with
  | none => exact ⟨s, rfl⟩
  | some index =>
      by_cases state : ((s.store k).slot index).state = .alloc
      · dsimp only
        rw [if_pos state]
        exact init_item_total inv state fair
      · dsimp only
        rw [if_neg state]
        exact ⟨_, rfl⟩

theorem uninit_total (inv : s.Inv size) (valid : s.valid = true) (range : InRange size k id) :
    ∃ next, sgUninit k id s = some next := by
  obtain ⟨answer, looked⟩ := lookup_total inv range
  refine assert_exists valid (bind_exists looked ?_)
  cases answer with
  | none => exact ⟨s, rfl⟩
  | some index =>
      by_cases state : ((s.store k).slot index).state = .valid ∨ ((s.store k).slot index).state = .failed
      · dsimp only
        rw [if_pos state]
        exact bind_exists (uninit_used state) ⟨_, rfl⟩
      · dsimp only
        rw [if_neg state]
        exact ⟨_, rfl⟩

theorem fail_total (inv : s.Inv size) (valid : s.valid = true) (range : InRange size k id) :
    ∃ next, sgFail k id s = some next := by
  obtain ⟨answer, looked⟩ := lookup_total inv range
  refine assert_exists valid (bind_exists looked ?_)
  cases answer with
  | none => exact ⟨s, rfl⟩
  | some index =>
      dsimp only
      split
      · exact ⟨_, rfl⟩
      · exact ⟨_, rfl⟩

theorem make_total {desc : Desc k} {reply : InitReply} (inv : s.Inv size) (valid : s.valid = true)
    (fair : FairDesc size k desc) : ∃ result, sgMake k desc reply s = some result := by
  obtain ⟨⟨made, allocated⟩, allocates⟩ : ∃ result, sgAlloc k s = some result := alloc_total inv valid
  refine bind_exists allocates ?_
  have step : sgStep s (.alloc k) = some allocated := by
    rw [sgStep, allocates]
    rfl
  have inv' := step_inv inv step
  rcases alloc_result inv allocates with ⟨-, rfl, -⟩ | ⟨index, rest, queue, rfl, rfl⟩
  · exact ⟨_, rfl⟩
  · obtain ⟨pos, le, -⟩ := (inv k).free index (by simp [queue])
    have small := (inv k).small
    have sizes := (inv' k).size
    have named := slot_id_ne_zero ((s.store k).pool.genCtrs index + 1) pos (show index < 65536 by omega)
    have back := slot_index_of_slot_id ((s.store k).pool.genCtrs index + 1) (show index < 65536 by omega)
    have place := item_at_in_range ((s.setStore k ((s.store k).allocAt index rest)).store k)
      (show 0 < slotIndexOf (slotId ((s.store k).pool.genCtrs index + 1) index) by omega) (by omega)
    rw [back] at place
    have fresh : (((s.setStore k ((s.store k).allocAt index rest)).store k).slot index).state = .alloc := by
      simp [SgStore.allocAt]
    obtain ⟨final, inits⟩ : ∃ final, initItem k index desc reply _ = some final := init_item_total inv' fresh fair
    dsimp only
    rw [if_pos named]
    exact bind_exists place (bind_exists inits ⟨_, rfl⟩)

theorem destroy_total (inv : s.Inv size) (valid : s.valid = true) (range : InRange size k id) :
    ∃ next, sgDestroy k id s = some next := by
  obtain ⟨answer, looked⟩ := lookup_total inv range
  cases answer with
  | none => exact assert_exists valid (bind_exists looked ⟨s, rfl⟩)
  | some index =>
      obtain ⟨base, -, -, body, result⟩ := destroy_found inv valid (lookup_found (inv k) looked)
      exact ⟨_, result⟩

-- The calls that manage resources, with handles the library may have handed out at any time: stale
-- handles, handles of failed resources and the invalid id among them.
def SgCall.Fair (size : Kind → Nat) : SgCall → Prop
  | .alloc _ => True
  | .dealloc k id | .uninit k id | .fail k id | .destroy k id => InRange size k id
  | .init k id desc _ => InRange size k id ∧ FairDesc size k desc
  | .make k desc _ => FairDesc size k desc
  | _ => False

theorem step_total {call : SgCall} (inv : s.Inv size) (valid : s.valid = true) (fair : call.Fair size) :
    ∃ next, sgStep s call = some next := by
  cases call with
  | alloc k =>
      obtain ⟨result, done⟩ : ∃ result, sgAlloc k s = some result := alloc_total inv valid
      exact bind_exists done ⟨_, rfl⟩
  | make k desc reply =>
      obtain ⟨result, done⟩ : ∃ result, sgMake k desc reply s = some result := make_total inv valid fair
      exact bind_exists done ⟨_, rfl⟩
  | dealloc k id => exact dealloc_total inv valid fair
  | init k id desc reply => exact init_total inv valid fair.1 fair.2
  | uninit k id => exact uninit_total inv valid fair
  | fail k id => exact fail_total inv valid fair
  | destroy k id => exact destroy_total inv valid fair
  | _ => exact fair.elim

theorem run_total {calls : List SgCall} (inv : s.Inv size) (valid : s.valid = true)
    (fair : ∀ call ∈ calls, call.Fair size) : ∃ final, sgRun s calls = some final := by
  induction calls generalizing s with
  | nil => exact ⟨s, rfl⟩
  | cons call rest ih =>
      obtain ⟨next, step⟩ := step_total inv valid (fair call (by simp))
      rw [run_next _ step]
      exact ih (step_inv inv step) ((step_valid inv step).trans valid) fun other member =>
        fair other (List.mem_cons_of_mem call member)

end WakeAlpha.Gfx
