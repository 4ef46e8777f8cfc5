import WakeAlpha.Gfx.Append
import WakeAlpha.Gfx.Passes
import WakeAlpha.Gfx.Reach
import WakeAlpha.Gfx.Total

set_option autoImplicit false

namespace WakeAlpha.Gfx

variable {size : Kind → Nat} {s next : SgState} {k : Kind} {id : UInt32}

-- The calls of a pass that leave the pipeline bound.
def SgCall.keepsPipeline : SgCall → Bool
  | .applyViewport .. | .applyScissorRect .. | .applyBindings .. | .applyUniforms .. | .draw .. => true
  | _ => false

theorem step_keeps_pipeline {call : SgCall} (keeps : call.keepsPipeline = true) (done : sgStep s call = some next) :
    next.curPipeline = s.curPipeline ∧ next.d3d11Pipeline = s.d3d11Pipeline := by
  cases call with
  | applyViewport _ _ _ _ _ | applyScissorRect _ _ _ _ _ =>
      obtain ⟨-, rfl | rfl⟩ := apply_rect_result done <;> exact ⟨rfl, rfl⟩
  | applyBindings bindings validated =>
      obtain ⟨-, counted, rfl, rfl | ⟨-, rfl⟩ | ⟨-, -, rfl⟩⟩ := apply_bindings_result done <;> exact ⟨rfl, rfl⟩
  | applyUniforms stage ubIndex data =>
      obtain ⟨-, counted, rfl, rfl | rfl | ⟨-, -, rfl⟩⟩ := apply_uniforms_result done <;> exact ⟨rfl, rfl⟩
  | draw base elements instances =>
      obtain ⟨-, counted, rfl, ⟨rfl, -⟩ | ⟨-, -, rfl⟩⟩ := draw_result done <;> exact ⟨rfl, rfl⟩
  | _ => cases keeps

theorem rect_total {add : SgFrameStats → SgFrameStats} {call : BackendCall} (valid : s.valid = true)
    (inside : s.curPass.inPass = true) : ∃ next, applyRect add call s = some next := by
  refine assert_exists valid (assert_exists inside ?_)
  by_cases opened : (s.count add).curPass.valid = true
  · dsimp only
    rw [if_pos opened]
    exact ⟨_, rfl⟩
  · dsimp only
    rw [if_neg opened]
    exact ⟨_, rfl⟩

theorem draw_total {base elements instances : Int} (valid : s.valid = true) (inside : s.curPass.inPass = true)
    (start : 0 ≤ base) (some_ : 0 ≤ elements) (copies : 0 ≤ instances) :
    ∃ next, sgStep s (.draw base elements instances) = some next := by
  refine assert_exists valid (assert_exists inside (assert_exists start (assert_exists some_ (assert_exists copies ?_))))
  dsimp only
  split_ifs
  all_goals exact ⟨_, rfl⟩

-- What is bound may have died, but each handle is one the library can hand out.
structure StageInRange (size : Kind → Nat) (stage : SgStageBindings) : Prop where
  images : ∀ id ∈ stage.images, InRange size .image id
  samplers : ∀ id ∈ stage.samplers, InRange size .sampler id
  storage : ∀ id ∈ stage.storageBuffers, InRange size .buffer id

structure BindingsInRange (size : Kind → Nat) (bindings : SgBindings) : Prop where
  vertices : ∀ id ∈ bindings.vertexBuffers, InRange size .buffer id
  indices : InRange size .buffer bindings.indexBuffer
  vs : StageInRange size bindings.vs
  fs : StageInRange size bindings.fs

theorem bound_answer (ready : Body k → Bool) {ids : List UInt32} (inv : s.Inv size)
    (range : ∀ id ∈ ids, InRange size k id) : ∃ answer, bindingsReady k ready s ids = some answer := by
  induction ids with
  | nil => exact ⟨true, rfl⟩
  | cons id rest ih =>
      obtain ⟨found, looked⟩ := lookup_total inv (range id (by simp))
      have first : ∃ answer, bindingReady k ready s id = some answer := by
        refine bind_exists looked ?_
        cases found with
        | none => exact ⟨_, rfl⟩
        | some index => exact ⟨_, rfl⟩
      obtain ⟨answer, first⟩ := first
      obtain ⟨others, rest⟩ := ih fun other member => range other (by simp [member])
      exact bind_exists first (bind_exists rest ⟨_, rfl⟩)

theorem bound_ids_answer (ready : Body k → Bool) {ids : List UInt32} (inv : s.Inv size)
    (range : ∀ id ∈ ids, InRange size k id) : ∃ answer, bindingsReady k ready s (boundIds ids) = some answer :=
  bound_answer ready inv fun id member => range id (mem_bound member)

theorem stage_answer {stage : SgStageBindings} (inv : s.Inv size) (range : StageInRange size stage) :
    ∃ answer, stageReady stage s = some answer := by
  obtain ⟨_, images⟩ := bound_ids_answer (fun _ => true) inv range.images
  obtain ⟨_, samplers⟩ := bound_ids_answer (fun _ => true) inv range.samplers
  obtain ⟨_, storage⟩ := bound_ids_answer (fun _ => true) inv range.storage
  exact bind_exists images (bind_exists samplers (bind_exists storage ⟨_, rfl⟩))

theorem bindings_total {bindings : SgBindings} {validated : Bool} (inv : s.Inv size) (valid : s.valid = true)
    (inside : s.curPass.inPass = true) (current : InRange size .pipeline s.curPipeline)
    (range : BindingsInRange size bindings) : ∃ next, sgStep s (.applyBindings bindings validated) = some next := by
  refine assert_exists valid (assert_exists inside ?_)
  let counted := s.count fun stats => { stats with numApplyBindings := stats.numApplyBindings + 1 }
  have still : counted.Inv size := inv
  have only : ∀ id ∈ [bindings.indexBuffer], InRange size .buffer id := fun id member =>
    List.mem_singleton.mp member ▸ range.indices
  obtain ⟨_, looked⟩ := lookup_total still current
  obtain ⟨_, vertices⟩ := bound_ids_answer notOverflown still range.vertices
  obtain ⟨_, indices⟩ := bound_ids_answer notOverflown still only
  obtain ⟨_, vs⟩ := stage_answer still range.vs
  obtain ⟨_, fs⟩ := stage_answer still range.fs
  dsimp only
  split_ifs
  · exact bind_exists looked (bind_exists vertices (bind_exists indices (bind_exists vs (bind_exists fs ⟨_, rfl⟩))))
  · exact ⟨_, rfl⟩
  · exact ⟨_, rfl⟩

def sized (n : Nat) (buffer : SgBuffer) : Bool := decide (buffer.cmn.size = castInt n)

-- With validation the frame and the size are checked before they are asserted.
theorem update_total {n : Nat} {data : SgRange} {reply : MapReply} (valid : s.valid = true)
    (validation : s.validation = true) (live : Live s .buffer (sized n) id) (small : n < 2 ^ 31)
    (points : data.ptr.isSome = true) (some_ : 0 < data.size) (room : data.size ≤ n) :
    ∃ next, sgStep s (.updateBuffer id data reply) = some next := by
  obtain ⟨index, found, -, is_⟩ := live
  have sizes : (s.buffer index).cmn.size = castInt n := of_decide_eq_true is_
  have large : castSize (s.buffer index).cmn.size = n := by
    rw [sizes, cast_int_of_small small, cast_size_of_nonneg (by omega) (by omega)]
    rfl
  refine assert_exists valid (assert_exists ⟨points, some_⟩ (bind_exists (found_lookup found) ?_))
  dsimp only
  split_ifs with passes
  · have checks := passes.2
    rw [sgValidateUpdateBuffer, if_pos (show (s.count _).validation = true from validation)] at checks
    simp only [Bool.and_eq_true, decide_eq_true_eq] at checks
    refine assert_exists ?_ (assert_exists checks.1.2 (assert_exists checks.2 ⟨_, rfl⟩))
    change data.size ≤ castSize (s.buffer index).cmn.size
    omega
  · exact ⟨_, rfl⟩

theorem update_sized {n : Nat} {named : UInt32} {data : SgRange} {reply : MapReply} (inv : s.Inv size)
    (live : Live s .buffer (sized n) id) (done : sgStep s (.updateBuffer named data reply) = some next) :
    Live next .buffer (sized n) id := by
  by_cases same : named = id
  · subst same
    obtain ⟨index, found, valid, is_⟩ := live
    rcases update_result inv done with store | ⟨place, there, -, slot, cmn⟩
    · exact live_of_store ⟨index, found, valid, is_⟩ store
    · obtain rfl : place = index := there.named.trans found.named.symm
      refine ⟨place, found_of_slot (inv .buffer) (step_inv inv done .buffer) found (congrArg SgSlot.id slot), ?_, ?_⟩
      · rw [slot]
        exact valid
      · refine decide_eq_true ?_
        change (next.buffer place).cmn.size = _
        rw [cmn]
        exact of_decide_eq_true is_
  · have unnamed : ¬ SgCall.names .buffer id (.updateBuffer named data reply) := fun names => same names.2
    exact step_live inv live unnamed done

-- A resource that is ready when it is valid, and the invalid id.
def Fit (s : SgState) (k : Kind) (ready : Body k → Bool) (id : UInt32) : Prop :=
  id = 0 ∨ ∃ index, (s.store k).Found id index ∧
    (((s.store k).slot index).state = .valid → ready ((s.store k).body index) = true)

variable {ready : Body k → Bool}

theorem step_fit {call : SgCall} (inv : s.Inv size) (fit : Fit s k ready id) (unnamed : ¬ call.names k id)
    (done : sgStep s call = some next) : Fit next k ready id := by
  refine Or.imp_right (fun ⟨index, found, is_⟩ => ?_) fit
  obtain ⟨item, still⟩ := step_untouched inv found unnamed done
  refine ⟨index, still, ?_⟩
  change ((next.store k).items index).slot.state = .valid → ready ((next.store k).items index).body = true
  rw [item]
  exact is_

theorem fit_live (fit : Fit s k ready id) (valid : sgQueryState k id s = some .valid) : Live s k ready id := by
  obtain ⟨-, asked⟩ := assert_some valid
  rcases fit with rfl | ⟨index, found, is_⟩
  · cases asked
  · rw [found_lookup found] at asked
    have state : ((s.store k).slot index).state = .valid := Option.some.inj asked
    exact ⟨index, found, state, is_ state⟩

theorem make_fit {desc : Desc k} {reply : InitReply} (inv : s.Inv size) (done : sgMake k desc reply s = some (id, next))
    (made : ∀ (before : SgState) (old body : Body k), (∀ other, other ≠ k → before.store other = s.store other) →
      initBody before k old desc reply = some (.valid, body) → ready body = true) : Fit next k ready id := by
  rcases make_result inv done with ⟨-, rfl, -⟩ | ⟨index, rest, queue, rfl, settled⟩
  · exact Or.inl rfl
  · right
    let before := s.setStore k ((s.store k).allocAt index rest)
    have others : ∀ other, other ≠ k → before.store other = s.store other := fun other ne => set_store_other _ _ ne
    obtain ⟨-, settled⟩ := assert_some settled
    obtain ⟨⟨state, body⟩, inits, settled⟩ := bind_some settled
    obtain ⟨ends, settled⟩ := assert_some settled
    cases settled
    have fresh : (before.store k).Found (slotId ((s.store k).pool.genCtrs index + 1) index) index := by
      rw [set_store_self]
      exact alloc_found (inv k) queue
    have inv' : (before.store k).Inv (size k) := by
      rw [set_store_self]
      exact move_inv (inv k) (.alloc index rest queue)
    have move : Move (before.store k) 0 index
        ((before.store k).put index ⟨{ (before.store k).slot index with state := state }, body⟩) :=
      .put index _ fresh.pos fresh.inside fresh.used rfl (Or.inr ends)
    refine ⟨index, ?_, ?_⟩
    · rw [set_store_self]
      exact found_of_slot inv' (move_inv inv' move) fresh (by rw [put_slot_self])
    · rw [set_store_self, put_slot_self, put_body_self]
      rintro rfl
      exact made before _ body others inits

theorem make_shader_fit {desc : SgShaderDesc} {reply : InitReply} (inv : s.Inv size)
    (done : sgMake .shader desc reply s = some (id, next)) :
    Fit next .shader (hasBlocks fun stage => (desc.uniformBlocks stage).takeWhile fun size => size ≠ 0) id := by
  refine make_fit inv done fun before old body _ inits => ?_
  simp only [initBody, sgInitShader, pure, Option.some.injEq] at inits
  split at inits
  · obtain ⟨-, rfl⟩ := Prod.mk.injEq .. ▸ inits
    exact decide_eq_true ⟨rfl, rfl⟩
  · cases inits

theorem make_pipeline_fit {desc : SgPipelineDesc} {reply : InitReply} (inv : s.Inv size)
    (done : sgMake .pipeline desc reply s = some (id, next)) :
    Fit next .pipeline (fun body => decide (body = ⟨slotIndexOf desc.shader, desc.shader⟩)) id := by
  refine make_fit inv done fun before old body others inits => decide_eq_true ?_
  simp only [initBody, sgInitPipeline] at inits
  split at inits
  · obtain ⟨answer, looked, inits⟩ := bind_some inits
    rw [others .shader (by decide)] at looked
    cases answer with
    | none => cases inits
    | some shader =>
        have named := (lookup_found (inv .shader) looked).named
        dsimp only at inits
        split at inits
        · obtain ⟨-, rfl⟩ := Prod.mk.injEq .. ▸ Option.some.inj inits
          rw [named]
        · cases inits
  · cases inits

theorem make_buffer_fit {desc : SgBufferDesc} {reply : InitReply} (inv : s.Inv size) (some_ : desc.size ≠ 0)
    (done : sgMake .buffer desc reply s = some (id, next)) : Fit next .buffer (sized desc.size) id := by
  refine make_fit inv done fun before old body _ inits => decide_eq_true ?_
  simp only [initBody, sgInitBuffer, pure, Option.some.injEq] at inits
  split at inits
  · obtain ⟨-, rfl⟩ := Prod.mk.injEq .. ▸ inits
    simp [sgBufferCommonInit, sgBufferDescDefaults, some_]
  · cases inits

end WakeAlpha.Gfx
