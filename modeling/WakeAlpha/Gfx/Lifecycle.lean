import WakeAlpha.Gfx.Steps

set_option autoImplicit false

namespace WakeAlpha.Gfx

variable {size : Kind → Nat} {s next final : SgState}

theorem only_moves_at {call : SgCall} {made : Kind} {allowed : Nat → SgItem (Body made) → Prop} {n : Nat}
    (only : OnlyMoves made allowed n s next) (k : Kind) (le : n ≤ call.starts made)
    (widens : ∀ index item, allowed index item → call.mayTouch s made index item) :
    ∃ m ≤ call.starts k, Moves (fun index item => call.mayTouch s k index item) (s.store k) m (next.store k) := by
  by_cases same : made = k
  · subst same
    exact ⟨n, le, moves_mono widens only.moves⟩
  · refine ⟨0, Nat.zero_le _, ?_⟩
    rw [only.others k (fun eq => same eq.symm)]
    exact Moves.refl _

theorem same_store_moves (same : next.store = s.store) (k : Kind) {allowed : Nat → SgItem (Body k) → Prop}
    (bound : Nat) :
    ∃ m ≤ bound, Moves allowed (s.store k) m (next.store k) := by
  refine ⟨0, by omega, ?_⟩
  rw [same]
  exact Moves.refl _

def SgCall.onResources : SgCall → Bool
  | .alloc _ | .dealloc .. | .init .. | .uninit .. | .fail .. | .make .. | .destroy .. => true
  | .updateBuffer .. | .appendBuffer .. => true
  | _ => false

-- What a call that is not about resources leaves as it is.
structure Framed (call : SgCall) (s next : SgState) : Prop where
  store : next.store = s.store
  valid : next.valid = s.valid
  validation : next.validation = s.validation
  frameIndex : call ≠ .commit → next.frameIndex = s.frameIndex
  listeners : (∀ listener, call ≠ .addCommitListener listener ∧ call ≠ .removeCommitListener listener) →
    next.commitListeners = s.commitListeners
  calls : call ≠ .commit →
    next.calls = s.calls ∨ ∃ emitted, (∀ listener, emitted ≠ .notify listener) ∧ next.calls = s.calls ++ [emitted]

theorem step_framed {call : SgCall} (done : sgStep s call = some next) (aside : call.onResources = false) :
    Framed call s next := by
  -- next may differ from s in what a frame changes, and in one more call of the backend
  have silent (same : next.store = s.store ∧ next.valid = s.valid ∧ next.validation = s.validation ∧
      next.frameIndex = s.frameIndex ∧ next.commitListeners = s.commitListeners) (calls : next.calls = s.calls) :
      Framed call s next :=
    ⟨same.1, same.2.1, same.2.2.1, fun _ => same.2.2.2.1, fun _ => same.2.2.2.2, fun _ => Or.inl calls⟩
  have emitting (same : next.store = s.store ∧ next.valid = s.valid ∧ next.validation = s.validation ∧
      next.frameIndex = s.frameIndex ∧ next.commitListeners = s.commitListeners) (emitted : BackendCall)
      (quiet : ∀ listener, emitted ≠ .notify listener) (calls : next.calls = s.calls ++ [emitted]) :
      Framed call s next :=
    ⟨same.1, same.2.1, same.2.2.1, fun _ => same.2.2.2.1, fun _ => same.2.2.2.2, fun _ => Or.inr ⟨emitted, quiet, calls⟩⟩
  cases call with
  | beginPass pass validated =>
      obtain ⟨-, rfl | rfl | ⟨current, -, -, rfl⟩⟩ := begin_pass_result done
      · exact silent ⟨rfl, rfl, rfl, rfl, rfl⟩ rfl
      · exact silent ⟨rfl, rfl, rfl, rfl, rfl⟩ rfl
      · exact emitting ⟨rfl, rfl, rfl, rfl, rfl⟩ _ (by simp) rfl
  | applyViewport x y width height originTopLeft =>
      obtain ⟨-, rfl | rfl⟩ := apply_rect_result done
      · exact silent ⟨rfl, rfl, rfl, rfl, rfl⟩ rfl
      · exact emitting ⟨rfl, rfl, rfl, rfl, rfl⟩ _ (by simp) rfl
  | applyScissorRect x y width height originTopLeft =>
      obtain ⟨-, rfl | rfl⟩ := apply_rect_result done
      · exact silent ⟨rfl, rfl, rfl, rfl, rfl⟩ rfl
      · exact emitting ⟨rfl, rfl, rfl, rfl, rfl⟩ _ (by simp) rfl
  | applyPipeline id formats =>
      obtain ⟨-, counted, rfl, rfl | ⟨-, rfl⟩ | ⟨index, -, -, rfl⟩⟩ := apply_pipeline_result done
      · exact silent ⟨rfl, rfl, rfl, rfl, rfl⟩ rfl
      · exact silent ⟨rfl, rfl, rfl, rfl, rfl⟩ rfl
      · exact emitting ⟨rfl, rfl, rfl, rfl, rfl⟩ _ (by simp) rfl
  | applyBindings bindings validated =>
      obtain ⟨-, counted, rfl, rfl | ⟨-, rfl⟩ | ⟨-, -, rfl⟩⟩ := apply_bindings_result done
      · exact silent ⟨rfl, rfl, rfl, rfl, rfl⟩ rfl
      · exact silent ⟨rfl, rfl, rfl, rfl, rfl⟩ rfl
      · exact emitting ⟨rfl, rfl, rfl, rfl, rfl⟩ _ (by simp) rfl
  | applyUniforms stage ubIndex data =>
      obtain ⟨-, counted, rfl, rfl | rfl | ⟨-, -, rfl⟩⟩ := apply_uniforms_result done
      · exact silent ⟨rfl, rfl, rfl, rfl, rfl⟩ rfl
      · exact silent ⟨rfl, rfl, rfl, rfl, rfl⟩ rfl
      · exact emitting ⟨rfl, rfl, rfl, rfl, rfl⟩ _ (by simp) rfl
  | draw base elements instances =>
      obtain ⟨-, counted, rfl, ⟨rfl, -⟩ | ⟨-, -, rfl⟩⟩ := draw_result done
      · exact silent ⟨rfl, rfl, rfl, rfl, rfl⟩ rfl
      · exact emitting ⟨rfl, rfl, rfl, rfl, rfl⟩ _ (by simp) rfl
  | endPass =>
      obtain ⟨-, rfl⟩ := end_pass_result done
      exact emitting ⟨rfl, rfl, rfl, rfl, rfl⟩ _ (by simp) rfl
  | commit =>
      obtain ⟨-, rfl⟩ := commit_result done
      exact ⟨rfl, rfl, rfl, fun running => absurd rfl running, fun _ => rfl, fun running => absurd rfl running⟩
  | resetStateCache =>
      obtain ⟨-, done⟩ := assert_some done
      cases done
      exact emitting ⟨rfl, rfl, rfl, rfl, rfl⟩ _ (by simp) rfl
  | addCommitListener listener =>
      obtain ⟨⟨added, changed⟩, adds, done⟩ := bind_some done
      cases done
      rcases add_listener_result adds with ⟨error, -, -, rfl⟩ | ⟨listeners, -, -, rfl⟩
      · exact silent ⟨rfl, rfl, rfl, rfl, rfl⟩ rfl
      · exact ⟨rfl, rfl, rfl, fun _ => rfl, fun other => absurd rfl (other listener).1, fun _ => Or.inl rfl⟩
  | removeCommitListener listener =>
      obtain ⟨⟨removed, changed⟩, removes, done⟩ := bind_some done
      cases done
      obtain ⟨listeners, -, rfl⟩ := remove_listener_result removes
      exact ⟨rfl, rfl, rfl, fun _ => rfl, fun other => absurd rfl (other listener).2, fun _ => Or.inl rfl⟩
  | enableFrameStats =>
      obtain ⟨-, done⟩ := assert_some done
      cases done
      exact silent ⟨rfl, rfl, rfl, rfl, rfl⟩ rfl
  | disableFrameStats =>
      obtain ⟨-, done⟩ := assert_some done
      cases done
      exact silent ⟨rfl, rfl, rfl, rfl, rfl⟩ rfl
  | _ => cases aside

-- What one call does to one pool: at most the lives it is allowed to start, at the places it names.
theorem step_moves {call : SgCall} (inv : s.Inv size) (done : sgStep s call = some next) (k : Kind) :
    ∃ n ≤ call.starts k, Moves (fun index item => call.mayTouch s k index item) (s.store k) n (next.store k) := by
  cases call with
  | alloc made =>
      obtain ⟨⟨id, allocated⟩, allocates, done⟩ := bind_some done
      cases done
      rcases alloc_result inv allocates with ⟨-, -, rfl⟩ | ⟨index, rest, queue, -, rfl⟩
      · exact same_store_moves rfl k _
      · have plain : SgItem.Plain (((s.store made).allocAt index rest).items index) :=
          plain_of_ne (by simp [SgStore.allocAt])
        have only : OnlyMoves made (fun place item => place ∈ (s.store made).pool.freeQueue ∧ item.Plain) 1 s
            (s.setStore made ((s.store made).allocAt index rest)) :=
          only_moves_set (kept_refl s) rfl (single_move (.alloc index rest queue) ⟨by simp [queue], plain⟩)
        exact only_moves_at only k (by simp [SgCall.starts]) fun place item ok => ⟨rfl, ok⟩
  | make made desc reply =>
      obtain ⟨⟨id, settled⟩, makes, done⟩ := bind_some done
      cases done
      obtain ⟨n, le, only⟩ := make_moves inv makes
      exact only_moves_at only k (by simpa [SgCall.starts] using le) fun place item ok => ⟨rfl, ok⟩
  | dealloc named id => exact only_moves_at (dealloc_moves inv done) k (Nat.zero_le _) fun _ _ ok => ⟨rfl, ok⟩
  | init named id desc reply =>
      exact only_moves_at (init_moves inv done) k (Nat.zero_le _) fun _ _ ok => ⟨rfl, ok⟩
  | uninit named id => exact only_moves_at (uninit_moves inv done) k (Nat.zero_le _) fun _ _ ok => ⟨rfl, ok⟩
  | fail named id => exact only_moves_at (fail_moves inv done) k (Nat.zero_le _) fun _ _ ok => ⟨rfl, ok⟩
  | destroy named id => exact only_moves_at (destroy_moves inv done) k (Nat.zero_le _) fun _ _ ok => ⟨rfl, ok⟩
  | updateBuffer id data reply =>
      exact only_moves_at (update_buffer_moves inv done) k (Nat.zero_le _) fun _ _ ok => ⟨rfl, ok⟩
  | appendBuffer id data reply =>
      obtain ⟨⟨pos, appended⟩, appends, done⟩ := bind_some done
      cases done
      exact only_moves_at (append_buffer_moves inv appends) k (Nat.zero_le _) fun _ _ ok => ⟨rfl, ok⟩
  | beginPass _ _ | applyViewport _ _ _ _ _ | applyScissorRect _ _ _ _ _ | applyPipeline _ _ | applyBindings _ _
  | applyUniforms _ _ _ | draw _ _ _ | endPass | commit | resetStateCache | addCommitListener _
  | removeCommitListener _ | enableFrameStats | disableFrameStats =>
      exact same_store_moves (step_framed done rfl).store k _

theorem step_kept {call : SgCall} (inv : s.Inv size) (done : sgStep s call = some next)
    (aside : call.onResources = true) : Kept s next := by
  cases call with
  | alloc made =>
      obtain ⟨⟨id, allocated⟩, allocates, done⟩ := bind_some done
      cases done
      rcases alloc_result inv allocates with ⟨-, -, rfl⟩ | ⟨index, rest, -, -, rfl⟩
      · exact kept_error s _
      · exact kept_set_store (kept_refl s) made _
  | make made desc reply =>
      obtain ⟨⟨id, settled⟩, makes, done⟩ := bind_some done
      cases done
      obtain ⟨n, -, only⟩ := make_moves inv makes
      exact only.kept
  | dealloc named id => exact (dealloc_moves inv done).kept
  | init named id desc reply => exact (init_moves inv done).kept
  | uninit named id => exact (uninit_moves inv done).kept
  | fail named id => exact (fail_moves inv done).kept
  | destroy named id => exact (destroy_moves inv done).kept
  | updateBuffer id data reply => exact (update_buffer_moves inv done).kept
  | appendBuffer id data reply =>
      obtain ⟨⟨pos, appended⟩, appends, done⟩ := bind_some done
      cases done
      exact (append_buffer_moves inv appends).kept
  | _ => cases aside

theorem step_inv {call : SgCall} (inv : s.Inv size) (done : sgStep s call = some next) : next.Inv size := by
  intro k
  obtain ⟨n, -, moves⟩ := step_moves inv done k
  exact moves_inv (inv k) moves

theorem run_cons_some {call : SgCall} {calls : List SgCall} (done : sgRun s (call :: calls) = some final) :
    ∃ middle, sgStep s call = some middle ∧ sgRun middle calls = some final := bind_some done

theorem run_inv {calls : List SgCall} (inv : s.Inv size) (done : sgRun s calls = some final) : final.Inv size := by
  induction calls generalizing s with
  | nil =>
      cases done
      exact inv
  | cons call rest ih =>
      obtain ⟨middle, step, done⟩ := run_cons_some done
      exact ih (step_inv inv step) done

theorem step_valid {call : SgCall} (inv : s.Inv size) (done : sgStep s call = some next) : next.valid = s.valid := by
  cases aside : call.onResources with
  | true => exact (step_kept inv done aside).valid
  | false => exact (step_framed done aside).valid

theorem run_valid {calls : List SgCall} (inv : s.Inv size) (done : sgRun s calls = some final) :
    final.valid = s.valid := by
  induction calls generalizing s with
  | nil =>
      cases done
      rfl
  | cons call rest ih =>
      obtain ⟨middle, step, done⟩ := run_cons_some done
      exact (ih (step_inv inv step) done).trans (step_valid inv step)

theorem step_validation {call : SgCall} (inv : s.Inv size) (done : sgStep s call = some next) :
    next.validation = s.validation := by
  cases aside : call.onResources with
  | true => exact (step_kept inv done aside).validation
  | false => exact (step_framed done aside).validation

theorem step_frame_index {call : SgCall} (inv : s.Inv size) (done : sgStep s call = some next)
    (running : call ≠ .commit) : next.frameIndex = s.frameIndex := by
  cases aside : call.onResources with
  | true => exact (step_kept inv done aside).frameIndex
  | false => exact (step_framed done aside).frameIndex running

-- How many resources of a kind a library set up with desc can hold.
def SgDesc.capacity (desc : SgDesc) (k : Kind) : Nat := ((sgDescDefaults desc).poolSize k).toNat

theorem setup_pool_some {k : Kind} {desc : SgDesc} {store : SgStore (Body k)}
    (done : setupPool k (sgDescDefaults desc) = some store) :
    desc.capacity k < 65536 ∧ store = SgStore.fresh (desc.capacity k) := (setup_some done).2

-- The state sg_setup leaves behind.
structure Started (desc : SgDesc) (s : SgState) : Prop where
  stores : ∀ k, desc.capacity k < 65536 ∧ s.store k = SgStore.fresh (desc.capacity k)
  valid : s.valid = true
  validation : s.validation = desc.validation
  frameIndex : s.frameIndex = 1
  curPass : s.curPass = {}
  curPipeline : s.curPipeline = 0
  nextDrawValid : s.nextDrawValid = false
  d3d11Pipeline : s.d3d11Pipeline = 0
  statsEnabled : s.statsEnabled = true
  stats : s.stats = {}
  listeners : s.commitListeners.items = []
  calls : s.calls = []

theorem setup_result {desc : SgDesc} (done : sgSetup desc = some s) : Started desc s := by
  obtain ⟨buffers, bufferPool, done⟩ := bind_some done
  obtain ⟨images, imagePool, done⟩ := bind_some done
  obtain ⟨samplers, samplerPool, done⟩ := bind_some done
  obtain ⟨shaders, shaderPool, done⟩ := bind_some done
  obtain ⟨pipelines, pipelinePool, done⟩ := bind_some done
  obtain ⟨attachments, attachmentsPool, done⟩ := bind_some done
  obtain ⟨listeners, roomy, done⟩ := bind_some done
  obtain ⟨-, roomy⟩ := assert_some roomy
  cases roomy
  cases done
  refine ⟨fun k => ?_, rfl, rfl, rfl, rfl, rfl, rfl, rfl, rfl, rfl, rfl, rfl⟩
  cases k with
  | buffer => exact setup_pool_some bufferPool
  | image => exact setup_pool_some imagePool
  | sampler => exact setup_pool_some samplerPool
  | shader => exact setup_pool_some shaderPool
  | pipeline => exact setup_pool_some pipelinePool
  | attachments => exact setup_pool_some attachmentsPool

theorem started_inv {desc : SgDesc} (started : Started desc s) : s.Inv desc.capacity := by
  intro k
  rw [(started.stores k).2]
  exact fresh_inv (started.stores k).1

-- A library with one slot of each kind.
def SgDesc.small : SgDesc := { poolSize := fun _ => 1 }

theorem small_run (calls : List SgCall) (check : SgState → Bool)
    (ran : (sgSetup .small >>= fun s => sgRun s calls).any check = true) :
    ∃ s final, sgSetup .small = some s ∧ sgRun s calls = some final ∧ check final = true := by
  obtain ⟨final, both, checked⟩ := (Option.any_eq_true _ _).mp ran
  obtain ⟨s, started, done⟩ := bind_some both
  exact ⟨s, final, started, done, checked⟩

def dynamicBuffer : SgCall := .make .buffer { size := 4, usage := .dynamic } {}

-- The calls that are given the handle id of a resource of kind k.
def SgCall.names (k : Kind) (id : UInt32) : SgCall → Prop
  | .dealloc named other | .init named other _ _ | .uninit named other | .fail named other
  | .destroy named other => named = k ∧ other = id
  | .updateBuffer other _ _ | .appendBuffer other _ _ => .buffer = k ∧ other = id
  | _ => False

theorem touched_named {call : SgCall} {k : Kind} {id : UInt32} {index : Nat} {item : SgItem (Body k)}
    (inv : s.Inv size) (found : (s.store k).Found id index) (touched : call.mayTouch s k index item) :
    call.names k id := by
  have free : index ∉ (s.store k).pool.freeQueue := used_not_free (inv k) found.used
  cases call with
  | alloc _ | make _ _ _ => exact absurd touched.2.1 free
  | dealloc _ _ | init _ _ _ _ | uninit _ _ | fail _ _ | destroy _ _ | updateBuffer _ _ _ | appendBuffer _ _ _ =>
      exact ⟨touched.1, touched.2.1.id.symm.trans found.id⟩
  | _ => exact touched

-- A resource stays as it is, under the handle it has, in a call that is not given this handle.
theorem step_untouched {call : SgCall} {k : Kind} {id : UInt32} {index : Nat} (inv : s.Inv size)
    (found : (s.store k).Found id index) (unnamed : ¬ call.names k id) (done : sgStep s call = some next) :
    (next.store k).items index = (s.store k).items index ∧ (next.store k).Found id index := by
  obtain ⟨n, -, moves⟩ := step_moves inv done k
  obtain ⟨item, -⟩ := moves_frame moves fun item touched => unnamed (touched_named inv found touched)
  have slot : (next.store k).slot index = (s.store k).slot index := congrArg SgItem.slot item
  exact ⟨item, found_of_slot (inv k) (step_inv inv done k) found (congrArg SgSlot.id slot)⟩

-- A resource is changed by nothing but the calls that are given its handle: not by what happens to
-- other handles, old handles of its slot among them.
theorem untouched_kept {calls : List SgCall} {k : Kind} {id : UInt32} {index : Nat} (inv : s.Inv size)
    (found : (s.store k).Found id index) (unnamed : ∀ call ∈ calls, ¬ call.names k id)
    (done : sgRun s calls = some final) :
    (final.store k).items index = (s.store k).items index ∧ (final.store k).Found id index := by
  induction calls generalizing s with
  | nil =>
      cases done
      exact ⟨rfl, found⟩
  | cons call rest ih =>
      obtain ⟨middle, step, done⟩ := run_cons_some done
      obtain ⟨item, still⟩ := step_untouched inv found (unnamed call (by simp)) step
      obtain ⟨later, last⟩ := ih (step_inv inv step) still (fun other member => unnamed other (by simp [member])) done
      exact ⟨later.trans item, last⟩

theorem buffer_kept_by_images : ∃ s final, sgRun s [.make .image {} {}, .destroy .image 65537] = some final ∧
    (final.store .buffer).items 1 = (s.store .buffer).items 1 ∧ (final.store .buffer).Found 65537 1 := by
  obtain ⟨start, s, started, made, checked⟩ := small_run [dynamicBuffer]
    (fun s => decide ((s.store .buffer).lookup 65537 = some (some 1)) &&
      (sgRun s [.make .image {} {}, .destroy .image 65537]).isSome) rfl
  rw [Bool.and_eq_true, decide_eq_true_eq] at checked
  have inv := run_inv (started_inv (setup_result started)) made
  obtain ⟨final, done⟩ := Option.isSome_iff_exists.mp checked.2
  exact ⟨s, final, done, untouched_kept inv (lookup_found (inv .buffer) checked.1) (by simp [SgCall.names]) done⟩

-- In every state that any calls reach, the unused slots and the queued slots of each pool are the
-- same, no slot is queued twice, and every other slot carries the id of its index and generation.
theorem reachable_inv {desc : SgDesc} {calls : List SgCall} (started : sgSetup desc = some s)
    (done : sgRun s calls = some final) : final.Inv desc.capacity :=
  run_inv (started_inv (setup_result started)) done

theorem small_pools_inv : ∃ s final, sgSetup .small = some s ∧
    sgRun s [dynamicBuffer, dynamicBuffer, .destroy .buffer 65537] = some final ∧ final.Inv SgDesc.small.capacity := by
  obtain ⟨s, final, started, done, -⟩ :=
    small_run [dynamicBuffer, dynamicBuffer, .destroy .buffer 65537] (fun _ => true) rfl
  exact ⟨s, final, started, done, reachable_inv started done⟩

end WakeAlpha.Gfx
