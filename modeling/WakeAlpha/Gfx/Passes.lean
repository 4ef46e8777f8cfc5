import WakeAlpha.Gfx.Lifecycle

set_option autoImplicit false

namespace WakeAlpha.Gfx

variable {size : Kind → Nat} {s middle next : SgState}

-- A call that may stand anywhere between the begin of a pass and its end.
def SgCall.midPass : SgCall → Bool
  | .beginPass .. | .endPass | .commit | .addCommitListener _ | .removeCommitListener _ => false
  | _ => true

-- A call of the backend that stands between the begin of a pass and its end.
def BackendCall.midPass : BackendCall → Bool
  | .beginPass .. | .endPass | .commit | .notify _ => false
  | _ => true

-- The pass, the frame and the listeners are the same, and the device has seen more calls of the pass.
structure Through (s next : SgState) : Prop where
  valid : next.valid = s.valid
  validation : next.validation = s.validation
  frameIndex : next.frameIndex = s.frameIndex
  curPass : next.curPass = s.curPass
  commitListeners : next.commitListeners = s.commitListeners
  calls : ∃ sent, (∀ call ∈ sent, call.midPass = true) ∧ next.calls = s.calls ++ sent

theorem through_refl (s : SgState) : Through s s :=
  ⟨rfl, rfl, rfl, rfl, rfl, [], List.forall_mem_nil _, (List.append_nil _).symm⟩

theorem through_trans (first : Through s middle) (second : Through middle next) : Through s next := by
  obtain ⟨sent, inside, calls⟩ := first.calls
  obtain ⟨more, within, later⟩ := second.calls
  refine ⟨second.valid.trans first.valid, second.validation.trans first.validation,
    second.frameIndex.trans first.frameIndex, second.curPass.trans first.curPass,
    second.commitListeners.trans first.commitListeners, sent ++ more,
    List.forall_mem_append.mpr ⟨inside, within⟩, ?_⟩
  rw [later, calls, List.append_assoc]

theorem through_kept (kept : Kept s next) : Through s next :=
  ⟨kept.valid, kept.validation, kept.frameIndex, kept.curPass, kept.commitListeners, [], List.forall_mem_nil _,
    kept.calls.trans (List.append_nil _).symm⟩

theorem step_through {call : SgCall} (inv : s.Inv size) (inside : call.midPass = true)
    (done : sgStep s call = some next) : Through s next := by
  cases aside : call.onResources with
  | true => exact through_kept (step_kept inv done aside)
  | false =>
      have framed := step_framed done aside
      have running : call ≠ .commit := by
        rintro rfl
        cases inside
      have quiet : ∀ listener, call ≠ .addCommitListener listener ∧ call ≠ .removeCommitListener listener := by
        intro listener
        constructor <;> (rintro rfl; cases inside)
      have silent (pass : next.curPass = s.curPass) (calls : next.calls = s.calls) : Through s next :=
        ⟨framed.valid, framed.validation, framed.frameIndex running, pass, framed.listeners quiet, [], List.forall_mem_nil _,
          calls.trans (List.append_nil _).symm⟩
      have emits (sent : BackendCall) (mid : sent.midPass = true) (pass : next.curPass = s.curPass)
          (calls : next.calls = s.calls ++ [sent]) : Through s next :=
        ⟨framed.valid, framed.validation, framed.frameIndex running, pass, framed.listeners quiet, [sent],
          List.forall_mem_singleton.mpr mid, calls⟩
      cases call with
      | applyViewport _ _ _ _ _ | applyScissorRect _ _ _ _ _ =>
          obtain ⟨-, rfl | rfl⟩ := apply_rect_result done
          · exact silent rfl rfl
          · exact emits _ rfl rfl rfl
      | applyPipeline id formats =>
          obtain ⟨-, counted, rfl, rfl | ⟨-, rfl⟩ | ⟨index, -, -, rfl⟩⟩ := apply_pipeline_result done
          · exact silent rfl rfl
          · exact silent rfl rfl
          · exact emits _ rfl rfl rfl
      | applyBindings bindings validated =>
          obtain ⟨-, counted, rfl, rfl | ⟨-, rfl⟩ | ⟨-, -, rfl⟩⟩ := apply_bindings_result done
          · exact silent rfl rfl
          · exact silent rfl rfl
          · exact emits _ rfl rfl rfl
      | applyUniforms stage ubIndex data =>
          obtain ⟨-, counted, rfl, rfl | rfl | ⟨-, -, rfl⟩⟩ := apply_uniforms_result done
          · exact silent rfl rfl
          · exact silent rfl rfl
          · exact emits _ rfl rfl rfl
      | draw base elements instances =>
          obtain ⟨-, counted, rfl, ⟨rfl, -⟩ | ⟨-, -, rfl⟩⟩ := draw_result done
          · exact silent rfl rfl
          · exact emits _ rfl rfl rfl
      | resetStateCache =>
          obtain ⟨-, done⟩ := assert_some done
          cases done
          exact emits _ rfl rfl rfl
      | enableFrameStats | disableFrameStats =>
          obtain ⟨-, done⟩ := assert_some done
          cases done
          exact silent rfl rfl
      | beginPass _ _ | endPass | commit | addCommitListener _ | removeCommitListener _ => cases inside
      | _ => cases aside

theorem run_kept {calls : List SgCall} (inv : s.Inv size) (aside : ∀ call ∈ calls, call.onResources = true)
    (done : sgRun s calls = some next) : Kept s next := by
  induction calls generalizing s with
  | nil =>
      cases done
      exact kept_refl _
  | cons call rest ih =>
      obtain ⟨middle, step, done⟩ := run_cons_some done
      exact kept_trans (step_kept inv step (aside call (by simp)))
        (ih (step_inv inv step) (fun other member => aside other (by simp [member])) done)

theorem run_through {calls : List SgCall} (inv : s.Inv size) (inside : ∀ call ∈ calls, call.midPass = true)
    (done : sgRun s calls = some next) : Through s next := by
  induction calls generalizing s with
  | nil =>
      cases done
      exact through_refl _
  | cons call rest ih =>
      obtain ⟨middle, step, done⟩ := run_cons_some done
      exact through_trans (step_through inv (inside call (by simp)) step)
        (ih (step_inv inv step) (fun other member => inside other (by simp [member])) done)

end WakeAlpha.Gfx
