import Mathlib.Algebra.BigOperators.Group.Finset.Basic
import Mathlib.Algebra.Order.Ring.Rat
import Mathlib.Tactic.Linarith
import WakeAlpha.Demo.Brackets

set_option autoImplicit false

namespace WakeAlpha.Demo

-- The comments of fs_params, for the block that frame k draws with.
structure Contract (inputs : Nat → FrameInput) (k : Nat) (block : FsParams) : Prop where
  width : block.iResolution.x = Sapp.sappWidth (inputs k).sapp
  height : block.iResolution.y = Sapp.sappHeight (inputs k).sapp
  positive : 1 ≤ block.iResolution.x ∧ 1 ≤ block.iResolution.y
  divisors : block.iResolution.y ≠ 0 ∧ min block.iResolution.x block.iResolution.y ≠ 0
  mouse : block.iMouse.x = (inputs k).mouse.x ∧ block.iMouse.y = (inputs k).mouse.y
  time : block.iTime = (inputs k).time
  delta : ∀ j, k = j + 1 → block.iTimeDelta = (inputs k).time - (inputs j).time

structure DrawsCurrent (p : Program) (inputs : Nat → FrameInput) (n : Nat) : Prop where
  contract : ∀ k < n, ∀ block, .sgApplyUniforms block ∈ p.callsAt inputs k → Contract inputs k block
  deltas : ∀ m < n, ∀ blocks : Nat → FsParams,
    (∀ k < m, .sgApplyUniforms (blocks (k + 1)) ∈ p.callsAt inputs (k + 1)) →
    ∑ k ∈ Finset.range m, (blocks (k + 1)).iTimeDelta = (inputs m).time - (inputs 0).time

def Shown (p : Program) (inputs : Nat → FrameInput) (k : Nat) : Prop :=
  (p.varsAt inputs k).appOpen = true ∧ (inputs k).begins = true

-- What app_update would upload is the same in both frames, the delta aside.
structure SameScene (a b : FrameInput) : Prop where
  width : Sapp.sappWidth a.sapp = Sapp.sappWidth b.sapp
  height : Sapp.sappHeight a.sapp = Sapp.sappHeight b.sapp
  mouse : a.mouse.x = b.mouse.x ∧ a.mouse.y = b.mouse.y
  time : a.time = b.time

structure ShowsEnough (p : Program) (inputs : Nat → FrameInput) (n : Nat) : Prop where
  first : 0 < n → Shown p inputs 0
  later : ∀ k, k + 1 < n → (inputs k).time = 0 ∧
    (Shown p inputs (k + 1) ∨ SameScene (inputs k) (inputs (k + 1)))

-- The block is written where the window is shown, and drawn with in every frame.
structure Refreshes (p : Program) : Prop where
  params : ∀ input vars, (p.frame input vars).1.shParams =
    if vars.appOpen = true ∧ input.begins = true then updateParams input vars.shParams else vars.shParams
  uploads : ∀ input vars block,
    .sgApplyUniforms block ∈ (p.frame input vars).2 ↔ block = (p.frame input vars).1.shParams

theorem window_frame_params (input : FrameInput) (body : Vars → Step) (width height : Int) (vars : Vars)
    (writes : ∀ v, (body v).1.shParams = updateParams input v.shParams) :
    (windowFrame input body width height vars).1.shParams =
      if vars.appOpen = true ∧ input.begins = true then updateParams input vars.shParams else vars.shParams := by
  unfold windowFrame
  by_cases opened : vars.appOpen = true
  · by_cases begins : input.begins = true
    · simp [opened, begins, writes]
    · simp [opened, begins]
  · simp [opened]

theorem uploads_drawn {before window after : List LibCall} {first : LibCall} {drawn : FsParams}
    (quits : ∀ call ∈ before, call = .sappQuit) (opens : first.isNewFrame = true)
    (placed : ∀ call ∈ window, call.inAppFrame = true)
    (last : ∀ block, .sgApplyUniforms block ∈ after ↔ block = drawn) (block : FsParams) :
    .sgApplyUniforms block ∈ before ++ [first] ++ window ++ after ↔ block = drawn := by
  rw [← last block]
  simp only [List.mem_append, List.mem_singleton]
  constructor
  · rintro (((quit | new) | inside) | late)
    · cases quits _ quit
    · rw [← new] at opens
      cases opens
    · cases placed _ inside
    · exact late
  · exact .inr

theorem shadertoy_refreshes : Refreshes Shadertoy.program where
  params input vars := window_frame_params input (Shadertoy.windowBody input) (Sapp.sappWidth input.sapp)
    (Sapp.sappHeight input.sapp) vars fun _ => rfl
  uploads input vars block := by
    have placed := window_frame_in_app_frame input (Shadertoy.windowBody input) (Sapp.sappWidth input.sapp)
      (Sapp.sappHeight input.sapp) vars (shadertoy_shape.inside input)
    have last (drawn block : FsParams) : LibCall.sgApplyUniforms block ∈
        [.sgBeginPass, .sgApplyPipeline, .sgApplyBindings, .sgApplyUniforms drawn, .sgDraw 0 6 1,
          .simguiRender, .sgEndPass, .sgCommit] ++ (if input.requestClose then [.sappQuit] else []) ↔
        block = drawn := by
      cases input.requestClose <;> simp
    have drawn := uploads_drawn (fun call (member : call ∈ []) => nomatch member)
      (rfl : (newFrame input).isNewFrame = true) placed (last (Shadertoy.frame input vars).1.shParams) block
    rw [← List.append_assoc] at drawn
    exact drawn

theorem tot_refreshes : Refreshes Tot.program where
  params input vars := window_frame_params input (Tot.appUpdate input) (Sapp.sappWidth input.sapp)
    (Sapp.sappHeight input.sapp) vars fun _ => rfl
  uploads input vars block := by
    have placed := window_frame_in_app_frame input (Tot.appUpdate input) (Sapp.sappWidth input.sapp)
      (Sapp.sappHeight input.sapp) vars (tot_shape.inside input)
    have last (drawn block : FsParams) : LibCall.sgApplyUniforms block ∈
        [.sgBeginPass, .sgApplyPipeline, .sgApplyBindings, .sgApplyUniforms drawn, .sgDraw 0 6 1,
          .simguiRender, .sgEndPass, .sgCommit] ↔ block = drawn := by
      simp
    exact uploads_drawn (tot_keyboard_quits input.keys) rfl placed (last _) block

variable {p : Program} {inputs : Nat → FrameInput}

theorem params_shown (refreshes : Refreshes p) {k : Nat} (shown : Shown p inputs k) :
    (p.varsAt inputs (k + 1)).shParams = updateParams (inputs k) (p.varsAt inputs k).shParams :=
  (refreshes.params (inputs k) (p.varsAt inputs k)).trans (if_pos shown)

theorem params_kept (refreshes : Refreshes p) {k : Nat} (skipped : ¬ Shown p inputs k) :
    (p.varsAt inputs (k + 1)).shParams = (p.varsAt inputs k).shParams :=
  (refreshes.params (inputs k) (p.varsAt inputs k)).trans (if_neg skipped)

theorem uploaded (refreshes : Refreshes p) (k : Nat) :
    .sgApplyUniforms (p.varsAt inputs (k + 1)).shParams ∈ p.callsAt inputs k :=
  (refreshes.uploads (inputs k) (p.varsAt inputs k) _).mpr rfl

theorem contract_intro {k : Nat} {block : FsParams}
    (width : block.iResolution.x = Sapp.sappWidth (inputs k).sapp)
    (height : block.iResolution.y = Sapp.sappHeight (inputs k).sapp)
    (mouse : block.iMouse.x = (inputs k).mouse.x ∧ block.iMouse.y = (inputs k).mouse.y)
    (time : block.iTime = (inputs k).time)
    (delta : ∀ j, k = j + 1 → block.iTimeDelta = (inputs k).time - (inputs j).time) :
    Contract inputs k block := by
  have wide : (1 : Rat) ≤ Sapp.sappWidth (inputs k).sapp := by exact_mod_cast Sapp.sapp_width_pos _
  have high : (1 : Rat) ≤ Sapp.sappHeight (inputs k).sapp := by exact_mod_cast Sapp.sapp_height_pos _
  rw [← width] at wide
  rw [← height] at high
  refine ⟨width, height, ⟨wide, high⟩, ⟨?_, ?_⟩, mouse, time, delta⟩
  · exact ne_of_gt (lt_of_lt_of_le one_pos high)
  · exact ne_of_gt (lt_of_lt_of_le one_pos (le_min wide high))

-- While the contract has held, the block stands at its frame's scene with delta equal to time.
theorem contract_first (refreshes : Refreshes p) (shown : Shown p inputs 0) :
    Contract inputs 0 (p.varsAt inputs 1).shParams := by
  rw [params_shown refreshes shown]
  refine contract_intro rfl rfl ⟨rfl, rfl⟩ rfl ?_
  intro j impossible
  omega

theorem block_delta_time (refreshes : Refreshes p) (shown : Shown p inputs 0) (k : Nat) :
    (p.varsAt inputs (k + 1)).shParams.iTimeDelta = (p.varsAt inputs (k + 1)).shParams.iTime := by
  induction k with
  | zero =>
      rw [params_shown refreshes shown]
      rfl
  | succ k ih =>
      by_cases again : Shown p inputs (k + 1)
      · rw [params_shown refreshes again]
        rfl
      · rw [params_kept refreshes again]
        exact ih

theorem contract_next_iff (refreshes : Refreshes p) (shown : Shown p inputs 0) (k : Nat)
    (before : Contract inputs k (p.varsAt inputs (k + 1)).shParams) :
    Contract inputs (k + 1) (p.varsAt inputs (k + 2)).shParams ↔
      (inputs k).time = 0 ∧ (Shown p inputs (k + 1) ∨ SameScene (inputs k) (inputs (k + 1))) := by
  have latest := block_delta_time refreshes shown (k + 1)
  have deltaOf (zero : (inputs k).time = 0) (j : Nat) (prior : k + 1 = j + 1) :
      (inputs (k + 1)).time = (inputs (k + 1)).time - (inputs j).time := by
    obtain rfl : k = j := by omega
    rw [zero, sub_zero]
  by_cases again : Shown p inputs (k + 1)
  · rw [params_shown refreshes again] at latest ⊢
    constructor
    · intro contract
      have delta := contract.delta k rfl
      exact ⟨sub_eq_self.mp delta.symm, .inl again⟩
    · rintro ⟨zero, -⟩
      exact contract_intro rfl rfl ⟨rfl, rfl⟩ rfl (deltaOf zero)
  · rw [params_kept refreshes again] at latest ⊢
    constructor
    · intro contract
      have delta := contract.delta k rfl
      rw [latest, contract.time] at delta
      refine ⟨sub_eq_self.mp delta.symm, .inr ⟨?_, ?_, ?_, ?_⟩⟩
      · exact_mod_cast before.width.symm.trans contract.width
      · exact_mod_cast before.height.symm.trans contract.height
      · exact ⟨before.mouse.1.symm.trans contract.mouse.1, before.mouse.2.symm.trans contract.mouse.2⟩
      · exact before.time.symm.trans contract.time
    · rintro ⟨zero, shownAgain | same⟩
      · exact (again shownAgain).elim
      · have time := before.time.trans same.time
        refine contract_intro (before.width.trans ?_) (before.height.trans ?_)
          ⟨before.mouse.1.trans same.mouse.1, before.mouse.2.trans same.mouse.2⟩ time ?_
        · rw [same.width]
        · rw [same.height]
        · intro j prior
          rw [latest, time]
          exact deltaOf zero j prior

theorem first_shown (refreshes : Refreshes p) (contract : Contract inputs 0 (p.varsAt inputs 1).shParams) :
    Shown p inputs 0 := by
  by_cases shown : Shown p inputs 0
  · exact shown
  · have width := contract.positive.1
    rw [params_kept refreshes shown] at width
    have blank : (1 : Rat) ≤ 0 := width
    exact absurd blank (by decide)

theorem contracts_iff (refreshes : Refreshes p) (n : Nat) :
    (∀ k < n, Contract inputs k (p.varsAt inputs (k + 1)).shParams) ↔ ShowsEnough p inputs n := by
  constructor
  · intro contracts
    refine ⟨fun some => first_shown refreshes (contracts 0 some), ?_⟩
    intro k within
    have shown := first_shown refreshes (contracts 0 (by omega))
    exact (contract_next_iff refreshes shown k (contracts k (by omega))).mp (contracts (k + 1) within)
  · rintro ⟨first, later⟩ k within
    have shown := first (by omega)
    induction k with
    | zero => exact contract_first refreshes shown
    | succ k ih => exact (contract_next_iff refreshes shown k (ih (by omega))).mpr (later k within)

theorem contracts_sum {n m : Nat} (within : m < n)
    (contracts : ∀ k < n, ∀ block, .sgApplyUniforms block ∈ p.callsAt inputs k → Contract inputs k block)
    (blocks : Nat → FsParams)
    (drawn : ∀ k < m, .sgApplyUniforms (blocks (k + 1)) ∈ p.callsAt inputs (k + 1)) :
    ∑ k ∈ Finset.range m, (blocks (k + 1)).iTimeDelta = (inputs m).time - (inputs 0).time := by
  rw [← Finset.sum_range_sub (fun k => (inputs k).time)]
  apply Finset.sum_congr rfl
  intro k member
  have early := Finset.mem_range.mp member
  exact (contracts (k + 1) (by omega) _ (drawn k early)).delta k rfl

theorem refreshes_current_iff (refreshes : Refreshes p) (n : Nat) :
    DrawsCurrent p inputs n ↔ ShowsEnough p inputs n := by
  rw [← contracts_iff refreshes n]
  constructor
  · intro current k within
    exact current.contract k within _ (uploaded refreshes k)
  · intro contracts
    have all (k : Nat) (within : k < n) (block : FsParams)
        (upload : .sgApplyUniforms block ∈ p.callsAt inputs k) : Contract inputs k block := by
      rw [(refreshes.uploads _ _ block).mp upload]
      exact contracts k within
    exact ⟨all, fun m within blocks drawn => contracts_sum within all blocks drawn⟩

-- iTimeDelta gets the clock itself, and app_update runs only in a shown window: the block is the
-- current frame's exactly when the clock has stood at zero and no hidden frame changes the scene.
theorem draws_current_iff (inputs : Nat → FrameInput) (n : Nat) :
    (DrawsCurrent Shadertoy.program inputs n ↔ ShowsEnough Shadertoy.program inputs n) ∧
      (DrawsCurrent Tot.program inputs n ↔ ShowsEnough Tot.program inputs n) :=
  ⟨refreshes_current_iff shadertoy_refreshes n, refreshes_current_iff tot_refreshes n⟩

-- Two shown frames at times 1 and 2: the second uploads the delta 2.
theorem second_frame_delta_wrong : ¬ ∀ (inputs : Nat → FrameInput) (n : Nat),
    (∀ k, (inputs k).time ≤ (inputs (k + 1)).time) →
    DrawsCurrent Shadertoy.program inputs n ∧ DrawsCurrent Tot.program inputs n := by
  intro current
  let inputs : Nat → FrameInput := fun k => { time := k + 1 }
  have rising (k : Nat) : (inputs k).time ≤ (inputs (k + 1)).time := by
    change (k : Rat) + 1 ≤ ((k + 1 : Nat) : Rat) + 1
    rw [Nat.cast_add]
    linarith
  have drawn := (current inputs 2 rising).1
  have delta := (drawn.contract 1 (by omega) _ (uploaded shadertoy_refreshes 1)).delta 0 rfl
  rw [params_shown shadertoy_refreshes ⟨rfl, rfl⟩] at delta
  have clock : ((1 : Nat) : Rat) + 1 = ((1 : Nat) : Rat) + 1 - (((0 : Nat) : Rat) + 1) := delta
  revert clock
  decide +kernel

end WakeAlpha.Demo
