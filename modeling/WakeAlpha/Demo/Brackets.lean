import WakeAlpha.Demo.Program
import WakeAlpha.Trace.Monitor

set_option autoImplicit false

namespace WakeAlpha.Demo

open WakeAlpha.Trace

inductive Libs where
  | down
  | gfx
  | ready
  | imguiDown
  | closed
deriving DecidableEq, Repr

inductive Pass where
  | outside
  | inside
  | ended
deriving DecidableEq, Repr

-- window is none outside simgui_new_frame and simgui_render, else how many windows are pushed.
structure Bracket where
  libs : Libs
  window : Option Nat
  pass : Pass
deriving DecidableEq, Repr

-- While both libraries are up: ImGui calls need an open frame, draws an open pass, the render
-- the base of the window stack, and sg_commit an ended pass.
def readyStep (b : Bracket) : LibCall → Option Bracket
  | .sgMakeVertexBuffer _ | .sgMakeIndexBuffer _ | .sgMakeShader | .sgMakePipeline _ => some b
  | .sappQuit | .sappToggleFullscreen => some b
  | .simguiNewFrame _ _ _ _ =>
      if b.window = none ∧ b.pass = .outside then some { b with window := some 0 } else none
  | .igSetNextWindowPos _ _ | .igSetNextWindowSize _ _ | .styleWindowBgAlpha _ | .igText _ _ =>
      if b.window.isSome then some b else none
  | .igBegin _ _ => b.window.map fun depth => { b with window := some (depth + 1) }
  | .igEnd =>
      match b.window with
      | some (depth + 1) => some { b with window := some depth }
      | _ => none
  | .sgBeginPass => if b.pass = .outside then some { b with pass := .inside } else none
  | .sgApplyPipeline | .sgApplyBindings | .sgApplyUniforms _ | .sgDraw _ _ _ =>
      if b.pass = .inside then some b else none
  | .simguiRender =>
      if b.window = some 0 ∧ b.pass = .inside then some { b with window := none } else none
  | .sgEndPass => if b.pass = .inside then some { b with pass := .ended } else none
  | .sgCommit => if b.pass = .ended then some { b with pass := .outside } else none
  | .simguiShutdown =>
      if b.window = none ∧ b.pass = .outside then some { b with libs := .imguiDown } else none
  | .sgSetup | .simguiSetup | .sgShutdown => none

def bracketStep (b : Bracket) (call : LibCall) : Option Bracket :=
  match b.libs, call with
  | .down, .sgSetup => some { b with libs := .gfx }
  | .gfx, .simguiSetup => some { b with libs := .ready }
  | .ready, call => readyStep b call
  | .imguiDown, .sgShutdown => some { b with libs := .closed }
  | _, _ => none

def bracket : Monitor Bracket LibCall := ⟨bracketStep⟩

def Bracket.start : Bracket := ⟨.down, none, .outside⟩
def Bracket.idle : Bracket := ⟨.ready, none, .outside⟩
def Bracket.windows (depth : Nat) : Bracket := ⟨.ready, some depth, .outside⟩
def Bracket.closed : Bracket := ⟨.closed, none, .outside⟩

def LibCall.isNewFrame : LibCall → Bool
  | .simguiNewFrame _ _ _ _ => true
  | _ => false

def Program.framesUpTo (p : Program) (inputs : Nat → FrameInput) (n : Nat) : List (List LibCall) :=
  (List.range n).map (p.callsAt inputs)

def Program.trace (p : Program) (inputs : Nat → FrameInput) (n : Nat) : List LibCall :=
  p.init ++ (p.framesUpTo inputs n).flatten ++ p.cleanup

-- One init, n frames and one cleanup follow the protocols, and each frame is a round of its own
-- with one simgui_new_frame and one simgui_render.
structure WellBracketed (p : Program) (inputs : Nat → FrameInput) (n : Nat) : Prop where
  run : bracket.run .start (p.trace inputs n) = some .closed
  rounds : ∀ calls ∈ p.framesUpTo inputs n, bracket.run .idle calls = some .idle
  newFrames : ∀ calls ∈ p.framesUpTo inputs n, calls.countP LibCall.isNewFrame = 1
  renders : ∀ calls ∈ p.framesUpTo inputs n, calls.count .simguiRender = 1

-- A call that the body of a window may make: it moves no protocol.
def LibCall.inWindow : LibCall → Bool
  | .styleWindowBgAlpha _ => true
  | .igText _ _ => true
  | .sappQuit => true
  | .sappToggleFullscreen => true
  | _ => false

-- A call that app_frame may make around and inside its window.
def LibCall.inAppFrame : LibCall → Bool
  | .igSetNextWindowPos _ _ => true
  | .igSetNextWindowSize _ _ => true
  | .igBegin _ _ => true
  | .igEnd => true
  | call => call.inWindow

theorem in_window_in_app_frame (call : LibCall) (inside : call.inWindow = true) : call.inAppFrame = true := by
  cases call with
  | styleWindowBgAlpha alpha => rfl
  | igText format args => rfl
  | sappQuit => rfl
  | sappToggleFullscreen => rfl
  | _ => cases inside

theorem in_window_kept (depth : Nat) (call : LibCall) (inside : call.inWindow = true) :
    bracketStep (.windows depth) call = some (.windows depth) := by
  cases call with
  | styleWindowBgAlpha alpha => rfl
  | igText format args => rfl
  | sappQuit => rfl
  | sappToggleFullscreen => rfl
  | _ => cases inside

def InWindow (calls : List LibCall) : Prop := ∀ call ∈ calls, call.inWindow = true

theorem in_window_append {first second : List LibCall} (one : InWindow first) (two : InWindow second) :
    InWindow (first ++ second) := by
  intro call member
  rcases List.mem_append.mp member with inFirst | inSecond
  · exact one call inFirst
  · exact two call inSecond

theorem reflect_key_in_window {σ : Type} (read : KeyReader σ) (r : Reflection σ) (key : Nat)
    (inside : InWindow r.calls) : InWindow (Shadertoy.reflectKey read r key).calls := by
  unfold Shadertoy.reflectKey
  dsimp only
  generalize ((read key r.source).1.signExtend 32 : BitVec 32) = keyState
  generalize (if key = vkEscape ∧ keyState &&& 0x0001 ≠ 0 then false else r.on) = on
  have texts : InWindow [.igText "-------------------" [], .igText "|| reflect vk %d ||" [(key : Rat)],
      .igText "-------------------" []] := by simp [InWindow, LibCall.inWindow]
  by_cases down : keyState &&& 0x8000 ≠ 0
  · rw [if_pos down]
    by_cases toggles : key = vkEscape ∧ on = false
    · rw [if_pos toggles]
      exact in_window_append (in_window_append inside texts) (by simp [InWindow, LibCall.inWindow])
    · rw [if_neg toggles]
      exact in_window_append inside texts
  · rw [if_neg down]
    exact inside

theorem reflect_keyboard_in_window {σ : Type} (read : KeyReader σ) (source : σ) (on : Bool) :
    InWindow (Shadertoy.reflectKeyboard read source on).calls := by
  unfold Shadertoy.reflectKeyboard
  generalize List.range' 1 255 = keys
  refine List.foldlRecOn (motive := fun r => InWindow r.calls) keys (Shadertoy.reflectKey read) ?_ ?_
  · simp [InWindow]
  · exact fun r inside key _ => reflect_key_in_window read r key inside

theorem tot_keyboard_quits (keys : Nat → BitVec 16) :
    ∀ call ∈ Tot.reflectKeyboard keys, call = .sappQuit := by
  unfold Tot.reflectKeyboard
  generalize List.range' 1 255 = polled
  refine List.foldlRecOn (motive := fun calls => ∀ call ∈ calls, call = .sappQuit) polled
    (Tot.reflectKey keys) ?_ ?_
  · simp
  · intro calls quits key _
    unfold Tot.reflectKey
    split
    · split
      · intro call member
        rcases List.mem_append.mp member with before | last
        · exact quits call before
        · exact List.mem_singleton.mp last
      · exact quits
    · exact quits

-- Where app_frame leaves the window stack: one window too many when igBegin returned false.
def leftOpen (input : FrameInput) (vars : Vars) : Nat := if vars.appOpen ∧ input.begins = false then 1 else 0

theorem window_frame_calls (input : FrameInput) (body : Vars → Step) (width height : Int) (vars : Vars) :
    (windowFrame input body width height vars).2 =
      [.igSetNextWindowPos 0 0, .igSetNextWindowSize width height] ++
        (if vars.appOpen then
          if input.begins then
            .igBegin "App" true :: (body { vars with appOpen := !input.closes }).2 ++ [.igEnd]
          else [.igBegin "App" false]
        else []) := by
  unfold windowFrame
  by_cases opened : vars.appOpen = true
  · by_cases begins : input.begins = true
    · simp [opened, begins]
    · simp [opened, begins]
  · simp [opened]

theorem window_frame_run (input : FrameInput) (body : Vars → Step) (width height : Int) (vars : Vars)
    (inside : ∀ v, InWindow (body v).2) :
    bracket.run (.windows 0) (windowFrame input body width height vars).2 =
      some (.windows (leftOpen input vars)) := by
  have placed : bracket.run (.windows 0) [.igSetNextWindowPos 0 0, .igSetNextWindowSize width height] =
      some (.windows 0) := rfl
  rw [window_frame_calls, run_append_of_some bracket _ placed]
  unfold leftOpen
  cases opened : vars.appOpen with
  | false => rfl
  | true =>
      cases begins : input.begins with
      | false => rfl
      | true =>
          have kept : bracket.run (.windows 1) (body { vars with appOpen := !input.closes }).2 =
              some (.windows 1) :=
            run_ignored bracket fun call member => in_window_kept 1 call (inside _ call member)
          change bracket.run (.windows 1) ((body { vars with appOpen := !input.closes }).2 ++ [.igEnd]) = _
          rw [run_append_of_some bracket _ kept]
          rfl

theorem window_frame_in_app_frame (input : FrameInput) (body : Vars → Step) (width height : Int)
    (vars : Vars) (inside : ∀ v, InWindow (body v).2) :
    ∀ call ∈ (windowFrame input body width height vars).2, call.inAppFrame = true := by
  intro call member
  rw [window_frame_calls] at member
  rcases List.mem_append.mp member with placed | window
  · simp only [List.mem_cons, List.not_mem_nil, or_false] at placed
    rcases placed with rfl | rfl <;> rfl
  · split at window
    · split at window
      · simp only [List.cons_append, List.mem_cons, List.mem_append, List.not_mem_nil, or_false] at window
        rcases window with rfl | body | rfl
        · rfl
        · exact in_window_in_app_frame call (inside _ call body)
        · rfl
      · rw [List.mem_singleton.mp window]
        rfl
    · cases window

-- A frame: some quits, simgui_new_frame, the window, and the drawing in its pass.
structure FrameShape (p : Program) (body : FrameInput → Vars → Step) : Prop where
  inside : ∀ input vars, InWindow (body input vars).2
  calls : ∀ input vars, ∃ before after width height,
    (p.frame input vars).2 =
      before ++ [newFrame input] ++ (windowFrame input (body input) width height vars).2 ++ after ∧
    (∀ call ∈ before, call = .sappQuit) ∧
    bracket.run (.windows 0) after = some .idle ∧ bracket.run (.windows 1) after = none ∧
    after.countP LibCall.isNewFrame = 0 ∧ after.count .simguiRender = 1

theorem quad_shape : FrameShape Quad.program Quad.appUpdate where
  inside input vars := by simp [InWindow, Quad.appUpdate, LibCall.inWindow]
  calls input vars := by
    refine ⟨[], [.sgBeginPass, .simguiRender, .sgApplyPipeline, .sgApplyBindings, .sgDraw 0 6 1, .sgEndPass,
      .sgCommit], Sapp.sappWidth input.sapp, Sapp.sappHeight input.sapp, rfl, by simp, rfl, rfl, rfl, rfl⟩

theorem shadertoy_shape : FrameShape Shadertoy.program Shadertoy.windowBody where
  inside input vars := by
    refine in_window_append ?_ (reflect_keyboard_in_window _ _ _)
    refine in_window_append (in_window_append ?_ ?_) ?_
    · simp [InWindow, LibCall.inWindow]
    · split <;> simp [InWindow, LibCall.inWindow]
    · simp [InWindow, LibCall.inWindow]
  calls input vars := by
    refine ⟨[], [.sgBeginPass, .sgApplyPipeline, .sgApplyBindings,
      .sgApplyUniforms (Shadertoy.frame input vars).1.shParams, .sgDraw 0 6 1, .simguiRender, .sgEndPass,
      .sgCommit] ++ (if input.requestClose then [.sappQuit] else []), Sapp.sappWidth input.sapp,
      Sapp.sappHeight input.sapp, ?_, by simp, ?_⟩
    · simp only [← List.append_assoc]
      rfl
    · cases input.requestClose <;> exact ⟨rfl, rfl, rfl, rfl⟩

theorem tot_shape : FrameShape Tot.program Tot.appUpdate where
  inside input vars := by
    refine in_window_append ?_ ?_
    · simp [InWindow, LibCall.inWindow]
    · split <;> simp [InWindow, LibCall.inWindow]
  calls input vars := by
    refine ⟨Tot.reflectKeyboard input.keys, [.sgBeginPass, .sgApplyPipeline, .sgApplyBindings,
      .sgApplyUniforms (Tot.frame input vars).1.shParams, .sgDraw 0 6 1, .simguiRender, .sgEndPass,
      .sgCommit], Sapp.sappWidth input.sapp, Sapp.sappHeight input.sapp, rfl,
      tot_keyboard_quits input.keys, rfl, rfl, rfl, rfl⟩

theorem frame_run {p : Program} {body : FrameInput → Vars → Step} (shape : FrameShape p body)
    (input : FrameInput) (vars : Vars) : bracket.run .idle (p.frame input vars).2 =
      if vars.appOpen = true → input.begins = true then some .idle else none := by
  obtain ⟨before, after, width, height, calls, quits, based, stacked, -, -⟩ := shape.calls input vars
  have quiet : bracket.run .idle before = some .idle :=
    run_ignored bracket fun call member => by rw [quits call member]; rfl
  have opened : bracket.run .idle [newFrame input] = some (.windows 0) := rfl
  have window := window_frame_run input (body input) width height vars (shape.inside input)
  rw [calls, List.append_assoc, List.append_assoc, run_append_of_some bracket _ quiet,
    run_append_of_some bracket _ opened, run_append_of_some bracket _ window]
  unfold leftOpen
  by_cases shown : vars.appOpen = true → input.begins = true
  · have closed : ¬ (vars.appOpen = true ∧ input.begins = false) := by
      rintro ⟨isOpen, hidden⟩
      rw [shown isOpen] at hidden
      cases hidden
    rw [if_neg closed, if_pos shown, based]
  · have pushed : vars.appOpen = true ∧ input.begins = false := by
      cases isOpen : vars.appOpen <;> cases begins : input.begins <;> simp_all
    rw [if_pos pushed, if_neg shown, stacked]

theorem frame_counts {p : Program} {body : FrameInput → Vars → Step} (shape : FrameShape p body)
    (input : FrameInput) (vars : Vars) : (p.frame input vars).2.countP LibCall.isNewFrame = 1 ∧
      (p.frame input vars).2.count .simguiRender = 1 := by
  obtain ⟨before, after, width, height, calls, quits, -, -, newFrames, renders⟩ := shape.calls input vars
  have silent := window_frame_in_app_frame input (body input) width height vars (shape.inside input)
  have quitFrames : before.countP LibCall.isNewFrame = 0 := by
    rw [List.countP_eq_zero]
    intro call member
    rw [quits call member]
    exact Bool.false_ne_true
  have quitRenders : before.count .simguiRender = 0 := by
    rw [List.count_eq_zero]
    exact fun member => LibCall.noConfusion (quits _ member)
  have windowFrames : (windowFrame input (body input) width height vars).2.countP LibCall.isNewFrame = 0 := by
    rw [List.countP_eq_zero]
    intro call member newFrame
    have placed := silent call member
    cases call with
    | simguiNewFrame width height deltaTime dpiScale => cases placed
    | _ => cases newFrame
  have windowRenders : (windowFrame input (body input) width height vars).2.count .simguiRender = 0 := by
    rw [List.count_eq_zero]
    exact fun member => Bool.false_ne_true (silent _ member)
  rw [calls]
  refine ⟨?_, ?_⟩
  · rw [List.countP_append, List.countP_append, List.countP_append, quitFrames, windowFrames, newFrames]
    rfl
  · rw [List.count_append, List.count_append, List.count_append, quitRenders, windowRenders, renders]
    rfl

theorem demo_shape (demo : JcFile) : ∃ body, FrameShape demo.program body := by
  cases demo with
  | quad => exact ⟨_, quad_shape⟩
  | shadertoy => exact ⟨_, shadertoy_shape⟩
  | tot => exact ⟨_, tot_shape⟩

theorem init_run (demo : JcFile) : bracket.run .start demo.program.init = some .idle := by
  cases demo <;> rfl

theorem cleanup_run (demo : JcFile) : bracket.run .idle demo.program.cleanup = some .closed := by
  cases demo <;> rfl

-- The calls are well bracketed exactly when igBegin returns true in every frame that reaches it:
-- the igEnd it needs whatever it returned stands inside the if.
theorem well_bracketed_iff (demo : JcFile) (inputs : Nat → FrameInput) (n : Nat) :
    WellBracketed demo.program inputs n ↔
      ∀ k < n, (demo.program.varsAt inputs k).appOpen = true → (inputs k).begins = true := by
  obtain ⟨body, shape⟩ := demo_shape demo
  constructor
  · intro brackets k within
    have round := brackets.rounds (demo.program.callsAt inputs k)
      (List.mem_map.mpr ⟨k, List.mem_range.mpr within, rfl⟩)
    rw [Program.callsAt, frame_run shape] at round
    by_cases shown : (demo.program.varsAt inputs k).appOpen = true → (inputs k).begins = true
    · exact shown
    · rw [if_neg shown] at round
      cases round
  · intro shown
    have rounds : ∀ calls ∈ demo.program.framesUpTo inputs n, bracket.run .idle calls = some .idle := by
      intro calls member
      obtain ⟨k, within, rfl⟩ := List.mem_map.mp member
      rw [Program.callsAt, frame_run shape, if_pos (shown k (List.mem_range.mp within))]
    refine ⟨?_, rounds, ?_, ?_⟩
    · rw [Program.trace, List.append_assoc, run_append_of_some bracket _ (init_run demo),
        run_append_of_some bracket _ (run_rounds bracket rounds), cleanup_run]
    · intro calls member
      obtain ⟨k, -, rfl⟩ := List.mem_map.mp member
      exact (frame_counts shape _ _).1
    · intro calls member
      obtain ⟨k, -, rfl⟩ := List.mem_map.mp member
      exact (frame_counts shape _ _).2

-- igBegin returns false in the first frame of quad.jc: no igEnd follows.
theorem collapsed_window_unbalanced : ¬ ∀ (demo : JcFile) (inputs : Nat → FrameInput) (n : Nat),
    WellBracketed demo.program inputs n := by
  intro brackets
  have round := (brackets .quad (fun _ => { begins := false }) 1).rounds
    (JcFile.quad.program.callsAt (fun _ => { begins := false }) 0) (by simp [Program.framesUpTo])
  have broken : bracket.run .idle (JcFile.quad.program.callsAt (fun _ => { begins := false }) 0) = none := rfl
  rw [broken] at round
  cases round

end WakeAlpha.Demo
