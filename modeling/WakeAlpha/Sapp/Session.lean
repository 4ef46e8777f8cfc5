import WakeAlpha.Demo.Main
import WakeAlpha.Sapp.Effects

set_option autoImplicit false

namespace WakeAlpha.Sapp

open WakeAlpha.Trace
open WakeAlpha.Demo (overlayExStyle overlayStyle)

def Setter.setsStyle : Setter → Bool
  | .createWindowStyle _ _ => true
  | _ => false

def Setter.setsCreated : Setter → Bool
  | .windowCreatedCb _ => true
  | _ => false

def Setter.setsWndproc : Setter → Bool
  | .win32WndprocCb _ => true
  | _ => false

-- What the setters of all earlier sessions left in the patch's statics.
def leftover (history : List Session) : PatchGlobals :=
  (history.flatMap Session.setters).foldl applySetter boot.globals

-- The session overrides each static it inherits, or inherits one with no effect.
structure Isolated (left : PatchGlobals) (setters : List Setter) : Prop where
  style : setters.any Setter.setsStyle = true ∨ createWindowExStyle left = createWindowExStyle boot.globals ∧
    createWindowStyle left = createWindowStyle boot.globals
  created : setters.any Setter.setsCreated = true ∨ left.winCreatedCb = 0
  wndproc : setters.any Setter.setsWndproc = true ∨ left.win32WndprocCb = 0

theorem setters_congr {α : Type} (view : PatchGlobals → α) (sets : Setter → Bool)
    (absorbs : ∀ setter, sets setter = true → ∀ a b, view (applySetter a setter) = view (applySetter b setter))
    (passes : ∀ setter, sets setter = false → ∀ g, view (applySetter g setter) = view g)
    (setters : List Setter) (a b : PatchGlobals) (same : setters.any sets = true ∨ view a = view b) :
    view (setters.foldl applySetter a) = view (setters.foldl applySetter b) := by
  induction setters generalizing a b with
  | nil => simpa using same
  | cons setter rest ih =>
      apply ih
      cases chosen : sets setter with
      | true => exact .inr (absorbs setter chosen a b)
      | false =>
          rw [passes setter chosen a, passes setter chosen b]
          simpa [chosen] using same

theorem setters_keep {α : Type} (view : PatchGlobals → α) (sets : Setter → Bool)
    (passes : ∀ setter, sets setter = false → ∀ g, view (applySetter g setter) = view g)
    (setters : List Setter) (g : PatchGlobals) (unset : setters.any sets = false) :
    view (setters.foldl applySetter g) = view g := by
  induction setters generalizing g with
  | nil => rfl
  | cons setter rest ih =>
      rw [List.any_cons, Bool.or_eq_false_iff] at unset
      rw [List.foldl_cons, ih _ unset.2, passes setter unset.1]

def PatchGlobals.styles (g : PatchGlobals) : Dword × Dword := (createWindowExStyle g, createWindowStyle g)

theorem style_absorbs (setter : Setter) (chosen : setter.setsStyle = true) (a b : PatchGlobals) :
    (applySetter a setter).styles = (applySetter b setter).styles := by
  cases setter with
  | createWindowStyle exStyle style => rfl
  | windowCreatedCb fn => cases chosen
  | win32WndprocCb fn => cases chosen

theorem style_passes (setter : Setter) (unset : setter.setsStyle = false) (g : PatchGlobals) :
    (applySetter g setter).styles = g.styles := by
  cases setter with
  | createWindowStyle exStyle style => cases unset
  | windowCreatedCb fn => rfl
  | win32WndprocCb fn => rfl

theorem created_absorbs (setter : Setter) (chosen : setter.setsCreated = true) (a b : PatchGlobals) :
    (applySetter a setter).winCreatedCb = (applySetter b setter).winCreatedCb := by
  cases setter with
  | createWindowStyle exStyle style => cases chosen
  | windowCreatedCb fn => rfl
  | win32WndprocCb fn => cases chosen

theorem created_passes (setter : Setter) (unset : setter.setsCreated = false) (g : PatchGlobals) :
    (applySetter g setter).winCreatedCb = g.winCreatedCb := by
  cases setter with
  | createWindowStyle exStyle style => rfl
  | windowCreatedCb fn => cases unset
  | win32WndprocCb fn => rfl

theorem wndproc_absorbs (setter : Setter) (chosen : setter.setsWndproc = true) (a b : PatchGlobals) :
    (applySetter a setter).win32WndprocCb = (applySetter b setter).win32WndprocCb := by
  cases setter with
  | createWindowStyle exStyle style => cases chosen
  | windowCreatedCb fn => cases chosen
  | win32WndprocCb fn => rfl

theorem wndproc_passes (setter : Setter) (unset : setter.setsWndproc = false) (g : PatchGlobals) :
    (applySetter g setter).win32WndprocCb = g.win32WndprocCb := by
  cases setter with
  | createWindowStyle exStyle style => rfl
  | windowCreatedCb fn => rfl
  | win32WndprocCb fn => cases unset

-- _sapp_init_state overwrites all that an earlier run and the trailing sapp_quit left in _sapp.
theorem run_ignores_old_state (win : Win32) (g : PatchGlobals) (desc : SappDesc) (script : RunScript)
    (old other : SappState) : sappWin32Run win g desc script old = sappWin32Run win g desc script other :=
  rfl

theorem run_globals_congr (win : Win32) {g other : PatchGlobals} (desc : SappDesc) (script : RunScript)
    (old : SappState) (styles : g.styles = other.styles) (created : g.winCreatedCb = other.winCreatedCb)
    (wndproc : g.win32WndprocCb = other.win32WndprocCb) :
    sappWin32Run win g desc script old = sappWin32Run win other desc script old := by
  simp only [PatchGlobals.styles, Prod.mk.injEq] at styles
  have same : sappWin32Setup win g desc script old = sappWin32Setup win other desc script old := by
    simp only [sappWin32Setup, sappWin32CreateWindow, styles.1, styles.2, created, wndproc]
  simp only [sappWin32Run, same, wndproc]

structure Onward (hook : FnPtr) (w next : World) : Prop where
  trace : Extends (Obs.Routine hook) w.trace next.trace
  inside : next.sapp.win32.inCreateWindow = w.sapp.win32.inCreateWindow

variable {hook : FnPtr}

theorem onward_trans {a b c : World} (ab : Onward hook a b) (bc : Onward hook b c) : Onward hook a c :=
  ⟨extends_trans ab.trace bc.trace, bc.inside.trans ab.inside⟩

theorem onward_set {w : World} (next : World) (trace : next.trace = w.trace)
    (inside : next.sapp.win32.inCreateWindow = w.sapp.win32.inCreateWindow) : Onward hook w next :=
  ⟨trace ▸ extends_refl _ _, inside⟩

theorem onward_log (w : World) (obs : Obs) (routine : obs.Routine hook) : Onward hook w (w.log obs) :=
  ⟨extends_single _ routine, rfl⟩

theorem onward_effects {w next : World} (effects : Effects hook w next) : Onward hook w next :=
  ⟨effects_extend effects, congrArg Core.inCreateWindow (effects_core effects)⟩

theorem set_fullscreen_onward (win : Win32) (fullscreen : Bool) (monitor : Rect) (flags : Dword)
    (styleSent posSent : List Delivery) (w : World) :
    Onward hook w (sappWin32SetFullscreen win fullscreen monitor flags (dispatchAll hook styleSent)
      (dispatchAll hook posSent) w) := by
  unfold sappWin32SetFullscreen
  dsimp only
  generalize (if fullscreen = true then w.window.rect else w.sapp.win32.storedWindowRect) = stored
  generalize (if fullscreen = true then fullscreenStyle else windowedStyle) = style
  generalize (if fullscreen = true then _ else stored) = rect
  have stores : Onward hook w (w.storeFullscreen fullscreen stored) := onward_set _ rfl rfl
  have styles : Onward hook (w.storeFullscreen fullscreen stored)
      (setWindowLongPtrStyle style (w.storeFullscreen fullscreen stored)) :=
    onward_trans (onward_log _ (.win32 (.setWindowLongPtrStyle style)) trivial) (onward_set _ rfl rfl)
  have styled := onward_trans (onward_trans stores styles)
    (onward_effects (dispatch_all_effects styleSent _))
  have places (x : World) : Onward hook x
      (setWindowPos rect.left rect.top rect.width rect.height (flags ||| swpFramechanged) x) :=
    onward_trans (onward_log _ (.win32 (.setWindowPos rect.left rect.top rect.width rect.height
      (flags ||| swpFramechanged))) trivial) (onward_set _ rfl rfl)
  exact onward_trans (onward_trans styled (places _)) (onward_effects (dispatch_all_effects posSent _))

theorem create_window_onward (win : Win32) (g : PatchGlobals) (script : CreationScript) (w : World) :
    Onward g.win32WndprocCb
      (callWindowCreated g.winCreatedCb script.created
        (createHwnd win g.win32WndprocCb (createWindowExStyle g) (createWindowStyle g) script w))
      (sappWin32CreateWindow win g script w) := by
  unfold sappWin32CreateWindow
  dsimp only
  generalize callWindowCreated g.winCreatedCb script.created _ = announced
  have measures (client : Option Rect) (x : World) :
      Onward g.win32WndprocCb x (sappWin32UpdateDimensions client x).2 :=
    onward_effects (inert_effects (update_dimensions_inert client x))
  have places (x : World) : Onward g.win32WndprocCb x (enterFullscreen win g.win32WndprocCb script x) := by
    unfold enterFullscreen
    by_cases full : x.sapp.fullscreen = true
    · rw [if_pos full]
      exact onward_trans (set_fullscreen_onward win true script.monitor swpHidewindow _ _ x) (measures _ _)
    · rw [if_neg full]
      exact onward_set _ rfl rfl
  have shows (x : World) : Onward g.win32WndprocCb x (showWindow x) :=
    onward_trans (onward_log _ (.win32 .showWindow) trivial) (onward_set _ rfl rfl)
  have placed := onward_trans (measures script.client announced) (places _)
  have shown := onward_trans (onward_trans placed (shows _))
    (onward_effects (dispatch_all_effects script.showSent _))
  exact onward_trans shown (onward_log _ (.win32 .dragAcceptFiles) trivial)

-- Where the patch's statics show in the trace of a run: the styles at CreateWindowExW, and the
-- two callbacks wherever they are called.
structure HookTrace (g : PatchGlobals) (trace : List Obs) : Prop where
  style : ∃ nWidth nHeight tail, trace =
    .win32 (.createWindowExW (createWindowExStyle g) (createWindowStyle g) nWidth nHeight) :: tail
  created : ∀ fn, (∃ seen, .windowCreatedCb fn seen ∈ trace) ↔ fn ≠ 0 ∧ fn = g.winCreatedCb
  wndproc : ∀ fn msg seen, .wndprocCb fn msg seen ∈ trace →
    g.win32WndprocCb ≠ 0 ∧ fn = g.win32WndprocCb

theorem hook_trace_extends {g : PatchGlobals} {old new : List Obs} (hooks : HookTrace g old)
    (grown : Extends (Obs.Routine g.win32WndprocCb) old new) : HookTrace g new := by
  refine ⟨?_, ?_, ?_⟩
  · obtain ⟨nWidth, nHeight, tail, head⟩ := hooks.style
    obtain ⟨later, eq, -⟩ := grown
    exact ⟨nWidth, nHeight, tail ++ later, by rw [eq, head, List.cons_append]⟩
  · intro fn
    rw [← hooks.created fn]
    constructor
    · rintro ⟨seen, member⟩
      exact ⟨seen, extends_reflects grown (fun routine => routine) member⟩
    · rintro ⟨seen, member⟩
      exact ⟨seen, extends_mem grown member⟩
  · intro fn msg seen member
    obtain ⟨later, rfl, routine⟩ := grown
    rcases List.mem_append.mp member with before | after
    · exact hooks.wndproc fn msg seen before
    · exact routine _ after

-- Before any message can reach the hook, the trace holds CreateWindowExW, at most one announcement
-- and notes.
theorem announced_hooks (g : PatchGlobals) {old opened next : World} {rect : Rect}
    (opens : Opened (createWindowExStyle g) (createWindowStyle g) rect old opened)
    (announced : Announced g.winCreatedCb opened next) (empty : old.trace = []) : HookTrace g next.trace := by
  obtain ⟨nWidth, nHeight, before, eq, quiet⟩ := opens.trace
  obtain ⟨notes, last, still⟩ := announced.trace
  rw [empty, List.nil_append] at eq
  rw [last, eq]
  have unhooked (obs : Obs) (loud : obs.Quiet → False)
      (member : obs ∈ [.win32 (.createWindowExW (createWindowExStyle g) (createWindowStyle g) nWidth nHeight)]
        ++ before ++ (if g.winCreatedCb ≠ 0 then [.windowCreatedCb g.winCreatedCb opened.sapp] else [])
        ++ notes) :
      obs = .win32 (.createWindowExW (createWindowExStyle g) (createWindowStyle g) nWidth nHeight) ∨
        g.winCreatedCb ≠ 0 ∧ obs = .windowCreatedCb g.winCreatedCb opened.sapp := by
    simp only [List.mem_append, List.mem_singleton] at member
    rcases member with ((first | early) | middle) | late
    · exact .inl first
    · exact (loud (quiet obs early)).elim
    · split at middle
      · rename_i installed
        exact .inr ⟨installed, List.mem_singleton.mp middle⟩
      · cases middle
    · exact (loud (still obs late)).elim
  refine ⟨⟨nWidth, nHeight, _, by rw [List.append_assoc, List.append_assoc]; rfl⟩, ?_, ?_⟩
  · intro fn
    constructor
    · rintro ⟨seen, member⟩
      rcases unhooked (.windowCreatedCb fn seen) id member with first | ⟨installed, middle⟩
      · cases first
      · cases middle
        exact ⟨installed, rfl⟩
    · rintro ⟨installed, rfl⟩
      refine ⟨opened.sapp, ?_⟩
      rw [if_pos installed]
      simp
  · intro fn msg seen member
    rcases unhooked (.wndprocCb fn msg seen) id member with first | ⟨-, middle⟩
    · cases first
    · cases middle

theorem setup_hooks (win : Win32) (g : PatchGlobals) (desc : SappDesc) (script : RunScript)
    (old : SappState) : HookTrace g (sappWin32Setup win g desc script old).trace ∧
      (sappWin32Setup win g desc script old).sapp.win32.inCreateWindow = false := by
  let start : World := { sapp := sappWin32InitDpi win (sappInitState desc old) }
  have opens := create_hwnd_opened win g.win32WndprocCb (createWindowExStyle g) (createWindowStyle g)
    script.creation start
  have announced := window_created_announced g.winCreatedCb script.creation.created
    (createHwnd win g.win32WndprocCb (createWindowExStyle g) (createWindowStyle g) script.creation start)
  have hooks := announced_hooks g opens announced rfl
  have inside := (congrArg Core.inCreateWindow announced.core).trans
    (congrArg (fun sapp => sapp.win32.inCreateWindow) opens.sapp)
  have later : Onward g.win32WndprocCb _ (sappWin32Setup win g desc script old) :=
    onward_trans (onward_trans (create_window_onward win g script.creation start)
      (onward_effects (dispatch_all_effects script.creation.setupSent _))) (onward_set _ rfl rfl)
  exact ⟨hook_trace_extends hooks later.trace, later.inside.trans inside⟩

theorem call_cleanup_onward (calls : List ApiCall) (w : World) :
    Onward hook w (sappCallCleanup calls w) := by
  refine ⟨?_, congrArg Core.inCreateWindow (call_cleanup_core calls w)⟩
  unfold sappCallCleanup
  split
  · exact extends_refl _ _
  · change Extends _ _ (w.callApp .cleanup w.sapp.desc.cleanupCallee calls).trace
    unfold World.callApp
    split
    · rename_i target _
      have called : Onward hook w (w.log (.called .cleanup target w.sapp)) := onward_log w _ trivial
      exact extends_trans called.trace (extends_mono (routine_quiet hook) (api_calls_inert calls _).trace)
    · exact extends_refl _ _

theorem dispatch_calls_hook (installed : hook ≠ 0) (d : Delivery) (w : World)
    (opened : w.sapp.win32.inCreateWindow = false) :
    .wndprocCb hook d.msg w.sapp ∈ (dispatch hook w d).trace := by
  have seen : .wndprocCb hook d.msg w.sapp ∈ (w.log (.wndprocCb hook d.msg w.sapp)).trace := by
    simp [World.log]
  have entered := extends_mem (api_calls_inert d.hook.calls _).trace seen
  have outside : ¬ w.sapp.win32.inCreateWindow = true := by simp [opened]
  have handled : .wndprocCb hook d.msg w.sapp ∈ (sappWin32Wndproc hook d w).2.trace := by
    unfold sappWin32Wndproc
    rw [if_neg outside, if_pos installed]
    dsimp only
    split
    · exact entered
    · have told : Effects hook (w.enter (.wndprocCb hook d.msg w.sapp) d.hook.calls) _ := switch_effects d _
      exact extends_mem (effects_extend told) entered
  exact List.mem_append_left _ handled

-- Every run ends with WM_DESTROY, so a hook that is installed is called.
theorem shutdown_calls_hook (installed : hook ≠ 0) (script : RunScript) (w : World)
    (opened : w.sapp.win32.inCreateWindow = false) :
    ∃ msg seen, .wndprocCb hook msg seen ∈ (sappWin32Shutdown hook script w).trace := by
  let closing := dispatchAll hook script.destroySent
    ((sappCallCleanup script.cleanup w).win32 .destroyWindow)
  have before : Onward hook w closing :=
    onward_trans (onward_trans (call_cleanup_onward script.cleanup w)
      (onward_log _ (.win32 .destroyWindow) trivial)) (onward_effects (dispatch_all_effects _ _))
  have called := dispatch_calls_hook installed { msg := .destroy, hook := script.onDestroy } closing
    (before.inside.trans opened)
  have after : Effects hook (dispatch hook closing { msg := .destroy, hook := script.onDestroy }) _ :=
    dispatch_effects _ { msg := .ncDestroy, hook := script.onNcDestroy }
  refine ⟨.destroy, closing.sapp, ?_⟩
  have shape : (sappWin32Shutdown hook script w).trace =
      (dispatch hook (dispatch hook closing { msg := .destroy, hook := script.onDestroy })
        { msg := .ncDestroy, hook := script.onNcDestroy }).trace := by
    simp [sappWin32Shutdown, sappWin32DestroyWindow, RunScript.destroyDeliveries, World.discard, closing,
      dispatchAll]
  rw [shape]
  exact extends_mem (effects_extend after) called

theorem run_hooks (win : Win32) (g : PatchGlobals) (desc : SappDesc) (script : RunScript)
    (old : SappState) (w : World) (returned : sappWin32Run win g desc script old = some w) :
    HookTrace g w.trace ∧ (g.win32WndprocCb ≠ 0 →
      ∃ msg seen, .wndprocCb g.win32WndprocCb msg seen ∈ w.trace) := by
  obtain ⟨last, looped, rfl⟩ := Option.map_eq_some_iff.mp returned
  obtain ⟨hooks, opened⟩ := setup_hooks win g desc script old
  have looping := onward_effects (loop_effects _ _ _ _ looped)
  have closing : Onward g.win32WndprocCb last (sappWin32DestroyWindow g.win32WndprocCb script
      (sappCallCleanup script.cleanup last)) :=
    onward_trans (call_cleanup_onward script.cleanup last)
      (onward_effects (destroy_window_effects script _))
  exact ⟨hook_trace_extends hooks (onward_trans looping closing).trace,
    fun installed => shutdown_calls_hook installed script last (looping.inside.trans opened)⟩

theorem history_globals (history : List Session) (p left : Process)
    (ran : runHistory history p = some left) :
    left.globals = (history.flatMap Session.setters).foldl applySetter p.globals := by
  induction history generalizing p with
  | nil =>
      cases ran
      rfl
  | cons first rest ih =>
      simp only [runHistory, List.foldlM_cons, Option.bind_eq_bind, Option.bind_eq_some_iff] at ran
      obtain ⟨next, one, later⟩ := ran
      obtain ⟨⟨process, trace⟩, session, rfl⟩ := Option.map_eq_some_iff.mp one
      obtain ⟨w, -, eq⟩ := Option.map_eq_some_iff.mp session
      cases eq
      rw [ih _ later, List.flatMap_cons, List.foldl_append]

theorem behaviour_eq (session : Session) (p : Process) : behaviour session p =
    (sappWin32Run session.machine (session.setters.foldl applySetter p.globals) session.desc session.script
      p.sapp).map World.trace := by
  simp only [behaviour, runSession, Option.map_map]
  rfl

theorem isolated_behaviour (session : Session) (left : Process)
    (isolated : Isolated left.globals session.setters) :
    behaviour session left = behaviour session boot := by
  have styles := setters_congr PatchGlobals.styles Setter.setsStyle style_absorbs style_passes
    session.setters left.globals boot.globals
    (isolated.style.imp_right fun same => by simp only [PatchGlobals.styles, same.1, same.2])
  have created := setters_congr PatchGlobals.winCreatedCb Setter.setsCreated created_absorbs created_passes
    session.setters left.globals boot.globals isolated.created
  have wndproc := setters_congr PatchGlobals.win32WndprocCb Setter.setsWndproc wndproc_absorbs wndproc_passes
    session.setters left.globals boot.globals isolated.wndproc
  rw [behaviour_eq, behaviour_eq, run_globals_congr _ _ _ _ styles created wndproc,
    run_ignores_old_state _ _ _ _ left.sapp boot.sapp]

theorem behaviour_isolated (session : Session) (left : Process) (trace : List Obs)
    (after : behaviour session left = some trace) (alone : behaviour session boot = some trace) :
    Isolated left.globals session.setters := by
  rw [behaviour_eq] at after alone
  obtain ⟨w, ranAfter, rfl⟩ := Option.map_eq_some_iff.mp after
  obtain ⟨fresh, ranAlone, same⟩ := Option.map_eq_some_iff.mp alone
  obtain ⟨hooks, called⟩ := run_hooks _ _ _ _ _ w ranAfter
  obtain ⟨clean, -⟩ := run_hooks _ _ _ _ _ fresh ranAlone
  rw [same] at clean
  refine ⟨?_, ?_, ?_⟩
  · cases sets : session.setters.any Setter.setsStyle with
    | true => exact .inl rfl
    | false =>
        refine .inr ?_
        obtain ⟨_, _, _, head⟩ := hooks.style
        obtain ⟨_, _, _, cleanHead⟩ := clean.style
        rw [head] at cleanHead
        have keep := setters_keep PatchGlobals.styles _ style_passes session.setters left.globals sets
        have keepBoot := setters_keep PatchGlobals.styles _ style_passes session.setters boot.globals sets
        simp only [PatchGlobals.styles, Prod.mk.injEq] at keep keepBoot
        injection cleanHead with call
        injection call with call
        injection call with exStyle style
        exact ⟨(keep.1.symm.trans exStyle).trans keepBoot.1, (keep.2.symm.trans style).trans keepBoot.2⟩
  · cases sets : session.setters.any Setter.setsCreated with
    | true => exact .inl rfl
    | false =>
        refine .inr ?_
        have keep := setters_keep PatchGlobals.winCreatedCb _ created_passes session.setters left.globals sets
        have keepBoot := setters_keep PatchGlobals.winCreatedCb _ created_passes session.setters boot.globals sets
        by_cases inherits : left.globals.winCreatedCb = 0
        · exact inherits
        · have announced := (hooks.created left.globals.winCreatedCb).mpr ⟨inherits, keep.symm⟩
          have own := ((clean.created left.globals.winCreatedCb).mp announced).2
          exact own.trans keepBoot
  · cases sets : session.setters.any Setter.setsWndproc with
    | true => exact .inl rfl
    | false =>
        refine .inr ?_
        have keep := setters_keep PatchGlobals.win32WndprocCb _ wndproc_passes session.setters left.globals sets
        have keepBoot := setters_keep PatchGlobals.win32WndprocCb _ wndproc_passes session.setters boot.globals sets
        by_cases inherits : left.globals.win32WndprocCb = 0
        · exact inherits
        · rw [keep] at called
          obtain ⟨msg, seen, member⟩ := called inherits
          exact ((clean.wndproc _ msg seen member).2).trans keepBoot

inductive DemoMain : Session → Prop where
  | quad (image : Demo.Image) (machine : Win32) (script : RunScript) :
      DemoMain (Demo.quadMain image machine script)
  | shadertoy (image : Demo.Image) (machine : Win32) (script : RunScript) :
      DemoMain (Demo.shadertoyMain image machine script)
  | tot (image : Demo.Image) (machine : Win32) (script : RunScript) :
      DemoMain (Demo.totMain image machine script)

theorem demo_sets_no_hook {session : Session} (demo : DemoMain session) :
    session.setters.any Setter.setsCreated = false ∧ session.setters.any Setter.setsWndproc = false := by
  cases demo with
  | quad image machine script => exact ⟨rfl, rfl⟩
  | shadertoy image machine script => exact ⟨rfl, rfl⟩
  | tot image machine script => exact ⟨rfl, rfl⟩

theorem demos_leave_no_hook (history : List Session) (demos : ∀ session ∈ history, DemoMain session) :
    (leftover history).winCreatedCb = 0 ∧ (leftover history).win32WndprocCb = 0 := by
  have created : (history.flatMap Session.setters).any Setter.setsCreated = false := by
    rw [List.any_flatMap, List.any_eq_false]
    intro session member
    rw [(demo_sets_no_hook (demos session member)).1]
    exact Bool.false_ne_true
  have wndproc : (history.flatMap Session.setters).any Setter.setsWndproc = false := by
    rw [List.any_flatMap, List.any_eq_false]
    intro session member
    rw [(demo_sets_no_hook (demos session member)).2]
    exact Bool.false_ne_true
  exact ⟨setters_keep PatchGlobals.winCreatedCb _ created_passes _ boot.globals created,
    setters_keep PatchGlobals.win32WndprocCb _ wndproc_passes _ boot.globals wndproc⟩

-- Among the demos only quad.jc can notice what ran before it: the other two set their styles.
theorem overlay_mains_isolated (history : List Session) (demos : ∀ session ∈ history, DemoMain session)
    (left : Process) (ran : runHistory history boot = some left) (image : Demo.Image) (machine : Win32)
    (script : RunScript) :
    behaviour (Demo.shadertoyMain image machine script) left =
        behaviour (Demo.shadertoyMain image machine script) boot ∧
      behaviour (Demo.totMain image machine script) left =
        behaviour (Demo.totMain image machine script) boot := by
  have inherited : left.globals = leftover history := history_globals history boot left ran
  obtain ⟨created, wndproc⟩ := demos_leave_no_hook history demos
  rw [← inherited] at created wndproc
  exact ⟨isolated_behaviour _ left ⟨.inl rfl, .inr created, .inr wndproc⟩,
    isolated_behaviour _ left ⟨.inl rfl, .inr created, .inr wndproc⟩⟩

-- A session behaves as the first of its process exactly when it overrides every static that an
-- earlier one left set. Nothing of _sapp itself comes through.
theorem session_isolated_iff (history : List Session) (next : Session) (left : Process)
    (ran : runHistory history boot = some left) (ends : (behaviour next boot).isSome = true) :
    behaviour next left = behaviour next boot ↔ Isolated (leftover history) next.setters := by
  have inherited : left.globals = leftover history := history_globals history boot left ran
  rw [← inherited]
  constructor
  · intro same
    obtain ⟨trace, alone⟩ := Option.isSome_iff_exists.mp ends
    exact behaviour_isolated next left trace (same.trans alone) alone
  · exact isolated_behaviour next left

def sampleImage : Demo.Image := ⟨1, 2, 3, 4⟩

def quitAtFirstFrame : RunScript where
  creation := { rect := ⟨0, 0, 800, 600⟩ }
  iterations := [{ onFrame := { frame := [.quit] } }]

def shadertoySession : Session := Demo.shadertoyMain sampleImage plainWin32 quitAtFirstFrame
def quadSession : Session := Demo.quadMain sampleImage plainWin32 quitAtFirstFrame

theorem session_isolated_shadertoy_twice : ∃ left, runHistory [shadertoySession] boot = some left ∧
    (behaviour shadertoySession left = behaviour shadertoySession boot ↔
      Isolated (leftover [shadertoySession]) shadertoySession.setters) := by
  have ran : (runHistory [shadertoySession] boot).isSome = true := by decide +kernel
  obtain ⟨left, eq⟩ := Option.isSome_iff_exists.mp ran
  exact ⟨left, eq, session_isolated_iff [shadertoySession] shadertoySession left eq (by decide +kernel)⟩

-- After shadertoy.jc, quad.jc, which sets no style, opens its window with the overlay styles.
theorem quad_after_shadertoy_differs : ¬ ∀ (history : List Session) (next : Session) (left : Process),
    runHistory history boot = some left → (behaviour next boot).isSome = true →
    behaviour next left = behaviour next boot := by
  intro isolated
  have ran : (runHistory [shadertoySession] boot).isSome = true := by decide +kernel
  obtain ⟨left, eq⟩ := Option.isSome_iff_exists.mp ran
  have same := isolated [shadertoySession] quadSession left eq (by decide +kernel)
  have inherits : (runHistory [shadertoySession] boot).map (fun p => (behaviour quadSession p).map List.head?) =
      some (some (some (.win32 (.createWindowExW overlayExStyle overlayStyle 800 10)))) := by decide +kernel
  have alone : (behaviour quadSession boot).map List.head? =
      some (some (.win32 (.createWindowExW wsExNoredirectionbitmap createDefaultStyle 800 10))) := by
    decide +kernel
  rw [eq, Option.map_some, Option.some.injEq, same, alone] at inherits
  revert inherits
  decide

end WakeAlpha.Sapp
