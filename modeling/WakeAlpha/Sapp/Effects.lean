import Mathlib.Logic.Relation
import WakeAlpha.Sapp.Run
import WakeAlpha.Trace.Log

set_option autoImplicit false

namespace WakeAlpha.Sapp

open WakeAlpha.Trace
open Relation (ReflTransGen)

-- The fields that the handling of a message may change only in a few known ways.
structure Core where
  desc : SappDesc
  fullscreen : Bool
  firstFrame : Bool
  initCalled : Bool
  cleanupCalled : Bool
  inCreateWindow : Bool
  storedWindowRect : Rect

def SappState.core (s : SappState) : Core :=
  ⟨s.desc, s.fullscreen, s.firstFrame, s.initCalled, s.cleanupCalled, s.win32.inCreateWindow,
    s.win32.storedWindowRect⟩

def Obs.Quiet : Obs → Prop
  | .win32 (.createWindowExW _ _ _ _) => False
  | .win32 _ => True
  | .lresult _ => True
  | _ => False

structure Inert (w next : World) : Prop where
  core : next.sapp.core = w.sapp.core
  window : next.window = w.window
  trace : Extends Obs.Quiet w.trace next.trace

theorem inert_refl (w : World) : Inert w w := ⟨rfl, rfl, extends_refl _ _⟩

theorem inert_trans {a b c : World} (ab : Inert a b) (bc : Inert b c) : Inert a c :=
  ⟨bc.core.trans ab.core, bc.window.trans ab.window, extends_trans ab.trace bc.trace⟩

theorem inert_set {w : World} (next : World) (core : next.sapp.core = w.sapp.core)
    (window : next.window = w.window) (trace : next.trace = w.trace) : Inert w next :=
  ⟨core, window, trace ▸ extends_refl _ _⟩

theorem inert_log (w : World) (obs : Obs) (quiet : obs.Quiet) : Inert w (w.log obs) :=
  ⟨rfl, rfl, extends_single _ quiet⟩

theorem inert_note {w next : World} (same : Inert w next) (call : Win32Call)
    (quiet : (Obs.win32 call).Quiet) : Inert w (next.win32 call) :=
  inert_trans same (inert_log next _ quiet)

def initEntry (desc : SappDesc) (seen : SappState) : List Obs :=
  match desc.initCallee with
  | some target => [.called .init target seen]
  | none => []

-- Everything a message, a frame or a user callback can do between the creation of the window and
-- the cleanup. start is the whole of _sapp_call_init: no other entry but notes falls inside it.
inductive Effect (hook : FnPtr) : World → World → Prop where
  | inert (w next : World) (same : Inert w next) : Effect hook w next
  | moved (w : World) (rect : Rect) : Effect hook w { w with window := { w.window with rect := rect } }
  | hooked (w : World) (msg : Msg) (installed : hook ≠ 0) :
      Effect hook w (w.log (.wndprocCb hook msg w.sapp))
  | event (w : World) (event : SappEvent) (target : Callee) (started : w.sapp.initCalled = true)
      (running : w.sapp.cleanupCalled = false) : Effect hook w (w.log (.called (.event event) target w.sapp))
  | frame (w : World) (target : Callee) (started : w.sapp.initCalled = true)
      (running : w.sapp.cleanupCalled = false) : Effect hook w (w.log (.called .frame target w.sapp))
  | start (w next : World) (seen : SappState) (notes : List Obs) (first : w.sapp.firstFrame = true)
      (core : next.sapp.core = { w.sapp.core with firstFrame := false, initCalled := true })
      (window : next.window = w.window) (quiet : ∀ obs ∈ notes, obs.Quiet)
      (trace : next.trace = w.trace ++ initEntry w.sapp.desc seen ++ notes ++ [.initReturned]) :
      Effect hook w next

abbrev Effects (hook : FnPtr) : World → World → Prop := ReflTransGen (Effect hook)

variable {hook : FnPtr}

theorem inert_effects {w next : World} (same : Inert w next) : Effects hook w next :=
  ReflTransGen.single (.inert w next same)

theorem set_effects {w : World} (next : World) (core : next.sapp.core = w.sapp.core)
    (window : next.window = w.window) (trace : next.trace = w.trace) : Effects hook w next :=
  inert_effects (inert_set next core window trace)

theorem note_effects (w : World) (call : Win32Call) (quiet : (Obs.win32 call).Quiet) :
    Effects hook w (w.win32 call) := inert_effects (inert_log w _ quiet)

theorem release_mouse_inert (mask : BitVec 8) (w : World) : Inert w (sappWin32ReleaseMouse mask w) := by
  unfold sappWin32ReleaseMouse
  by_cases free : w.sapp.win32.mouseCaptureMask = 0
  · simpa only [if_pos free] using inert_refl w
  · have cleared : Inert w (w.setCaptureMask (w.sapp.win32.mouseCaptureMask &&& ~~~mask)) :=
      inert_set _ rfl rfl rfl
    simp only [if_neg free]
    split
    · exact inert_note cleared _ trivial
    · exact cleared

theorem capture_mouse_inert (mask : BitVec 8) (w : World) : Inert w (sappWin32CaptureMouse mask w) := by
  unfold sappWin32CaptureMouse
  dsimp only
  split
  · exact inert_trans (inert_note (inert_refl w) .setCapture trivial) (inert_set _ rfl rfl rfl)
  · exact inert_set _ rfl rfl rfl

theorem lock_mouse_inert (lock : Bool) (w : World) : Inert w (sappWin32LockMouse lock w) := by
  unfold sappWin32LockMouse
  by_cases same : lock = w.sapp.mouse.locked
  · simpa only [if_pos same] using inert_refl w
  · have set (valid : Bool) : Inert w (w.setLocked lock valid) := inert_set _ rfl rfl rfl
    have freed (valid : Bool) : Inert w (sappWin32ReleaseMouse 0xFF (w.setLocked lock valid)) :=
      inert_trans (set valid) (release_mouse_inert _ _)
    simp only [if_neg same]
    split
    · refine inert_note (inert_note (inert_note (freed _) _ ?_) _ ?_) _ ?_ <;> trivial
    · refine inert_note (inert_note (inert_note (inert_note (freed _) _ ?_) _ ?_) _ ?_) _ ?_ <;> trivial

theorem api_call_inert (w : World) (call : ApiCall) : Inert w (apiCall w call) := by
  cases call with
  | quit => exact inert_set _ rfl rfl rfl
  | requestQuit => exact inert_set _ rfl rfl rfl
  | cancelQuit => exact inert_set _ rfl rfl rfl
  | consumeEvent => exact inert_set _ rfl rfl rfl
  | lockMouse lock => exact lock_mouse_inert lock w

theorem api_calls_inert (calls : List ApiCall) (w : World) : Inert w (calls.foldl apiCall w) := by
  induction calls generalizing w with
  | nil => exact inert_refl w
  | cons call rest ih => exact inert_trans (api_call_inert w call) (ih (apiCall w call))

theorem enter_effects {w : World} {obs : Obs} (calls : List ApiCall)
    (entered : Effect hook w (w.log obs)) : Effects hook w (w.enter obs calls) :=
  (ReflTransGen.single entered).tail (.inert _ _ (api_calls_inert calls _))

theorem call_event_effects (event : SappEvent) (calls : List ApiCall) (w : World)
    (started : w.sapp.initCalled = true) : Effects hook w (sappCallEvent event calls w).2 := by
  have called : Effects hook w
      (if w.sapp.cleanupCalled then w else w.callApp (.event event) w.sapp.desc.eventCallee calls) := by
    split
    · exact ReflTransGen.refl
    · rename_i running
      unfold World.callApp
      split
      · exact enter_effects calls (.event w event _ started (by simpa using running))
      · exact ReflTransGen.refl
  exact called.trans (set_effects _ rfl rfl rfl)

theorem api_calls_core (calls : List ApiCall) (w : World) :
    (calls.foldl apiCall w).sapp.core = w.sapp.core := (api_calls_inert calls w).core

theorem call_event_core (event : SappEvent) (calls : List ApiCall) (w : World) :
    (sappCallEvent event calls w).2.sapp.core = w.sapp.core := by
  change (if w.sapp.cleanupCalled then w
    else w.callApp (.event event) w.sapp.desc.eventCallee calls).sapp.core = w.sapp.core
  split
  · rfl
  · unfold World.callApp
    split
    · exact api_calls_core calls _
    · rfl

theorem call_event_started (event : SappEvent) (calls : List ApiCall) (w : World)
    (started : w.sapp.initCalled = true) : (sappCallEvent event calls w).2.sapp.initCalled = true :=
  (congrArg Core.initCalled (call_event_core event calls w)).trans started

theorem app_event_effects (reply : EventReply) (type : EventType) (w : World) :
    Effects hook w (sappWin32AppEvent reply type w) := by
  unfold sappWin32AppEvent
  split
  · rename_i enabled
    refine call_event_effects _ _ w ?_
    simp only [sappEventsEnabled, Bool.and_eq_true] at enabled
    exact enabled.2
  · exact ReflTransGen.refl

theorem call_init_effect (calls : List ApiCall) (w : World) (first : w.sapp.firstFrame = true) :
    Effect hook w (sappCallInit calls (w.setFirstFrame false)) := by
  cases target : w.sapp.desc.initCallee with
  | none =>
      have shape : sappCallInit calls (w.setFirstFrame false) =
          ((w.setFirstFrame false).log .initReturned).setInitCalled := by
        simp only [sappCallInit, World.callApp, World.setFirstFrame, target]
      rw [shape]
      refine .start w _ w.sapp [] first rfl rfl (by simp) ?_
      simp [initEntry, target, World.setFirstFrame, World.log, World.setInitCalled]
  | some callee =>
      have calm := api_calls_inert calls
        ((w.setFirstFrame false).log (.called .init callee (w.setFirstFrame false).sapp))
      obtain ⟨notes, grown, quiet⟩ := calm.trace
      refine .start w _ (w.setFirstFrame false).sapp notes first ?_ ?_ quiet ?_
      · have core := calm.core
        simp only [sappCallInit, World.callApp, World.setFirstFrame, World.log, World.setInitCalled,
          World.enter, SappState.core, target, Core.mk.injEq] at core ⊢
        simp [core]
      · have window := calm.window
        simp only [sappCallInit, World.callApp, World.setFirstFrame, World.log, World.setInitCalled,
          World.enter, target] at window ⊢
        exact window
      · simp only [sappCallInit, World.callApp, World.setFirstFrame, World.log, World.setInitCalled,
          World.enter, target, initEntry] at grown ⊢
        rw [grown]

theorem call_frame_effects (calls : List ApiCall) (w : World) :
    Effects hook w (sappCallFrame calls w) := by
  unfold sappCallFrame
  split
  · rename_i live
    simp only [Bool.and_eq_true, Bool.not_eq_true'] at live
    unfold World.callApp
    split
    · exact enter_effects calls (.frame w _ live.1 live.2)
    · exact ReflTransGen.refl
  · exact ReflTransGen.refl

theorem frame_effects (reply : FrameReply) (w : World) : Effects hook w (sappFrame reply w) := by
  have started : Effects hook w
      (if w.sapp.firstFrame then sappCallInit reply.init (w.setFirstFrame false) else w) := by
    split
    · rename_i first
      exact ReflTransGen.single (call_init_effect reply.init w first)
    · exact ReflTransGen.refl
  exact (started.trans (call_frame_effects reply.frame _)).trans (set_effects _ rfl rfl rfl)

theorem order_quit_effects (reply : EventReply) (w : World) : Effects hook w (orderQuit reply w) := by
  unfold orderQuit
  split
  · exact ReflTransGen.refl
  · have asked : Effects hook w w.setQuitRequested := set_effects _ rfl rfl rfl
    have told := asked.trans (app_event_effects reply .quitRequested _)
    dsimp only
    split
    · exact told.trans (set_effects _ rfl rfl rfl)
    · exact told

theorem close_effects (reply : EventReply) (w : World) : Effects hook w (wmClose reply w) := by
  have ordered : Effects hook w (orderQuit reply w) := order_quit_effects reply w
  unfold wmClose
  dsimp only
  split
  · exact ordered.trans (note_effects _ .postQuitMessage trivial)
  · exact ordered

theorem dpi_changed_effects (dpi : Option Nat) (proposed : Rect) (w : World) :
    Effects hook w (sappWin32DpiChanged dpi proposed w) := by
  cases dpi with
  | none => exact ReflTransGen.refl
  | some dpix =>
      have unshown (style : Dword) : shownStyle style (swpNozorder ||| swpNoactivate) = style := by
        simp [shownStyle, swpNozorder, swpNoactivate, swpShowwindow, swpHidewindow]
      have scaled : Effects hook w (w.setDpiScale (dpix / 96)) := set_effects _ rfl rfl rfl
      refine (scaled.trans (note_effects _ (.setWindowPos proposed.left proposed.top
        proposed.width proposed.height (swpNozorder ||| swpNoactivate)) trivial)).tail ?_
      simp only [sappWin32DpiChanged, setWindowPos, unshown]
      exact .moved _ _

theorem key_down_effects (reply : EventReply) (vk : Nat) (pasteChord : Bool) (w : World) :
    Effects hook w (sappWin32KeyDown reply vk pasteChord w) := by
  unfold sappWin32KeyDown
  split
  · rename_i enabled
    have started : w.sapp.initCalled = true := by
      simp only [sappEventsEnabled, Bool.and_eq_true] at enabled
      exact enabled.1.2
    have pressed : Effects hook w (sappCallEvent (sappInitEvent .keyDown w.sapp) (reply .keyDown) w).2 :=
      call_event_effects _ _ w started
    dsimp only
    split
    · exact pressed.trans (call_event_effects _ _ _ (call_event_started _ _ w started))
    · exact pressed
  · exact ReflTransGen.refl

theorem switch_effects (d : Delivery) (w : World) : Effects hook w (wndprocSwitch d w).2 := by
  unfold wndprocSwitch
  cases d.msg with
  | close => exact close_effects _ _
  | sysCommand wParam => exact ReflTransGen.refl
  | eraseBkgnd => exact ReflTransGen.refl
  | size minimized =>
      have marked : Effects hook w (w.setIconified minimized) := set_effects _ rfl rfl rfl
      dsimp only [wmSize]
      split
      · exact marked.trans (app_event_effects _ _ _)
      · exact ReflTransGen.refl
  | setFocus => exact app_event_effects _ _ _
  | killFocus =>
      dsimp only [wmKillFocus]
      split
      · exact (inert_effects (lock_mouse_inert false w)).trans (app_event_effects _ _ _)
      · exact app_event_effects _ _ _
  | setCursor hitClient => exact ReflTransGen.refl
  | dpiChanged dpi proposed => exact dpi_changed_effects _ _ _
  | buttonDown button =>
      exact (app_event_effects _ _ _).trans (inert_effects (capture_mouse_inert _ _))
  | buttonUp button =>
      exact (app_event_effects _ _ _).trans (inert_effects (release_mouse_inert _ _))
  | mouseMove =>
      have tracked : Effects hook w (w.setMouseTracked true) := set_effects _ rfl rfl rfl
      dsimp only [wmMouseMove]
      split
      · exact ReflTransGen.refl
      · split
        · exact app_event_effects _ _ _
        · exact (tracked.trans (app_event_effects _ _ _)).trans (app_event_effects _ _ _)
  | input absolute =>
      dsimp only [wmInput]
      split
      · cases absolute with
        | none => exact ReflTransGen.refl
        | some absolute =>
            have known (valid : Bool) : Effects hook w (w.setRawInputValid valid) :=
              set_effects _ rfl rfl rfl
            exact (known _).trans (app_event_effects _ _ _)
      · exact ReflTransGen.refl
  | mouseLeave =>
      have left : Effects hook w (w.setMouseTracked false) := set_effects _ rfl rfl rfl
      dsimp only [wmMouseLeave]
      split
      · exact ReflTransGen.refl
      · exact left.trans (app_event_effects _ _ _)
  | mouseWheel => exact app_event_effects _ _ _
  | mouseHWheel => exact app_event_effects _ _ _
  | char code =>
      dsimp only
      split
      · exact app_event_effects _ _ _
      · exact ReflTransGen.refl
  | keyDown vk pasteChord => exact key_down_effects _ _ _ _
  | keyUp vk =>
      dsimp only
      split
      · exact app_event_effects _ _ _
      · exact ReflTransGen.refl
  | enterSizeMove => exact note_effects _ _ trivial
  | exitSizeMove => exact note_effects _ _ trivial
  | timer => exact frame_effects _ _
  | ncLButtonDown hitCaption =>
      dsimp only
      split
      · exact note_effects _ _ trivial
      · exact ReflTransGen.refl
  | dropFiles pathsFit =>
      dsimp only [sappWin32FilesDropped]
      split
      · exact app_event_effects _ _ _
      · exact ReflTransGen.refl
  | displayChange => exact ReflTransGen.refl
  | destroy => exact ReflTransGen.refl
  | ncDestroy => exact ReflTransGen.refl
  | other message => exact ReflTransGen.refl

theorem wndproc_effects (d : Delivery) (w : World) : Effects hook w (sappWin32Wndproc hook d w).2 := by
  unfold sappWin32Wndproc
  split
  · exact ReflTransGen.refl
  · split
    · rename_i installed
      have seen : Effects hook w (w.enter (.wndprocCb hook d.msg w.sapp) d.hook.calls) :=
        enter_effects d.hook.calls (.hooked w d.msg installed)
      dsimp only
      split
      · exact seen
      · exact seen.trans (switch_effects d _)
    · exact switch_effects d w

theorem dispatch_effects (w : World) (d : Delivery) : Effects hook w (dispatch hook w d) :=
  (wndproc_effects d w).trans (inert_effects (inert_log _ _ trivial))

theorem dispatch_creating (hook : FnPtr) (ds : List Delivery) (w : World)
    (creating : w.sapp.win32.inCreateWindow = true) :
    Inert w (dispatchAll hook ds w) ∧ (dispatchAll hook ds w).sapp = w.sapp := by
  induction ds generalizing w with
  | nil => exact ⟨inert_refl w, rfl⟩
  | cons d rest ih =>
      have step : dispatch hook w d = w.log (.lresult .defWindowProcW) := by
        unfold dispatch sappWin32Wndproc
        rw [if_pos creating]
      have later := ih (w.log (.lresult .defWindowProcW)) creating
      change Inert w (dispatchAll hook rest (dispatch hook w d)) ∧
        (dispatchAll hook rest (dispatch hook w d)).sapp = w.sapp
      rw [step]
      exact ⟨inert_trans (inert_log w (.lresult .defWindowProcW) trivial) later.1, later.2⟩

theorem dispatch_all_effects (ds : List Delivery) (w : World) :
    Effects hook w (dispatchAll hook ds w) := by
  induction ds generalizing w with
  | nil => exact ReflTransGen.refl
  | cons d rest ih => exact (dispatch_effects w d).trans (ih (dispatch hook w d))

theorem pump_effects (queue : List Queued) (done : Bool) (w : World) :
    Effects hook w (pump hook queue done w).2 := by
  induction queue generalizing done w with
  | nil => exact ReflTransGen.refl
  | cons entry rest ih =>
      cases entry with
      | wmQuit => exact ih true w
      | message delivery => exact (dispatch_effects w delivery).trans (ih done (dispatch hook w delivery))

theorem update_dimensions_inert (client : Option Rect) (w : World) :
    Inert w (sappWin32UpdateDimensions client w).2 := by
  cases client with
  | none => exact inert_set _ rfl rfl rfl
  | some rect => exact inert_set _ rfl rfl rfl

-- The window right after CreateWindowExW: what it sends meanwhile reaches only DefWindowProcW.
structure Opened (exStyle style : Dword) (rect : Rect) (w next : World) : Prop where
  sapp : next.sapp = (w.setInCreateWindow false).sapp
  window : next.window = ⟨exStyle, style, rect⟩
  trace : ∃ nWidth nHeight, Extends Obs.Quiet
    (w.trace ++ [.win32 (.createWindowExW exStyle style nWidth nHeight)]) next.trace

theorem create_hwnd_opened (win : Win32) (hook : FnPtr) (exStyle style : Dword)
    (script : CreationScript) (w : World) :
    Opened exStyle style script.rect w (createHwnd win hook exStyle style script w) := by
  unfold createHwnd
  dsimp only
  generalize (if w.sapp.windowWidth = 0 then cwUsedefault else _) = nWidth
  generalize (if w.sapp.windowHeight = 0 then cwUsedefault else _) = nHeight
  obtain ⟨calm, same⟩ := dispatch_creating hook script.createSent
    (createWindowExW exStyle style nWidth nHeight script.rect (w.setInCreateWindow true)) rfl
  let outside (sapp : SappState) : SappState :=
    { sapp with win32 := { sapp.win32 with inCreateWindow := false } }
  have left := congrArg outside same
  exact ⟨left, calm.window, nWidth, nHeight, calm.trace⟩

structure Announced (fn : FnPtr) (w next : World) : Prop where
  core : next.sapp.core = w.sapp.core
  window : next.window = w.window
  trace : Extends Obs.Quiet
    (w.trace ++ if fn ≠ 0 then [.windowCreatedCb fn w.sapp] else []) next.trace

theorem window_created_announced (fn : FnPtr) (reply : HookReply) (w : World) :
    Announced fn w (callWindowCreated fn reply w) := by
  unfold callWindowCreated
  by_cases installed : fn ≠ 0
  · have calm := api_calls_inert reply.calls (w.log (.windowCreatedCb fn w.sapp))
    rw [if_pos installed]
    refine ⟨calm.core, calm.window, ?_⟩
    rw [if_pos installed]
    exact calm.trace
  · rw [if_neg installed]
    refine ⟨rfl, rfl, ?_⟩
    rw [if_neg installed, List.append_nil]
    exact extends_refl _ _

theorem report_resize_effects (it : Iteration) (w : World) : Effects hook w (reportResize it w) := by
  have measured : Effects hook w (sappWin32UpdateDimensions it.client w).2 :=
    inert_effects (update_dimensions_inert it.client w)
  unfold reportResize
  dsimp only
  split
  · exact measured.trans (app_event_effects _ _ _)
  · exact measured

theorem iteration_effects (it : Iteration) (done : Bool) (w : World) :
    Effects hook w (sappWin32Iteration hook it done w).2 := by
  have drawn : Effects hook w (sappFrame it.onFrame (pump hook it.queue done w).2) :=
    (pump_effects it.queue done w).trans (frame_effects it.onFrame _)
  have told := drawn.trans (report_resize_effects it _)
  unfold sappWin32Iteration
  dsimp only
  split
  · exact told.trans (note_effects _ .postMessageClose trivial)
  · exact told

-- Nothing but the first frame moves a flag, and it moves only these two.
theorem effect_core {w next : World} (effect : Effect hook w next) :
    next.sapp.core =
      { w.sapp.core with firstFrame := next.sapp.firstFrame, initCalled := next.sapp.initCalled } := by
  cases effect with
  | inert _ same =>
      have first := congrArg Core.firstFrame same.core
      have init := congrArg Core.initCalled same.core
      simp only [SappState.core] at first init
      rw [same.core, first, init]
      rfl
  | start _ _ _ _ core _ _ _ =>
      have first := congrArg Core.firstFrame core
      have init := congrArg Core.initCalled core
      simp only [SappState.core] at first init
      rw [core, first, init]
  | _ => rfl

theorem effect_init_called {w next : World} (effect : Effect hook w next)
    (started : w.sapp.initCalled = true) : next.sapp.initCalled = true := by
  cases effect with
  | inert _ same => exact (congrArg Core.initCalled same.core).trans started
  | start _ _ _ _ core _ _ _ => exact congrArg Core.initCalled core
  | _ => exact started

theorem effects_core {w next : World} (effects : Effects hook w next) :
    next.sapp.core =
      { w.sapp.core with firstFrame := next.sapp.firstFrame, initCalled := next.sapp.initCalled } := by
  induction effects with
  | refl => rfl
  | tail _ effect ih => rw [effect_core effect, ih]

theorem effects_init_called {w next : World} (effects : Effects hook w next)
    (started : w.sapp.initCalled = true) : next.sapp.initCalled = true := by
  induction effects with
  | refl => exact started
  | tail _ effect ih => exact effect_init_called effect ih

theorem effects_fullscreen {w next : World} (effects : Effects hook w next) :
    next.sapp.fullscreen = w.sapp.fullscreen ∧
      next.sapp.win32.storedWindowRect = w.sapp.win32.storedWindowRect :=
  ⟨congrArg Core.fullscreen (effects_core effects), congrArg Core.storedWindowRect (effects_core effects)⟩

theorem effects_style {w next : World} (effects : Effects hook w next) :
    next.window.style = w.window.style ∧ next.window.exStyle = w.window.exStyle := by
  induction effects with
  | refl => exact ⟨rfl, rfl⟩
  | tail _ effect ih =>
      cases effect with
      | inert _ same => rwa [same.window]
      | start _ _ _ _ _ window _ _ => rwa [window]
      | _ => exact ih

-- What a run logs once its window is created and announced.
def Obs.Routine (hook : FnPtr) : Obs → Prop
  | .windowCreatedCb _ _ => False
  | .wndprocCb fn _ _ => hook ≠ 0 ∧ fn = hook
  | _ => True

theorem routine_quiet (hook : FnPtr) (obs : Obs) (quiet : obs.Quiet) : obs.Routine hook := by
  cases obs with
  | windowCreatedCb fn seen => exact quiet.elim
  | wndprocCb fn msg seen => exact quiet.elim
  | _ => trivial

theorem effect_extends {w next : World} (effect : Effect hook w next) :
    Extends (Obs.Routine hook) w.trace next.trace := by
  cases effect with
  | inert _ same => exact extends_mono (routine_quiet hook) same.trace
  | moved rect => exact extends_refl _ _
  | hooked msg installed => exact extends_single _ ⟨installed, rfl⟩
  | event event target started running => exact extends_single _ trivial
  | frame target started running => exact extends_single _ trivial
  | start _ seen notes first core window quiet trace =>
      refine ⟨_, by simpa only [List.append_assoc] using trace, ?_⟩
      intro obs member
      rcases List.mem_append.mp member with entry | later
      · unfold initEntry at entry
        split at entry
        · rw [List.mem_singleton.mp entry]
          trivial
        · cases entry
      · rcases List.mem_append.mp later with note | returned
        · exact routine_quiet hook obs (quiet obs note)
        · rw [List.mem_singleton.mp returned]
          trivial

theorem effects_extend {w next : World} (effects : Effects hook w next) :
    Extends (Obs.Routine hook) w.trace next.trace := by
  induction effects with
  | refl => exact extends_refl _ _
  | tail _ effect ih => exact extends_trans ih (effect_extends effect)

theorem loop_effects (its : List Iteration) (done : Bool) (w last : World)
    (returned : sappWin32Loop hook its done w = some last) : Effects hook w last := by
  induction its generalizing done w with
  | nil =>
      unfold sappWin32Loop at returned
      split at returned
      · cases returned
        exact ReflTransGen.refl
      · cases returned
  | cons it rest ih =>
      unfold sappWin32Loop at returned
      split at returned
      · cases returned
        exact ReflTransGen.refl
      · exact (iteration_effects it done w).trans (ih _ _ returned)

theorem destroy_window_effects (script : RunScript) (w : World) :
    Effects hook w (sappWin32DestroyWindow hook script w) :=
  (note_effects w .destroyWindow trivial).trans (dispatch_all_effects _ _)

theorem call_cleanup_core (calls : List ApiCall) (w : World) :
    (sappCallCleanup calls w).sapp.core = { w.sapp.core with cleanupCalled := true } := by
  unfold sappCallCleanup
  split
  · rename_i closed
    simp [SappState.core, closed]
  · have called : (w.callApp .cleanup w.sapp.desc.cleanupCallee calls).sapp.core = w.sapp.core := by
      unfold World.callApp
      split
      · exact api_calls_core calls _
      · rfl
    simp only [SappState.core, World.setCleanupCalled, Core.mk.injEq] at called ⊢
    simp [called]

end WakeAlpha.Sapp
