import WakeAlpha.Sapp.Lifecycle

set_option autoImplicit false

namespace WakeAlpha.Sapp

open WakeAlpha.Trace

-- The hook lets the message through to the switch: it is absent or answers -1.
def Delivery.reachesSwitch (hook : FnPtr) (d : Delivery) : Bool := decide (hook = 0 ∨ d.hook.ret = -1)

-- What one message does to an application that has not been initialized: it runs the first frame,
-- or orders the quit through the hook's own call or through a WM_CLOSE nobody can cancel yet.
def Delivery.runsFrame (hook : FnPtr) (d : Delivery) : Bool :=
  d.reachesSwitch hook && decide (d.msg = .timer)

def Delivery.ordersQuit (hook : FnPtr) (d : Delivery) : Bool :=
  decide (hook ≠ 0 ∧ ApiCall.quit ∈ d.hook.calls) || (d.reachesSwitch hook && decide (d.msg = .close))

-- The messages that reach the window procedure between CreateWindowExW and the main loop.
def CreationScript.sent (script : CreationScript) (fullscreen : Bool) : List Delivery :=
  (if fullscreen then script.styleSent ++ script.posSent else []) ++ script.showSent ++ script.setupSent

def CreationScript.createdQuits (script : CreationScript) (created : FnPtr) : Bool :=
  decide (created ≠ 0 ∧ ApiCall.quit ∈ script.created.calls)

def CreationScript.ordersQuit (script : CreationScript) (g : PatchGlobals) (fullscreen : Bool) : Bool :=
  script.createdQuits g.winCreatedCb || (script.sent fullscreen).any (Delivery.ordersQuit g.win32WndprocCb)

def CreationScript.runsFrame (script : CreationScript) (g : PatchGlobals) (fullscreen : Bool) : Bool :=
  (script.sent fullscreen).any (Delivery.runsFrame g.win32WndprocCb)

def SappState.quitFlags (s : SappState) : Bool × Bool := (s.initCalled, s.quitOrdered)

theorem release_mouse_flags (mask : BitVec 8) (w : World) :
    (sappWin32ReleaseMouse mask w).sapp.quitFlags = w.sapp.quitFlags := by
  unfold sappWin32ReleaseMouse
  dsimp only
  split
  · rfl
  · split <;> rfl

theorem capture_mouse_flags (mask : BitVec 8) (w : World) :
    (sappWin32CaptureMouse mask w).sapp.quitFlags = w.sapp.quitFlags := by
  unfold sappWin32CaptureMouse
  dsimp only
  split <;> rfl

theorem lock_mouse_flags (lock : Bool) (w : World) :
    (sappWin32LockMouse lock w).sapp.quitFlags = w.sapp.quitFlags := by
  unfold sappWin32LockMouse
  by_cases same : lock = w.sapp.mouse.locked
  · rw [if_pos same]
  · rw [if_neg same]
    cases lock with
    | true => exact release_mouse_flags 0xFF (w.setLocked true false)
    | false => exact release_mouse_flags 0xFF (w.setLocked false w.sapp.win32.rawInputMouseposValid)

theorem api_call_flags (w : World) (call : ApiCall) : (apiCall w call).sapp.quitFlags =
    (w.sapp.initCalled, w.sapp.quitOrdered || decide (call = .quit)) := by
  cases call with
  | lockMouse lock => simpa [apiCall, SappState.quitFlags] using lock_mouse_flags lock w
  | _ => simp [apiCall, SappState.quitFlags, sappQuit, sappRequestQuit, sappCancelQuit, sappConsumeEvent]

theorem api_calls_flags (calls : List ApiCall) (w : World) : (calls.foldl apiCall w).sapp.quitFlags =
    (w.sapp.initCalled, w.sapp.quitOrdered || decide (ApiCall.quit ∈ calls)) := by
  induction calls generalizing w with
  | nil => simp [SappState.quitFlags]
  | cons call rest ih =>
      have one := api_call_flags w call
      simp only [SappState.quitFlags, Prod.mk.injEq] at one
      rw [List.foldl_cons, ih, one.1, one.2]
      simp [Bool.or_assoc, eq_comm]

theorem app_event_disabled (reply : EventReply) (type : EventType) (w : World)
    (notYet : w.sapp.initCalled = false) : sappWin32AppEvent reply type w = w := by
  simp [sappWin32AppEvent, sappEventsEnabled, notYet]

theorem close_orders_quit (reply : EventReply) (w : World) (notYet : w.sapp.initCalled = false) :
    (wmClose reply w).sapp.quitFlags = (false, true) := by
  have ordered : (orderQuit reply w).sapp.quitFlags = (false, true) := by
    unfold orderQuit
    split
    · rename_i already
      simp [SappState.quitFlags, notYet, already]
    · rw [app_event_disabled reply .quitRequested w.setQuitRequested notYet]
      simp [SappState.quitFlags, World.setQuitRequested, World.setQuitOrdered, notYet]
  have posted : (orderQuit reply w).sapp.quitOrdered = true := congrArg Prod.snd ordered
  unfold wmClose
  dsimp only
  rw [if_pos posted]
  exact ordered

-- Before init_cb has returned no message but WM_TIMER calls the application, and none but
-- WM_CLOSE orders the quit.
theorem switch_idle (d : Delivery) (w : World) (notYet : w.sapp.initCalled = false)
    (noTimer : d.msg ≠ .timer) : (wndprocSwitch d w).2.sapp.quitFlags =
      (false, w.sapp.quitOrdered || decide (d.msg = .close)) := by
  have still : w.sapp.quitFlags = (false, w.sapp.quitOrdered) := by simp [SappState.quitFlags, notYet]
  have quiet (type : EventType) : sappWin32AppEvent d.onEvent type w = w :=
    app_event_disabled _ _ w notYet
  unfold wndprocSwitch
  cases message : d.msg with
  | close => simpa using close_orders_quit d.onEvent w notYet
  | timer => exact False.elim (noTimer message)
  | size minimized =>
      simp only [wmSize, reduceCtorEq, decide_false, Bool.or_false]
      split
      · rw [app_event_disabled _ _ (w.setIconified minimized) notYet]
        exact still
      · exact still
  | killFocus =>
      simp only [wmKillFocus, reduceCtorEq, decide_false, Bool.or_false]
      split
      · have unlocked := (lock_mouse_flags false w).trans still
        rw [app_event_disabled _ _ _ (congrArg Prod.fst unlocked)]
        exact unlocked
      · rw [quiet]
        exact still
  | dpiChanged dpi proposed =>
      simp only [reduceCtorEq, decide_false, Bool.or_false]
      cases dpi with
      | none => exact still
      | some dpix => exact still
  | buttonDown button =>
      simpa only [quiet, capture_mouse_flags, reduceCtorEq, decide_false, Bool.or_false] using still
  | buttonUp button =>
      simpa only [quiet, release_mouse_flags, reduceCtorEq, decide_false, Bool.or_false] using still
  | mouseMove =>
      simp only [wmMouseMove, reduceCtorEq, decide_false, Bool.or_false]
      split
      · exact still
      · split
        · rw [quiet]
          exact still
        · rw [app_event_disabled _ _ (w.setMouseTracked true) notYet,
            app_event_disabled _ _ (w.setMouseTracked true) notYet]
          exact still
  | input absolute =>
      simp only [wmInput, reduceCtorEq, decide_false, Bool.or_false]
      split
      · cases absolute with
        | none => exact still
        | some absolute =>
            have same (valid : Bool) : sappWin32AppEvent d.onEvent .mouseMove (w.setRawInputValid valid) =
                w.setRawInputValid valid := app_event_disabled _ _ (w.setRawInputValid valid) notYet
            simp only [same]
            exact still
      · exact still
  | mouseLeave =>
      simp only [wmMouseLeave, reduceCtorEq, decide_false, Bool.or_false]
      split
      · exact still
      · rw [app_event_disabled _ _ (w.setMouseTracked false) notYet]
        exact still
  | keyDown vk pasteChord => simpa [sappWin32KeyDown, sappEventsEnabled, notYet] using still
  | dropFiles pathsFit => simpa [sappWin32FilesDropped, quiet] using still
  | enterSizeMove => simpa using still
  | exitSizeMove => simpa using still
  | ncLButtonDown hitCaption => cases hitCaption <;> simpa using still
  | _ => simpa [quiet] using still

-- Where the flags stand after some messages: quit and frames sum up what the messages did.
structure Booting (quit frames : Bool) (w : World) : Prop where
  tracks : Tracks w
  running : w.sapp.cleanupCalled = false
  opened : w.sapp.win32.inCreateWindow = false
  started : w.sapp.initCalled = frames
  ordered : frames = false → w.sapp.quitOrdered = quit

theorem booting_same {quit frames : Bool} {w : World} (next : World) (booting : Booting quit frames w)
    (core : next.sapp.core = w.sapp.core) (same : marks next.trace = marks w.trace)
    (ordered : next.sapp.quitOrdered = w.sapp.quitOrdered) : Booting quit frames next where
  tracks := tracks_same booting.tracks core same
  running := (congrArg Core.cleanupCalled core).trans booting.running
  opened := (congrArg Core.inCreateWindow core).trans booting.opened
  started := (congrArg Core.initCalled core).trans booting.started
  ordered notYet := ordered.trans (booting.ordered notYet)

theorem booting_log {quit frames : Bool} {w : World} (booting : Booting quit frames w) (obs : Obs)
    (unmarked : obs.mark = none) : Booting quit frames (w.log obs) := by
  have same : marks (w.log obs).trace = marks w.trace := by
    rw [World.log, marks_append]
    simp [marks, unmarked]
  exact booting_same _ booting rfl same rfl

theorem booting_enter {quit frames : Bool} {w : World} (booting : Booting quit frames w) (obs : Obs)
    (calls : List ApiCall) (unmarked : obs.mark = none) :
    Booting (quit || decide (ApiCall.quit ∈ calls)) frames (w.enter obs calls) := by
  have logged := booting_log booting obs unmarked
  have calm := api_calls_inert calls (w.log obs)
  exact {
    tracks := tracks_inert logged.tracks calm
    running := (congrArg Core.cleanupCalled calm.core).trans logged.running
    opened := (congrArg Core.inCreateWindow calm.core).trans logged.opened
    started := (congrArg Core.initCalled calm.core).trans logged.started
    ordered := fun notYet => by
      have flags := congrArg Prod.snd (api_calls_flags calls (w.log obs))
      rw [logged.ordered notYet] at flags
      exact flags }

theorem frame_starts (reply : FrameReply) (w : World) (tracks : Tracks w) :
    (sappFrame reply w).sapp.initCalled = true := by
  have started : (if w.sapp.firstFrame then sappCallInit reply.init (w.setFirstFrame false)
      else w).sapp.initCalled = true := by
    by_cases first : w.sapp.firstFrame = true
    · rw [if_pos first]
      rfl
    · rw [if_neg first]
      have known := tracks.firstFrame
      simpa [first] using known
  have drawn : Effects 0 _ (sappFrame reply w) :=
    (call_frame_effects reply.frame _).trans (set_effects _ rfl rfl rfl)
  exact effects_init_called drawn started

theorem switch_booting {quit frames : Bool} (d : Delivery) {w : World} (booting : Booting quit frames w) :
    Booting (quit || decide (d.msg = .close)) (frames || decide (d.msg = .timer)) (wndprocSwitch d w).2 := by
  have effects : Effects 0 w (wndprocSwitch d w).2 := switch_effects d w
  have core := effects_core effects
  have idle (notYet : frames = false) (noTimer : d.msg ≠ .timer) :=
    switch_idle d w (booting.started.trans notYet) noTimer
  have started : (wndprocSwitch d w).2.sapp.initCalled = (frames || decide (d.msg = .timer)) := by
    cases frames with
    | true => exact effects_init_called effects booting.started
    | false =>
        by_cases timer : d.msg = .timer
        · simpa [wndprocSwitch, timer] using frame_starts d.onFrame w booting.tracks
        · have flags : (wndprocSwitch d w).2.sapp.initCalled = false := congrArg Prod.fst (idle rfl timer)
          simpa only [timer, decide_false, Bool.or_false] using flags
  exact {
    tracks := tracks_effects effects booting.tracks
    running := (congrArg Core.cleanupCalled core).trans booting.running
    opened := (congrArg Core.inCreateWindow core).trans booting.opened
    started := started
    ordered := fun notYet => by
      simp only [Bool.or_eq_false_iff, decide_eq_false_iff_not] at notYet
      have flags := congrArg Prod.snd (idle notYet.1 notYet.2)
      rw [booting.ordered notYet.1] at flags
      exact flags }

theorem wndproc_booting {quit frames : Bool} (hook : FnPtr) (d : Delivery) {w : World}
    (booting : Booting quit frames w) :
    Booting (quit || d.ordersQuit hook) (frames || d.runsFrame hook) (sappWin32Wndproc hook d w).2 := by
  have opened : ¬ w.sapp.win32.inCreateWindow = true := by simp [booting.opened]
  unfold sappWin32Wndproc
  rw [if_neg opened]
  by_cases installed : hook ≠ 0
  · have seen := booting_enter booting (.wndprocCb hook d.msg w.sapp) d.hook.calls rfl
    rw [if_pos installed]
    by_cases swallowed : d.hook.ret ≠ -1
    · simpa [swallowed, Delivery.ordersQuit, Delivery.runsFrame, Delivery.reachesSwitch, installed]
        using seen
    · have told := switch_booting d seen
      rw [Decidable.not_not] at swallowed
      simpa [swallowed, Delivery.ordersQuit, Delivery.runsFrame, Delivery.reachesSwitch, installed,
        Bool.or_assoc] using told
  · rw [if_neg installed]
    rw [Decidable.not_not] at installed
    simpa [Delivery.ordersQuit, Delivery.runsFrame, Delivery.reachesSwitch, installed]
      using switch_booting d booting

theorem dispatch_all_booting (hook : FnPtr) (ds : List Delivery) {quit frames : Bool} {w : World}
    (booting : Booting quit frames w) :
    Booting (quit || ds.any (Delivery.ordersQuit hook)) (frames || ds.any (Delivery.runsFrame hook))
      (dispatchAll hook ds w) := by
  induction ds generalizing quit frames w with
  | nil =>
      rw [List.any_nil, List.any_nil, Bool.or_false, Bool.or_false]
      exact booting
  | cons d rest ih =>
      have one := booting_log (wndproc_booting hook d booting) (.lresult (sappWin32Wndproc hook d w).1) rfl
      rw [List.any_cons, List.any_cons, ← Bool.or_assoc, ← Bool.or_assoc]
      exact ih one

theorem opened_booting {exStyle style : Dword} {rect : Rect} {w next : World}
    (opened : Opened exStyle style rect w next) (booting : Booting false false w) :
    Booting false false next := by
  obtain ⟨nWidth, nHeight, grown⟩ := opened.trace
  have core : next.sapp.core = w.sapp.core := by
    rw [opened.sapp]
    simp [SappState.core, World.setInCreateWindow, booting.opened]
  have same : marks next.trace = marks w.trace := by
    rw [marks_quiet grown, marks_append]
    simp [marks, Obs.mark]
  have ordered := congrArg SappState.quitOrdered opened.sapp
  exact booting_same next booting core same ordered

theorem created_booting (fn : FnPtr) (script : CreationScript) {quit frames : Bool} {w : World}
    (booting : Booting quit frames w) :
    Booting (quit || script.createdQuits fn) frames (callWindowCreated fn script.created w) := by
  unfold callWindowCreated CreationScript.createdQuits
  by_cases installed : fn ≠ 0
  · simpa [installed] using booting_enter booting (.windowCreatedCb fn w.sapp) script.created.calls rfl
  · simpa [installed] using booting

theorem measured_booting (client : Option Rect) {quit frames : Bool} {w : World}
    (booting : Booting quit frames w) :
    Booting quit frames (sappWin32UpdateDimensions client w).2 := by
  cases client with
  | none => exact booting_same _ booting rfl rfl rfl
  | some rect => exact booting_same _ booting rfl rfl rfl

theorem set_fullscreen_booting (win : Win32) (hook : FnPtr) (script : CreationScript)
    {quit frames : Bool} {w : World} (booting : Booting quit frames w) :
    Booting (quit || (script.styleSent ++ script.posSent).any (Delivery.ordersQuit hook))
      (frames || (script.styleSent ++ script.posSent).any (Delivery.runsFrame hook))
      (sappWin32SetFullscreen win true script.monitor swpHidewindow (dispatchAll hook script.styleSent)
        (dispatchAll hook script.posSent) w) := by
  have stored : Booting quit frames (w.storeFullscreen true w.window.rect) := by
    obtain ⟨⟨accepted, firstFrame, order, installed⟩, running, opened, started, ordered⟩ := booting
    exact ⟨⟨accepted, firstFrame, order, installed⟩, running, opened, started, ordered⟩
  have styled := booting_log stored (.win32 (.setWindowLongPtrStyle fullscreenStyle)) rfl
  have restyled := dispatch_all_booting hook script.styleSent (booting_same
    (setWindowLongPtrStyle fullscreenStyle (w.storeFullscreen true w.window.rect)) styled rfl rfl rfl)
  unfold sappWin32SetFullscreen
  dsimp only
  rw [if_pos rfl, if_pos rfl, if_pos rfl]
  generalize win.adjustWindowRectEx _ fullscreenStyle wsExNoredirectionbitmap = rect
  generalize dispatchAll hook script.styleSent _ = sent at restyled
  have placed := booting_log restyled (.win32 (.setWindowPos rect.left rect.top rect.width rect.height
    (swpHidewindow ||| swpFramechanged))) rfl
  have final := dispatch_all_booting hook script.posSent (booting_same
    (setWindowPos rect.left rect.top rect.width rect.height (swpHidewindow ||| swpFramechanged) sent) placed
    rfl rfl rfl)
  simpa only [List.any_append, Bool.or_assoc] using final

theorem enter_fullscreen_booting (win : Win32) (hook : FnPtr) (script : CreationScript)
    (fullscreen : Bool) {quit : Bool} {w : World} (same : w.sapp.fullscreen = fullscreen)
    (booting : Booting quit false w) :
    Booting (quit || (if fullscreen then script.styleSent ++ script.posSent else []).any
        (Delivery.ordersQuit hook))
      ((if fullscreen then script.styleSent ++ script.posSent else []).any (Delivery.runsFrame hook))
      (enterFullscreen win hook script w) := by
  unfold enterFullscreen
  cases fullscreen with
  | false =>
      have windowed : ¬ w.sapp.fullscreen = true := by simp [same]
      rw [if_neg windowed]
      simpa only [Bool.false_eq_true, if_false, List.any_nil, Bool.or_false] using booting
  | true =>
      rw [if_pos same, if_pos rfl]
      simpa using measured_booting script.fullscreenClient (set_fullscreen_booting win hook script booting)

theorem show_booting {quit frames : Bool} {w : World} (booting : Booting quit frames w) :
    Booting quit frames (showWindow w) := by
  have logged := booting_log booting (.win32 .showWindow) rfl
  exact booting_same _ logged rfl rfl rfl

theorem setup_booting (win : Win32) (g : PatchGlobals) (desc : SappDesc) (script : RunScript)
    (old : SappState) (init : desc.initCallee.isSome = true) (cleanup : desc.cleanupCallee.isSome = true) :
    Booting (script.creation.ordersQuit g desc.fullscreen) (script.creation.runsFrame g desc.fullscreen)
      (sappWin32Setup win g desc script old) := by
  have start : Booting false false { sapp := sappWin32InitDpi win (sappInitState desc old) } :=
    ⟨⟨rfl, rfl, by simp [sappWin32InitDpi, sappInitState, SappState.cleared], init, cleanup⟩, rfl, rfl, rfl,
      fun _ => rfl⟩
  have opened := create_hwnd_opened win g.win32WndprocCb (createWindowExStyle g) (createWindowStyle g)
    script.creation { sapp := sappWin32InitDpi win (sappInitState desc old) }
  have announced := created_booting g.winCreatedCb script.creation (opened_booting opened start)
  have measured := measured_booting script.creation.client announced
  have full := ((congrArg Core.fullscreen (update_dimensions_inert script.creation.client _).core).trans
    (congrArg Core.fullscreen (window_created_announced g.winCreatedCb script.creation.created _).core)).trans
      (congrArg SappState.fullscreen opened.sapp)
  have placed := enter_fullscreen_booting win g.win32WndprocCb script.creation desc.fullscreen full measured
  have shown := dispatch_all_booting g.win32WndprocCb script.creation.showSent (show_booting placed)
  have final := dispatch_all_booting g.win32WndprocCb script.creation.setupSent
    (booting_log shown (.win32 .dragAcceptFiles) rfl)
  have valid := booting_same (World.setValid _) final rfl rfl rfl
  simp only [CreationScript.ordersQuit, CreationScript.runsFrame, CreationScript.sent, List.any_append,
    ← Bool.or_assoc]
  exact valid

theorem iteration_starts (hook : FnPtr) (it : Iteration) (done : Bool) (w : World) (tracks : Tracks w) :
    (sappWin32Iteration hook it done w).2.sapp.initCalled = true := by
  have pumped : Tracks (pump hook it.queue done w).2 := tracks_effects (pump_effects it.queue done w) tracks
  have reported : Effects hook (sappFrame it.onFrame (pump hook it.queue done w).2)
      (reportResize it (sappFrame it.onFrame (pump hook it.queue done w).2)) := report_resize_effects it _
  have told := effects_init_called reported (frame_starts it.onFrame _ pumped)
  unfold sappWin32Iteration
  dsimp only
  split
  · exact told
  · exact told

-- The loop runs the first frame unless it finds the quit ordered at once.
theorem loop_starts_iff (hook : FnPtr) (its : List Iteration) (w last : World) (tracks : Tracks w)
    (returned : sappWin32Loop hook its false w = some last) :
    last.sapp.initCalled = true ↔ w.sapp.initCalled = true ∨ w.sapp.quitOrdered = false := by
  cases its with
  | nil =>
      unfold sappWin32Loop at returned
      split at returned
      · rename_i ordered
        cases returned
        simp_all
      · cases returned
  | cons it rest =>
      unfold sappWin32Loop at returned
      split at returned
      · rename_i ordered
        cases returned
        simp_all
      · rename_i unordered
        have started := effects_init_called (loop_effects rest _ _ _ returned)
          (iteration_starts hook it false w tracks)
        simp_all

-- The lifecycle holds of a run exactly when no quit was ordered before the loop, or a WM_TIMER
-- had run the first frame by then.
theorem run_lifecycle_iff (win : Win32) (g : PatchGlobals) (desc : SappDesc) (script : RunScript)
    (old : SappState) (w : World) (init : desc.initCallee.isSome = true)
    (cleanup : desc.cleanupCallee.isSome = true)
    (returned : sappWin32Run win g desc script old = some w) :
    Lifecycle w.trace ↔ script.creation.ordersQuit g desc.fullscreen = false ∨
      script.creation.runsFrame g desc.fullscreen = true := by
  obtain ⟨last, looped, rfl⟩ := Option.map_eq_some_iff.mp returned
  have booted := setup_booting win g desc script old init cleanup
  have effects := loop_effects _ _ _ _ looped
  have running : last.sapp.cleanupCalled = false :=
    (congrArg Core.cleanupCalled (effects_core effects)).trans booted.running
  rw [shutdown_lifecycle_iff _ _ _ (tracks_effects effects booted.tracks) running,
    loop_starts_iff _ _ _ _ booted.tracks looped, booted.started]
  cases frames : script.creation.runsFrame g desc.fullscreen with
  | true => simp
  | false => simp [booted.ordered frames]

-- One frame, which asks to quit.
def oneFrameScript (created : HookReply) : RunScript where
  creation := { rect := ⟨0, 0, 800, 600⟩, created := created, client := some ⟨0, 0, 800, 600⟩ }
  iterations := [{ onFrame := { frame := [.quit] }, client := some ⟨0, 0, 800, 600⟩ }]

theorem run_lifecycle_one_frame : ∃ w,
    sappWin32Run plainWin32 { winCreatedCb := 5 } { initCb := 1, frameCb := 2, cleanupCb := 3, eventCb := 4 }
      (oneFrameScript {}) {} = some w ∧ (Lifecycle w.trace ↔
        (oneFrameScript {}).creation.ordersQuit { winCreatedCb := 5 } false = false ∨
          (oneFrameScript {}).creation.runsFrame { winCreatedCb := 5 } false = true) := by
  have ends : (sappWin32Run plainWin32 { winCreatedCb := 5 }
      { initCb := 1, frameCb := 2, cleanupCb := 3, eventCb := 4 } (oneFrameScript {}) {}).isSome = true := by
    decide +kernel
  obtain ⟨w, returned⟩ := Option.isSome_iff_exists.mp ends
  exact ⟨w, returned, run_lifecycle_iff _ _ _ _ _ w rfl rfl returned⟩

-- The callback of wsapp_set_window_created_cb calls sapp_quit: cleanup_cb runs without init_cb.
theorem created_quit_breaks_lifecycle : ¬ ∀ (win : Win32) (g : PatchGlobals) (desc : SappDesc)
    (script : RunScript) (old : SappState) (w : World), desc.initCallee.isSome = true →
    desc.cleanupCallee.isSome = true → sappWin32Run win g desc script old = some w →
    Lifecycle w.trace := by
  intro lifecycle
  have ends : (sappWin32Run plainWin32 { winCreatedCb := 5 }
      { initCb := 1, frameCb := 2, cleanupCb := 3, eventCb := 4 }
      (oneFrameScript { calls := [.quit] }) {}).isSome = true := by
    decide +kernel
  obtain ⟨w, returned⟩ := Option.isSome_iff_exists.mp ends
  have cleaned : (sappWin32Run plainWin32 { winCreatedCb := 5 }
      { initCb := 1, frameCb := 2, cleanupCb := 3, eventCb := 4 }
      (oneFrameScript { calls := [.quit] }) {}).map (fun w => marks w.trace) = some [.cleanup] := by
    decide +kernel
  rw [returned, Option.map_some, Option.some.injEq] at cleaned
  obtain ⟨calls, shape, -⟩ := lifecycle _ _ _ _ _ w rfl rfl returned
  rw [cleaned] at shape
  cases shape

end WakeAlpha.Sapp
