import Mathlib.Algebra.Ring.Parity
import WakeAlpha.Demo.Main
import WakeAlpha.Sapp.Effects

set_option autoImplicit false

namespace WakeAlpha.Sapp

-- What happens to a window that is up: a call of sapp_toggle_fullscreen, the user moving or
-- resizing it, a message. What SetWindowLongPtr and SetWindowPos send follows as messages.
inductive WindowOp where
  | toggle (monitor : Rect)
  | move (rect : Rect)
  | message (delivery : Delivery)

def WindowOp.isToggle : WindowOp → Bool
  | .toggle _ => true
  | _ => false

def userMove (rect : Rect) (w : World) : World :=
  if w.sapp.fullscreen then w else { w with window := { w.window with rect := rect } }

def windowOp (win : Win32) (hook : FnPtr) (w : World) : WindowOp → World
  | .toggle monitor => sappWin32ToggleFullscreen win monitor id id w
  | .move rect => userMove rect w
  | .message delivery => dispatch hook w delivery

def windowOps (win : Win32) (hook : FnPtr) (ops : List WindowOp) (w : World) : World :=
  ops.foldl (windowOp win hook) w

def toggles (ops : List WindowOp) : Nat := ops.countP WindowOp.isToggle

def hidden (style : Dword) : Dword := style &&& ~~~wsVisible

-- Leaving fullscreen restores the window created with the given styles at the given rectangle.
structure Restores (win : Win32) (hook : FnPtr) (exStyle style : Dword) (rect : Rect) (w : World)
    (ops : List WindowOp) : Prop where
  styles : ∀ before after, ops = before ++ after → (windowOps win hook before w).sapp.fullscreen = false →
    hidden (windowOps win hook before w).window.style = hidden style ∧
      (windowOps win hook before w).window.exStyle = exStyle
  entered : ∀ before enter inside leave after,
    ops = before ++ .toggle enter :: inside ++ .toggle leave :: after →
    (∀ op ∈ inside, op.isToggle = false) → (windowOps win hook before w).sapp.fullscreen = false →
    (windowOps win hook (before ++ .toggle enter :: inside ++ [.toggle leave]) w).window.rect =
      (windowOps win hook before w).window.rect
  created : ∀ inside leave after, ops = inside ++ .toggle leave :: after →
    (∀ op ∈ inside, op.isToggle = false) → w.sapp.fullscreen = true →
    (windowOps win hook (inside ++ [.toggle leave]) w).window.rect = rect
  even : ∀ before (monitors : List Rect) after, ops = before ++ monitors.map .toggle ++ after → Even monitors.length →
    (windowOps win hook before w).sapp.fullscreen = false →
    (windowOps win hook (before ++ monitors.map .toggle) w).sapp.fullscreen = false ∧
      (windowOps win hook (before ++ monitors.map .toggle) w).window =
        (windowOps win hook before w).window

-- What the toggle is for: rect is where the window is, or will be again, while windowed.
structure Desk where
  fullscreen : Bool
  rect : Rect
deriving DecidableEq, Repr

def Desk.toggle (desk : Desk) : Desk := { desk with fullscreen := !desk.fullscreen }

def Desk.move (rect : Rect) (desk : Desk) : Desk := if desk.fullscreen then desk else { desk with rect := rect }

theorem toggle_involutive : Function.Involutive Desk.toggle := by
  intro desk
  simp [Desk.toggle]

-- While fullscreen the desk's rectangle is the stored one, while windowed the window's own.
structure Shows (w : World) (desk : Desk) : Prop where
  flag : w.sapp.fullscreen = desk.fullscreen
  place : (if desk.fullscreen then w.sapp.win32.storedWindowRect else w.window.rect) = desk.rect

theorem toggle_shows (win : Win32) (monitor : Rect) {w : World} {desk : Desk} (shows : Shows w desk) :
    Shows (sappWin32ToggleFullscreen win monitor id id w) desk.toggle := by
  obtain ⟨flag, place⟩ := shows
  unfold sappWin32ToggleFullscreen sappWin32SetFullscreen
  cases full : desk.fullscreen with
  | false =>
      rw [full] at flag place
      refine ⟨?_, ?_⟩
      · simp [setWindowPos, setWindowLongPtrStyle, World.storeFullscreen, Desk.toggle, full, flag]
      · simpa [setWindowPos, setWindowLongPtrStyle, World.storeFullscreen, Desk.toggle, full, flag] using place
  | true =>
      rw [full] at flag place
      simp only [if_true] at place
      refine ⟨?_, ?_⟩
      · simp [setWindowPos, setWindowLongPtrStyle, World.storeFullscreen, Desk.toggle, full, flag]
      · simp [setWindowPos, setWindowLongPtrStyle, World.storeFullscreen, Desk.toggle, full, flag, place,
          Rect.width, Rect.height]

theorem user_move_shows (rect : Rect) {w : World} {desk : Desk} (shows : Shows w desk) :
    Shows (userMove rect w) (desk.move rect) := by
  obtain ⟨flag, place⟩ := shows
  unfold userMove Desk.move
  cases full : desk.fullscreen with
  | false =>
      rw [full] at flag
      simp only [flag, Bool.false_eq_true, if_false]
      exact ⟨flag, by simp⟩
  | true =>
      rw [full] at flag
      simp only [flag, if_true]
      exact ⟨flag.trans full.symm, place⟩

theorem effects_show {hook : FnPtr} {w next : World} {desk : Desk} (effects : Effects hook w next)
    (shows : Shows w desk) : Shows next (desk.move next.window.rect) := by
  obtain ⟨flag, stored⟩ := effects_fullscreen effects
  have place := shows.place
  unfold Desk.move
  cases full : desk.fullscreen with
  | false =>
      simp only [Bool.false_eq_true, if_false]
      exact ⟨(flag.trans shows.flag).trans full, by simp⟩
  | true =>
      simp only [if_true]
      refine ⟨flag.trans shows.flag, ?_⟩
      rw [full] at place ⊢
      exact stored.trans place

theorem inside_shows (win : Win32) (hook : FnPtr) (inside : List WindowOp) {w : World} {desk : Desk}
    (shows : Shows w desk) (full : desk.fullscreen = true) (still : ∀ op ∈ inside, op.isToggle = false) :
    Shows (windowOps win hook inside w) desk := by
  induction inside generalizing w with
  | nil => exact shows
  | cons op rest ih =>
      have kept (rect : Rect) : desk.move rect = desk := if_pos full
      apply ih _ fun later member => still later (by simp [member])
      cases op with
      | toggle monitor => cases still _ List.mem_cons_self
      | move rect => exact kept rect ▸ user_move_shows rect shows
      | message delivery => exact kept _ ▸ effects_show (dispatch_effects w delivery) shows

theorem toggles_show (win : Win32) (hook : FnPtr) (monitors : List Rect) {w : World} {desk : Desk}
    (shows : Shows w desk) :
    Shows (windowOps win hook (monitors.map .toggle) w) (Desk.toggle^[monitors.length] desk) := by
  induction monitors generalizing w desk with
  | nil => exact shows
  | cons monitor rest ih => exact ih (toggle_shows win monitor shows)

-- The style of a window that has been toggled n times since it was created.
structure Styled (exStyle style : Dword) (n : Nat) (w : World) : Prop where
  exStyle : w.window.exStyle = exStyle
  windowed : w.sapp.fullscreen = false →
    w.window.style = (if n = 0 then style else windowedStyle) ||| wsVisible

theorem toggle_flag (win : Win32) (monitor : Rect) (w : World) :
    (sappWin32ToggleFullscreen win monitor id id w).sapp.fullscreen = !w.sapp.fullscreen := rfl

theorem toggle_styled (win : Win32) (monitor : Rect) {exStyle style : Dword} {n : Nat} {w : World}
    (styled : Styled exStyle style n w) :
    Styled exStyle style (n + 1) (sappWin32ToggleFullscreen win monitor id id w) := by
  refine ⟨styled.exStyle, ?_⟩
  intro windowed
  rw [toggle_flag, Bool.not_eq_false'] at windowed
  have shown : shownStyle windowedStyle (swpShowwindow ||| swpFramechanged) = windowedStyle ||| wsVisible := by
    decide
  simpa [sappWin32ToggleFullscreen, sappWin32SetFullscreen, setWindowPos, setWindowLongPtrStyle, windowed]
    using shown

theorem effects_styled {hook : FnPtr} {exStyle style : Dword} {n : Nat} {w next : World}
    (effects : Effects hook w next) (styled : Styled exStyle style n w) : Styled exStyle style n next := by
  obtain ⟨sameStyle, sameExStyle⟩ := effects_style effects
  refine ⟨sameExStyle.trans styled.exStyle, ?_⟩
  intro windowed
  rw [sameStyle]
  exact styled.windowed ((effects_fullscreen effects).1.symm.trans windowed)

theorem user_move_flag (rect : Rect) (w : World) : (userMove rect w).sapp = w.sapp := by
  unfold userMove
  by_cases full : w.sapp.fullscreen = true
  · rw [if_pos full]
  · rw [if_neg full]

theorem user_move_styled (rect : Rect) {exStyle style : Dword} {n : Nat} {w : World}
    (styled : Styled exStyle style n w) : Styled exStyle style n (userMove rect w) := by
  unfold userMove
  by_cases full : w.sapp.fullscreen = true
  · rw [if_pos full]
    exact styled
  · rw [if_neg full]
    exact ⟨styled.exStyle, styled.windowed⟩

theorem toggles_cons (op : WindowOp) (rest : List WindowOp) :
    toggles (op :: rest) = (if op.isToggle then 1 else 0) + toggles rest := by
  rw [toggles, List.countP_cons, Nat.add_comm]
  rfl

theorem ops_styled (win : Win32) (hook : FnPtr) (ops : List WindowOp) {exStyle style : Dword} {n : Nat}
    {w : World} (styled : Styled exStyle style n w) :
    Styled exStyle style (n + toggles ops) (windowOps win hook ops w) := by
  induction ops generalizing n w with
  | nil => exact styled
  | cons op rest ih =>
      rw [toggles_cons, ← Nat.add_assoc]
      apply ih
      cases op with
      | toggle monitor => exact toggle_styled win monitor styled
      | move rect => exact user_move_styled rect styled
      | message delivery => exact effects_styled (dispatch_effects w delivery) styled

theorem odd_succ (n : Nat) : decide ((n + 1) % 2 = 1) = !decide (n % 2 = 1) := by
  rcases Nat.mod_two_eq_zero_or_one n with even | odd
  · have next : (n + 1) % 2 = 1 := by omega
    simp [even, next]
  · have next : (n + 1) % 2 = 0 := by omega
    simp [odd, next]

theorem ops_flag (win : Win32) (hook : FnPtr) (ops : List WindowOp) (w : World) :
    (windowOps win hook ops w).sapp.fullscreen = (w.sapp.fullscreen ^^ decide (toggles ops % 2 = 1)) := by
  induction ops generalizing w with
  | nil => simp [windowOps, toggles]
  | cons op rest ih =>
      change (windowOps win hook rest (windowOp win hook w op)).sapp.fullscreen = _
      rw [ih, toggles_cons]
      cases op with
      | toggle monitor =>
          change ((!w.sapp.fullscreen) ^^ _) = (w.sapp.fullscreen ^^ decide ((1 + toggles rest) % 2 = 1))
          rw [Nat.add_comm, odd_succ, Bool.not_xor, Bool.xor_not]
      | move rect => simp [WindowOp.isToggle, windowOp, user_move_flag]
      | message delivery =>
          have told : Effects hook w (dispatch hook w delivery) := dispatch_effects w delivery
          simp [WindowOp.isToggle, windowOp, (effects_fullscreen told).1]

-- The window as _sapp_win32_create_window leaves it before ShowWindow.
structure Placed (exStyle style : Dword) (rect : Rect) (fullscreen : Bool) (w : World) : Prop where
  exStyle : w.window.exStyle = exStyle
  flag : w.sapp.fullscreen = fullscreen
  windowed : fullscreen = false → w.window.style = style
  stored : fullscreen = true → w.sapp.win32.storedWindowRect = rect

theorem enter_fullscreen_placed (win : Win32) (hook : FnPtr) (script : CreationScript) (w : World) :
    Placed w.window.exStyle w.window.style w.window.rect w.sapp.fullscreen
      (enterFullscreen win hook script w) := by
  unfold enterFullscreen
  by_cases full : w.sapp.fullscreen = true
  · rw [if_pos full]
    let styled := setWindowLongPtrStyle fullscreenStyle (w.storeFullscreen true w.window.rect)
    let sent := dispatchAll hook script.styleSent styled
    have first : Effects hook styled sent := dispatch_all_effects _ _
    have later (x y cx cy : Int) (flags : Dword) : Effects hook (setWindowPos x y cx cy flags sent)
        (sappWin32UpdateDimensions script.fullscreenClient
          (dispatchAll hook script.posSent (setWindowPos x y cx cy flags sent))).2 :=
      (dispatch_all_effects script.posSent _).trans (inert_effects (update_dimensions_inert _ _))
    refine ⟨?_, ?_, ?_, ?_⟩
    · exact (effects_style (later _ _ _ _ _)).2.trans (effects_style first).2
    · exact ((effects_fullscreen (later _ _ _ _ _)).1.trans (effects_fullscreen first).1).trans full.symm
    · intro windowed
      rw [full] at windowed
      cases windowed
    · intro _
      exact (effects_fullscreen (later _ _ _ _ _)).2.trans (effects_fullscreen first).2
  · rw [if_neg full]
    exact ⟨rfl, rfl, fun _ => rfl, fun entered => (full entered).elim⟩

theorem setup_window (win : Win32) (g : PatchGlobals) (desc : SappDesc) (script : RunScript)
    (old : SappState) :
    Styled (createWindowExStyle g) (createWindowStyle g) 0 (sappWin32Setup win g desc script old) ∧
      (sappWin32Setup win g desc script old).sapp.fullscreen = desc.fullscreen ∧
      (desc.fullscreen = true →
        (sappWin32Setup win g desc script old).sapp.win32.storedWindowRect = script.creation.rect) := by
  let start : World := { sapp := sappWin32InitDpi win (sappInitState desc old) }
  let announced := callWindowCreated g.winCreatedCb script.creation.created (createHwnd win
    g.win32WndprocCb (createWindowExStyle g) (createWindowStyle g) script.creation start)
  let measured := (sappWin32UpdateDimensions script.creation.client announced).2
  let placed := enterFullscreen win g.win32WndprocCb script.creation measured
  have opens := create_hwnd_opened win g.win32WndprocCb (createWindowExStyle g) (createWindowStyle g)
    script.creation start
  have announces : Announced g.winCreatedCb _ announced := window_created_announced _ _ _
  have same := update_dimensions_inert script.creation.client announced
  have measuredFlag : measured.sapp.fullscreen = desc.fullscreen :=
    ((congrArg Core.fullscreen same.core).trans (congrArg Core.fullscreen announces.core)).trans
      (congrArg SappState.fullscreen opens.sapp)
  have measuredWindow : measured.window = _ := (same.window.trans announces.window).trans opens.window
  have place := enter_fullscreen_placed win g.win32WndprocCb script.creation measured
  rw [measuredWindow, measuredFlag] at place
  have shown : Effects g.win32WndprocCb (showWindow placed) (sappWin32Setup win g desc script old) :=
    (((dispatch_all_effects script.creation.showSent _).trans (note_effects _ .dragAcceptFiles trivial)).trans
      (dispatch_all_effects script.creation.setupSent _)).trans (set_effects _ rfl rfl rfl)
  obtain ⟨style, exStyle⟩ := effects_style shown
  obtain ⟨final, stored⟩ := effects_fullscreen shown
  refine ⟨⟨exStyle.trans place.exStyle, ?_⟩, final.trans place.flag, fun full => stored.trans (place.stored full)⟩
  intro windowed
  have created : placed.window.style = createWindowStyle g :=
    place.windowed (place.flag.symm.trans (final.symm.trans windowed))
  rw [style, if_pos rfl, ← created]
  rfl

theorem windowOps_append (win : Win32) (hook : FnPtr) (first second : List WindowOp) (w : World) :
    windowOps win hook (first ++ second) w = windowOps win hook second (windowOps win hook first w) :=
  List.foldl_append

theorem hidden_visible (style : Dword) : hidden (style ||| wsVisible) = hidden style := by
  unfold hidden
  ext i
  simp only [BitVec.getElem_and, BitVec.getElem_or, BitVec.getElem_not]
  cases style[i] <;> cases wsVisible[i] <;> rfl

theorem hidden_eq_iff (a b : Dword) : hidden a = hidden b ↔ a ||| wsVisible = b ||| wsVisible := by
  constructor
  · intro same
    ext i
    have bit := congrArg (fun x : Dword => x[i]) same
    simp only [hidden, BitVec.getElem_and, BitVec.getElem_or, BitVec.getElem_not] at bit ⊢
    revert bit
    cases a[i] <;> cases b[i] <;> cases wsVisible[i] <;> decide
  · intro same
    rw [← hidden_visible a, same, hidden_visible]

theorem toggles_split (ops : List WindowOp) (n : Nat) (enough : n ≤ toggles ops) :
    ∃ before after, ops = before ++ after ∧ toggles before = n := by
  induction ops generalizing n with
  | nil => exact ⟨[], [], rfl, by simp [toggles] at enough ⊢; omega⟩
  | cons op rest ih =>
      rw [toggles_cons] at enough
      by_cases zero : n = 0
      · exact ⟨[], op :: rest, rfl, by simp [toggles, zero]⟩
      · cases flag : op.isToggle with
        | true =>
            rw [flag, if_pos rfl] at enough
            obtain ⟨before, after, rfl, count⟩ := ih (n - 1) (by omega)
            refine ⟨op :: before, after, rfl, ?_⟩
            rw [toggles_cons, count, flag, if_pos rfl]
            omega
        | false =>
            rw [flag, if_neg Bool.false_ne_true] at enough
            obtain ⟨before, after, rfl, count⟩ := ih n (by omega)
            refine ⟨op :: before, after, rfl, ?_⟩
            rw [toggles_cons, count, flag, if_neg Bool.false_ne_true]
            omega

-- How many toggles bring a window created fullscreen, or windowed, back to windowed.
def returnToggles (fullscreen : Bool) : Nat := if fullscreen then 1 else 2

theorem windowed_toggles (win : Win32) (hook : FnPtr) (ops : List WindowOp) (w : World)
    (windowed : (windowOps win hook ops w).sapp.fullscreen = false) :
    (toggles ops = 0 ∧ w.sapp.fullscreen = false) ∨ returnToggles w.sapp.fullscreen ≤ toggles ops := by
  rw [ops_flag] at windowed
  unfold returnToggles
  cases full : w.sapp.fullscreen with
  | true =>
      simp only [full, Bool.true_xor, Bool.not_eq_false', decide_eq_true_eq] at windowed
      refine .inr ?_
      rw [if_pos rfl]
      omega
  | false =>
      simp only [full, Bool.false_xor, decide_eq_false_iff_not] at windowed
      by_cases none : toggles ops = 0
      · exact .inl ⟨none, rfl⟩
      · refine .inr ?_
        rw [if_neg Bool.false_ne_true]
        omega

section Run

variable (win : Win32) (hook : FnPtr) {exStyle style : Dword} {w : World}

theorem windowed_style (styled : Styled exStyle style 0 w) (ops : List WindowOp)
    (agrees : hidden style = hidden windowedStyle ∨ toggles ops < returnToggles w.sapp.fullscreen)
    (windowed : (windowOps win hook ops w).sapp.fullscreen = false) :
    (windowOps win hook ops w).window.style = style ||| wsVisible := by
  have later := (ops_styled win hook ops styled).windowed windowed
  rw [Nat.zero_add] at later
  rcases windowed_toggles win hook ops w windowed with ⟨none, -⟩ | returned
  · rw [later, if_pos none]
  · rcases agrees with same | few
    · rw [later]
      split
      · rfl
      · exact ((hidden_eq_iff _ _).mp same).symm
    · omega

theorem entered_rect (windowed : w.sapp.fullscreen = false) (enter : Rect) (inside : List WindowOp)
    (leave : Rect) (still : ∀ op ∈ inside, op.isToggle = false) :
    (windowOps win hook (.toggle enter :: inside ++ [.toggle leave]) w).window.rect = w.window.rect := by
  have shows : Shows w ⟨false, w.window.rect⟩ := ⟨windowed, rfl⟩
  have entered := toggle_shows win enter shows
  have stayed := inside_shows win hook inside entered rfl still
  have left := toggle_shows win leave stayed
  rw [List.cons_append, ← List.singleton_append, windowOps_append, windowOps_append]
  exact left.place

theorem created_rect (rect leave : Rect) (inside : List WindowOp) (full : w.sapp.fullscreen = true)
    (stored : w.sapp.win32.storedWindowRect = rect) (still : ∀ op ∈ inside, op.isToggle = false) :
    (windowOps win hook (inside ++ [.toggle leave]) w).window.rect = rect := by
  have shows : Shows w ⟨true, rect⟩ := ⟨full, stored⟩
  rw [windowOps_append]
  exact (toggle_shows win leave (inside_shows win hook inside shows rfl still)).place

theorem even_toggles_rect (monitors : List Rect) (even : Even monitors.length)
    (windowed : w.sapp.fullscreen = false) :
    (windowOps win hook (monitors.map .toggle) w).sapp.fullscreen = false ∧
      (windowOps win hook (monitors.map .toggle) w).window.rect = w.window.rect := by
  have shows : Shows w ⟨false, w.window.rect⟩ := ⟨windowed, rfl⟩
  have after := toggles_show win hook monitors shows
  rw [toggle_involutive.iterate_even even] at after
  exact ⟨after.flag, after.place⟩

end Run

theorem restores_of_agrees (win : Win32) (hook : FnPtr) {exStyle style : Dword} {rect : Rect} {w : World}
    (ops : List WindowOp) (styled : Styled exStyle style 0 w)
    (stored : w.sapp.fullscreen = true → w.sapp.win32.storedWindowRect = rect)
    (agrees : hidden style = hidden windowedStyle ∨ toggles ops < returnToggles w.sapp.fullscreen) :
    Restores win hook exStyle style rect w ops := by
  have agreesAt (before after : List WindowOp) (eq : ops = before ++ after) :
      hidden style = hidden windowedStyle ∨ toggles before < returnToggles w.sapp.fullscreen := by
    rcases agrees with same | few
    · exact .inl same
    · refine .inr ?_
      rw [eq, toggles, List.countP_append] at few
      unfold toggles
      omega
  refine ⟨?_, ?_, ?_, ?_⟩
  · intro before after eq windowed
    refine ⟨?_, (ops_styled win hook before styled).exStyle⟩
    rw [windowed_style win hook styled before (agreesAt before after eq) windowed, hidden_visible]
  · intro before enter inside leave after eq still windowed
    rw [List.append_assoc, windowOps_append]
    exact entered_rect win hook windowed enter inside leave still
  · intro inside leave after eq still full
    exact created_rect win hook rect leave inside full (stored full) still
  · intro before monitors after eq even windowed
    obtain ⟨flag, place⟩ := even_toggles_rect win hook monitors even windowed
    have late : (windowOps win hook (before ++ monitors.map .toggle) w).sapp.fullscreen = false := by
      rw [windowOps_append]
      exact flag
    refine ⟨late, ?_⟩
    have styleBefore := windowed_style win hook styled before
      (agreesAt before _ (by rw [eq, List.append_assoc])) windowed
    have styleAfter := windowed_style win hook styled (before ++ monitors.map .toggle)
      (agreesAt _ after eq) late
    have exBefore := (ops_styled win hook before styled).exStyle
    have exAfter := (ops_styled win hook (before ++ monitors.map .toggle) styled).exStyle
    have rectAfter : (windowOps win hook (before ++ monitors.map .toggle) w).window.rect =
        (windowOps win hook before w).window.rect := by
      rw [windowOps_append]
      exact place
    exact Window.ext (exAfter.trans exBefore.symm) (styleAfter.trans styleBefore.symm) rectAfter

-- Restoring works exactly when the created style is the one _sapp_win32_set_fullscreen has of its
-- own, up to WS_VISIBLE, or no toggle ever brings the window back to windowed.
theorem fullscreen_restores_iff (win : Win32) (g : PatchGlobals) (desc : SappDesc) (script : RunScript)
    (old : SappState) (ops : List WindowOp) :
    Restores win g.win32WndprocCb (createWindowExStyle g) (createWindowStyle g) script.creation.rect
        (sappWin32Setup win g desc script old) ops ↔
      hidden (createWindowStyle g) = hidden windowedStyle ∨ toggles ops < returnToggles desc.fullscreen := by
  obtain ⟨styled, flag, stored⟩ := setup_window win g desc script old
  rw [← flag]
  constructor
  · intro restores
    by_cases few : toggles ops < returnToggles (sappWin32Setup win g desc script old).sapp.fullscreen
    · exact .inr few
    · refine .inl ?_
      obtain ⟨before, after, eq, count⟩ := toggles_split ops
        (returnToggles (sappWin32Setup win g desc script old).sapp.fullscreen) (by omega)
      have windowed : (windowOps win g.win32WndprocCb before
          (sappWin32Setup win g desc script old)).sapp.fullscreen = false := by
        rw [ops_flag, count]
        cases (sappWin32Setup win g desc script old).sapp.fullscreen <;> rfl
      have restored := (restores.styles before after eq windowed).1
      have own := (ops_styled win g.win32WndprocCb before styled).windowed windowed
      have some : ¬ 0 + toggles before = 0 := by
        rw [count]
        unfold returnToggles
        split <;> omega
      rw [own, if_neg some, hidden_visible] at restored
      exact restored.symm
  · exact restores_of_agrees win g.win32WndprocCb ops styled (fun full => stored (flag.symm.trans full))

-- shadertoy.jc opens a WS_POPUP window in fullscreen; one Escape leaves it with a caption.
theorem shadertoy_window_gains_caption : ¬ ∀ (win : Win32) (g : PatchGlobals) (desc : SappDesc)
    (script : RunScript) (old : SappState) (ops : List WindowOp),
    Restores win g.win32WndprocCb (createWindowExStyle g) (createWindowStyle g) script.creation.rect
      (sappWin32Setup win g desc script old) ops := by
  intro restores
  have restored := restores plainWin32
    (wsappSetCreateWindowStyle Demo.overlayExStyle Demo.overlayStyle {})
    (Demo.shadertoyDesc ⟨1, 2, 3, 4⟩) { creation := { rect := ⟨0, 0, 1000, 900⟩ } } {}
    [.toggle ⟨0, 0, 1920, 1080⟩]
  have style := (restored.styles [.toggle ⟨0, 0, 1920, 1080⟩] [] rfl (by decide +kernel)).1
  revert style
  decide +kernel

end WakeAlpha.Sapp
