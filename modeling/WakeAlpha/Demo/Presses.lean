import WakeAlpha.Demo.Keyboard
import WakeAlpha.Sapp.Fullscreen
import WakeAlpha.Trace.Monitor

set_option autoImplicit false

namespace WakeAlpha.Demo

open WakeAlpha.Trace

-- keyDown is the first key-down of a press or an auto-repeat; poll is one call of reflect_keyboard.
inductive KeyEvent where
  | keyDown (vk : Nat)
  | keyUp (vk : Nat)
  | poll (monitor : Sapp.Rect)
deriving DecidableEq, Repr

structure Keys where
  keyboard : Keyboard := fun _ => {}
  on : Bool := false
  world : Sapp.World

def applyCall (win : Sapp.Win32) (monitor : Sapp.Rect) (w : Sapp.World) : LibCall → Sapp.World
  | .sappToggleFullscreen => Sapp.sappWin32ToggleFullscreen win monitor id id w
  | _ => w

def keyEvent (win : Sapp.Win32) (s : Keys) : KeyEvent → Keys × List LibCall
  | .keyDown vk => ({ s with keyboard := setKey vk ⟨true, true⟩ s.keyboard }, [])
  | .keyUp vk => ({ s with keyboard := setKey vk { s.keyboard vk with down := false } s.keyboard }, [])
  | .poll monitor =>
      let r := Shadertoy.reflectKeyboard getAsyncKeyState s.keyboard s.on
      (⟨r.source, r.on, r.calls.foldl (applyCall win monitor) s.world⟩, r.calls)

-- A physical press of Escape: whether it was polled, and the toggles it caused.
structure Press where
  polled : Bool
  toggles : Nat
deriving DecidableEq, Repr

structure Tally where
  held : Option Press := none
  released : List Press := []
  stray : Nat := 0

def Tally.presses (t : Tally) : List Press := t.released ++ t.held.toList

def Tally.step (t : Tally) (event : KeyEvent) (toggles : Nat) : Tally :=
  match event with
  | .keyDown vk => if vk = vkEscape ∧ t.held = none then { t with held := some ⟨false, 0⟩ } else t
  | .keyUp vk =>
      if vk = vkEscape then { t with held := none, released := t.released ++ t.held.toList } else t
  | .poll _ =>
      match t.held with
      | some press => { t with held := some ⟨true, press.toggles + toggles⟩ }
      | none => { t with stray := t.stray + toggles }

def watch (win : Sapp.Win32) (s : Keys × Tally) (event : KeyEvent) : Keys × Tally :=
  let (next, calls) := keyEvent win s.1 event
  (next, s.2.step event (calls.count .sappToggleFullscreen))

def watchAll (win : Sapp.Win32) (events : List KeyEvent) (s : Keys × Tally) : Keys × Tally :=
  events.foldl (watch win) s

theorem watch_all_cons (win : Sapp.Win32) (event : KeyEvent) (rest : List KeyEvent) (s : Keys × Tally) :
    watchAll win (event :: rest) s = watchAll win rest (watch win s event) := List.foldl_cons

def Press.fair (press : Press) : Prop := press.toggles = if press.polled then 1 else 0

structure OnePerPress (fullscreen : Bool) (s : Keys × Tally) : Prop where
  each : ∀ press ∈ s.2.presses, press.fair
  stray : s.2.stray = 0
  flipped : s.1.world.sapp.fullscreen = (fullscreen ^^ decide (s.2.presses.countP Press.polled % 2 = 1))

-- The key as the latch should see it; a poll that finds it repeated is one too many.
inductive Hold where
  | up
  | fresh
  | polled
  | repeated
deriving DecidableEq, Repr

def Hold.pressed : Hold → Hold
  | .up => .fresh
  | .fresh => .fresh
  | .polled => .repeated
  | .repeated => .repeated

def holdStep (h : Hold) : KeyEvent → Option Hold
  | .keyDown vk => some (if vk = vkEscape then h.pressed else h)
  | .keyUp vk => some (if vk = vkEscape then .up else h)
  | .poll _ =>
      match h with
      | .up => some .up
      | .fresh => some .polled
      | .polled => some .polled
      | .repeated => none

def hold : Monitor Hold KeyEvent := ⟨holdStep⟩

@[simp] theorem hold_step : hold.step = holdStep := rfl

@[simp] theorem set_key_same (vk : Nat) (state : KeyState) (keyboard : Keyboard) :
    setKey vk state keyboard vk = state := if_pos rfl

theorem set_key_other {vk key : Nat} (other : key ≠ vk) (state : KeyState) (keyboard : Keyboard) :
    setKey vk state keyboard key = keyboard key := if_neg other

-- What the loop changes about Escape when it comes to another key.
structure SameEscape (r next : Reflection Keyboard) : Prop where
  key : next.source vkEscape = r.source vkEscape
  on : next.on = r.on
  toggles : next.calls.count .sappToggleFullscreen = r.calls.count .sappToggleFullscreen

theorem other_key_same (r : Reflection Keyboard) {key : Nat} (other : key ≠ vkEscape) :
    SameEscape r (Shadertoy.reflectKey getAsyncKeyState r key) := by
  have source : (getAsyncKeyState key r.source).2 vkEscape = r.source vkEscape :=
    set_key_other (Ne.symm other) _ _
  unfold Shadertoy.reflectKey
  simp only [other, false_and, if_false]
  split
  · exact ⟨source, rfl, by simp⟩
  · exact ⟨source, rfl, rfl⟩

theorem other_keys_same (keys : List Nat) (r : Reflection Keyboard) (absent : vkEscape ∉ keys) :
    SameEscape r (keys.foldl (Shadertoy.reflectKey getAsyncKeyState) r) := by
  induction keys generalizing r with
  | nil => exact ⟨rfl, rfl, rfl⟩
  | cons key rest ih =>
      rw [List.mem_cons, not_or] at absent
      have one := other_key_same r (Ne.symm absent.1)
      have later := ih (Shadertoy.reflectKey getAsyncKeyState r key) absent.2
      exact ⟨later.key.trans one.key, later.on.trans one.on, later.toggles.trans one.toggles⟩

theorem async_level (key : KeyState) :
    (((if key.down then 0x8000 else 0) ||| (if key.pressedSince then 1 else 0) : BitVec 16).signExtend 32 &&&
      (0x8000 : BitVec 32) ≠ 0) ↔ key.down = true := by
  obtain ⟨down, since⟩ := key
  cases down <;> cases since <;> decide

theorem async_since (key : KeyState) :
    (((if key.down then 0x8000 else 0) ||| (if key.pressedSince then 1 else 0) : BitVec 16).signExtend 32 &&&
      (0x0001 : BitVec 32) ≠ 0) ↔ key.pressedSince = true := by
  obtain ⟨down, since⟩ := key
  cases down <;> cases since <;> decide

def latched (key : KeyState) (on : Bool) : Bool := on && !key.pressedSince

theorem escape_step (r : Reflection Keyboard) :
    (Shadertoy.reflectKey getAsyncKeyState r vkEscape).source vkEscape =
        { r.source vkEscape with pressedSince := false } ∧
      (Shadertoy.reflectKey getAsyncKeyState r vkEscape).on =
        ((r.source vkEscape).down || latched (r.source vkEscape) r.on) ∧
      (Shadertoy.reflectKey getAsyncKeyState r vkEscape).calls.count .sappToggleFullscreen =
        r.calls.count .sappToggleFullscreen +
          ((r.source vkEscape).down && !latched (r.source vkEscape) r.on).toNat := by
  have level := async_level (r.source vkEscape)
  have since := async_since (r.source vkEscape)
  have source : (getAsyncKeyState vkEscape r.source).2 vkEscape =
      { r.source vkEscape with pressedSince := false } := by simp [getAsyncKeyState]
  have cleared : (if (r.source vkEscape).pressedSince = true then false else r.on) =
      latched (r.source vkEscape) r.on := by
    unfold latched
    cases (r.source vkEscape).pressedSince <;> simp
  unfold Shadertoy.reflectKey
  simp only [getAsyncKeyState, true_and, level, since, cleared] at source ⊢
  by_cases down : (r.source vkEscape).down = true
  · simp only [down, if_true]
    cases latch : latched (r.source vkEscape) r.on with
    | true => simp
    | false => simp
  · simp only [Bool.not_eq_true] at down
    simp [down]

structure Reflected (key : KeyState) (on : Bool) (r : Reflection Keyboard) : Prop where
  source : r.source vkEscape = { key with pressedSince := false }
  latch : r.on = (key.down || latched key on)
  toggles : r.calls.count .sappToggleFullscreen = (key.down && !latched key on).toNat

theorem reflect_keys (early late : List Nat) (absentEarly : vkEscape ∉ early) (absentLate : vkEscape ∉ late)
    (keyboard : Keyboard) (on : Bool) : Reflected (keyboard vkEscape) on
      ((early ++ vkEscape :: late).foldl (Shadertoy.reflectKey getAsyncKeyState) ⟨keyboard, on, []⟩) := by
  rw [List.foldl_append, List.foldl_cons]
  have before := other_keys_same early ⟨keyboard, on, []⟩ absentEarly
  generalize early.foldl (Shadertoy.reflectKey getAsyncKeyState) ⟨keyboard, on, []⟩ = r at before
  obtain ⟨key, latch, toggles⟩ := escape_step r
  have after := other_keys_same late (Shadertoy.reflectKey getAsyncKeyState r vkEscape) absentLate
  rw [before.key] at key latch toggles
  rw [before.on] at latch toggles
  rw [before.toggles] at toggles
  exact ⟨after.key.trans key, after.on.trans latch, after.toggles.trans (by simpa using toggles)⟩

theorem keys_split : List.range' 1 255 = List.range' 1 26 ++ vkEscape :: List.range' 28 228 := by
  have escape : List.range' 27 229 = vkEscape :: List.range' 28 228 := List.range'_succ
  have split : List.range' 1 26 ++ List.range' 27 229 = List.range' 1 255 := List.range'_append_1
  rw [← split, escape]

theorem reflect_escape (keyboard : Keyboard) (on : Bool) : Reflected (keyboard vkEscape) on
    (Shadertoy.reflectKeyboard getAsyncKeyState keyboard on) := by
  have early : vkEscape ∉ List.range' 1 26 := by
    rw [List.mem_range'_1, vkEscape]
    omega
  have late : vkEscape ∉ List.range' 28 228 := by
    rw [List.mem_range'_1, vkEscape]
    omega
  unfold Shadertoy.reflectKeyboard
  rw [keys_split]
  exact reflect_keys _ _ early late keyboard on

theorem toggles_flag (win : Sapp.Win32) (monitor : Sapp.Rect) (calls : List LibCall) (w : Sapp.World) :
    (calls.foldl (applyCall win monitor) w).sapp.fullscreen =
      (w.sapp.fullscreen ^^ decide (calls.count .sappToggleFullscreen % 2 = 1)) := by
  induction calls generalizing w with
  | nil => simp
  | cons call rest ih =>
      rw [List.foldl_cons, ih]
      by_cases toggle : call = .sappToggleFullscreen
      · have flipped : (applyCall win monitor w call).sapp.fullscreen = !w.sapp.fullscreen := by
          rw [toggle]
          rfl
        rw [flipped, toggle, List.count_cons_self, Sapp.odd_succ, Bool.not_xor, Bool.xor_not]
      · have kept : applyCall win monitor w call = w := by
          cases call with
          | sappToggleFullscreen => exact (toggle rfl).elim
          | _ => rfl
        rw [kept, List.count_cons_of_ne toggle]

-- How the key, the latch and the tally stand to each other at each stage of a press.
def Hold.Agrees (h : Hold) (key : KeyState) (on : Bool) (held : Option Press) : Prop :=
  match h with
  | .up => key.down = false ∧ held = none
  | .fresh => key = ⟨true, true⟩ ∧ held = some ⟨false, 0⟩
  | .polled => key = ⟨true, false⟩ ∧ on = true ∧ held = some ⟨true, 1⟩
  | .repeated => key = ⟨true, true⟩ ∧ held = some ⟨true, 1⟩

structure Debounced (fullscreen : Bool) (h : Hold) (s : Keys × Tally) : Prop where
  agrees : h.Agrees (s.1.keyboard vkEscape) s.1.on s.2.held
  released : ∀ press ∈ s.2.released, press.fair
  stray : s.2.stray = 0
  flipped : s.1.world.sapp.fullscreen = (fullscreen ^^ decide (s.2.presses.countP Press.polled % 2 = 1))

theorem held_fair {h : Hold} {key : KeyState} {on : Bool} {held : Option Press}
    (agrees : h.Agrees key on held) : ∀ press ∈ held.toList, press.fair := by
  intro press member
  cases h with
  | up =>
      rw [agrees.2] at member
      cases member
  | fresh =>
      rw [agrees.2] at member
      rw [List.mem_singleton.mp member]
      rfl
  | polled =>
      rw [agrees.2.2] at member
      rw [List.mem_singleton.mp member]
      rfl
  | repeated =>
      rw [agrees.2] at member
      rw [List.mem_singleton.mp member]
      rfl

theorem debounced_one_per_press {fullscreen : Bool} {h : Hold} {s : Keys × Tally}
    (debounced : Debounced fullscreen h s) : OnePerPress fullscreen s := by
  refine ⟨?_, debounced.stray, debounced.flipped⟩
  intro press member
  rcases List.mem_append.mp member with earlier | current
  · exact debounced.released press earlier
  · exact held_fair debounced.agrees press current

theorem pressed_agrees {h : Hold} {key : KeyState} {on : Bool} {held : Option Press}
    (agrees : h.Agrees key on held) :
    h.pressed.Agrees ⟨true, true⟩ on (if held = none then some ⟨false, 0⟩ else held) := by
  cases h with
  | up => exact ⟨rfl, if_pos agrees.2⟩
  | fresh =>
      rw [agrees.2]
      exact ⟨rfl, rfl⟩
  | polled =>
      rw [agrees.2.2]
      exact ⟨rfl, rfl⟩
  | repeated =>
      rw [agrees.2]
      exact ⟨rfl, rfl⟩

theorem key_down_debounced (win : Sapp.Win32) (vk : Nat) {fullscreen : Bool} {h : Hold} {s : Keys × Tally}
    (debounced : Debounced fullscreen h s) :
    Debounced fullscreen (if vk = vkEscape then h.pressed else h) (watch win s (.keyDown vk)) := by
  obtain ⟨⟨keyboard, on, world⟩, ⟨held, released, stray⟩⟩ := s
  obtain ⟨agrees, fair, none, flipped⟩ := debounced
  by_cases escape : vk = vkEscape
  · subst escape
    rw [if_pos rfl]
    have next := pressed_agrees agrees
    refine ⟨?_, ?_, ?_, ?_⟩
    · cases held <;> simpa [watch, keyEvent, Tally.step] using next
    · cases held <;> simpa [watch, keyEvent, Tally.step] using fair
    · cases held <;> simpa [watch, keyEvent, Tally.step] using none
    · cases held <;> simpa [watch, keyEvent, Tally.step, Tally.presses] using flipped
  · have other : setKey vk ⟨true, true⟩ keyboard vkEscape = keyboard vkEscape :=
      set_key_other (Ne.symm escape) _ _
    rw [if_neg escape]
    refine ⟨?_, ?_, ?_, ?_⟩
    · simpa [watch, keyEvent, Tally.step, escape, other] using agrees
    · simpa [watch, keyEvent, Tally.step, escape] using fair
    · simpa [watch, keyEvent, Tally.step, escape] using none
    · simpa [watch, keyEvent, Tally.step, escape, Tally.presses] using flipped

theorem key_up_debounced (win : Sapp.Win32) (vk : Nat) {fullscreen : Bool} {h : Hold} {s : Keys × Tally}
    (debounced : Debounced fullscreen h s) :
    Debounced fullscreen (if vk = vkEscape then .up else h) (watch win s (.keyUp vk)) := by
  obtain ⟨⟨keyboard, on, world⟩, ⟨held, released, stray⟩⟩ := s
  obtain ⟨agrees, fair, none, flipped⟩ := debounced
  by_cases escape : vk = vkEscape
  · subst escape
    rw [if_pos rfl]
    refine ⟨⟨by simp [watch, keyEvent], by simp [watch, keyEvent, Tally.step]⟩, ?_, ?_, ?_⟩
    · intro press member
      simp only [watch, keyEvent, Tally.step, if_true] at member
      rcases List.mem_append.mp member with earlier | current
      · exact fair press earlier
      · exact held_fair agrees press current
    · simpa [watch, keyEvent, Tally.step] using none
    · simpa [watch, keyEvent, Tally.step, Tally.presses] using flipped
  · have other : setKey vk { keyboard vk with down := false } keyboard vkEscape = keyboard vkEscape :=
      set_key_other (Ne.symm escape) _ _
    rw [if_neg escape]
    refine ⟨?_, ?_, ?_, ?_⟩
    · simpa [watch, keyEvent, Tally.step, escape, other] using agrees
    · simpa [watch, keyEvent, Tally.step, escape] using fair
    · simpa [watch, keyEvent, Tally.step, escape] using none
    · simpa [watch, keyEvent, Tally.step, escape, Tally.presses] using flipped

-- A poll through its reflection r, of which only the facts about Escape are needed.
theorem watch_poll (win : Sapp.Win32) (monitor : Sapp.Rect) (s : Keys × Tally) :
    ∃ r, Reflected (s.1.keyboard vkEscape) s.1.on r ∧ watch win s (.poll monitor) =
      (⟨r.source, r.on, r.calls.foldl (applyCall win monitor) s.1.world⟩,
        s.2.step (.poll monitor) (r.calls.count .sappToggleFullscreen)) :=
  ⟨_, reflect_escape s.1.keyboard s.1.on, rfl⟩

theorem poll_debounced (win : Sapp.Win32) (monitor : Sapp.Rect) {fullscreen : Bool} {h next : Hold}
    {s : Keys × Tally} (debounced : Debounced fullscreen h s) (step : holdStep h (.poll monitor) = some next) :
    Debounced fullscreen next (watch win s (.poll monitor)) := by
  obtain ⟨r, ⟨source, latch, toggles⟩, eq⟩ := watch_poll win monitor s
  obtain ⟨agrees, fair, none, flipped⟩ := debounced
  have flag := toggles_flag win monitor r.calls s.1.world
  rw [eq]
  cases h with
  | up =>
      obtain ⟨down, free⟩ := agrees
      cases step
      rw [down] at toggles
      refine ⟨⟨?_, ?_⟩, ?_, ?_, ?_⟩
      · exact (congrArg KeyState.down source).trans down
      · simp [Tally.step, free]
      · simpa [Tally.step, free] using fair
      · simp [Tally.step, free, toggles, none]
      · simpa [Tally.step, Tally.presses, free, flag, toggles] using flipped
  | fresh =>
      obtain ⟨key, press⟩ := agrees
      cases step
      rw [key] at source latch toggles
      refine ⟨⟨source, latch, ?_⟩, ?_, ?_, ?_⟩
      · simp [Tally.step, press, toggles, latched]
      · simpa [Tally.step, press] using fair
      · simpa [Tally.step, press] using none
      · simp only [Tally.presses, press, List.countP_append] at flipped
        rw [flag, toggles, flipped]
        simp [Tally.step, Tally.presses, press, latched, Sapp.odd_succ]
  | polled =>
      obtain ⟨key, held, press⟩ := agrees
      cases step
      rw [key] at source latch toggles
      rw [held] at latch toggles
      refine ⟨⟨source, latch, ?_⟩, ?_, ?_, ?_⟩
      · simp [Tally.step, press, toggles, latched]
      · simpa [Tally.step, press] using fair
      · simpa [Tally.step, press] using none
      · simpa [Tally.step, Tally.presses, press, flag, toggles, latched] using flipped
  | repeated => cases step

theorem step_debounced (win : Sapp.Win32) (event : KeyEvent) {fullscreen : Bool} {h next : Hold}
    {s : Keys × Tally} (debounced : Debounced fullscreen h s) (step : holdStep h event = some next) :
    Debounced fullscreen next (watch win s event) := by
  cases event with
  | keyDown vk =>
      cases step
      exact key_down_debounced win vk debounced
  | keyUp vk =>
      cases step
      exact key_up_debounced win vk debounced
  | poll monitor => exact poll_debounced win monitor debounced step

-- A press that has toggled twice; no later event makes it good again.
def Doubled (t : Tally) : Prop := ∃ press ∈ t.presses, 2 ≤ press.toggles

theorem repeated_poll_doubles (win : Sapp.Win32) (monitor : Sapp.Rect) {fullscreen : Bool}
    {s : Keys × Tally} (debounced : Debounced fullscreen .repeated s) :
    Doubled (watch win s (.poll monitor)).2 := by
  obtain ⟨r, ⟨-, -, toggles⟩, eq⟩ := watch_poll win monitor s
  obtain ⟨key, press⟩ := debounced.agrees
  rw [key] at toggles
  rw [eq]
  refine ⟨⟨true, 2⟩, ?_, Nat.le_refl 2⟩
  simp [Tally.step, Tally.presses, press, toggles, latched]

theorem step_doubled (t : Tally) (event : KeyEvent) (toggles : Nat) (doubled : Doubled t) :
    Doubled (t.step event toggles) := by
  obtain ⟨press, member, twice⟩ := doubled
  obtain ⟨held, released, stray⟩ := t
  cases event with
  | keyDown vk =>
      simp only [Tally.step]
      split
      · rename_i fresh
        refine ⟨press, ?_, twice⟩
        simp only [Tally.presses, fresh.2, Option.toList_none, List.append_nil] at member
        exact List.mem_append_left _ member
      · exact ⟨press, member, twice⟩
  | keyUp vk =>
      simp only [Tally.step]
      split
      · exact ⟨press, List.mem_append_left _ member, twice⟩
      · exact ⟨press, member, twice⟩
  | poll monitor =>
      rcases List.mem_append.mp member with earlier | current
      · refine ⟨press, ?_, twice⟩
        cases held with
        | none => exact List.mem_append_left _ earlier
        | some now => exact List.mem_append_left _ earlier
      · cases held with
        | none => cases current
        | some now =>
            rw [List.mem_singleton.mp current] at twice
            refine ⟨⟨true, now.toggles + toggles⟩, ?_, ?_⟩
            · simp [Tally.step, Tally.presses]
            · exact Nat.le_trans twice (Nat.le_add_right _ _)

theorem all_doubled (win : Sapp.Win32) (events : List KeyEvent) (s : Keys × Tally) (doubled : Doubled s.2) :
    Doubled (watchAll win events s).2 := by
  induction events generalizing s with
  | nil => exact doubled
  | cons event rest ih =>
      rw [watch_all_cons]
      exact ih (watch win s event) (step_doubled s.2 event _ doubled)

theorem doubled_unfair {fullscreen : Bool} {s : Keys × Tally} (doubled : Doubled s.2) :
    ¬ OnePerPress fullscreen s := by
  intro once
  obtain ⟨press, member, twice⟩ := doubled
  have fair := once.each press member
  unfold Press.fair at fair
  split at fair <;> omega

theorem run_debounced (win : Sapp.Win32) (events : List KeyEvent) {fullscreen : Bool} {h : Hold}
    {s : Keys × Tally} (debounced : Debounced fullscreen h s) :
    (∃ last, hold.run h events = some last ∧ Debounced fullscreen last (watchAll win events s)) ∨
      (hold.run h events = none ∧ Doubled (watchAll win events s).2) := by
  induction events generalizing h s with
  | nil => exact .inl ⟨h, rfl, debounced⟩
  | cons event rest ih =>
      rw [watch_all_cons]
      cases step : holdStep h event with
      | some next =>
          rw [run_cons, hold_step, step, Option.bind_some]
          exact ih (step_debounced win event debounced step)
      | none =>
          rw [run_cons, hold_step, step, Option.bind_none]
          cases event with
          | keyDown vk => cases step
          | keyUp vk => cases step
          | poll monitor =>
              cases h with
              | repeated => exact .inr ⟨rfl, all_doubled win rest _ (repeated_poll_doubles win monitor debounced)⟩
              | _ => cases step

theorem start_debounced (world : Sapp.World) :
    Debounced world.sapp.fullscreen .up ({ world := world }, {}) :=
  ⟨⟨rfl, rfl⟩, by simp, rfl, by simp [Tally.presses]⟩

-- One toggle per polled press holds exactly of the runs in which no auto-repeat of Escape arrives
-- between two polls of one press.
theorem one_toggle_per_press_iff (win : Sapp.Win32) (world : Sapp.World) (events : List KeyEvent) :
    OnePerPress world.sapp.fullscreen (watchAll win events ({ world := world }, {})) ↔
      (hold.run .up events).isSome = true := by
  rcases run_debounced win events (start_debounced world) with ⟨last, accepted, debounced⟩ | ⟨rejected, doubled⟩
  · rw [accepted]
    exact ⟨fun _ => rfl, fun _ => debounced_one_per_press debounced⟩
  · rw [rejected]
    exact ⟨fun once => (doubled_unfair doubled once).elim, fun accepted => by cases accepted⟩

-- Escape is held over an auto-repeat between two frames: the second frame toggles back.
theorem auto_repeat_toggles_again : ¬ ∀ (win : Sapp.Win32) (world : Sapp.World) (events : List KeyEvent),
    OnePerPress world.sapp.fullscreen (watchAll win events ({ world := world }, {})) := by
  intro once
  let held : List KeyEvent := [.keyDown vkEscape, .poll {}, .keyDown vkEscape, .poll {}]
  have rejected : hold.run .up held = none := rfl
  rcases run_debounced Sapp.plainWin32 held (start_debounced {}) with ⟨last, accepted, -⟩ | ⟨-, doubled⟩
  · rw [rejected] at accepted
    cases accepted
  · exact doubled_unfair doubled (once Sapp.plainWin32 {} held)

end WakeAlpha.Demo
