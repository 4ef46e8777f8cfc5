import WakeAlpha.Sapp.Effects
import WakeAlpha.Trace.Monitor

set_option autoImplicit false

namespace WakeAlpha.Sapp

open WakeAlpha.Trace
open Relation (ReflTransGen)

inductive Mark where
  | init
  | returned
  | frame
  | event
  | cleanup
deriving DecidableEq, Repr

def Obs.mark : Obs → Option Mark
  | .called .init _ _ => some .init
  | .called .frame _ _ => some .frame
  | .called (.event _) _ _ => some .event
  | .called .cleanup _ _ => some .cleanup
  | .initReturned => some .returned
  | _ => none

def marks (trace : List Obs) : List Mark := trace.filterMap Obs.mark

-- The documented life of an application: init_cb once, to its return, then frames and events,
-- then cleanup_cb once, and no callback after it.
def Lifecycle (trace : List Obs) : Prop :=
  ∃ calls, marks trace = .init :: .returned :: calls ++ [.cleanup] ∧
    ∀ mark ∈ calls, mark = .frame ∨ mark = .event

inductive Stage where
  | idle
  | starting
  | live
  | closed
deriving DecidableEq, Repr

def stageStep : Stage → Mark → Option Stage
  | .idle, .init => some .starting
  | .starting, .returned => some .live
  | .live, .frame => some .live
  | .live, .event => some .live
  | .live, .cleanup => some .closed
  | _, _ => none

def lifecycle : Monitor Stage Mark := ⟨stageStep⟩

@[simp] theorem lifecycle_step : lifecycle.step = stageStep := rfl

theorem running_cons (mark : Mark) (tail : List Mark) :
    (∃ calls, mark :: tail = calls ++ [.cleanup] ∧ ∀ m ∈ calls, m = Mark.frame ∨ m = .event) ↔
      (mark = .cleanup ∧ tail = []) ∨ ((mark = .frame ∨ mark = .event) ∧
        ∃ calls, tail = calls ++ [.cleanup] ∧ ∀ m ∈ calls, m = Mark.frame ∨ m = .event) := by
  constructor
  · rintro ⟨calls, eq, all⟩
    cases calls with
    | nil => exact .inl (by simpa using eq)
    | cons first others =>
        simp only [List.cons_append, List.cons.injEq] at eq
        exact .inr ⟨eq.1 ▸ all first (by simp), others, eq.2, fun m member => all m (by simp [member])⟩
  · rintro (⟨rfl, rfl⟩ | ⟨running, calls, rfl, all⟩)
    · exact ⟨[], rfl, by simp⟩
    · exact ⟨mark :: calls, rfl, by simpa using ⟨running, all⟩⟩

theorem closed_accepts_iff (rest : List Mark) : lifecycle.run .closed rest = some .closed ↔ rest = [] := by
  cases rest <;> simp [stageStep]

theorem live_accepts_iff (rest : List Mark) : lifecycle.run .live rest = some .closed ↔
    ∃ calls, rest = calls ++ [.cleanup] ∧ ∀ m ∈ calls, m = Mark.frame ∨ m = .event := by
  induction rest with
  | nil => simp
  | cons mark tail ih =>
      rw [running_cons, ← ih]
      cases mark <;> simp [stageStep, closed_accepts_iff]

theorem lifecycle_iff_accepted (trace : List Obs) :
    Lifecycle trace ↔ lifecycle.run .idle (marks trace) = some .closed := by
  unfold Lifecycle
  cases marks trace with
  | nil => simp
  | cons first rest =>
      cases rest with
      | nil => cases first <;> simp [stageStep]
      | cons second tail => cases first <;> cases second <;> simp [stageStep, live_accepts_iff]

def SappState.stage (s : SappState) : Stage :=
  if s.cleanupCalled then .closed else if s.initCalled then .live else .idle

-- The flags of _sapp say at which stage the trace stands.
structure Tracks (w : World) : Prop where
  accepted : lifecycle.run .idle (marks w.trace) = some w.sapp.stage
  firstFrame : w.sapp.firstFrame = !w.sapp.initCalled
  order : w.sapp.cleanupCalled = true → w.sapp.initCalled = true
  installed : w.sapp.desc.initCallee.isSome = true ∧ w.sapp.desc.cleanupCallee.isSome = true

theorem marks_quiet {old new : List Obs} (grown : Extends Obs.Quiet old new) : marks new = marks old := by
  apply extends_filterMap grown
  intro obs quiet
  cases obs <;> simp_all [Obs.Quiet, Obs.mark]

theorem marks_append (trace tail : List Obs) : marks (trace ++ tail) = marks trace ++ marks tail :=
  List.filterMap_append

theorem tracks_same {w next : World} (tracks : Tracks w) (core : next.sapp.core = w.sapp.core)
    (same : marks next.trace = marks w.trace) : Tracks next := by
  obtain ⟨accepted, firstFrame, order, installed⟩ := tracks
  simp only [SappState.core, Core.mk.injEq] at core
  obtain ⟨desc, -, first, init, cleanup, -, -⟩ := core
  refine ⟨?_, ?_, ?_, ?_⟩
  · simpa only [same, SappState.stage, init, cleanup] using accepted
  · simpa only [first, init] using firstFrame
  · simpa only [init, cleanup] using order
  · simpa only [desc] using installed

theorem tracks_inert {w next : World} (tracks : Tracks w) (same : Inert w next) : Tracks next :=
  tracks_same tracks same.core (marks_quiet same.trace)

-- A callback that only runs while the application is live.
theorem tracks_running {w : World} (tracks : Tracks w) (started : w.sapp.initCalled = true)
    (running : w.sapp.cleanupCalled = false) (obs : Obs) (mark : Mark)
    (stays : stageStep .live mark = some .live) (marked : obs.mark = some mark) :
    Tracks (w.log obs) := by
  refine ⟨?_, tracks.firstFrame, tracks.order, tracks.installed⟩
  have live : w.sapp.stage = .live := by simp [SappState.stage, started, running]
  have before := tracks.accepted
  rw [live] at before
  have entry : marks [obs] = [mark] := by simp [marks, marked]
  change lifecycle.run .idle (marks (w.trace ++ [obs])) = some w.sapp.stage
  rw [marks_append, entry, run_append_of_some lifecycle [mark] before, live]
  simp [stays]

theorem tracks_effect {hook : FnPtr} {w next : World} (effect : Effect hook w next) (tracks : Tracks w) :
    Tracks next := by
  cases effect with
  | inert _ same => exact tracks_inert tracks same
  | moved rect => exact tracks_same tracks rfl rfl
  | hooked msg installed =>
      exact tracks_same tracks rfl (by simp [World.log, marks, Obs.mark])
  | event event target started running => exact tracks_running tracks started running _ .event rfl rfl
  | frame target started running => exact tracks_running tracks started running _ .frame rfl rfl
  | start _ seen notes first core window quiet trace =>
      have notYet : w.sapp.initCalled = false := by simpa [first] using tracks.firstFrame
      have notClosed : w.sapp.cleanupCalled = false := by
        cases closed : w.sapp.cleanupCalled with
        | false => rfl
        | true =>
            have impossible := tracks.order closed
            simp [notYet] at impossible
      have idle : w.sapp.stage = .idle := by simp [SappState.stage, notYet, notClosed]
      have before := tracks.accepted
      rw [idle] at before
      obtain ⟨target, installed⟩ := Option.isSome_iff_exists.mp tracks.installed.1
      have silent : marks notes = [] := by
        have none := marks_quiet (⟨notes, rfl, quiet⟩ : Extends Obs.Quiet [] ([] ++ notes))
        simpa [marks] using none
      have entries : marks (initEntry w.sapp.desc seen ++ notes ++ [.initReturned]) = [.init, .returned] := by
        rw [marks_append, marks_append, silent]
        simp [initEntry, installed, marks, Obs.mark]
      simp only [SappState.core, Core.mk.injEq] at core
      obtain ⟨desc, -, firstFrame, init, cleanup, -, -⟩ := core
      refine ⟨?_, by simp [firstFrame, init], fun _ => init, ?_⟩
      · rw [trace, List.append_assoc, List.append_assoc, ← List.append_assoc (initEntry _ _), marks_append,
          entries, run_append_of_some lifecycle _ before]
        simp [stageStep, SappState.stage, init, cleanup, notClosed]
      · rw [desc]
        exact tracks.installed

theorem tracks_effects {hook : FnPtr} {w next : World} (effects : Effects hook w next)
    (tracks : Tracks w) : Tracks next := by
  induction effects with
  | refl => exact tracks
  | tail _ effect ih => exact tracks_effect effect ih

theorem broken_effects {hook : FnPtr} {w next : World} (effects : Effects hook w next)
    (broken : lifecycle.run .idle (marks w.trace) = none) :
    lifecycle.run .idle (marks next.trace) = none := by
  obtain ⟨tail, eq, -⟩ := effects_extend effects
  rw [eq, marks_append]
  exact run_append_of_none lifecycle _ broken

theorem call_cleanup_marks (calls : List ApiCall) (w : World) (running : w.sapp.cleanupCalled = false)
    (installed : w.sapp.desc.cleanupCallee.isSome = true) :
    marks (sappCallCleanup calls w).trace = marks w.trace ++ [.cleanup] := by
  obtain ⟨target, found⟩ := Option.isSome_iff_exists.mp installed
  have calm := api_calls_inert calls (w.log (.called .cleanup target w.sapp))
  have shape : (sappCallCleanup calls w).trace =
      (calls.foldl apiCall (w.log (.called .cleanup target w.sapp))).trace := by
    simp only [sappCallCleanup, running, World.callApp, found, World.enter, World.setCleanupCalled]
    rfl
  rw [shape, marks_quiet calm.trace]
  exact marks_append _ _

theorem shutdown_lifecycle_iff (hook : FnPtr) (script : RunScript) (w : World) (tracks : Tracks w)
    (running : w.sapp.cleanupCalled = false) :
    Lifecycle (sappWin32Shutdown hook script w).trace ↔ w.sapp.initCalled = true := by
  have destroyed : Effects hook (sappCallCleanup script.cleanup w)
      (sappWin32DestroyWindow hook script (sappCallCleanup script.cleanup w)) := destroy_window_effects _ _
  have marked := call_cleanup_marks script.cleanup w running tracks.installed.2
  have core := call_cleanup_core script.cleanup w
  have before := tracks.accepted
  change Lifecycle (sappWin32DestroyWindow hook script (sappCallCleanup script.cleanup w)).trace ↔ _
  rw [lifecycle_iff_accepted]
  cases started : w.sapp.initCalled with
  | false =>
      have idle : w.sapp.stage = .idle := by simp [SappState.stage, started, running]
      rw [idle] at before
      have broken : lifecycle.run .idle (marks (sappCallCleanup script.cleanup w).trace) = none := by
        rw [marked, run_append_of_some lifecycle _ before]
        rfl
      rw [broken_effects destroyed broken]
      simp
  | true =>
      have live : w.sapp.stage = .live := by simp [SappState.stage, started, running]
      rw [live] at before
      simp only [SappState.core, Core.mk.injEq] at core
      obtain ⟨desc, -, firstFrame, init, closed, -, -⟩ := core
      have tracked : Tracks (sappCallCleanup script.cleanup w) := by
        refine ⟨?_, ?_, fun _ => init.trans started, ?_⟩
        · rw [marked, run_append_of_some lifecycle _ before]
          simp [stageStep, SappState.stage, closed]
        · rw [firstFrame, init]
          exact tracks.firstFrame
        · rw [desc]
          exact tracks.installed
      have final := (tracks_effects destroyed tracked).accepted
      have stillClosed :
          (sappWin32DestroyWindow hook script (sappCallCleanup script.cleanup w)).sapp.cleanupCalled = true :=
        (congrArg Core.cleanupCalled (effects_core destroyed)).trans closed
      rw [final]
      simp [SappState.stage, stillClosed]

end WakeAlpha.Sapp
