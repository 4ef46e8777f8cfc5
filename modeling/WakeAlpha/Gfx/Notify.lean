import Mathlib.Data.Finset.Basic
import Mathlib.Data.Finset.Card
import WakeAlpha.Gfx.Lifecycle

set_option autoImplicit false

namespace WakeAlpha.Gfx

-- What the listeners are for: a bounded set of listeners, each of which hears of every commit that
-- happens while it is a member.
structure Board where
  members : Finset SgCommitListener := ∅
  heard : SgCommitListener → Nat := fun _ => 0

def Board.step (room : Nat) (b : Board) : SgCall → Board
  | .addCommitListener listener =>
      if b.members.card < room then { b with members := insert listener b.members } else b
  | .removeCommitListener listener => { b with members := b.members.erase listener }
  | .commit => { b with heard := fun listener => b.heard listener + if listener ∈ b.members then 1 else 0 }
  | _ => b

-- No listener stands in the array twice.
structure SgCommitListeners.Inv (c : SgCommitListeners) : Prop where
  nodup : c.notified.Nodup
  fits : c.items.length ≤ c.num

section Listeners

variable {listener : SgCommitListener} {items plugged cleared : List SgCommitListener} {c next : SgCommitListeners}

def live (item : SgCommitListener) : Bool := decide (item.func ≠ 0)

theorem plug_hole_some (named : listener.func ≠ 0) (done : plugHole listener items = some plugged) :
    plugged.length = items.length ∧ (plugged.filter live).Perm (listener :: items.filter live) := by
  induction items generalizing plugged with
  | nil => cases done
  | cons item rest ih =>
      by_cases hole : item.func = 0
      · rw [plugHole, if_pos hole] at done
        cases done
        simp [live, named, hole]
      · rw [plugHole, if_neg hole] at done
        obtain ⟨tail, found, rfl⟩ := Option.map_eq_some_iff.mp done
        obtain ⟨length, perm⟩ := ih found
        have keeps : live item = true := by simp [live, hole]
        refine ⟨by simp [length], ?_⟩
        rw [List.filter_cons_of_pos keeps, List.filter_cons_of_pos keeps]
        exact (perm.cons item).trans (List.Perm.swap listener item _)

theorem plug_hole_none (done : plugHole listener items = none) : items.filter live = items := by
  induction items with
  | nil => rfl
  | cons item rest ih =>
      by_cases hole : item.func = 0
      · simp [plugHole, hole] at done
      · rw [plugHole, if_neg hole, Option.map_eq_none_iff] at done
        have keeps : live item = true := by simp [live, hole]
        rw [List.filter_cons_of_pos keeps, ih done]

theorem clear_match_some (named : listener.func ≠ 0) (done : clearMatch listener items = some cleared) :
    listener ∈ items ∧ cleared.length = items.length ∧
      cleared.filter live = (items.filter live).erase listener := by
  have keeps : live listener = true := by simp [live, named]
  induction items generalizing cleared with
  | nil => cases done
  | cons item rest ih =>
      by_cases same : item = listener
      · subst same
        rw [clearMatch, if_pos rfl] at done
        cases done
        have blank : live {} = false := rfl
        simp [keeps, blank]
      · rw [clearMatch, if_neg same] at done
        obtain ⟨tail, found, rfl⟩ := Option.map_eq_some_iff.mp done
        obtain ⟨member, length, erased⟩ := ih found
        refine ⟨List.mem_cons_of_mem _ member, by simp [length], ?_⟩
        cases kept : live item with
        | true =>
            rw [List.filter_cons_of_pos kept, List.filter_cons_of_pos kept, erased,
              List.erase_cons_tail (by simpa using same)]
        | false =>
            rw [List.filter_cons_of_neg (by simp [kept]), List.filter_cons_of_neg (by simp [kept]), erased]

theorem clear_match_none (done : clearMatch listener items = none) : listener ∉ items := by
  induction items with
  | nil => simp
  | cons item rest ih =>
      by_cases same : item = listener
      · simp [clearMatch, same] at done
      · rw [clearMatch, if_neg same, Option.map_eq_none_iff] at done
        rw [List.mem_cons, not_or]
        exact ⟨fun eq => same eq.symm, ih done⟩

theorem mem_notified (named : listener.func ≠ 0) : listener ∈ c.notified ↔ listener ∈ c.items := by
  simp [SgCommitListeners.notified, named]

theorem notified_eq (c : SgCommitListeners) : c.notified = c.items.filter live := rfl

-- A listener is added unless it is there or no room is left.
theorem add_result {answer : Except ListenerError SgCommitListeners} (inv : c.Inv)
    (done : c.add listener = some answer) :
    (listener ∈ c.notified ∧ answer = .error .identicalCommitListener) ∨
      (listener ∉ c.notified ∧ c.notified.length = c.num ∧ answer = .error .commitListenerArrayFull) ∨
      ∃ next, listener ∉ c.notified ∧ c.notified.length < c.num ∧ answer = .ok next ∧ next.Inv ∧ next.num = c.num ∧
        ∀ other, other ∈ next.notified ↔ other = listener ∨ other ∈ c.notified := by
  obtain ⟨named, done⟩ := assert_some done
  have fits := inv.fits
  split at done
  · rename_i there
    cases done
    exact Or.inl ⟨(mem_notified named).mpr there, rfl⟩
  · rename_i absent
    have fresh : listener ∉ c.notified := fun member => absent ((mem_notified named).mp member)
    refine Or.inr ?_
    split at done
    · rename_i plugged plugs
      cases done
      obtain ⟨length, perm⟩ := plug_hole_some named plugs
      have grown : (plugged.filter live).length ≤ plugged.length := List.length_filter_le _ _
      have counted := perm.length_eq
      rw [List.length_cons] at counted
      refine Or.inr ⟨_, fresh, ?_, rfl, ⟨?_, ?_⟩, rfl, ?_⟩
      · rw [notified_eq]
        omega
      · exact perm.nodup_iff.mpr (List.nodup_cons.mpr ⟨fresh, inv.nodup⟩)
      · change plugged.length ≤ c.num
        omega
      · intro other
        exact (perm.mem_iff).trans List.mem_cons
    · rename_i plugs
      have whole := plug_hole_none plugs
      split at done
      · rename_i room
        cases done
        have appended : (c.items ++ [listener]).filter live = c.notified ++ [listener] := by
          rw [List.filter_append, notified_eq]
          simp [live, named]
        refine Or.inr ⟨_, fresh, ?_, rfl, ⟨?_, ?_⟩, rfl, ?_⟩
        · rw [notified_eq, whole]
          exact room
        · change ((c.items ++ [listener]).filter live).Nodup
          rw [appended, List.nodup_append_comm]
          exact List.nodup_cons.mpr ⟨fresh, inv.nodup⟩
        · change (c.items ++ [listener]).length ≤ c.num
          rw [List.length_append, List.length_singleton]
          omega
        · intro other
          change other ∈ (c.items ++ [listener]).filter live ↔ _
          rw [appended, List.mem_append, List.mem_singleton]
          exact or_comm
      · rename_i full
        cases done
        refine Or.inl ⟨fresh, ?_, rfl⟩
        rw [notified_eq, whole]
        omega

theorem remove_result {removed : Bool} (inv : c.Inv) (done : c.remove listener = some (removed, next)) :
    next.Inv ∧ next.num = c.num ∧ (removed = true ↔ listener ∈ c.notified) ∧
      ∀ other, other ∈ next.notified ↔ other ≠ listener ∧ other ∈ c.notified := by
  obtain ⟨named, done⟩ := assert_some done
  split at done
  · rename_i cleared clears
    cases done
    obtain ⟨member, length, erased⟩ := clear_match_some named clears
    have fits := inv.fits
    refine ⟨⟨?_, ?_⟩, rfl, ?_, ?_⟩
    · change (cleared.filter live).Nodup
      rw [erased]
      exact inv.nodup.erase listener
    · change cleared.length ≤ c.num
      omega
    · simpa using (mem_notified named).mpr member
    · intro other
      change other ∈ cleared.filter live ↔ _
      rw [erased]
      exact inv.nodup.mem_erase_iff
  · rename_i clears
    cases done
    have absent : listener ∉ c.notified := fun member => clear_match_none clears ((mem_notified named).mp member)
    refine ⟨inv, rfl, by simpa using absent, fun other => ?_⟩
    constructor
    · exact fun member => ⟨fun same => absent (same ▸ member), member⟩
    · exact fun both => both.2

end Listeners

-- The array and the calls of the backend, as the board sees them.
structure Posted (room : Nat) (s : SgState) (b : Board) : Prop where
  inv : s.commitListeners.Inv
  room : s.commitListeners.num = room
  members : ∀ listener, listener ∈ s.commitListeners.notified ↔ listener ∈ b.members
  heard : ∀ listener, s.calls.count (.notify listener) = b.heard listener

variable {size : Kind → Nat} {s next final : SgState} {b : Board} {room : Nat}

theorem posted_card (posted : Posted room s b) : b.members.card = s.commitListeners.notified.length := by
  have same : s.commitListeners.notified.toFinset = b.members := by
    ext listener
    rw [List.mem_toFinset]
    exact posted.members listener
  rw [← same]
  exact List.toFinset_card_of_nodup posted.inv.nodup

theorem posted_of_same (posted : Posted room s b) (listeners : next.commitListeners = s.commitListeners)
    (heard : ∀ listener, next.calls.count (.notify listener) = s.calls.count (.notify listener)) :
    Posted room next b := by
  refine ⟨?_, ?_, ?_, fun listener => (heard listener).trans (posted.heard listener)⟩
  · rw [listeners]
    exact posted.inv
  · rw [listeners]
    exact posted.room
  · rw [listeners]
    exact posted.members

theorem step_posted {call : SgCall} (inv : s.Inv size) (posted : Posted room s b)
    (done : sgStep s call = some next) : Posted room next (b.step room call) := by
  have other (plain : b.step room call = b) (running : call ≠ .commit)
      (apart : ∀ listener, call ≠ .addCommitListener listener ∧ call ≠ .removeCommitListener listener) :
      Posted room next (b.step room call) := by
    rw [plain]
    cases aside : call.onResources with
    | true =>
        have kept := step_kept inv done aside
        exact posted_of_same posted kept.commitListeners fun listener => by rw [kept.calls]
    | false =>
        have framed := step_framed done aside
        refine posted_of_same posted (framed.listeners apart) fun listener => ?_
        rcases framed.calls running with same | ⟨emitted, quiet, grown⟩
        · rw [same]
        · rw [grown, List.count_append, List.count_singleton]
          simp [quiet listener]
  cases call with
  | addCommitListener listener =>
      obtain ⟨⟨added, changed⟩, adds, done⟩ := bind_some done
      cases done
      have card := posted_card posted
      rcases add_listener_result adds with ⟨error, inner, -, rfl⟩ | ⟨listeners, inner, -, rfl⟩
      · have same : b.step room (.addCommitListener listener) = b := by
          rcases add_result posted.inv inner with ⟨there, -⟩ | ⟨-, full, -⟩ | ⟨next, -, -, wrong, -⟩
          · have member := (posted.members listener).mp there
            simp [Board.step, Finset.insert_eq_of_mem member]
          · rw [posted.room] at full
            simp [Board.step, card, full]
          · cases wrong
        rw [same]
        exact posted_of_same posted rfl fun _ => rfl
      · rcases add_result posted.inv inner with ⟨-, wrong⟩ | ⟨-, -, wrong⟩ | ⟨_, fresh, roomy, same, inv', num, members⟩
        · cases wrong
        · cases wrong
        · cases same
          rw [posted.room] at roomy num
          have fits : b.members.card < room := by omega
          refine ⟨inv', num, ?_, ?_⟩
          · intro other
            simp only [Board.step, if_pos fits, Finset.mem_insert]
            rw [members other, posted.members other]
          · intro other
            simp only [Board.step, if_pos fits]
            exact posted.heard other
  | removeCommitListener listener =>
      obtain ⟨⟨removed, changed⟩, removes, done⟩ := bind_some done
      cases done
      obtain ⟨listeners, inner, rfl⟩ := remove_listener_result removes
      obtain ⟨inv', num, -, members⟩ := remove_result posted.inv inner
      refine ⟨inv', num.trans posted.room, ?_, posted.heard⟩
      intro other
      simp only [Board.step, Finset.mem_erase]
      rw [members other, posted.members other]
  | commit =>
      obtain ⟨-, rfl⟩ := commit_result done
      refine ⟨posted.inv, posted.room, posted.members, ?_⟩
      intro listener
      have called : (s.commitListeners.notified.map BackendCall.notify).count (.notify listener) =
          s.commitListeners.notified.count listener :=
        List.count_map_of_injective _ _ (fun _ _ eq => BackendCall.notify.inj eq) _
      simp only [Board.step, List.count_append, called, posted.heard listener]
      by_cases member : listener ∈ b.members
      · have there := (posted.members listener).mpr member
        simp [member, List.count_eq_one_of_mem posted.inv.nodup there]
      · have absent := fun there => member ((posted.members listener).mp there)
        simp [member, List.count_eq_zero_of_not_mem absent]
  | _ => exact other rfl (by simp) (by simp)

theorem run_posted {calls : List SgCall} (inv : s.Inv size) (posted : Posted room s b)
    (done : sgRun s calls = some final) : Posted room final (calls.foldl (Board.step room) b) := by
  induction calls generalizing s b with
  | nil =>
      cases done
      exact posted
  | cons call rest ih =>
      obtain ⟨middle, step, done⟩ := run_cons_some done
      exact ih (step_inv inv step) (step_posted inv posted step) done

-- In every run the array holds the members of the board, each once, and each commit has notified each
-- listener that was a member at that time exactly once.
theorem listeners_refine_board {desc : SgDesc} {calls : List SgCall} (started : sgSetup desc = some s)
    (done : sgRun s calls = some final) :
    Posted s.commitListeners.num final (calls.foldl (Board.step s.commitListeners.num) {}) := by
  have begun := setup_result started
  refine run_posted (started_inv begun) ⟨⟨?_, ?_⟩, rfl, ?_, ?_⟩ done
  · simp [SgCommitListeners.notified, begun.listeners]
  · simp [begun.listeners]
  · simp [SgCommitListeners.notified, begun.listeners]
  · simp [begun.calls]

theorem two_listeners_posted : ∃ s final,
    sgRun s [.addCommitListener ⟨1, 0⟩, .addCommitListener ⟨2, 0⟩, .commit] = some final ∧
    Posted s.commitListeners.num final
      ([.addCommitListener ⟨1, 0⟩, .addCommitListener ⟨2, 0⟩, .commit].foldl (Board.step s.commitListeners.num) {}) := by
  obtain ⟨s, final, started, done, -⟩ :=
    small_run [.addCommitListener ⟨1, 0⟩, .addCommitListener ⟨2, 0⟩, .commit] (fun _ => true) rfl
  exact ⟨s, final, done, listeners_refine_board started done⟩

end WakeAlpha.Gfx
