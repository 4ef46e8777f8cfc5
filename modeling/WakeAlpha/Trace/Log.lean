set_option autoImplicit false

namespace WakeAlpha.Trace

-- A log only grows at its end. Extends keep records which entries the new part may hold, so
-- that a fact about the other entries survives any number of steps.
def Extends {α : Type} (keep : α → Prop) (old new : List α) : Prop :=
  ∃ tail, new = old ++ tail ∧ ∀ entry ∈ tail, keep entry

theorem extends_refl {α : Type} (keep : α → Prop) (log : List α) : Extends keep log log := by
  exact ⟨[], by simp, by simp⟩

theorem extends_trans {α : Type} {keep : α → Prop} {a b c : List α} (ab : Extends keep a b)
    (bc : Extends keep b c) : Extends keep a c := by
  obtain ⟨x, rfl, keepX⟩ := ab
  obtain ⟨y, rfl, keepY⟩ := bc
  refine ⟨x ++ y, by simp [List.append_assoc], ?_⟩
  intro entry member
  rcases List.mem_append.mp member with inX | inY
  · exact keepX entry inX
  · exact keepY entry inY

theorem extends_single {α : Type} {keep : α → Prop} (log : List α) {entry : α} (kept : keep entry) :
    Extends keep log (log ++ [entry]) := by
  exact ⟨[entry], rfl, by simpa using kept⟩

theorem extends_mono {α : Type} {keep wider : α → Prop} {old new : List α}
    (weaker : ∀ entry, keep entry → wider entry) (grown : Extends keep old new) :
    Extends wider old new := by
  obtain ⟨tail, eq, kept⟩ := grown
  exact ⟨tail, eq, fun entry member => weaker entry (kept entry member)⟩

theorem extends_mem {α : Type} {keep : α → Prop} {old new : List α} (grown : Extends keep old new)
    {entry : α} (member : entry ∈ old) : entry ∈ new := by
  obtain ⟨tail, rfl, _⟩ := grown
  exact List.mem_append_left tail member

theorem extends_reflects {α : Type} {keep : α → Prop} {old new : List α}
    (grown : Extends keep old new) {entry : α} (excluded : ¬ keep entry) (member : entry ∈ new) :
    entry ∈ old := by
  obtain ⟨tail, rfl, kept⟩ := grown
  rcases List.mem_append.mp member with inOld | inTail
  · exact inOld
  · exact False.elim (excluded (kept entry inTail))

-- A projection that drops every kept entry does not see the new part.
theorem extends_filterMap {α β : Type} {keep : α → Prop} {old new : List α}
    (grown : Extends keep old new) (view : α → Option β)
    (hidden : ∀ entry, keep entry → view entry = none) :
    new.filterMap view = old.filterMap view := by
  obtain ⟨tail, rfl, kept⟩ := grown
  have empty : tail.filterMap view = [] := by
    rw [List.filterMap_eq_nil_iff]
    exact fun entry member => hidden entry (kept entry member)
  rw [List.filterMap_append, empty, List.append_nil]

end WakeAlpha.Trace
