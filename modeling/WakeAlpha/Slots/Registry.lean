import Mathlib.Data.Nat.ModEq
import Mathlib.Logic.Function.Basic
import Mathlib.Logic.Relation

set_option autoImplicit false

namespace WakeAlpha.Slots

open Relation (ReflTransGen)

-- A ticket names one life of one cell: how many values the cell had been given when it got this one.
structure Ticket (ι : Type) where
  index : ι
  life : Nat
deriving DecidableEq, Repr

-- What a pool of cells is for: a value is given a ticket that was never given before and is found
-- under it until it is released. lives counts the values a cell has been given so far.
structure Registry (ι α : Type) where
  lives : ι → Nat
  held : ι → Option α

variable {ι α : Type}

def Registry.empty : Registry ι α := ⟨fun _ => 0, fun _ => none⟩

def Registry.find [DecidableEq ι] (r : Registry ι α) (t : Ticket ι) : Option α :=
  if t.life = r.lives t.index then r.held t.index else none

def Registry.ticket (r : Registry ι α) (index : ι) : Ticket ι := ⟨index, r.lives index⟩

variable [DecidableEq ι]

def Registry.issue (r : Registry ι α) (index : ι) (value : α) : Registry ι α :=
  ⟨Function.update r.lives index (r.lives index + 1), Function.update r.held index (some value)⟩

def Registry.write (r : Registry ι α) (index : ι) (value : α) : Registry ι α :=
  { r with held := Function.update r.held index (some value) }

def Registry.release (r : Registry ι α) (index : ι) : Registry ι α :=
  { r with held := Function.update r.held index none }

inductive Step : Registry ι α → Registry ι α → Prop where
  | issue (r : Registry ι α) (index : ι) (value : α) (free : r.held index = none) :
      Step r (r.issue index value)
  | write (r : Registry ι α) (index : ι) (old value : α) (taken : r.held index = some old) :
      Step r (r.write index value)
  | release (r : Registry ι α) (index : ι) (old : α) (taken : r.held index = some old) :
      Step r (r.release index)

abbrev Steps : Registry ι α → Registry ι α → Prop := ReflTransGen Step

-- A ticket that was given once and names no value any more.
def Registry.Spent (r : Registry ι α) (t : Ticket ι) : Prop :=
  t.life ≤ r.lives t.index ∧ r.find t = none

theorem step_lives_le {a b : Registry ι α} (step : Step a b) (index : ι) :
    a.lives index ≤ b.lives index := by
  cases step with
  | issue given value free =>
      by_cases same : index = given
      · subst same
        simp [Registry.issue]
      · simp [Registry.issue, Function.update_of_ne same]
  | write given old value taken => exact Nat.le_refl _
  | release given old taken => exact Nat.le_refl _

theorem find_ticket (r : Registry ι α) (index : ι) : r.find (r.ticket index) = r.held index := by
  simp [Registry.find, Registry.ticket]

theorem spent_iff {r : Registry ι α} {t : Ticket ι} (given : t.life ≤ r.lives t.index) :
    r.Spent t ↔ t.life < r.lives t.index ∨ r.held t.index = none := by
  unfold Registry.Spent Registry.find
  by_cases current : t.life = r.lives t.index
  · simp [current]
  · have older : t.life < r.lives t.index := by omega
    simp [current, older, given]

-- The value of a cell only ever leaves, or comes with a new life.
theorem step_spent {a b : Registry ι α} (step : Step a b) {t : Ticket ι} (spent : a.Spent t) : b.Spent t := by
  have given := spent.1
  have later : t.life ≤ b.lives t.index := Nat.le_trans given (step_lives_le step t.index)
  rw [spent_iff given] at spent
  rw [spent_iff later]
  cases step with
  | issue index value free =>
      by_cases same : t.index = index
      · left
        simp only [Registry.issue, same, Function.update_self]
        rw [same] at given
        omega
      · simpa only [Registry.issue, Function.update_of_ne same] using spent
  | write index old value taken =>
      by_cases same : t.index = index
      · rcases spent with older | empty
        · exact Or.inl older
        · rw [same, taken] at empty
          cases empty
      · simpa only [Registry.write, Function.update_of_ne same] using spent
  | release index old taken =>
      by_cases same : t.index = index
      · right
        simp only [Registry.release, same, Function.update_self]
      · simpa only [Registry.release, Function.update_of_ne same] using spent

theorem steps_spent {a b : Registry ι α} (steps : Steps a b) {t : Ticket ι} (spent : a.Spent t) :
    b.Spent t := by
  induction steps with
  | refl => exact spent
  | tail _ step ih => exact step_spent step ih

-- What is found when only the life modulo m is kept of a ticket.
def Registry.resolve (m : Nat) (r : Registry ι α) (index : ι) (code : Nat) : Option α :=
  if r.lives index % m = code then r.held index else none

omit [DecidableEq ι] in
theorem same_code_iff {m older newer : Nat} (le : older ≤ newer) :
    newer % m = older % m ↔ m ∣ newer - older := by
  constructor
  · intro same
    exact (Nat.modEq_iff_dvd' le).mp same.symm
  · intro divides
    exact ((Nat.modEq_iff_dvd' le).mpr divides).symm

-- As long as a cell has had fewer than m values since, the code of a ticket is as good as the ticket.
theorem resolve_eq_find {m : Nat} {r : Registry ι α} {t : Ticket ι} (given : t.life ≤ r.lives t.index)
    (near : r.lives t.index < t.life + m) : r.resolve m t.index (t.life % m) = r.find t := by
  unfold Registry.resolve Registry.find
  by_cases current : t.life = r.lives t.index
  · simp [current]
  · have gap : r.lives t.index % m ≠ t.life % m := by
      rw [Ne, same_code_iff given]
      exact Nat.not_dvd_of_pos_of_lt (by omega) (by omega)
    simp [current, gap]

theorem resolve_spent {m : Nat} {r : Registry ι α} {t : Ticket ι} (spent : r.Spent t)
    (near : r.lives t.index < t.life + m) : r.resolve m t.index (t.life % m) = none := by
  rw [resolve_eq_find spent.1 near]
  exact spent.2

end WakeAlpha.Slots
