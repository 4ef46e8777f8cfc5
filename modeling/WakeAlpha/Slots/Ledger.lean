import Mathlib.Data.Set.Insert
import Mathlib.Logic.Function.Basic
import Mathlib.Logic.Relation

set_option autoImplicit false

namespace WakeAlpha.Slots

open Relation (ReflTransGen)

-- Several holders share what is in use, and nothing has two holders.
structure Ledger (ω κ : Type) where
  held : ω → Set κ
  apart : ∀ p q key, key ∈ held p → key ∈ held q → p = q

variable {ω κ : Type} {l a b : Ledger ω κ} {p q : ω} {key : κ}

def Ledger.inUse (l : Ledger ω κ) : Set κ := {key | ∃ p, key ∈ l.held p}

-- All that is in use has the one holder p.
def Ledger.sole [DecidableEq ω] (p : ω) (keys : Set κ) : Ledger ω κ where
  held := Function.update (fun _ => ∅) p keys
  apart := by
    have only {q : ω} {key : κ} (holds : key ∈ Function.update (fun _ => (∅ : Set κ)) p keys q) : q = p := by
      by_contra other
      rw [Function.update_of_ne other] at holds
      exact holds
    exact fun q r key first second => (only first).trans (only second).symm

variable [DecidableEq ω]

def Ledger.acquire (l : Ledger ω κ) (p : ω) (key : κ) (fresh : key ∉ l.inUse) : Ledger ω κ where
  held := Function.update l.held p (insert key (l.held p))
  apart := by
    have was {q : ω} {other : κ} (holds : other ∈ Function.update l.held p (insert key (l.held p)) q) :
        other ∈ l.held q ∨ (other = key ∧ q = p) := by
      by_cases same : q = p
      · subst same
        rw [Function.update_self] at holds
        exact holds.symm.imp id fun eq => ⟨eq, rfl⟩
      · rw [Function.update_of_ne same] at holds
        exact Or.inl holds
    intro q r other first second
    rcases was first with holds | ⟨rfl, rfl⟩ <;> rcases was second with holds' | ⟨same, rfl⟩
    · exact l.apart q r other holds holds'
    · exact absurd ⟨q, same ▸ holds⟩ fresh
    · exact absurd ⟨r, holds'⟩ fresh
    · rfl

def Ledger.release (l : Ledger ω κ) (p : ω) (key : κ) : Ledger ω κ where
  held := Function.update l.held p (l.held p \ {key})
  apart := by
    have was {q : ω} {other : κ} (holds : other ∈ Function.update l.held p (l.held p \ {key}) q) : other ∈ l.held q := by
      by_cases same : q = p
      · subst same
        rw [Function.update_self] at holds
        exact holds.1
      · rwa [Function.update_of_ne same] at holds
    exact fun q r other first second => l.apart q r other (was first) (was second)

@[simp] theorem sole_held (p : ω) (keys : Set κ) : (Ledger.sole p keys).held p = keys := by
  simp [Ledger.sole]

theorem sole_held_other {p q : ω} (keys : Set κ) (ne : q ≠ p) : (Ledger.sole p keys).held q = ∅ := by
  simp [Ledger.sole, Function.update_of_ne ne]

@[simp] theorem sole_in_use (p : ω) (keys : Set κ) : (Ledger.sole p keys).inUse = keys := by
  ext key
  constructor
  · rintro ⟨q, holds⟩
    by_cases same : q = p
    · subst same
      rwa [sole_held] at holds
    · rw [sole_held_other keys same] at holds
      exact holds.elim
  · intro member
    exact ⟨p, by rwa [sole_held]⟩

@[simp] theorem acquire_held (fresh : key ∉ l.inUse) : (l.acquire p key fresh).held p = insert key (l.held p) :=
  Function.update_self ..

theorem acquire_held_other (fresh : key ∉ l.inUse) (ne : q ≠ p) : (l.acquire p key fresh).held q = l.held q :=
  Function.update_of_ne ne ..

@[simp] theorem release_held : (l.release p key).held p = l.held p \ {key} := Function.update_self ..

theorem release_held_other (ne : q ≠ p) : (l.release p key).held q = l.held q := Function.update_of_ne ne ..

theorem acquire_in_use (fresh : key ∉ l.inUse) : (l.acquire p key fresh).inUse = insert key l.inUse := by
  ext other
  constructor
  · rintro ⟨q, holds⟩
    by_cases same : q = p
    · subst same
      rw [acquire_held] at holds
      exact holds.imp id fun before => ⟨q, before⟩
    · rw [acquire_held_other fresh same] at holds
      exact Or.inr ⟨q, holds⟩
  · rintro (rfl | ⟨q, holds⟩)
    · exact ⟨p, by simp⟩
    · by_cases same : q = p
      · subst same
        exact ⟨q, by simp [holds]⟩
      · exact ⟨q, by rwa [acquire_held_other fresh same]⟩

-- What p gives up is in use no more, unless another holder has it.
theorem release_in_use (mine : key ∈ l.inUse → key ∈ l.held p) : (l.release p key).inUse = l.inUse \ {key} := by
  ext other
  constructor
  · rintro ⟨q, holds⟩
    by_cases same : q = p
    · subst same
      rw [release_held] at holds
      exact ⟨⟨q, holds.1⟩, holds.2⟩
    · rw [release_held_other same] at holds
      refine ⟨⟨q, holds⟩, ?_⟩
      rintro rfl
      exact same (l.apart q p other holds (mine ⟨q, holds⟩))
  · rintro ⟨⟨q, holds⟩, ne⟩
    by_cases same : q = p
    · subst same
      exact ⟨q, by rw [release_held]; exact ⟨holds, ne⟩⟩
    · exact ⟨q, by rwa [release_held_other same]⟩

-- What the holder p can do to the ledger.
inductive Entry (p : ω) : Ledger ω κ → Ledger ω κ → Prop where
  | acquire (l : Ledger ω κ) (key : κ) (fresh : key ∉ l.inUse) : Entry p l (l.acquire p key fresh)
  | release (l : Ledger ω κ) (key : κ) (mine : key ∈ l.inUse → key ∈ l.held p) : Entry p l (l.release p key)

abbrev Entries (p : ω) : Ledger ω κ → Ledger ω κ → Prop := ReflTransGen (Entry p)

theorem entry_others (entry : Entry p a b) (ne : q ≠ p) : b.held q = a.held q := by
  cases entry with
  | acquire key fresh => exact acquire_held_other fresh ne
  | release key mine => exact release_held_other ne

-- Whatever one holder does, the others keep what they hold.
theorem entries_others (entries : Entries p a b) (ne : q ≠ p) : b.held q = a.held q := by
  induction entries with
  | refl => rfl
  | tail _ entry ih => exact (entry_others entry ne).trans ih

end WakeAlpha.Slots
