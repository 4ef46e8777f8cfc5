set_option autoImplicit false

namespace WakeAlpha.Trace

-- A protocol as a deterministic observer of a trace: none is a violation, and no continuation
-- of a violating trace is accepted again.
structure Monitor (σ α : Type) where
  step : σ → α → Option σ

def Monitor.run {σ α : Type} (m : Monitor σ α) (s : σ) (trace : List α) : Option σ :=
  trace.foldlM m.step s

variable {σ α : Type} (m : Monitor σ α)

@[simp] theorem run_nil (s : σ) : m.run s [] = some s := rfl

@[simp] theorem run_cons (s : σ) (a : α) (rest : List α) :
    m.run s (a :: rest) = (m.step s a).bind fun next => m.run next rest := rfl

theorem run_append (s : σ) (left right : List α) :
    m.run s (left ++ right) = (m.run s left).bind fun next => m.run next right := by
  exact List.foldlM_append

theorem run_append_of_some {s next : σ} {left : List α} (right : List α)
    (reached : m.run s left = some next) : m.run s (left ++ right) = m.run next right := by
  rw [run_append, reached, Option.bind_some]

theorem run_append_of_none {s : σ} {left : List α} (right : List α) (violated : m.run s left = none) :
    m.run s (left ++ right) = none := by
  rw [run_append, violated, Option.bind_none]

theorem run_ignored {s : σ} {trace : List α} (ignored : ∀ a ∈ trace, m.step s a = some s) :
    m.run s trace = some s := by
  induction trace with
  | nil => rfl
  | cons a rest ih =>
      rw [run_cons, ignored a (by simp), Option.bind_some]
      exact ih fun b member => ignored b (by simp [member])

-- Rounds that each come back to the base state can be repeated.
theorem run_rounds {base : σ} {rounds : List (List α)}
    (back : ∀ round ∈ rounds, m.run base round = some base) : m.run base rounds.flatten = some base := by
  induction rounds with
  | nil => rfl
  | cons round rest ih =>
      rw [List.flatten_cons, run_append_of_some m rest.flatten (back round (by simp))]
      exact ih fun later member => back later (by simp [member])

end WakeAlpha.Trace
