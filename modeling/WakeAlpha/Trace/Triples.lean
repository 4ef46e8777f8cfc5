set_option autoImplicit false

namespace WakeAlpha.Trace

variable {σ α : Type} {step : σ → α → Option σ} {pre mid post : σ → Prop}

-- From every state of pre the calls succeed one after the other, and they end in a state of post.
def Leads (step : σ → α → Option σ) (pre : σ → Prop) (calls : List α) (post : σ → Prop) : Prop :=
  ∀ s, pre s → ∃ next, calls.foldlM step s = some next ∧ post next

theorem leads_nil : Leads step pre [] pre := fun s holds => ⟨s, rfl, holds⟩

theorem leads_one {call : α} (served : ∀ s, pre s → ∃ next, step s call = some next ∧ post next) :
    Leads step pre [call] post := by
  intro s holds
  obtain ⟨next, done, after⟩ := served s holds
  refine ⟨next, ?_, after⟩
  rw [List.foldlM_cons, done]
  rfl

theorem leads_append {first second : List α} (one : Leads step pre first mid) (two : Leads step mid second post) :
    Leads step pre (first ++ second) post := by
  intro s holds
  obtain ⟨middle, begins, between⟩ := one s holds
  obtain ⟨next, ends, after⟩ := two middle between
  refine ⟨next, ?_, after⟩
  rw [List.foldlM_append, begins]
  exact ends

theorem leads_of_imp {stronger : σ → Prop} {calls : List α} (imp : ∀ s, stronger s → pre s)
    (leads : Leads step pre calls post) : Leads step stronger calls post :=
  fun s holds => leads s (imp s holds)

end WakeAlpha.Trace
