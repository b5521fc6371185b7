import AgentFirstMail.Effect.Execution

/-! Runs against an environment that has a state of its own. -/

namespace Effect
variable {σ κ τ : Type} {ρ : κ → Type} {ε α β : Type}

/-- What an environment may answer to a request, and what may have become of it then. -/
abbrev Environment (τ κ : Type) (ρ : κ → Type) :=
  (request : κ) → τ → ρ request → τ → Prop

/-- An environment that takes requests one after the other. Of one that gives no value in answer
nothing is known any more. -/
inductive Answers (env : Environment τ κ ρ) : τ → List (Event σ κ ρ ε) → τ → Prop
  | done : Answers env t [] t
  | answered : env request t value t' → Answers env t' events t'' →
      Answers env t (⟨request, s, some (.ok value)⟩ :: events) t''
  | unanswered {reply : Option (Except ε (ρ request))} (h : ∀ value, reply ≠ some (.ok value)) :
      Answers env t' events t'' → Answers env t (⟨request, s, reply⟩ :: events) t''

theorem Answers.of_append {env : Environment τ κ ρ} {before after : List (Event σ κ ρ ε)}
    (h : Answers env t (before ++ after) t'') :
    ∃ t', Answers env t before t' ∧ Answers env t' after t'' := by
  induction before generalizing t with
  | nil => exact ⟨t, .done, h⟩
  | cons event rest ih =>
    cases h with
    | answered hanswer h =>
      obtain ⟨t', hbefore, hafter⟩ := ih h
      exact ⟨t', .answered hanswer hbefore, hafter⟩
    | unanswered hreply h =>
      obtain ⟨t', hbefore, hafter⟩ := ih h
      exact ⟨t', .unanswered hreply hbefore, hafter⟩

/-- A run that returns, and what it makes of the environment. -/
structure ReturnsIn (env : Environment τ κ ρ) (p : Program σ κ ρ ε α) (s : σ) (t : τ)
    (events : List (Event σ κ ρ ε)) (value : α) (s' : σ) (t' : τ) : Prop where
  exec : Exec p s events (.returned value) s'
  answers : Answers env t events t'

namespace ReturnsIn
variable {env : Environment τ κ ρ} {t t' : τ}

theorem of_ret {value result : α}
    (h : ReturnsIn env (.ret value : Program σ κ ρ ε α) s t events result s' t') :
    result = value ∧ s' = s ∧ t' = t ∧ events = [] := by
  obtain ⟨hexec, hanswers⟩ := h
  cases hexec
  cases hanswers
  exact ⟨rfl, rfl, rfl, rfl⟩

theorem of_fail {error : ε} {value : α}
    (h : ReturnsIn env (.fail error : Program σ κ ρ ε α) s t events value s' t') : False := by
  cases h.exec

theorem of_bind {p : Program σ κ ρ ε α} {f : α → Program σ κ ρ ε β}
    (h : ReturnsIn env (p.bind f) s t events result s' t') :
    ∃ value before after middle between, events = before ++ after ∧
      ReturnsIn env p s t before value middle between ∧
      ReturnsIn env (f value) middle between after result s' t' := by
  obtain ⟨hexec, hanswers⟩ := h
  rcases Exec.of_bind hexec with ⟨value, before, middle, after, rfl, hfirst, hsecond⟩ |
    ⟨_, hfailed, _⟩ | ⟨hcrashed, _⟩
  · obtain ⟨between, hbefore, hafter⟩ := hanswers.of_append
    exact ⟨value, before, after, middle, between, rfl, ⟨hfirst, hbefore⟩, ⟨hsecond, hafter⟩⟩
  · cases hfailed
  · cases hcrashed

theorem of_perform {request : κ} {value : ρ request}
    (h : ReturnsIn env (Program.perform request : Program σ κ ρ ε (ρ request)) s t events value
      s' t') :
    env request t value t' ∧ s' = s ∧ events = [⟨request, s, some (.ok value)⟩] := by
  obtain ⟨hexec, hanswers⟩ := h
  cases hexec with
  | call reply hexec =>
    cases reply with
    | error error => cases hexec
    | ok answer =>
      cases hexec
      cases hanswers with
      | answered hanswer hdone =>
        cases hdone
        exact ⟨hanswer, rfl, rfl⟩
      | unanswered hreply _ => exact absurd rfl (hreply _)

theorem of_ofExcept {result : Except ε α} {value : α}
    (h : ReturnsIn env (Program.ofExcept result : Program σ κ ρ ε α) s t events value s' t') :
    result = .ok value ∧ s' = s ∧ t' = t ∧ events = [] := by
  cases result with
  | error error => exact h.of_fail.elim
  | ok other =>
    obtain ⟨rfl, hs, ht, hevents⟩ := h.of_ret
    exact ⟨rfl, hs, ht, hevents⟩

/-- Where every error is handled by failing, what returns is the program itself. -/
theorem of_tryCatch {p : Program σ κ ρ ε α} {handle : ε → Program σ κ ρ ε α}
    (hfails : ∀ error, ∃ other, handle error = .fail other)
    (h : ReturnsIn env (p.tryCatch handle) s t events value s' t') :
    ReturnsIn env p s t events value s' t' := by
  refine ⟨?_, h.answers⟩
  have hexec := h.exec
  clear h
  induction p generalizing s events with
  | ret other => exact hexec
  | fail error =>
    obtain ⟨other, heq⟩ := hfails error
    rw [Program.tryCatch, heq] at hexec
    cases hexec
  | load next ih =>
    cases hexec with
    | load hexec => exact .load (ih s hexec)
  | store change next ih =>
    cases hexec with
    | store hexec => exact .store (ih hexec)
  | call request next ih =>
    cases hexec with
    | call reply hexec => exact .call reply (ih reply hexec)

end ReturnsIn
end Effect
