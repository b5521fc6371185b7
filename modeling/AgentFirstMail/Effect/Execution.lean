import AgentFirstMail.Effect.Program

namespace Effect
variable {σ κ : Type} {ρ : κ → Type} {ε α β τ : Type}

/-- A request as it was issued: the state at that moment, and the reply unless the
program was cut off while it waited. -/
structure Event (σ κ : Type) (ρ : κ → Type) (ε : Type) where
  request : κ
  state : σ
  reply : Option (Except ε (ρ request))

inductive Outcome (ε α : Type) where
  | returned (value : α)
  | failed (error : ε)
  | crashed
deriving DecidableEq

/-- A run of a program that may be cut off at any point between two of its writes. -/
inductive Exec : Program σ κ ρ ε α → σ → List (Event σ κ ρ ε) → Outcome ε α → σ → Prop
  | ret : Exec (.ret value) s [] (.returned value) s
  | fail : Exec (.fail error) s [] (.failed error) s
  | crash : Exec p s [] .crashed s
  | load : Exec (next s) s events outcome s' → Exec (.load next) s events outcome s'
  | store : Exec next (change s) events outcome s' →
      Exec (.store change next) s events outcome s'
  | call (reply : Except ε (ρ request)) : Exec (next reply) s events outcome s' →
      Exec (.call request next) s (⟨request, s, some reply⟩ :: events) outcome s'
  | lost : Exec (.call request next) s [⟨request, s, none⟩] .crashed s

/-- A run that did not return: it failed or was cut off. -/
def Outcome.Stopped (outcome : Outcome ε α) : Prop := ∀ value, outcome ≠ .returned value

theorem Exec.of_load {next : σ → Program σ κ ρ ε α} (h : Exec (.load next) s events outcome s') :
    Exec (next s) s events outcome s' := by
  cases h with
  | crash => exact .crash
  | load h => exact h

theorem Exec.of_fail (h : Exec (.fail error : Program σ κ ρ ε α) s events outcome s') :
    s' = s ∧ outcome.Stopped ∧ events = [] := by
  cases h with
  | fail => exact ⟨rfl, fun _ heq => (nomatch heq), rfl⟩
  | crash => exact ⟨rfl, fun _ heq => (nomatch heq), rfl⟩

theorem Exec.of_ret {value : α} (h : Exec (.ret value : Program σ κ ρ ε α) s events outcome s') :
    s' = s ∧ events = [] ∧ ∀ result, outcome = .returned result → result = value := by
  cases h with
  | ret =>
    refine ⟨rfl, rfl, ?_⟩
    intro result heq
    cases heq
    rfl
  | crash => exact ⟨rfl, rfl, fun _ heq => (nomatch heq)⟩

theorem Exec.bind {p : Program σ κ ρ ε α} {f : α → Program σ κ ρ ε β}
    (h : Exec p s before (.returned value) middle) (hnext : Exec (f value) middle after outcome s') :
    Exec (p.bind f) s (before ++ after) outcome s' := by
  induction p generalizing s before with
  | ret other =>
    cases h
    exact hnext
  | fail error => cases h
  | load next ih =>
    cases h with
    | load h => exact .load (ih s h)
  | store change next ih =>
    cases h with
    | store h => exact .store (ih h)
  | call request next ih =>
    cases h with
    | call reply h => exact .call reply (ih reply h)

theorem Exec.bind_failed {p : Program σ κ ρ ε α} {f : α → Program σ κ ρ ε β}
    (h : Exec p s events (.failed error) s') : Exec (p.bind f) s events (.failed error) s' := by
  generalize houtcome : (.failed error : Outcome ε α) = outcome at h
  induction h with
  | fail =>
    cases houtcome
    exact .fail
  | load _ ih => exact .load (ih houtcome)
  | store _ ih => exact .store (ih houtcome)
  | call reply _ ih => exact .call reply (ih houtcome)
  | ret | crash | lost => cases houtcome

theorem Exec.bind_crashed {p : Program σ κ ρ ε α} {f : α → Program σ κ ρ ε β}
    (h : Exec p s events .crashed s') : Exec (p.bind f) s events .crashed s' := by
  generalize houtcome : (.crashed : Outcome ε α) = outcome at h
  induction h with
  | crash => exact .crash
  | lost => exact .lost
  | load _ ih => exact .load (ih houtcome)
  | store _ ih => exact .store (ih houtcome)
  | call reply _ ih => exact .call reply (ih houtcome)
  | ret | fail => cases houtcome

/-- An execution of a sequence ends within the first program or goes on with the second. -/
theorem Exec.of_bind {p : Program σ κ ρ ε α} {f : α → Program σ κ ρ ε β}
    (h : Exec (p.bind f) s events outcome s') :
    (∃ value before middle after, events = before ++ after ∧
      Exec p s before (.returned value) middle ∧ Exec (f value) middle after outcome s') ∨
    (∃ error, outcome = .failed error ∧ Exec p s events (.failed error) s') ∨
    (outcome = .crashed ∧ Exec p s events .crashed s') := by
  induction p generalizing s events with
  | ret value => exact .inl ⟨value, [], s, events, rfl, .ret, h⟩
  | fail error =>
    cases h with
    | fail => exact .inr (.inl ⟨error, rfl, .fail⟩)
    | crash => exact .inr (.inr ⟨rfl, .crash⟩)
  | load next ih =>
    cases h with
    | crash => exact .inr (.inr ⟨rfl, .crash⟩)
    | load h =>
      rcases ih s h with ⟨value, before, middle, after, rfl, hfirst, hsecond⟩ | ⟨error, rfl, hfirst⟩ |
        ⟨rfl, hfirst⟩
      · exact .inl ⟨value, before, middle, after, rfl, .load hfirst, hsecond⟩
      · exact .inr (.inl ⟨error, rfl, .load hfirst⟩)
      · exact .inr (.inr ⟨rfl, .load hfirst⟩)
  | store change next ih =>
    cases h with
    | crash => exact .inr (.inr ⟨rfl, .crash⟩)
    | store h =>
      rcases ih h with ⟨value, before, middle, after, rfl, hfirst, hsecond⟩ | ⟨error, rfl, hfirst⟩ |
        ⟨rfl, hfirst⟩
      · exact .inl ⟨value, before, middle, after, rfl, .store hfirst, hsecond⟩
      · exact .inr (.inl ⟨error, rfl, .store hfirst⟩)
      · exact .inr (.inr ⟨rfl, .store hfirst⟩)
  | call request next ih =>
    cases h with
    | crash => exact .inr (.inr ⟨rfl, .crash⟩)
    | lost => exact .inr (.inr ⟨rfl, .lost⟩)
    | call reply h =>
      rcases ih reply h with ⟨value, before, middle, after, rfl, hfirst, hsecond⟩ |
        ⟨error, rfl, hfirst⟩ | ⟨rfl, hfirst⟩
      · exact .inl ⟨value, _ :: before, middle, after, rfl, .call reply hfirst, hsecond⟩
      · exact .inr (.inl ⟨error, rfl, .call reply hfirst⟩)
      · exact .inr (.inr ⟨rfl, .call reply hfirst⟩)

theorem Exec.cut {p : Program σ κ ρ ε α} {before after : List (Event σ κ ρ ε)}
    {event : Event σ κ ρ ε} (h : Exec p s (before ++ event :: after) outcome s') :
    Exec p s (before ++ [event]) .crashed event.state := by
  generalize hevents : before ++ event :: after = events at h
  induction h generalizing before with
  | ret => cases (List.append_eq_nil_iff.mp hevents).2
  | fail => cases (List.append_eq_nil_iff.mp hevents).2
  | crash => cases (List.append_eq_nil_iff.mp hevents).2
  | load _ ih => exact .load (ih hevents)
  | store _ ih => exact .store (ih hevents)
  | call reply _ ih =>
    rcases List.append_eq_cons_iff.mp hevents with ⟨rfl, hcons⟩ | ⟨rest, rfl, hrest⟩
    · obtain ⟨rfl, _⟩ := List.cons.inj hcons
      exact .call reply .crash
    · exact .call reply (ih hrest.symm)
  | lost =>
    rcases List.append_eq_cons_iff.mp hevents with ⟨rfl, hcons⟩ | ⟨rest, rfl, hrest⟩
    · obtain ⟨rfl, _⟩ := List.cons.inj hcons
      exact .lost
    · cases (List.append_eq_nil_iff.mp hrest.symm).2

theorem Exec.of_ofExcept_bind {result : Except ε α} {next : α → Program σ κ ρ ε β}
    (h : Exec ((Program.ofExcept result).bind next) s events outcome s') :
    (∃ value, result = .ok value ∧ Exec (next value) s events outcome s') ∨
      (∃ error, result = .error error ∧ s' = s ∧ events = [] ∧
        (outcome = .failed error ∨ outcome = .crashed)) := by
  cases result with
  | ok value => exact .inl ⟨value, rfl, h⟩
  | error error =>
    right
    cases h with
    | fail => exact ⟨error, rfl, rfl, rfl, .inl rfl⟩
    | crash => exact ⟨error, rfl, rfl, rfl, .inr rfl⟩

theorem Outcome.Stopped.of_failed {outcome : Outcome ε α}
    (h : outcome = .failed error ∨ outcome = .crashed) : outcome.Stopped := by
  intro value heq
  rcases h with rfl | rfl
  · cases heq
  · cases heq

theorem Exec.of_bind_returned {p : Program σ κ ρ ε α} {f : α → Program σ κ ρ ε β}
    (h : Exec (p.bind f) s events (.returned result) s') :
    ∃ value before middle after, events = before ++ after ∧
      Exec p s before (.returned value) middle ∧
      Exec (f value) middle after (.returned result) s' := by
  rcases h.of_bind with hreturned | ⟨error, hfailed, _⟩ | ⟨hcrashed, _⟩
  · exact hreturned
  · cases hfailed
  · cases hcrashed

/-- Successive sessions of a system, each continuing from the state the last one left. -/
inductive Run (session : σ → List τ → σ → Prop) : σ → List τ → σ → Prop
  | start : Run session s [] s
  | next : Run session s events s' → session s' more s'' → Run session s (events ++ more) s''

theorem Run.invariant {session : σ → List τ → σ → Prop} {inv : List τ → σ → Prop}
    (h : Run session s events s')
    (hstart : inv [] s)
    (hsession : ∀ history s more s', inv history s → session s more s' →
      inv (history ++ more) s') : inv events s' := by
  induction h with
  | start => exact hstart
  | next _ hmore ih => exact hsession _ _ _ _ ih hmore

/-- Runs a program to its end against an environment with a state of its own. -/
def Program.run (answer : τ → (request : κ) → Except ε (ρ request) × τ) :
    Program σ κ ρ ε α → σ → τ → Except ε α × σ × τ
  | .ret value, s, t => (.ok value, s, t)
  | .fail error, s, t => (.error error, s, t)
  | .load next, s, t => (next s).run answer s t
  | .store change next, s, t => next.run answer (change s) t
  | .call request next, s, t => (next (answer t request).1).run answer s (answer t request).2

def Outcome.ofExcept : Except ε α → Outcome ε α
  | .ok value => .returned value
  | .error error => .failed error

theorem Program.run_exec_answered (answer : τ → (request : κ) → Except ε (ρ request) × τ)
    (p : Program σ κ ρ ε α) (s : σ) (t : τ) :
    ∃ events, Exec p s events (.ofExcept (p.run answer s t).1) (p.run answer s t).2.1 ∧
      ∀ event ∈ events, ∃ t, event.reply = some (answer t event.request).1 := by
  induction p generalizing s t with
  | ret value => exact ⟨[], .ret, fun _ h => (List.not_mem_nil h).elim⟩
  | fail error => exact ⟨[], .fail, fun _ h => (List.not_mem_nil h).elim⟩
  | load next ih =>
    obtain ⟨events, h, hanswered⟩ := ih s s t
    exact ⟨events, .load h, hanswered⟩
  | store change next ih =>
    obtain ⟨events, h, hanswered⟩ := ih (change s) t
    exact ⟨events, .store h, hanswered⟩
  | call request next ih =>
    obtain ⟨events, h, hanswered⟩ := ih (answer t request).1 s (answer t request).2
    refine ⟨_, .call _ h, ?_⟩
    rw [List.forall_mem_cons]
    exact ⟨⟨t, rfl⟩, hanswered⟩

theorem Program.run_exec (answer : τ → (request : κ) → Except ε (ρ request) × τ)
    (p : Program σ κ ρ ε α) (s : σ) (t : τ) :
    ∃ events, Exec p s events (.ofExcept (p.run answer s t).1) (p.run answer s t).2.1 := by
  obtain ⟨events, h, _⟩ := p.run_exec_answered answer s t
  exact ⟨events, h⟩

/-! ### Records of whole executions -/

/-- An uninterrupted execution with its record. -/
structure Trace (σ κ : Type) (ρ : κ → Type) (ε α τ : Type) where
  events : List (Event σ κ ρ ε)
  outcome : Outcome ε α
  state : σ
  environment : τ

/-- Runs a program to its end as `Program.run` does, and keeps the record. -/
def Program.trace (answer : τ → (request : κ) → Except ε (ρ request) × τ) :
    Program σ κ ρ ε α → σ → τ → Trace σ κ ρ ε α τ
  | .ret value, s, t => ⟨[], .returned value, s, t⟩
  | .fail error, s, t => ⟨[], .failed error, s, t⟩
  | .load next, s, t => (next s).trace answer s t
  | .store change next, s, t => next.trace answer (change s) t
  | .call request next, s, t =>
    let rest := (next (answer t request).1).trace answer s (answer t request).2
    { rest with events := ⟨request, s, some (answer t request).1⟩ :: rest.events }

theorem Program.trace_exec (answer : τ → (request : κ) → Except ε (ρ request) × τ)
    (p : Program σ κ ρ ε α) (s : σ) (t : τ) :
    Exec p s (p.trace answer s t).events (p.trace answer s t).outcome
      (p.trace answer s t).state := by
  induction p generalizing s t with
  | ret value => exact .ret
  | fail error => exact .fail
  | load next ih => exact .load (ih s s t)
  | store change next ih => exact .store (ih (change s) t)
  | call request next ih => exact .call _ (ih (answer t request).1 s (answer t request).2)

end Effect
