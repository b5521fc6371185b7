import AgentFirstMail.Effect.Program

namespace Effect
variable {σ τ κ : Type} {ρ : κ → Type} {ε α β γ : Type}

/-- A program that asks nothing of the outside. -/
abbrev Local (σ ε α : Type) := Program σ Empty (fun _ => Unit) ε α

namespace Program

/-- Goes through items with what is gathered so far. -/
def gather (items : List γ) (acc : β) (body : β → γ → Program σ κ ρ ε β) : Program σ κ ρ ε β :=
  match items with
  | [] => ret acc
  | item :: rest => (body acc item).bind fun acc => gather rest acc body

end Program

namespace Local

/-- What a program that asks nothing comes to. -/
def eval : Local σ ε α → σ → Except ε α × σ
  | .ret value, s => (.ok value, s)
  | .fail error, s => (.error error, s)
  | .load next, s => eval (next s) s
  | .store change next, s => eval next (change s)
  | .call request _, _ => request.elim

/-- The program goes from one state to another and returns a value. -/
def Returns (p : Local σ ε α) (s : σ) (value : α) (s' : σ) : Prop := p.eval s = (.ok value, s')

instance [DecidableEq σ] [DecidableEq ε] [DecidableEq α] (p : Local σ ε α) (s : σ) (value : α)
    (s' : σ) : Decidable (Returns p s value s') :=
  inferInstanceAs (Decidable (p.eval s = (.ok value, s')))

namespace Returns

theorem ret_iff {value result : α} :
    Returns (.ret value : Local σ ε α) s result s' ↔ result = value ∧ s' = s := by
  unfold Returns eval
  constructor
  · intro h
    cases h
    exact ⟨rfl, rfl⟩
  · rintro ⟨rfl, rfl⟩
    rfl

theorem not_fail {error : ε} {value : α} : ¬Returns (.fail error : Local σ ε α) s value s' := by
  intro h
  cases h

theorem bind_iff {p : Local σ ε α} {f : α → Local σ ε β} {result : β} :
    Returns (p.bind f) s result s' ↔
      ∃ value middle, Returns p s value middle ∧ Returns (f value) middle result s' := by
  induction p generalizing s with
  | ret value =>
    constructor
    · exact fun h => ⟨value, s, rfl, h⟩
    · rintro ⟨_, _, hfirst, hnext⟩
      cases hfirst
      exact hnext
  | fail error =>
    constructor
    · exact fun h => (not_fail h).elim
    · rintro ⟨_, _, hfirst, _⟩
      exact (not_fail hfirst).elim
  | load next ih => exact ih s
  | store change next ih => exact ih
  | call request next ih => exact request.elim

theorem read_iff {f : σ → Local σ ε α} {result : α} :
    Returns (Program.read.bind f) s result s' ↔ Returns (f s) s result s' := .rfl

theorem write_iff {change : σ → σ} {value : Unit} :
    Returns (Program.write change : Local σ ε Unit) s value s' ↔ s' = change s := by
  constructor
  · intro h
    cases h
    rfl
  · rintro rfl
    rfl

theorem ofExcept_bind_iff {value? : Except ε α} {f : α → Local σ ε β} {result : β} :
    Returns ((Program.ofExcept value?).bind f) s result s' ↔
      ∃ value, value? = .ok value ∧ Returns (f value) s result s' := by
  cases value? with
  | ok value =>
    constructor
    · exact fun h => ⟨value, rfl, h⟩
    · rintro ⟨_, heq, h⟩
      cases heq
      exact h
  | error error =>
    constructor
    · exact fun h => (not_fail h).elim
    · rintro ⟨_, heq, _⟩
      cases heq

theorem gather_from {all items : List γ} {body : β → γ → Local σ ε β} {acc result : β}
    (inv : List γ → β → σ → Prop) (done : List γ) (hall : all = done ++ items)
    (h : Returns (Program.gather items acc body) s result s') (hstart : inv done acc s)
    (hbody : ∀ done item rest acc s result s', all = done ++ item :: rest → inv done acc s →
      Returns (body acc item) s result s' → inv (done ++ [item]) result s') :
    inv all result s' := by
  induction items generalizing done acc s with
  | nil =>
    obtain ⟨rfl, rfl⟩ := ret_iff.mp h
    rw [hall, List.append_nil]
    exact hstart
  | cons item rest ih =>
    obtain ⟨next, middle, hfirst, hrest⟩ := bind_iff.mp h
    have hnext := hbody done item rest acc s next middle hall hstart hfirst
    exact ih (done ++ [item]) (by rw [hall, List.append_assoc, List.singleton_append]) hrest hnext

theorem gather_invariant {items : List γ} {body : β → γ → Local σ ε β} {acc result : β}
    (inv : List γ → β → σ → Prop) (h : Returns (Program.gather items acc body) s result s')
    (hstart : inv [] acc s)
    (hbody : ∀ done item rest acc s result s', items = done ++ item :: rest → inv done acc s →
      Returns (body acc item) s result s' → inv (done ++ [item]) result s') :
    inv items result s' :=
  gather_from inv [] rfl h hstart hbody

end Returns

/-- The program fails and has written nothing by then. -/
def FailsUnwritten : Local σ ε α → σ → Prop
  | .fail _, _ => True
  | .load next, s => FailsUnwritten (next s) s
  | _, _ => False

namespace FailsUnwritten

theorem ofExcept_bind {value? : Except ε α} {f : α → Local σ ε β}
    (h : ∀ value, value? = .ok value → FailsUnwritten (f value) s) :
    FailsUnwritten ((Program.ofExcept value?).bind f) s := by
  cases value? with
  | ok value => exact h value rfl
  | error error => trivial

theorem read_bind {f : σ → Local σ ε α} (h : FailsUnwritten (f s) s) :
    FailsUnwritten (Program.read.bind f) s := h

end FailsUnwritten
end Local
end Effect
