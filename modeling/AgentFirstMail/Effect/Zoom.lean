import AgentFirstMail.Effect.Local
import AgentFirstMail.Effect.Safety

namespace Effect
variable {σ τ κ : Type} {ρ : κ → Type} {ε α β γ : Type}

/-- A part of a state that can be read and replaced on its own. -/
structure Part (τ σ : Type) where
  get : τ → σ
  put : τ → σ → τ
  get_put : ∀ t s, get (put t s) = s
  put_get : ∀ t, put t (get t) = t
  put_put : ∀ t s s', put (put t s) s' = put t s'

namespace Program

/-- Runs a program on a part of the state. -/
def zoom (part : Part τ σ) : Local σ ε α → Program τ κ ρ ε α
  | ret value => ret value
  | fail error => fail error
  | load next => load fun t => (next (part.get t)).zoom part
  | store change next => store (fun t => part.put t (change (part.get t))) (next.zoom part)
  | call request _ => request.elim

/-- Runs a program and keeps what it fails with as a value. -/
def attempt (p : Program τ κ ρ ε α) : Program τ κ ρ ε (Except ε α) :=
  (p.bind fun value => ret (.ok value)).tryCatch fun error => ret (.error error)

variable {inv : Assertion τ κ ρ ε} {post : α → Assertion τ κ ρ ε}
  {abort : ε → Assertion τ κ ρ ε} {history : List (Event τ κ ρ ε)}

theorem wp_zoom_put {part : Part τ σ} {p : Local σ ε α} {t : τ} {s : σ}
    (before : List (Event σ Empty (fun _ => Unit) ε))
    (h : p.wp (fun _ s => inv history (part.put t s))
      (fun value _ s => post value history (part.put t s))
      (fun error _ s => abort error history (part.put t s)) before s) :
    (p.zoom part).wp inv post abort history (part.put t s) := by
  induction p generalizing s with
  | ret value => exact h
  | fail error => exact h
  | load next ih =>
    change ((next (part.get (part.put t s))).zoom part).wp inv post abort history (part.put t s)
    rw [part.get_put]
    exact ih s h
  | store change next ih =>
    obtain ⟨hinv, hnext⟩ := h
    have hrest := ih hnext
    change inv history (part.put (part.put t s) (change (part.get (part.put t s)))) ∧
      (next.zoom part).wp inv post abort history
        (part.put (part.put t s) (change (part.get (part.put t s))))
    rw [part.get_put, part.put_put]
    exact ⟨hinv, hrest⟩
  | call request next _ => exact request.elim

theorem wp_zoom {part : Part τ σ} {p : Local σ ε α} {t : τ}
    (h : p.wp (fun _ s => inv history (part.put t s))
      (fun value _ s => post value history (part.put t s))
      (fun error _ s => abort error history (part.put t s)) [] (part.get t)) :
    (p.zoom part).wp inv post abort history t := by
  have hput := wp_zoom_put [] h
  rw [part.put_get] at hput
  exact hput

theorem wp_gather_from {all items : List γ} {body : β → γ → Program τ κ ρ ε β} {acc : β} {t : τ}
    (loop : List γ → β → Assertion τ κ ρ ε) (done : List γ) (hall : all = done ++ items)
    (hstart : loop done acc history t)
    (hbody : ∀ done item rest acc history t, all = done ++ item :: rest →
      loop done acc history t →
      (body acc item).wp inv (loop (done ++ [item])) abort history t) :
    (gather items acc body).wp inv (loop all) abort history t := by
  induction items generalizing done acc history t with
  | nil =>
    rw [hall, List.append_nil]
    exact hstart
  | cons item rest ih =>
    apply wp_seq (hbody done item rest acc history t hall hstart)
    intro next history t hnext
    exact ih (done ++ [item]) (by rw [hall, List.append_assoc, List.singleton_append]) hnext

theorem wp_gather {items : List γ} {body : β → γ → Program τ κ ρ ε β} {acc : β} {t : τ}
    (loop : List γ → β → Assertion τ κ ρ ε) (hstart : loop [] acc history t)
    (hbody : ∀ done item rest acc history t, items = done ++ item :: rest →
      loop done acc history t →
      (body acc item).wp inv (loop (done ++ [item])) abort history t) :
    (gather items acc body).wp inv (loop items) abort history t :=
  wp_gather_from loop [] rfl hstart hbody

theorem wp_attempt {p : Program τ κ ρ ε α} {t : τ} {post : Except ε α → Assertion τ κ ρ ε} :
    p.attempt.wp inv post abort history t ↔
      p.wp inv (fun value => post (.ok value)) (fun error => post (.error error)) history t :=
  wp_tryCatch.trans wp_bind

theorem wp_perform {request : κ} {post : ρ request → Assertion τ κ ρ ε} {t : τ}
    (hasked : inv (history ++ [⟨request, t, none⟩]) t)
    (hreplied : ∀ reply, inv (history ++ [⟨request, t, some reply⟩]) t)
    (hok : ∀ value, post value (history ++ [⟨request, t, some (.ok value)⟩]) t)
    (herror : ∀ error, abort error (history ++ [⟨request, t, some (.error error)⟩]) t) :
    (perform request : Program τ κ ρ ε _).wp inv post abort history t := by
  refine ⟨hasked, fun reply => ⟨hreplied reply, ?_⟩⟩
  cases reply with
  | ok value => exact hok value
  | error error => exact herror error

theorem wp_ask {request : κ} {post : Except ε (ρ request) → Assertion τ κ ρ ε} {t : τ}
    (hasked : inv (history ++ [⟨request, t, none⟩]) t)
    (hreplied : ∀ reply, inv (history ++ [⟨request, t, some reply⟩]) t)
    (hpost : ∀ reply, post reply (history ++ [⟨request, t, some reply⟩]) t) :
    (ask request : Program τ κ ρ ε _).wp inv post abort history t :=
  ⟨hasked, fun reply => ⟨hreplied reply, hpost reply⟩⟩

end Program
end Effect
