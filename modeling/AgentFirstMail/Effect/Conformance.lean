import Mathlib.Logic.Relation
import AgentFirstMail.Effect.Safety

namespace Effect
variable {φ σ κ : Type} {ρ : κ → Type} {ε α β : Type}

/-- A state of a transition system that says what a program does: a control phase over the
history of requests and the state of the program. -/
structure Position (φ σ κ : Type) (ρ : κ → Type) (ε : Type) where
  phase : φ
  history : List (Event σ κ ρ ε)
  state : σ

/-- The system comes from `start` to a phase, with this history and in this state. -/
abbrev Reaches (step : Position φ σ κ ρ ε → Position φ σ κ ρ ε → Prop)
    (start : Position φ σ κ ρ ε) (phase : φ) : Assertion σ κ ρ ε :=
  fun history state => Relation.ReflTransGen step start ⟨phase, history, state⟩

/-- Every history and state of a program is one that the system reaches. -/
def Conforms (step : Position φ σ κ ρ ε → Position φ σ κ ρ ε → Prop)
    (start : Position φ σ κ ρ ε) : Assertion σ κ ρ ε :=
  fun history state => ∃ phase, Reaches step start phase history state

variable {step : Position φ σ κ ρ ε → Position φ σ κ ρ ε → Prop}
  {start : Position φ σ κ ρ ε}

theorem Reaches.invariant {inv : Position φ σ κ ρ ε → Prop}
    (h : Reaches step start phase history state) (hstart : inv start)
    (hstep : ∀ position next, inv position → step position next → inv next) :
    inv ⟨phase, history, state⟩ := by
  change Relation.ReflTransGen step start ⟨phase, history, state⟩ at h
  generalize (⟨phase, history, state⟩ : Position φ σ κ ρ ε) = position at h ⊢
  induction h with
  | refl => exact hstart
  | tail _ hlast ih => exact hstep _ _ ih hlast

namespace Program
variable {abort : ε → Assertion σ κ ρ ε}

theorem wp_write_step {post : Unit → Assertion σ κ ρ ε} {change : σ → σ}
    (h : Reaches step start phase history s)
    (hstep : step ⟨phase, history, s⟩ ⟨phase', history, change s⟩)
    (hpost : Reaches step start phase' history (change s) → post () history (change s)) :
    (write change : Program σ κ ρ ε Unit).wp (Conforms step start) post abort history s :=
  ⟨⟨phase', h.tail hstep⟩, hpost (h.tail hstep)⟩

theorem wp_ask_step {request : κ} {post : Except ε (ρ request) → Assertion σ κ ρ ε}
    (next : Option (Except ε (ρ request)) → φ)
    (h : Reaches step start phase history s)
    (hstep : ∀ reply,
      step ⟨phase, history, s⟩ ⟨next reply, history ++ [⟨request, s, reply⟩], s⟩)
    (hpost : ∀ reply, Reaches step start (next (some reply))
        (history ++ [⟨request, s, some reply⟩]) s →
      post reply (history ++ [⟨request, s, some reply⟩]) s) :
    (ask request : Program σ κ ρ ε _).wp (Conforms step start) post abort history s :=
  ⟨⟨_, h.tail (hstep none)⟩, fun reply =>
    ⟨⟨_, h.tail (hstep (some reply))⟩, hpost reply (h.tail (hstep (some reply)))⟩⟩

theorem wp_perform_step {request : κ} {post : ρ request → Assertion σ κ ρ ε}
    (next : Option (Except ε (ρ request)) → φ)
    (h : Reaches step start phase history s)
    (hstep : ∀ reply,
      step ⟨phase, history, s⟩ ⟨next reply, history ++ [⟨request, s, reply⟩], s⟩)
    (hpost : ∀ value, Reaches step start (next (some (.ok value)))
        (history ++ [⟨request, s, some (.ok value)⟩]) s →
      post value (history ++ [⟨request, s, some (.ok value)⟩]) s)
    (habort : ∀ error, Reaches step start (next (some (.error error)))
        (history ++ [⟨request, s, some (.error error)⟩]) s →
      abort error (history ++ [⟨request, s, some (.error error)⟩]) s) :
    (perform request : Program σ κ ρ ε _).wp (Conforms step start) post abort history s := by
  refine ⟨⟨_, h.tail (hstep none)⟩, fun reply => ⟨⟨_, h.tail (hstep (some reply))⟩, ?_⟩⟩
  cases reply with
  | ok value => exact hpost value (h.tail (hstep (some (.ok value))))
  | error error => exact habort error (h.tail (hstep (some (.error error))))

theorem Exec.reaches {p : Program σ κ ρ ε α} {post : α → Assertion σ κ ρ ε}
    (h : Exec p s events outcome s') (hat : Reaches step start phase history s)
    (hwp : p.wp (Conforms step start) post abort history s) :
    Conforms step start (history ++ events) s' :=
  (wp_sound h ⟨phase, hat⟩ hwp).1

end Program
end Effect
