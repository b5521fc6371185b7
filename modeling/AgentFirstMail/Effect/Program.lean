import Mathlib.Tactic.Common

namespace Effect

/-- A sequential program over a state `σ` that asks its environment typed requests `κ`.
A `store` is one atomic write; a reply is a value or an error of the environment. -/
inductive Program (σ κ : Type) (ρ : κ → Type) (ε α : Type) where
  | ret (value : α)
  | fail (error : ε)
  | load (next : σ → Program σ κ ρ ε α)
  | store (change : σ → σ) (next : Program σ κ ρ ε α)
  | call (request : κ) (next : Except ε (ρ request) → Program σ κ ρ ε α)

variable {σ κ : Type} {ρ : κ → Type} {ε α β γ : Type}

namespace Program

def bind : Program σ κ ρ ε α → (α → Program σ κ ρ ε β) → Program σ κ ρ ε β
  | ret value, f => f value
  | fail error, _ => fail error
  | load next, f => load fun s => (next s).bind f
  | store change next, f => store change (next.bind f)
  | call request next, f => call request fun reply => (next reply).bind f

def tryCatch : Program σ κ ρ ε α → (ε → Program σ κ ρ ε α) → Program σ κ ρ ε α
  | ret value, _ => ret value
  | fail error, handle => handle error
  | load next, handle => load fun s => (next s).tryCatch handle
  | store change next, handle => store change (next.tryCatch handle)
  | call request next, handle => call request fun reply => (next reply).tryCatch handle

instance : Monad (Program σ κ ρ ε) where
  pure := ret
  bind := bind

instance : MonadExceptOf ε (Program σ κ ρ ε) where
  throw := fail
  tryCatch := tryCatch

/-- Reads the state. -/
def read : Program σ κ ρ ε σ := load ret

/-- Replaces the state in one write. -/
def write (change : σ → σ) : Program σ κ ρ ε Unit := store change (ret ())

def ofExcept : Except ε α → Program σ κ ρ ε α
  | .ok value => ret value
  | .error error => fail error

/-- Asks the environment and keeps its answer as a value. -/
def ask (request : κ) : Program σ κ ρ ε (Except ε (ρ request)) := call request ret

/-- Asks the environment and fails with the error it answers. -/
def perform (request : κ) : Program σ κ ρ ε (ρ request) := call request ofExcept

def forEach (items : List γ) (body : γ → Program σ κ ρ ε Unit) : Program σ κ ρ ε Unit :=
  match items with
  | [] => ret ()
  | item :: rest => (body item).bind fun _ => forEach rest body

@[simp] theorem pure_eq (value : α) : (pure value : Program σ κ ρ ε α) = ret value := rfl

@[simp] theorem bind_eq (p : Program σ κ ρ ε α) (f : α → Program σ κ ρ ε β) :
    p >>= f = p.bind f := rfl

@[simp] theorem throw_eq (error : ε) : (throw error : Program σ κ ρ ε α) = fail error := rfl

theorem bind_assoc (p : Program σ κ ρ ε α) (f : α → Program σ κ ρ ε β)
    (g : β → Program σ κ ρ ε γ) :
    (p.bind f).bind g = p.bind fun value => (f value).bind g := by
  induction p with
  | ret value => rfl
  | fail error => rfl
  | load next ih =>
    have h := funext ih
    simp only [bind, h]
  | store change next ih => simp only [bind, ih]
  | call request next ih =>
    have h := funext ih
    simp only [bind, h]

end Program
end Effect
