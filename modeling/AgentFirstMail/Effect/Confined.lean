import AgentFirstMail.Effect.Safety

namespace Effect
variable {σ κ : Type} {ρ : κ → Type} {ε α β γ δ : Type}

/-- What bounds a program: the states that it keeps to, the requests that it may issue, and what
of an error tells whether it was answered with it. -/
structure Bounds (σ κ ε δ : Type) where
  state : σ → Prop
  request : κ → Prop
  code : ε → δ

namespace Program

/-- From a state within its bounds a program writes only such states, asks only what it may, and
fails only as `E` says or with the code of an error that it was answered with. -/
def Confined (bounds : Bounds σ κ ε δ) : (ε → Prop) → Program σ κ ρ ε α → Prop
  | _, ret _ => True
  | E, fail error => E error
  | E, load next => ∀ s, bounds.state s → Confined bounds E (next s)
  | E, store change next =>
    (∀ s, bounds.state s → bounds.state (change s)) ∧ Confined bounds E next
  | E, call request next => bounds.request request ∧ ∀ reply, Confined bounds (fun error =>
      E error ∨ ∃ answer, reply = .error answer ∧ bounds.code answer = bounds.code error) (next reply)

namespace Confined
variable {bounds : Bounds σ κ ε δ} {E E' : ε → Prop} {p : Program σ κ ρ ε α}

theorem mono (h : Confined bounds E p) (hE : ∀ error, E error → E' error) :
    Confined bounds E' p := by
  induction p generalizing E E' with
  | ret value => trivial
  | fail error => exact hE error h
  | load next ih => exact fun s hs => ih s (h s hs) hE
  | store change next ih => exact ⟨h.1, ih h.2 hE⟩
  | call request next ih =>
    exact ⟨h.1, fun reply => ih reply (h.2 reply) fun error => Or.imp_left (hE error)⟩

theorem bind {f : α → Program σ κ ρ ε β} (h : Confined bounds E p)
    (hf : ∀ value, Confined bounds E (f value)) : Confined bounds E (p.bind f) := by
  induction p generalizing E with
  | ret value => exact hf value
  | fail error => exact h
  | load next ih => exact fun s hs => ih s (h s hs) hf
  | store change next ih => exact ⟨h.1, ih h.2 hf⟩
  | call request next ih =>
    exact ⟨h.1, fun reply => ih reply (h.2 reply) fun value => (hf value).mono fun _ => .inl⟩

theorem tryCatch {handle : ε → Program σ κ ρ ε α} (h : Confined bounds E p)
    (hhandle : ∀ error, Confined bounds E (handle error)) : Confined bounds E (p.tryCatch handle) := by
  induction p generalizing E with
  | ret value => trivial
  | fail error => exact hhandle error
  | load next ih => exact fun s hs => ih s (h s hs) hhandle
  | store change next ih => exact ⟨h.1, ih h.2 hhandle⟩
  | call request next ih =>
    exact ⟨h.1, fun reply => ih reply (h.2 reply) fun error => (hhandle error).mono fun _ => .inl⟩

theorem write {change : σ → σ} (h : ∀ s, bounds.state s → bounds.state (change s)) :
    Confined bounds E (Program.write change : Program σ κ ρ ε Unit) := ⟨h, trivial⟩

theorem ofExcept_bind {result : Except ε α} {f : α → Program σ κ ρ ε β}
    (hok : ∀ value, result = .ok value → Confined bounds E (f value))
    (herror : ∀ error, result = .error error → E error) :
    Confined bounds E ((Program.ofExcept result).bind f) := by
  cases result with
  | ok value => exact hok value rfl
  | error error => exact herror error rfl

theorem ofExcept {result : Except ε α} (herror : ∀ error, result = .error error → E error) :
    Confined bounds E (Program.ofExcept result : Program σ κ ρ ε α) := by
  cases result with
  | ok value => trivial
  | error error => exact herror error rfl

theorem perform {request : κ} (h : bounds.request request) :
    Confined bounds E (Program.perform request : Program σ κ ρ ε _) := by
  refine ⟨h, fun reply => ?_⟩
  cases reply with
  | ok value => trivial
  | error error => exact .inr ⟨error, rfl, rfl⟩

theorem ask_bind {request : κ} {f : Except ε (ρ request) → Program σ κ ρ ε α}
    (h : bounds.request request) (hok : ∀ value, Confined bounds E (f (.ok value)))
    (herror : ∀ error,
      Confined bounds (fun other => E other ∨ bounds.code error = bounds.code other) (f (.error error))) :
    Confined bounds E ((Program.ask request).bind f) := by
  refine ⟨h, fun reply => ?_⟩
  cases reply with
  | ok value => exact (hok value).mono fun _ => .inl
  | error error =>
    apply (herror error).mono
    exact fun other => Or.imp_right fun hcode => ⟨error, rfl, hcode⟩

theorem forEach {items : List γ} {body : γ → Program σ κ ρ ε Unit}
    (h : ∀ item ∈ items, Confined bounds E (body item)) :
    Confined bounds E (Program.forEach items body) := by
  induction items with
  | nil => trivial
  | cons item rest ih =>
    exact (h item List.mem_cons_self).bind fun _ =>
      ih fun item hitem => h item (List.mem_cons_of_mem _ hitem)

/-- A program that keeps to its bounds keeps to them wherever it is cut off. -/
theorem wp {history : List (Event σ κ ρ ε)} {s : σ} (h : Confined bounds E p)
    (hs : bounds.state s) (hasked : ∀ event ∈ history, bounds.request event.request) :
    p.wp (fun history s => bounds.state s ∧ ∀ event ∈ history, bounds.request event.request)
      (fun _ history s => bounds.state s ∧ ∀ event ∈ history, bounds.request event.request)
      (fun _ history s => bounds.state s ∧ ∀ event ∈ history, bounds.request event.request)
      history s := by
  induction p generalizing E history s with
  | ret value => exact ⟨hs, hasked⟩
  | fail error => exact ⟨hs, hasked⟩
  | load next ih => exact ih s (h s hs) hs hasked
  | store change next ih =>
    have hnext := h.1 s hs
    exact ⟨⟨hnext, hasked⟩, ih h.2 hnext hasked⟩
  | call request next ih =>
    have hmore (reply : Option (Except ε (ρ request))) :
        ∀ event ∈ history ++ [⟨request, s, reply⟩], bounds.request event.request := by
      intro event hmem
      rcases List.mem_append.mp hmem with hbefore | hnow
      · exact hasked event hbefore
      · rw [List.mem_singleton.mp hnow]
        exact h.1
    exact ⟨⟨hs, hmore none⟩, fun reply =>
      ⟨⟨hs, hmore (some reply)⟩, ih reply (h.2 reply) hs (hmore (some reply))⟩⟩

end Confined
end Program

/-- Every execution of a confined program keeps to its bounds. -/
theorem Exec.confined {bounds : Bounds σ κ ε δ} {E : ε → Prop} {p : Program σ κ ρ ε α}
    (h : Exec p s events outcome s') (hp : p.Confined bounds E) (hs : bounds.state s) :
    bounds.state s' ∧ (∀ event ∈ events, bounds.request event.request) ∧
      ∀ error, outcome = .failed error → E error ∨ ∃ event ∈ events, ∃ answer,
        event.reply = some (.error answer) ∧ bounds.code answer = bounds.code error := by
  induction h generalizing E with
  | ret => exact ⟨hs, fun _ hmem => (nomatch hmem), fun _ heq => (nomatch heq)⟩
  | fail =>
    refine ⟨hs, fun _ hmem => (nomatch hmem), fun error heq => ?_⟩
    cases heq
    exact .inl hp
  | crash => exact ⟨hs, fun _ hmem => (nomatch hmem), fun _ heq => (nomatch heq)⟩
  | load _ ih => exact ih (hp _ hs) hs
  | store _ ih => exact ih hp.2 (hp.1 _ hs)
  | call reply _ ih =>
    obtain ⟨hend, hasked, hfailed⟩ := ih (hp.2 reply) hs
    refine ⟨hend, List.forall_mem_cons.mpr ⟨hp.1, hasked⟩, fun error heq => ?_⟩
    rcases hfailed error heq with (hE | ⟨answer, hreply, hcode⟩) | ⟨event, hmem, hevent⟩
    · exact .inl hE
    · exact .inr ⟨_, List.mem_cons_self, answer, congrArg some hreply, hcode⟩
    · exact .inr ⟨event, List.mem_cons_of_mem _ hmem, hevent⟩
  | lost =>
    refine ⟨hs, fun event hmem => ?_, fun _ heq => (nomatch heq)⟩
    rw [List.mem_singleton.mp hmem]
    exact hp.1

end Effect
