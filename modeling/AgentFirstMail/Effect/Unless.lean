import AgentFirstMail.Effect.Frame

namespace Effect
variable {σ τ κ : Type} {ρ : κ → Type} {ε α β γ : Type}

/-- A property of states that binds only as long as no event of a kind is on record. -/
def Unless (bad : Event σ κ ρ ε → Prop) (P : σ → Prop) : Assertion σ κ ρ ε :=
  fun history s => (∃ event ∈ history, bad event) ∨ P s

namespace Program

/-- From a state on a program keeps an invariant and ends as it should, unless an event of a
kind happens on the way. -/
def Keeps (bad : Event σ κ ρ ε → Prop) (inv : σ → Prop) (post : α → σ → Prop)
    (abort : ε → σ → Prop) (p : Program σ κ ρ ε α) (s : σ) : Prop :=
  ∀ history, p.wp (Unless bad inv) (fun value => Unless bad (post value))
    (fun error => Unless bad (abort error)) history s

variable {bad : Event σ κ ρ ε → Prop} {inv : σ → Prop} {abort : ε → σ → Prop} {s : σ}

theorem wp_of_bad {p : Program σ κ ρ ε α} {post : α → σ → Prop} {history : List (Event σ κ ρ ε)}
    (h : ∃ event ∈ history, bad event) :
    p.wp (Unless bad inv) (fun value => Unless bad (post value))
      (fun error => Unless bad (abort error)) history s := by
  obtain ⟨event, hmem, hbad⟩ := h
  have hunless (P : σ → Prop) (history' : List (Event σ κ ρ ε)) (s' : σ)
      (hmore : history <+: history') : Unless bad P history' s' :=
    .inl ⟨event, hmore.subset hmem, hbad⟩
  apply (Writes.any p).wp (fun _ => trivial) (fun _ _ _ _ _ => trivial)
  · exact fun history' s' hmore _ => hunless inv history' s' hmore
  · exact fun value history' s' hmore _ => hunless (post value) history' s' hmore
  · exact fun error history' s' hmore _ => hunless (abort error) history' s' hmore

namespace Keeps

theorem ret {post : α → σ → Prop} {value : α} (h : post value s) :
    (Program.ret value : Program σ κ ρ ε α).Keeps bad inv post abort s :=
  fun _ => .inr h

theorem fail {post : α → σ → Prop} {error : ε} (h : abort error s) :
    (Program.fail error : Program σ κ ρ ε α).Keeps bad inv post abort s :=
  fun _ => .inr h

theorem read {post : α → σ → Prop} {f : σ → Program σ κ ρ ε α}
    (h : (f s).Keeps bad inv post abort s) :
    (Program.read.bind f).Keeps bad inv post abort s :=
  h

theorem write {change : σ → σ} {post : Unit → σ → Prop} (hinv : inv (change s))
    (hpost : post () (change s)) :
    (Program.write change : Program σ κ ρ ε Unit).Keeps bad inv post abort s :=
  fun _ => ⟨.inr hinv, .inr hpost⟩

theorem ofExcept {result : Except ε α} {post : α → σ → Prop}
    (hok : ∀ value, result = .ok value → post value s)
    (herror : ∀ error, result = .error error → abort error s) :
    (Program.ofExcept result : Program σ κ ρ ε α).Keeps bad inv post abort s := by
  cases result with
  | ok value => exact ret (hok value rfl)
  | error error => exact fail (herror error rfl)

theorem mono {post post' : α → σ → Prop} {abort' : ε → σ → Prop} {p : Program σ κ ρ ε α}
    (h : p.Keeps bad inv post abort s) (hpost : ∀ value s, post value s → post' value s)
    (habort : ∀ error s, abort error s → abort' error s) :
    p.Keeps bad inv post' abort' s := by
  intro history
  apply wp_mono (h history)
  · exact fun value history s => Or.imp_right (hpost value s)
  · exact fun error history s => Or.imp_right (habort error s)

theorem bind {mid : α → σ → Prop} {post : β → σ → Prop} {p : Program σ κ ρ ε α}
    {f : α → Program σ κ ρ ε β} (hp : p.Keeps bad inv mid abort s)
    (hf : ∀ value s, mid value s → (f value).Keeps bad inv post abort s) :
    (p.bind f).Keeps bad inv post abort s := by
  intro history
  apply wp_seq (hp history)
  intro value history s hmid
  cases hmid with
  | inl hbad => exact wp_of_bad hbad
  | inr hmid => exact hf value s hmid history

theorem ask {request : κ} {post : Except ε (ρ request) → σ → Prop} (hinv : inv s)
    (hpost : ∀ reply, ¬ bad ⟨request, s, some reply⟩ → post reply s) :
    (Program.ask request : Program σ κ ρ ε _).Keeps bad inv post abort s := by
  intro history
  apply wp_ask
  · exact .inr hinv
  · exact fun _ => .inr hinv
  · intro reply
    by_cases hbad : bad ⟨request, s, some reply⟩
    · exact .inl ⟨_, List.mem_concat_self, hbad⟩
    · exact .inr (hpost reply hbad)

theorem perform {request : κ} {post : ρ request → σ → Prop} (hinv : inv s)
    (hok : ∀ value, ¬ bad ⟨request, s, some (.ok value)⟩ → post value s)
    (herror : ∀ error, ¬ bad ⟨request, s, some (.error error)⟩ → abort error s) :
    (Program.perform request : Program σ κ ρ ε _).Keeps bad inv post abort s := by
  have hask : (Program.ask request : Program σ κ ρ ε _).Keeps bad inv
      (fun reply s' => s' = s ∧ ¬ bad ⟨request, s, some reply⟩) abort s :=
    ask hinv fun _ hbad => ⟨rfl, hbad⟩
  apply bind hask
  rintro reply _ ⟨rfl, hbad⟩
  apply ofExcept
  · rintro value rfl
    exact hok value hbad
  · rintro error rfl
    exact herror error hbad

theorem attempt {p : Program σ κ ρ ε α} {post : Except ε α → σ → Prop}
    (h : p.Keeps bad inv (fun value => post (.ok value)) (fun error => post (.error error)) s) :
    p.attempt.Keeps bad inv post abort s :=
  fun history => wp_attempt.mpr (h history)

theorem gather {items : List γ} {body : β → γ → Program σ κ ρ ε β} {acc : β}
    (loop : List γ → β → σ → Prop) (hstart : loop items acc s)
    (hbody : ∀ item rest acc s, loop (item :: rest) acc s →
      (body acc item).Keeps bad inv (loop rest) abort s) :
    (Program.gather items acc body).Keeps bad inv (loop []) abort s := by
  induction items generalizing acc s with
  | nil => exact ret hstart
  | cons item rest ih => exact bind (hbody item rest acc s hstart) fun next s hnext => ih hnext

theorem of_writes {R : σ → σ → Prop} {p : Program σ κ ρ ε α} {post : α → σ → Prop}
    (hp : p.Writes R) (hrefl : ∀ s, R s s) (htrans : ∀ s s' s'', R s s' → R s' s'' → R s s'')
    (hinv : ∀ s', R s s' → inv s') (hpost : ∀ value s', R s s' → post value s')
    (habort : ∀ error s', R s s' → abort error s') : p.Keeps bad inv post abort s := by
  intro history
  apply hp.wp hrefl htrans
  · exact fun _ s' _ hR => .inr (hinv s' hR)
  · exact fun value _ s' _ hR => .inr (hpost value s' hR)
  · exact fun error _ s' _ hR => .inr (habort error s' hR)

theorem zoom {part : Part σ τ} {p : Local τ ε α} {post : α → σ → Prop}
    (h : p.wp (fun _ t => inv (part.put s t)) (fun value _ t => post value (part.put s t))
      (fun error _ t => abort error (part.put s t)) [] (part.get s)) :
    (p.zoom part : Program σ κ ρ ε α).Keeps bad inv post abort s := by
  intro history
  apply wp_zoom
  apply wp_weaken h
  · exact fun _ _ h => .inr h
  · exact fun _ _ _ h => .inr h
  · exact fun _ _ _ h => .inr h

end Keeps

theorem Keeps.exec {p : Program σ κ ρ ε α} {post : α → σ → Prop}
    (hp : p.Keeps bad inv post abort s) (h : Exec p s events outcome s')
    (hgood : ∀ event ∈ events, ¬ bad event) (hinv : inv s) : inv s' := by
  obtain ⟨event, hmem, hbad⟩ | hend := (wp_sound h (.inr hinv) (hp [])).1
  · exact (hgood event hmem hbad).elim
  · exact hend

end Program
end Effect
