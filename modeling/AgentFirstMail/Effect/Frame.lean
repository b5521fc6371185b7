import AgentFirstMail.Effect.Zoom

namespace Effect
variable {σ τ κ : Type} {ρ : κ → Type} {ε α β γ : Type}

/-- The request was answered, and not with an error. -/
def Event.Answered (event : Event σ κ ρ ε) : Prop := ∃ value, event.reply = some (.ok value)

namespace Program

/-- Every write of a program changes the state as `R` allows, whatever was read or replied. -/
def Writes (R : σ → σ → Prop) : Program σ κ ρ ε α → Prop
  | ret _ => True
  | fail _ => True
  | load next => ∀ s, (next s).Writes R
  | store change next => (∀ s, R s (change s)) ∧ next.Writes R
  | call _ next => ∀ reply, (next reply).Writes R

namespace Writes
variable {R : σ → σ → Prop}

theorem ret (value : α) : (Program.ret value : Program σ κ ρ ε α).Writes R := trivial

theorem fail (error : ε) : (Program.fail error : Program σ κ ρ ε α).Writes R := trivial

theorem read : (Program.read : Program σ κ ρ ε σ).Writes R := fun _ => trivial

theorem write {change : σ → σ} (h : ∀ s, R s (change s)) :
    (Program.write change : Program σ κ ρ ε Unit).Writes R := ⟨h, trivial⟩

theorem ofExcept (result : Except ε α) : (Program.ofExcept result : Program σ κ ρ ε α).Writes R := by
  cases result <;> trivial

theorem ask (request : κ) : (Program.ask request : Program σ κ ρ ε _).Writes R := fun _ => trivial

theorem perform (request : κ) : (Program.perform request : Program σ κ ρ ε _).Writes R :=
  fun reply => ofExcept reply

theorem bind {p : Program σ κ ρ ε α} {f : α → Program σ κ ρ ε β} (hp : p.Writes R)
    (hf : ∀ value, (f value).Writes R) : (p.bind f).Writes R := by
  induction p with
  | ret value => exact hf value
  | fail error => trivial
  | load next ih => exact fun s => ih s (hp s)
  | store change next ih => exact ⟨hp.1, ih hp.2⟩
  | call request next ih => exact fun reply => ih reply (hp reply)

theorem tryCatch {p : Program σ κ ρ ε α} {handle : ε → Program σ κ ρ ε α} (hp : p.Writes R)
    (hhandle : ∀ error, (handle error).Writes R) : (p.tryCatch handle).Writes R := by
  induction p with
  | ret value => trivial
  | fail error => exact hhandle error
  | load next ih => exact fun s => ih s (hp s)
  | store change next ih => exact ⟨hp.1, ih hp.2⟩
  | call request next ih => exact fun reply => ih reply (hp reply)

theorem gather {items : List γ} {acc : β} {body : β → γ → Program σ κ ρ ε β}
    (h : ∀ acc item, (body acc item).Writes R) : (Program.gather items acc body).Writes R := by
  induction items generalizing acc with
  | nil => trivial
  | cons item rest ih => exact (h acc item).bind fun _ => ih

theorem forEach {items : List γ} {body : γ → Program σ κ ρ ε Unit}
    (h : ∀ item ∈ items, (body item).Writes R) : (Program.forEach items body).Writes R := by
  induction items with
  | nil => trivial
  | cons item rest ih =>
    exact (h item List.mem_cons_self).bind fun _ =>
      ih fun item hitem => h item (List.mem_cons_of_mem _ hitem)

theorem zoom_of {part : Part σ τ} {R' : τ → τ → Prop} {p : Local τ ε α} (hp : p.Writes R')
    (h : ∀ s t, R' (part.get s) t → R s (part.put s t)) :
    (p.zoom part : Program σ κ ρ ε α).Writes R := by
  induction p with
  | ret value => trivial
  | fail error => trivial
  | load next ih => exact fun s => ih (part.get s) (hp (part.get s))
  | store change next ih => exact ⟨fun s => h s _ (hp.1 (part.get s)), ih hp.2⟩
  | call request next _ => exact request.elim

theorem any (p : Program σ κ ρ ε α) : p.Writes fun _ _ => True := by
  induction p with
  | ret value => trivial
  | fail error => trivial
  | load next ih => exact ih
  | store change next ih => exact ⟨fun _ => trivial, ih⟩
  | call request next ih => exact ih

theorem zoom {part : Part σ τ} {p : Local τ ε α} (h : ∀ s t, R s (part.put s t)) :
    (p.zoom part : Program σ κ ρ ε α).Writes R :=
  zoom_of (any p) fun s t _ => h s t

theorem mono {R' : σ → σ → Prop} {p : Program σ κ ρ ε α} (hp : p.Writes R)
    (h : ∀ s s', R s s' → R' s s') : p.Writes R' := by
  induction p with
  | ret value => trivial
  | fail error => trivial
  | load next ih => exact fun s => ih s (hp s)
  | store change next ih => exact ⟨fun s => h _ _ (hp.1 s), ih hp.2⟩
  | call request next ih => exact fun reply => ih reply (hp reply)

theorem and {R' : σ → σ → Prop} {p : Program σ κ ρ ε α} (hp : p.Writes R) (hp' : p.Writes R') :
    p.Writes fun s s' => R s s' ∧ R' s s' := by
  induction p with
  | ret value => trivial
  | fail error => trivial
  | load next ih => exact fun s => ih s (hp s) (hp' s)
  | store change next ih => exact ⟨fun s => ⟨hp.1 s, hp'.1 s⟩, ih hp.2 hp'.2⟩
  | call request next ih => exact fun reply => ih reply (hp reply) (hp' reply)

/-- Wherever a program is, its writes have led there and what was asked is still on record. -/
theorem wp {p : Program σ κ ρ ε α} {inv : Assertion σ κ ρ ε} {post : α → Assertion σ κ ρ ε}
    {abort : ε → Assertion σ κ ρ ε} {history : List (Event σ κ ρ ε)} {s : σ} (hp : p.Writes R)
    (hrefl : ∀ s, R s s) (htrans : ∀ s s' s'', R s s' → R s' s'' → R s s'')
    (hinv : ∀ history' s', history <+: history' → R s s' → inv history' s')
    (hpost : ∀ value history' s', history <+: history' → R s s' → post value history' s')
    (habort : ∀ error history' s', history <+: history' → R s s' → abort error history' s') :
    p.wp inv post abort history s := by
  have hgoal : ∀ history' s', history <+: history' → R s s' →
      p.wp inv post abort history' s' := by
    induction p with
    | ret value => exact hpost value
    | fail error => exact habort error
    | load next ih => exact fun history' s' hmore hR => ih s' (hp s') history' s' hmore hR
    | store change next ih =>
      intro history' s' hmore hR
      have hnext := htrans _ _ _ hR (hp.1 s')
      exact ⟨hinv _ _ hmore hnext, ih hp.2 history' (change s') hmore hnext⟩
    | call request next ih =>
      intro history' s' hmore hR
      have hasked (event : Event σ κ ρ ε) : history <+: history' ++ [event] :=
        hmore.trans (List.prefix_append _ _)
      exact ⟨hinv _ _ (hasked _) hR, fun reply =>
        ⟨hinv _ _ (hasked _) hR, ih reply (hp reply) _ s' (hasked _) hR⟩⟩
  exact hgoal history s List.prefix_rfl (hrefl s)

end Writes
end Program

theorem Exec.writes {R : σ → σ → Prop} {p : Program σ κ ρ ε α} (h : Exec p s events outcome s')
    (hp : p.Writes R) (hrefl : ∀ s, R s s) (htrans : ∀ s s' s'', R s s' → R s' s'' → R s s'') :
    R s s' := by
  have hwp : p.wp (fun _ => R s) (fun _ _ _ => True) (fun _ _ _ => True) [] s :=
    hp.wp hrefl htrans (fun _ _ _ h => h) (fun _ _ _ _ _ => trivial) (fun _ _ _ _ _ => trivial)
  exact (Program.wp_sound h (hrefl s) hwp).1

theorem Exec.preserves {R : σ → σ → Prop} {P : σ → Prop} {p : Program σ κ ρ ε α}
    (h : Exec p s events outcome s') (hp : p.Writes R)
    (hkeeps : ∀ {s s'}, R s s' → P s → P s') (hs : P s) : P s' :=
  h.writes (hp.mono fun _ _ => hkeeps) (fun _ => id) (fun _ _ _ hfirst hnext => hnext ∘ hfirst) hs

end Effect
