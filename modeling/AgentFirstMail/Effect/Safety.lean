import AgentFirstMail.Effect.Execution

namespace Effect
variable {σ κ : Type} {ρ : κ → Type} {ε α β γ : Type}

/-- A property of a history of requests and of the state it led to. -/
abbrev Assertion (σ κ : Type) (ρ : κ → Type) (ε : Type) := List (Event σ κ ρ ε) → σ → Prop

/-- What an outcome promises; a run that is cut off promises nothing here. -/
def Outcome.Meets (post : α → Assertion σ κ ρ ε) (abort : ε → Assertion σ κ ρ ε) :
    Outcome ε α → Assertion σ κ ρ ε
  | .returned value => post value
  | .failed error => abort error
  | .crashed => fun _ _ => True

namespace Program

/-- The weakest precondition under which a program keeps `inv` after every write and around
every request, ends in `post` when it returns and in `abort` when it fails. -/
def wp (inv : Assertion σ κ ρ ε) (post : α → Assertion σ κ ρ ε) (abort : ε → Assertion σ κ ρ ε) :
    Program σ κ ρ ε α → Assertion σ κ ρ ε
  | ret value, h, s => post value h s
  | fail error, h, s => abort error h s
  | load next, h, s => (next s).wp inv post abort h s
  | store change next, h, s => inv h (change s) ∧ next.wp inv post abort h (change s)
  | call request next, h, s => inv (h ++ [⟨request, s, none⟩]) s ∧
      ∀ reply, inv (h ++ [⟨request, s, some reply⟩]) s ∧
        (next reply).wp inv post abort (h ++ [⟨request, s, some reply⟩]) s

variable {inv : Assertion σ κ ρ ε} {post : α → Assertion σ κ ρ ε} {abort : ε → Assertion σ κ ρ ε}

/-- The invariant holds wherever a run is cut off, and a run that ends meets its postcondition. -/
theorem wp_sound {p : Program σ κ ρ ε α} {history : List (Event σ κ ρ ε)}
    (h : Exec p s events outcome s') (hinv : inv history s)
    (hwp : p.wp inv post abort history s) :
    inv (history ++ events) s' ∧ outcome.Meets post abort (history ++ events) s' := by
  induction h generalizing history with
  | ret =>
    rw [List.append_nil]
    exact ⟨hinv, hwp⟩
  | fail =>
    rw [List.append_nil]
    exact ⟨hinv, hwp⟩
  | crash =>
    rw [List.append_nil]
    exact ⟨hinv, trivial⟩
  | load _ ih => exact ih hinv hwp
  | store _ ih => exact ih hwp.1 hwp.2
  | call reply _ ih =>
    obtain ⟨hreply, hnext⟩ := hwp.2 reply
    have hrest := ih hreply hnext
    rw [List.append_cons]
    exact hrest
  | lost => exact ⟨hwp.1, trivial⟩

/-- What every run meets is a precondition. -/
theorem wp_complete {p : Program σ κ ρ ε α} {history : List (Event σ κ ρ ε)}
    (h : ∀ events outcome s', Exec p s events outcome s' →
      inv (history ++ events) s' ∧ outcome.Meets post abort (history ++ events) s') :
    p.wp inv post abort history s := by
  induction p generalizing history s with
  | ret value =>
    have hended := (h [] _ s .ret).2
    rw [List.append_nil] at hended
    exact hended
  | fail error =>
    have hended := (h [] _ s .fail).2
    rw [List.append_nil] at hended
    exact hended
  | load next ih => exact ih s fun events outcome s' hexec => h events outcome s' (.load hexec)
  | store change next ih =>
    refine ⟨?_, ih fun events outcome s' hexec => h events outcome s' (.store hexec)⟩
    have hwritten := (h [] .crashed (change s) (.store .crash)).1
    rwa [List.append_nil] at hwritten
  | call request next ih =>
    refine ⟨(h _ _ _ .lost).1, fun reply => ⟨?_, ih reply ?_⟩⟩
    · exact (h _ _ _ (.call reply .crash)).1
    · intro events outcome s' hexec
      rw [List.append_assoc]
      exact h _ _ _ (.call reply hexec)

theorem wp_weaken {inv' : Assertion σ κ ρ ε} {post' : α → Assertion σ κ ρ ε}
    {abort' : ε → Assertion σ κ ρ ε} {p : Program σ κ ρ ε α} (h : p.wp inv post abort history s)
    (hinv : ∀ history s, inv history s → inv' history s)
    (hpost : ∀ value history s, post value history s → post' value history s)
    (habort : ∀ error history s, abort error history s → abort' error history s) :
    p.wp inv' post' abort' history s := by
  induction p generalizing history s with
  | ret value => exact hpost _ _ _ h
  | fail error => exact habort _ _ _ h
  | load next ih => exact ih s h
  | store change next ih => exact ⟨hinv _ _ h.1, ih h.2⟩
  | call request next ih =>
    refine ⟨hinv _ _ h.1, fun reply => ?_⟩
    obtain ⟨hreply, hnext⟩ := h.2 reply
    exact ⟨hinv _ _ hreply, ih reply hnext⟩

theorem wp_and {inv' : Assertion σ κ ρ ε} {post' : α → Assertion σ κ ρ ε}
    {abort' : ε → Assertion σ κ ρ ε} {p : Program σ κ ρ ε α} (h : p.wp inv post abort history s)
    (h' : p.wp inv' post' abort' history s) :
    p.wp (fun history s => inv history s ∧ inv' history s)
      (fun value history s => post value history s ∧ post' value history s)
      (fun error history s => abort error history s ∧ abort' error history s) history s := by
  induction p generalizing history s with
  | ret value => exact ⟨h, h'⟩
  | fail error => exact ⟨h, h'⟩
  | load next ih => exact ih s h h'
  | store change next ih => exact ⟨⟨h.1, h'.1⟩, ih h.2 h'.2⟩
  | call request next ih =>
    refine ⟨⟨h.1, h'.1⟩, fun reply => ?_⟩
    obtain ⟨hreply, hnext⟩ := h.2 reply
    obtain ⟨hreply', hnext'⟩ := h'.2 reply
    exact ⟨⟨hreply, hreply'⟩, ih reply hnext hnext'⟩

theorem wp_extends {p : Program σ κ ρ ε α} (h : p.wp inv post abort history s) :
    p.wp (fun history' s => history <+: history' ∧ inv history' s)
      (fun value history' s => history <+: history' ∧ post value history' s)
      (fun error history' s => history <+: history' ∧ abort error history' s) history s := by
  have hextends : ∀ before, before <+: history →
      p.wp (fun history' s => before <+: history' ∧ inv history' s)
        (fun value history' s => before <+: history' ∧ post value history' s)
        (fun error history' s => before <+: history' ∧ abort error history' s) history s := by
    intro before hbefore
    induction p generalizing history s with
    | ret value => exact ⟨hbefore, h⟩
    | fail error => exact ⟨hbefore, h⟩
    | load next ih => exact ih s h hbefore
    | store change next ih => exact ⟨⟨hbefore, h.1⟩, ih h.2 hbefore⟩
    | call request next ih =>
      have hmore (reply : Option (Except ε (ρ request))) :
          before <+: history ++ [⟨request, s, reply⟩] := hbefore.trans (List.prefix_append _ _)
      refine ⟨⟨hmore none, h.1⟩, fun reply => ?_⟩
      obtain ⟨hreply, hnext⟩ := h.2 reply
      exact ⟨⟨hmore (some reply), hreply⟩, ih reply hnext (hmore (some reply))⟩
  exact hextends history List.prefix_rfl

theorem wp_mono {post' : α → Assertion σ κ ρ ε} {abort' : ε → Assertion σ κ ρ ε}
    {p : Program σ κ ρ ε α} (h : p.wp inv post abort history s)
    (hpost : ∀ value history s, post value history s → post' value history s)
    (habort : ∀ error history s, abort error history s → abort' error history s) :
    p.wp inv post' abort' history s :=
  wp_weaken h (fun _ _ => id) hpost habort

theorem wp_bind {post : β → Assertion σ κ ρ ε} {p : Program σ κ ρ ε α}
    {f : α → Program σ κ ρ ε β} :
    (p.bind f).wp inv post abort history s ↔
      p.wp inv (fun value => (f value).wp inv post abort) abort history s := by
  induction p generalizing history s with
  | ret value => exact .rfl
  | fail error => exact .rfl
  | load next ih => exact ih s
  | store change next ih => exact and_congr_right fun _ => ih
  | call request next ih =>
    refine and_congr_right fun _ => forall_congr' fun reply => ?_
    exact and_congr_right fun _ => ih reply

theorem wp_seq {mid : α → Assertion σ κ ρ ε} {post : β → Assertion σ κ ρ ε}
    {p : Program σ κ ρ ε α} {f : α → Program σ κ ρ ε β} (hp : p.wp inv mid abort history s)
    (hf : ∀ value history s, mid value history s → (f value).wp inv post abort history s) :
    (p.bind f).wp inv post abort history s := by
  apply wp_bind.mpr
  apply wp_mono hp hf
  intro _ _ _ habort
  exact habort

theorem wp_tryCatch {p : Program σ κ ρ ε α} {handle : ε → Program σ κ ρ ε α} :
    (p.tryCatch handle).wp inv post abort history s ↔
      p.wp inv post (fun error => (handle error).wp inv post abort) history s := by
  induction p generalizing history s with
  | ret value => exact .rfl
  | fail error => exact .rfl
  | load next ih => exact ih s
  | store change next ih => exact and_congr_right fun _ => ih
  | call request next ih =>
    refine and_congr_right fun _ => forall_congr' fun reply => ?_
    exact and_congr_right fun _ => ih reply

@[simp] theorem wp_ret {value : α} :
    (ret value : Program σ κ ρ ε α).wp inv post abort history s ↔ post value history s := .rfl

@[simp] theorem wp_read {post : σ → Assertion σ κ ρ ε} :
    (read : Program σ κ ρ ε σ).wp inv post abort history s ↔ post s history s := .rfl

@[simp] theorem wp_write {post : Unit → Assertion σ κ ρ ε} {change : σ → σ} :
    (write change : Program σ κ ρ ε Unit).wp inv post abort history s ↔
      inv history (change s) ∧ post () history (change s) := .rfl

@[simp] theorem wp_ofExcept {result : Except ε α} :
    (ofExcept result : Program σ κ ρ ε α).wp inv post abort history s ↔
      match result with
      | .ok value => post value history s
      | .error error => abort error history s := by
  cases result <;> exact .rfl

theorem wp_forEach_done {items : List γ} {body : γ → Program σ κ ρ ε Unit}
    (loop : List γ → Assertion σ κ ρ ε) (done : List γ) (hstart : loop done history s)
    (hbody : ∀ item ∈ items, ∀ done history s, loop done history s →
      (body item).wp inv (fun _ => loop (done ++ [item])) abort history s) :
    (forEach items body).wp inv (fun _ => loop (done ++ items)) abort history s := by
  induction items generalizing done history s with
  | nil =>
    rw [List.append_nil]
    exact hstart
  | cons item rest ih =>
    apply wp_seq (hbody item List.mem_cons_self done history s hstart)
    intro _ history s hloop
    have hrest := ih (done ++ [item]) hloop fun item hitem => hbody item (List.mem_cons_of_mem _ hitem)
    rw [List.append_assoc, List.singleton_append] at hrest
    exact hrest

theorem wp_forEach {items : List γ} {body : γ → Program σ κ ρ ε Unit}
    {loop : Assertion σ κ ρ ε} (hstart : loop history s)
    (hbody : ∀ item ∈ items, ∀ history s, loop history s →
      (body item).wp inv (fun _ => loop) abort history s) :
    (forEach items body).wp inv (fun _ => loop) abort history s := by
  exact wp_forEach_done (fun _ => loop) [] hstart fun item hitem _ => hbody item hitem

theorem session_invariant {p : Program σ κ ρ ε α} {history : List (Event σ κ ρ ε)}
    (h : Exec p s events outcome s') (hinv : inv history s)
    (hwp : p.wp inv (fun _ => inv) (fun _ => inv) history s) : inv (history ++ events) s' :=
  (wp_sound h hinv hwp).1

end Program

/-- The rule of sequence. -/
theorem wp_then {post : β → Assertion σ κ ρ ε} {p : Program σ κ ρ ε α}
    {f : α → Program σ κ ρ ε β}
    (h : p.wp inv (fun value => (f value).wp inv post abort) abort history s) :
    (p.bind f).wp inv post abort history s := Program.wp_bind.mpr h

/-! ### Programs that only read -/

namespace Program

/-- A program that neither writes nor asks: it comes to a result of the state it finds. -/
def Computes (p : Program σ κ ρ ε α) (f : σ → Except ε α) : Prop :=
  ∀ inv post abort history s,
    p.wp inv post abort history s ↔ (Program.ofExcept (f s)).wp inv post abort history s

namespace Computes

theorem ret (value : α) :
    (Program.ret value : Program σ κ ρ ε α).Computes fun _ => .ok value :=
  fun _ _ _ _ _ => .rfl

theorem ofExcept (result : Except ε α) :
    (Program.ofExcept result : Program σ κ ρ ε α).Computes fun _ => result :=
  fun _ _ _ _ _ => .rfl

theorem bind {p : Program σ κ ρ ε α} {q : α → Program σ κ ρ ε β} {f : σ → Except ε α}
    {g : α → σ → Except ε β} (hp : p.Computes f) (hq : ∀ value, (q value).Computes (g value)) :
    (p.bind q).Computes fun s => f s >>= fun value => g value s := by
  intro inv post abort history s
  rw [wp_bind, hp]
  change Program.wp _ _ _ (Program.ofExcept (f s)) _ _ ↔
    Program.wp _ _ _ (Program.ofExcept (f s >>= fun value => g value s)) _ _
  cases f s with
  | ok value => exact hq value inv post abort history s
  | error error => exact .rfl

theorem forEach {items : List γ} {body : γ → Program σ κ ρ ε Unit} {g : γ → σ → Except ε Unit}
    (hbody : ∀ item, (body item).Computes (g item)) :
    (forEach items body).Computes fun s => items.forM fun item => g item s := by
  induction items with
  | nil => exact ret ()
  | cons item rest ih => exact bind (hbody item) fun _ => ih

theorem wp {p : Program σ κ ρ ε α} {f : σ → Except ε α} {inv : Assertion σ κ ρ ε}
    {post : α → Assertion σ κ ρ ε} {abort : ε → Assertion σ κ ρ ε} (hp : p.Computes f)
    (hpost : ∀ value, f s = .ok value → post value history s)
    (habort : ∀ error, f s = .error error → abort error history s) :
    p.wp inv post abort history s := by
  rw [hp]
  cases hresult : f s with
  | ok value => exact hpost value hresult
  | error error => exact habort error hresult

end Computes
end Program
end Effect
