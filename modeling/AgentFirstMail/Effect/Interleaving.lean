import AgentFirstMail.Effect.Environment

/-! Programs that run next to each other, and give way to one another at every request. -/

namespace Effect
variable {σ τ κ ℓ : Type} {ρ : κ → Type} {ε α β γ : Type}

/-- A request on its way. One that is withdrawn takes no effect any more. -/
structure Sent (κ : Type) (ρ : κ → Type) where
  request : κ
  reply : Option (ρ request)
  awaited : Bool
  withdrawn : Bool

/-- Serves requests one at a time, in any order. An answer may rule out that earlier requests
that nobody waits for take effect. What it holds may also drift by itself. -/
structure Service (τ κ : Type) (ρ : κ → Type) where
  answers : Environment τ κ ρ
  rulesOut : (request : κ) → ρ request → κ → Bool
  drifts : τ → τ → Prop

def Sent.ruleOut (service : Service τ κ ρ) (request : κ) (value : ρ request) (sent : Sent κ ρ) :
    Sent κ ρ :=
  { sent with
    withdrawn := sent.withdrawn ||
      (!sent.awaited && sent.reply.isNone && service.rulesOut request value sent.request) }

/-- What the programs share, what their service holds, the requests sent to it so far and the
labels of the programs that came so far. -/
structure World (σ τ κ ℓ : Type) (ρ : κ → Type) where
  state : σ
  service : τ
  sent : List (Sent κ ρ)
  came : List ℓ

namespace World

def change (w : World σ τ κ ℓ ρ) (f : σ → σ) : World σ τ κ ℓ ρ := { w with state := f w.state }

def send (w : World σ τ κ ℓ ρ) (request : κ) : World σ τ κ ℓ ρ :=
  { w with sent := w.sent ++ [⟨request, none, true, false⟩] }

/-- Nobody waits for the answer to this request any more. -/
def abandon (w : World σ τ κ ℓ ρ) (ticket : Nat) : World σ τ κ ℓ ρ :=
  { w with sent := w.sent.modify ticket fun sent => { sent with awaited := false } }

def arrive (w : World σ τ κ ℓ ρ) (label : ℓ) : World σ τ κ ℓ ρ :=
  { w with came := w.came ++ [label] }

/-- The programs are gone, with what of their state does not outlive them. -/
def reboot (w : World σ τ κ ℓ ρ) (reset : σ → σ) : World σ τ κ ℓ ρ :=
  { w with
    state := reset w.state
    sent := w.sent.map fun sent => { sent with awaited := false } }

/-- The requests sent so far, whatever came of them. -/
def requests (w : World σ τ κ ℓ ρ) : List κ := w.sent.map (·.request)

/-- The requests sent so far with their answers. -/
def outcomes (w : World σ τ κ ℓ ρ) : List ((request : κ) × Option (ρ request)) :=
  w.sent.map fun sent => ⟨sent.request, sent.reply⟩

@[simp] theorem requests_change (w : World σ τ κ ℓ ρ) (f : σ → σ) :
    (w.change f).requests = w.requests := rfl

@[simp] theorem requests_send (w : World σ τ κ ℓ ρ) (request : κ) :
    (w.send request).requests = w.requests ++ [request] := by
  simp [requests, send]

theorem map_abandon {f : Sent κ ρ → γ} (w : World σ τ κ ℓ ρ) (ticket : Nat)
    (hf : ∀ sent, f { sent with awaited := false } = f sent) :
    (w.abandon ticket).sent.map f = w.sent.map f := by
  apply List.ext_getElem?
  intro index
  rw [List.getElem?_map, List.getElem?_map, abandon, List.getElem?_modify]
  cases w.sent[index]? with
  | none => rfl
  | some sent =>
    by_cases heq : ticket = index
    · simp only [heq, if_true, Option.map_eq_map, Option.map_some, hf]
    · simp only [heq, if_false, Option.map_eq_map, Option.map_some]

@[simp] theorem requests_abandon (w : World σ τ κ ℓ ρ) (ticket : Nat) :
    (w.abandon ticket).requests = w.requests :=
  map_abandon w ticket fun _ => rfl

@[simp] theorem outcomes_abandon (w : World σ τ κ ℓ ρ) (ticket : Nat) :
    (w.abandon ticket).outcomes = w.outcomes :=
  map_abandon w ticket fun _ => rfl

@[simp] theorem requests_reboot (w : World σ τ κ ℓ ρ) (reset : σ → σ) :
    (w.reboot reset).requests = w.requests := by
  simp [requests, reboot]

@[simp] theorem outcomes_send (w : World σ τ κ ℓ ρ) (request : κ) :
    (w.send request).outcomes = w.outcomes ++ [⟨request, none⟩] := by
  simp [outcomes, send]

/-- One of the requests on their way is served. -/
inductive Served (service : Service τ κ ρ) :
    World σ τ κ ℓ ρ → Nat → (request : κ) → ρ request → World σ τ κ ℓ ρ → Prop
  | intro {s : σ} {t t' : τ} {came : List ℓ} {before after : List (Sent κ ρ)} {awaited : Bool}
      {request : κ} {value : ρ request} : service.answers request t value t' →
      Served service ⟨s, t, before ++ ⟨request, none, awaited, false⟩ :: after, came⟩ before.length
        request value
        ⟨s, t', before.map (Sent.ruleOut service request value) ++
          ⟨request, some value, awaited, false⟩ :: after, came⟩

/-- What is left when a request is served. -/
def answer (service : Service τ κ ρ) (w : World σ τ κ ℓ ρ) (ticket : Nat) (request : κ)
    (value : ρ request) (awaited : Bool) (t : τ) : World σ τ κ ℓ ρ :=
  { w with
    service := t
    sent := (w.sent.take ticket).map (Sent.ruleOut service request value) ++
      ⟨request, some value, awaited, false⟩ :: w.sent.drop (ticket + 1) }

variable {service : Service τ κ ρ} {w w' : World σ τ κ ℓ ρ} {ticket other : Nat} {request : κ}
  {value : ρ request}

theorem Served.split (h : Served service w ticket request value w') :
    ∃ before awaited after, w.sent = before ++ ⟨request, none, awaited, false⟩ :: after ∧
      w'.sent = before.map (Sent.ruleOut service request value) ++
        ⟨request, some value, awaited, false⟩ :: after := by
  cases h
  exact ⟨_, _, _, rfl, rfl⟩

theorem Served.requests_eq (h : Served service w ticket request value w') :
    w'.requests = w.requests := by
  cases h
  simp [requests, Sent.ruleOut]

theorem Served.state_eq (h : Served service w ticket request value w') : w'.state = w.state := by
  cases h
  rfl

theorem Served.came_eq (h : Served service w ticket request value w') : w'.came = w.came := by
  cases h
  rfl

theorem Served.answers (h : Served service w ticket request value w') :
    service.answers request w.service value w'.service := by
  cases h
  assumption

theorem Served.unanswered (h : Served service w ticket request value w') :
    w.outcomes[ticket]? = some ⟨request, none⟩ := by
  cases h
  simp [outcomes]

theorem Served.answered (h : Served service w ticket request value w') :
    w'.outcomes[ticket]? = some ⟨request, some value⟩ := by
  cases h
  simp [outcomes]

theorem Served.sent_ne (h : Served service w ticket request value w') : w'.sent ≠ w.sent := by
  intro heq
  have hanswered := h.answered
  rw [outcomes, heq] at hanswered
  cases h.unanswered.symm.trans hanswered

/-- A request on its way may be served at any time. -/
theorem served_answer {awaited : Bool} {t : τ} (ticket : Nat) (request : κ) (value : ρ request)
    (hsent : w.sent = w.sent.take ticket ++
      ⟨request, none, awaited, false⟩ :: w.sent.drop (ticket + 1))
    (hanswers : service.answers request w.service value t) :
    Served service w ticket request value (w.answer service ticket request value awaited t) := by
  obtain ⟨state, held, sent, came⟩ := w
  dsimp only at hsent
  have hlength : (sent.take ticket).length = ticket := by
    have hsum := congrArg List.length hsent
    rw [List.length_append, List.length_cons, List.length_take, List.length_drop] at hsum
    rw [List.length_take]
    omega
  have hserved : Served service ⟨state, held, sent.take ticket ++
      ⟨request, none, awaited, false⟩ :: sent.drop (ticket + 1), came⟩ _ _ value _ :=
    .intro hanswers
  rw [hlength, ← hsent] at hserved
  exact hserved

theorem Served.outcomes_ne (h : Served service w ticket request value w') (hne : other ≠ ticket) :
    w'.outcomes[other]? = w.outcomes[other]? := by
  cases h with
  | @intro s t t' came before after awaited request value hanswer =>
    simp only [outcomes, List.map_append, List.map_cons, List.map_map]
    rcases Nat.lt_or_gt_of_ne hne with hlt | hgt
    · rw [List.getElem?_append_left (by simpa using hlt),
        List.getElem?_append_left (by simpa using hlt)]
      rfl
    · rw [List.getElem?_append_right (by simpa using Nat.le_of_lt hgt),
        List.getElem?_append_right (by simpa using Nat.le_of_lt hgt)]
      obtain ⟨gap, hgap⟩ := Nat.exists_eq_add_of_lt hgt
      simp [hgap, Nat.add_assoc]

end World

/-- A program at a request, and how it goes on from there. -/
structure Paused (σ κ : Type) (ρ : κ → Type) (ε α : Type) where
  ticket : Nat
  request : κ
  next : Except ε (ρ request) → Program σ κ ρ ε α

namespace Program

/-- Runs a program up to its next request. -/
def advance : Program σ κ ρ ε α → World σ τ κ ℓ ρ → World σ τ κ ℓ ρ × Option (Paused σ κ ρ ε α)
  | ret _, w => (w, none)
  | fail _, w => (w, none)
  | load next, w => (next w.state).advance w
  | store change next, w => next.advance (w.change change)
  | call request next, w => (w.send request, some ⟨w.sent.length, request, next⟩)

theorem came_advance (p : Program σ κ ρ ε α) (now : World σ τ κ ℓ ρ) :
    (p.advance now).1.came = now.came := by
  induction p generalizing now with
  | ret value => rfl
  | fail error => rfl
  | load next ih => exact ih now.state now
  | store change next ih => exact ih (now.change change)
  | call request next ih => rfl

theorem service_advance (p : Program σ κ ρ ε α) (now : World σ τ κ ℓ ρ) :
    (p.advance now).1.service = now.service := by
  induction p generalizing now with
  | ret value => rfl
  | fail error => rfl
  | load next ih => exact ih now.state now
  | store change next ih => exact ih (now.change change)
  | call request next ih => rfl

end Program

/-- What a program keeps to amid others: what holds between its steps, what it expects of the
others' steps and what it grants them of its own. -/
structure Terms (σ τ κ ℓ : Type) (ρ : κ → Type) where
  inv : World σ τ κ ℓ ρ → Prop
  rely : World σ τ κ ℓ ρ → World σ τ κ ℓ ρ → Prop
  guar : World σ τ κ ℓ ρ → World σ τ κ ℓ ρ → Prop

namespace Program
variable {service : Service τ κ ρ} {terms : Terms σ τ κ ℓ ρ}
  {post post' : α → World σ τ κ ℓ ρ → World σ τ κ ℓ ρ → Prop}
  {abort abort' : ε → World σ τ κ ℓ ρ → World σ τ κ ℓ ρ → Prop}
  {start now : World σ τ κ ℓ ρ}

/-- A program keeps its terms amid others. Its steps go from one request to the next; `start` is
where the step that is under way began. -/
def Amid (service : Service τ κ ρ) (terms : Terms σ τ κ ℓ ρ)
    (post : α → World σ τ κ ℓ ρ → World σ τ κ ℓ ρ → Prop)
    (abort : ε → World σ τ κ ℓ ρ → World σ τ κ ℓ ρ → Prop) :
    Program σ κ ρ ε α → World σ τ κ ℓ ρ → World σ τ κ ℓ ρ → Prop
  | ret value, start, now => post value start now
  | fail error, start, now => abort error start now
  | load next, start, now => (next now.state).Amid service terms post abort start now
  | store change next, start, now => next.Amid service terms post abort start (now.change change)
  | call request next, start, now =>
    terms.inv (now.send request) ∧ terms.guar start (now.send request) ∧
    ∀ later, terms.rely (now.send request) later → terms.inv later →
      (∀ error, (next (.error error)).Amid service terms post abort later
        (later.abandon now.sent.length)) ∧
      ∀ value served, later.Served service now.sent.length request value served →
        terms.rely later served → terms.inv served →
        ∀ resumed, terms.rely served resumed → terms.inv resumed →
          (next (.ok value)).Amid service terms post abort resumed resumed

/-- A program that asks goes on as it does after each answer. -/
theorem Amid.call {request : κ} {next : Except ε (ρ request) → Program σ κ ρ ε α}
    {next' : Except ε (ρ request) → Program σ κ ρ ε β}
    {post' : β → World σ τ κ ℓ ρ → World σ τ κ ℓ ρ → Prop}
    (h : (call request next).Amid service terms post abort start now)
    (hnext : ∀ reply start now, (next reply).Amid service terms post abort start now →
      (next' reply).Amid service terms post' abort' start now) :
    (Program.call request next').Amid service terms post' abort' start now := by
  obtain ⟨hinv, hguar, hreplies⟩ := h
  refine ⟨hinv, hguar, ?_⟩
  intro later hlater hinvLater
  obtain ⟨herror, hok⟩ := hreplies later hlater hinvLater
  refine ⟨fun error => hnext _ _ _ (herror error), ?_⟩
  intro value served hserved hrely hinvServed resumed hresumed hinvResumed
  exact hnext _ _ _ (hok value served hserved hrely hinvServed resumed hresumed hinvResumed)

theorem Amid.mono {p : Program σ κ ρ ε α} (h : p.Amid service terms post abort start now)
    (hpost : ∀ value start now, post value start now → post' value start now)
    (habort : ∀ error start now, abort error start now → abort' error start now) :
    p.Amid service terms post' abort' start now := by
  induction p generalizing start now with
  | ret value => exact hpost value start now h
  | fail error => exact habort error start now h
  | load next ih => exact ih now.state h
  | store change next ih => exact ih h
  | call request next ih => exact h.call fun reply _ _ => ih reply

theorem Amid.bind {p : Program σ κ ρ ε α} {f : α → Program σ κ ρ ε β}
    {post : β → World σ τ κ ℓ ρ → World σ τ κ ℓ ρ → Prop}
    (h : p.Amid service terms (fun value => (f value).Amid service terms post abort) abort
      start now) :
    (p.bind f).Amid service terms post abort start now := by
  induction p generalizing start now with
  | ret value => exact h
  | fail error => exact h
  | load next ih => exact ih now.state h
  | store change next ih => exact ih h
  | call request next ih => exact h.call fun reply _ _ => ih reply

theorem Amid.tryCatch {p : Program σ κ ρ ε α} {handle : ε → Program σ κ ρ ε α}
    (h : p.Amid service terms post (fun error => (handle error).Amid service terms post abort)
      start now) :
    (p.tryCatch handle).Amid service terms post abort start now := by
  induction p generalizing start now with
  | ret value => exact h
  | fail error => exact h
  | load next ih => exact ih now.state h
  | store change next ih => exact ih h
  | call request next ih => exact h.call fun reply _ _ => ih reply

end Program

namespace Terms

/-- A fact that the others leave alone. -/
def Stable (terms : Terms σ τ κ ℓ ρ) (fact : World σ τ κ ℓ ρ → Prop) : Prop :=
  ∀ w w', terms.rely w w' → fact w → fact w'

/-- What holds at a point of a step. -/
structure At (terms : Terms σ τ κ ℓ ρ) (fact : World σ τ κ ℓ ρ → Prop)
    (start now : World σ τ κ ℓ ρ) : Prop where
  inv : terms.inv now
  guar : terms.guar start now
  fact : fact now

/-- A step may go on by this. -/
def Allows (terms : Terms σ τ κ ℓ ρ) (pre : World σ τ κ ℓ ρ → Prop)
    (move : World σ τ κ ℓ ρ → World σ τ κ ℓ ρ) (post : World σ τ κ ℓ ρ → Prop) : Prop :=
  ∀ w, terms.inv w → pre w →
    terms.inv (move w) ∧ (∀ start, terms.guar start w → terms.guar start (move w)) ∧ post (move w)

theorem Stable.and {terms : Terms σ τ κ ℓ ρ} {fact other : World σ τ κ ℓ ρ → Prop}
    (h : terms.Stable fact) (hother : terms.Stable other) :
    terms.Stable fun w => fact w ∧ other w :=
  fun w w' hrely ⟨hw, hw'⟩ => ⟨h w w' hrely hw, hother w w' hrely hw'⟩

theorem Stable.imp {terms : Terms σ τ κ ℓ ρ} {fact : World σ τ κ ℓ ρ → Prop} {p : Prop}
    (h : terms.Stable fact) : terms.Stable fun w => p → fact w :=
  fun w w' hrely hw hp => h w w' hrely (hw hp)

theorem Stable.const {terms : Terms σ τ κ ℓ ρ} {p : Prop} : terms.Stable fun _ => p :=
  fun _ _ _ hp => hp

theorem Stable.true {terms : Terms σ τ κ ℓ ρ} : terms.Stable fun _ => True :=
  fun _ _ _ _ => trivial

theorem At.move {terms : Terms σ τ κ ℓ ρ} {pre post : World σ τ κ ℓ ρ → Prop}
    {move : World σ τ κ ℓ ρ → World σ τ κ ℓ ρ} {start now : World σ τ κ ℓ ρ}
    (h : terms.Allows pre move post) (hat : terms.At pre start now) :
    terms.At post start (move now) := by
  obtain ⟨hinv, hguar, hpost⟩ := h now hat.inv hat.fact
  exact ⟨hinv, hguar start hat.guar, hpost⟩

end Terms

namespace Program
variable {service : Service τ κ ρ} {terms : Terms σ τ κ ℓ ρ}
  {pre pre' mid fact lost abort abort' : World σ τ κ ℓ ρ → Prop}
  {post post' : α → World σ τ κ ℓ ρ → Prop}

/-- What is known by an answer, or by the lack of one. -/
def Replied (told : α → World σ τ κ ℓ ρ → Prop) (lost : World σ τ κ ℓ ρ → Prop) :
    Except ε α → World σ τ κ ℓ ρ → Prop
  | .ok value => told value
  | .error _ => lost

/-- From wherever `pre` holds the program keeps its terms; it returns or fails with what `post`
and `abort` say. -/
def Triple (service : Service τ κ ρ) (terms : Terms σ τ κ ℓ ρ) (pre : World σ τ κ ℓ ρ → Prop)
    (p : Program σ κ ρ ε α) (post : α → World σ τ κ ℓ ρ → Prop)
    (abort : World σ τ κ ℓ ρ → Prop) : Prop :=
  ∀ start now, terms.At pre start now →
    p.Amid service terms (fun value => terms.At (post value)) (fun _ => terms.At abort) start now

namespace Triple

theorem ret {value : α} (h : ∀ w, terms.inv w → pre w → post value w) :
    Triple service terms pre (.ret value : Program σ κ ρ ε α) post abort :=
  fun _ now hat => ⟨hat.inv, hat.guar, h now hat.inv hat.fact⟩

theorem fail {error : ε} (h : ∀ w, terms.inv w → pre w → abort w) :
    Triple service terms pre (.fail error : Program σ κ ρ ε α) post abort :=
  fun _ now hat => ⟨hat.inv, hat.guar, h now hat.inv hat.fact⟩

theorem weaken {p : Program σ κ ρ ε α} (h : Triple service terms pre' p post' abort')
    (hpre : ∀ w, terms.inv w → pre w → pre' w)
    (hpost : ∀ value w, terms.inv w → post' value w → post value w)
    (habort : ∀ w, terms.inv w → abort' w → abort w) :
    Triple service terms pre p post abort := by
  intro start now hat
  apply (h start now ⟨hat.inv, hat.guar, hpre now hat.inv hat.fact⟩).mono
  · exact fun value _ now hat => ⟨hat.inv, hat.guar, hpost value now hat.inv hat.fact⟩
  · exact fun _ _ now hat => ⟨hat.inv, hat.guar, habort now hat.inv hat.fact⟩

theorem before {p : Program σ κ ρ ε α} (h : Triple service terms pre' p post abort)
    (hpre : ∀ w, terms.inv w → pre w → pre' w) : Triple service terms pre p post abort :=
  h.weaken hpre (fun _ _ _ hpost => hpost) fun _ _ habort => habort

theorem after {p : Program σ κ ρ ε α} (h : Triple service terms pre p post' abort)
    (hpost : ∀ value w, terms.inv w → post' value w → post value w) :
    Triple service terms pre p post abort :=
  h.weaken (fun _ _ hpre => hpre) hpost fun _ _ habort => habort

theorem bind {p : Program σ κ ρ ε α} {f : α → Program σ κ ρ ε β}
    {post : α → World σ τ κ ℓ ρ → Prop} {last : β → World σ τ κ ℓ ρ → Prop}
    (h : Triple service terms pre p post abort)
    (hf : ∀ value, Triple service terms (post value) (f value) last abort) :
    Triple service terms pre (p.bind f) last abort := by
  intro start now hat
  apply Amid.bind
  apply (h start now hat).mono
  · exact fun value start now hat => hf value start now hat
  · exact fun _ _ _ hat => hat

theorem tryCatch {p : Program σ κ ρ ε α} {handle : ε → Program σ κ ρ ε α}
    (h : Triple service terms pre p post mid)
    (hhandle : ∀ error, Triple service terms mid (handle error) post abort) :
    Triple service terms pre (p.tryCatch handle) post abort := by
  intro start now hat
  apply Amid.tryCatch
  apply (h start now hat).mono
  · exact fun _ _ _ hat => hat
  · exact fun error start now hat => hhandle error start now hat

theorem read {f : σ → Program σ κ ρ ε α}
    (h : ∀ s, Triple service terms (fun w => pre w ∧ w.state = s) (f s) post abort) :
    Triple service terms pre (Program.read.bind f) post abort :=
  fun start now hat => h now.state start now ⟨hat.inv, hat.guar, hat.fact, rfl⟩

theorem write {change : σ → σ} (h : terms.Allows pre (·.change change) mid) :
    Triple service terms pre (Program.write change : Program σ κ ρ ε Unit) (fun _ => mid) abort :=
  fun _ _ hat => hat.move h

theorem ofExcept {result : Except ε α}
    (hok : ∀ value, result = .ok value → ∀ w, terms.inv w → pre w → post value w)
    (herror : ∀ error, result = .error error → ∀ w, terms.inv w → pre w → abort w) :
    Triple service terms pre (Program.ofExcept result) post abort := by
  cases result with
  | ok value => exact ret (hok value rfl)
  | error error => exact fail (herror error rfl)

/-- A request is made under a stable fact; its answer tells another one, and so does its failure. -/
theorem ask {request : κ} {F : Nat → World σ τ κ ℓ ρ → Prop}
    {learned : ρ request → World σ τ κ ℓ ρ → Prop}
    (hsend : ∀ w, terms.inv w → pre w → terms.inv (w.send request) ∧
      (∀ start, terms.guar start w → terms.guar start (w.send request)) ∧
      F w.sent.length (w.send request))
    (hstable : ∀ ticket, terms.Stable (F ticket))
    (hlearned : ∀ later ticket value served, later.Served service ticket request value served →
      terms.inv later → terms.inv served → F ticket later → F ticket served → learned value served)
    (hlasting : ∀ value, terms.Stable (learned value))
    (hlost : ∀ later ticket, terms.inv later → F ticket later →
      terms.At lost later (later.abandon ticket))
    (hrefl : ∀ w, terms.guar w w) :
    Triple service terms pre (Program.ask request : Program σ κ ρ ε (Except ε (ρ request)))
      (Replied (fun value w => (∃ ticket, F ticket w) ∧ learned value w) lost) abort := by
  intro start now hat
  obtain ⟨hinv, hguar, hfact⟩ := hsend now hat.inv hat.fact
  refine ⟨hinv, hguar start hat.guar, ?_⟩
  intro later hlater hinvLater
  have hfactLater := hstable _ _ _ hlater hfact
  refine ⟨fun error => hlost later _ hinvLater hfactLater, ?_⟩
  intro value served hserved hrely hinvServed resumed hresumed hinvResumed
  have hfactServed := hstable _ _ _ hrely hfactLater
  have hvalue := hlearned later _ value served hserved hinvLater hinvServed hfactLater hfactServed
  exact ⟨hinvResumed, hrefl resumed, ⟨_, hstable _ _ _ hresumed hfactServed⟩,
    hlasting value _ _ hresumed hvalue⟩

theorem perform {request : κ} {told : ρ request → World σ τ κ ℓ ρ → Prop}
    (h : Triple service terms pre (Program.ask request : Program σ κ ρ ε (Except ε (ρ request)))
      (Replied told lost) lost) :
    Triple service terms pre (Program.perform request : Program σ κ ρ ε (ρ request)) told lost := by
  intro start now hat
  obtain ⟨hinv, hguar, hnext⟩ := h start now hat
  refine ⟨hinv, hguar, ?_⟩
  intro later hlater hinvLater
  obtain ⟨herror, hok⟩ := hnext later hlater hinvLater
  exact ⟨herror, hok⟩

theorem forEach {items : List γ} {body : γ → Program σ κ ρ ε Unit}
    (h : ∀ item ∈ items, Triple service terms fact (body item) (fun _ => fact) abort) :
    Triple service terms fact (Program.forEach items body) (fun _ => fact) abort := by
  induction items with
  | nil => exact ret fun _ _ hfact => hfact
  | cons item rest ih =>
    apply bind (h item List.mem_cons_self)
    exact fun _ => ih fun other hother => h other (List.mem_cons_of_mem _ hother)

end Triple
end Program

/-! ### A pool of programs -/

structure Task (σ κ ℓ : Type) (ρ : κ → Type) (ε α : Type) extends Paused σ κ ρ ε α where
  label : ℓ

structure Pool (σ τ κ ℓ : Type) (ρ : κ → Type) (ε α : Type) where
  world : World σ τ κ ℓ ρ
  tasks : List (Task σ κ ℓ ρ ε α)

/-- How programs come about: what a label starts, when it may come, and what a restart does to
the state. -/
structure Host (σ τ κ ℓ : Type) (ρ : κ → Type) (ε α : Type) where
  service : Service τ κ ρ
  handler : ℓ → Program σ κ ρ ε α
  admits : ℓ → World σ τ κ ℓ ρ → Prop
  reset : σ → σ

namespace Pool

/-- What is left of a task after one of its steps. -/
def resumed (label : ℓ) (left : World σ τ κ ℓ ρ × Option (Paused σ κ ρ ε α))
    (before after : List (Task σ κ ℓ ρ ε α)) : Pool σ τ κ ℓ ρ ε α where
  world := left.1
  tasks := before ++ (left.2.map fun paused => { paused with label }).toList ++ after

/-- One step of one task, of the service, or from outside. -/
inductive Step (host : Host σ τ κ ℓ ρ ε α) : Pool σ τ κ ℓ ρ ε α → Pool σ τ κ ℓ ρ ε α → Prop
  | served {w w' : World σ τ κ ℓ ρ} {ticket : Nat} {request : κ} {value : ρ request}
      {tasks : List (Task σ κ ℓ ρ ε α)} :
      w.Served host.service ticket request value w' → Step host ⟨w, tasks⟩ ⟨w', tasks⟩
  | drifted {w : World σ τ κ ℓ ρ} {t' : τ} {tasks : List (Task σ κ ℓ ρ ε α)} :
      host.service.drifts w.service t' → Step host ⟨w, tasks⟩ ⟨{ w with service := t' }, tasks⟩
  | answered {w : World σ τ κ ℓ ρ} {task : Task σ κ ℓ ρ ε α} {value : ρ task.request}
      {before after : List (Task σ κ ℓ ρ ε α)} :
      w.outcomes[task.ticket]? = some ⟨task.request, some value⟩ →
      Step host ⟨w, before ++ task :: after⟩
        (resumed task.label ((task.next (.ok value)).advance w) before after)
  | failed {w : World σ τ κ ℓ ρ} {task : Task σ κ ℓ ρ ε α} (error : ε)
      {before after : List (Task σ κ ℓ ρ ε α)} :
      Step host ⟨w, before ++ task :: after⟩
        (resumed task.label ((task.next (.error error)).advance (w.abandon task.ticket))
          before after)
  | arrived {w : World σ τ κ ℓ ρ} {label : ℓ} {tasks : List (Task σ κ ℓ ρ ε α)} :
      host.admits label w →
      Step host ⟨w, tasks⟩ (resumed label ((host.handler label).advance (w.arrive label)) tasks [])
  | rebooted {w : World σ τ κ ℓ ρ} {tasks : List (Task σ κ ℓ ρ ε α)} :
      Step host ⟨w, tasks⟩ ⟨w.reboot host.reset, []⟩

/-- The pools that come about, in any order of steps, from a world in which nothing runs. -/
inductive Reaches (host : Host σ τ κ ℓ ρ ε α) (w : World σ τ κ ℓ ρ) :
    Pool σ τ κ ℓ ρ ε α → Prop
  | start : Reaches host w ⟨w, []⟩
  | step {pool pool' : Pool σ τ κ ℓ ρ ε α} :
      Reaches host w pool → Step host pool pool' → Reaches host w pool'

section Step
variable {host : Host σ τ κ ℓ ρ ε α} {pool pool' : Pool σ τ κ ℓ ρ ε α}

theorem Step.service_cases (h : Step host pool pool') :
    (∃ ticket request value, pool.world.Served host.service ticket request value pool'.world) ∨
    (∃ t, host.service.drifts pool.world.service t ∧ pool'.world = { pool.world with service := t }) ∨
    pool'.world.service = pool.world.service := by
  cases h with
  | served hserved => exact .inl ⟨_, _, _, hserved⟩
  | drifted hdrifts => exact .inr (.inl ⟨_, hdrifts, rfl⟩)
  | answered _ => exact .inr (.inr (Program.service_advance _ _))
  | failed error => exact .inr (.inr (Program.service_advance _ _))
  | arrived _ => exact .inr (.inr (Program.service_advance _ _))
  | rebooted => exact .inr (.inr rfl)

theorem Step.came_subset (h : Step host pool pool') : pool.world.came ⊆ pool'.world.came := by
  cases h with
  | served hserved =>
    rw [hserved.came_eq]
    exact List.Subset.refl _
  | drifted _ => exact List.Subset.refl _
  | answered _ =>
    change _ ⊆ (Program.advance _ _).1.came
    rw [Program.came_advance]
    exact List.Subset.refl _
  | failed error =>
    change _ ⊆ (Program.advance _ _).1.came
    rw [Program.came_advance]
    exact List.Subset.refl _
  | arrived _ =>
    change _ ⊆ (Program.advance _ _).1.came
    rw [Program.came_advance]
    exact List.subset_append_left _ _
  | rebooted => exact List.Subset.refl _

/-- The only program is given its answer, and goes on. -/
theorem Step.reply {task : Task σ κ ℓ ρ ε α} {t : τ} (value : ρ task.request)
    (htasks : pool.tasks = [task])
    (hsent : pool.world.sent = pool.world.sent.take task.ticket ++
      ⟨task.request, none, true, false⟩ :: pool.world.sent.drop (task.ticket + 1))
    (hanswers : host.service.answers task.request pool.world.service value t) :
    let w := pool.world.answer host.service task.ticket task.request value true t
    pool.world.Served host.service task.ticket task.request value w ∧
      Step host pool ⟨w, [task]⟩ ∧ Step host ⟨w, [task]⟩
        (resumed task.label ((task.next (.ok value)).advance w) [] []) := by
  obtain ⟨world, tasks⟩ := pool
  dsimp only at htasks
  subst htasks
  have hserved := World.served_answer _ _ value hsent hanswers
  refine ⟨hserved, .served hserved, ?_⟩
  change Step host ⟨_, [] ++ task :: []⟩ _
  exact .answered hserved.answered

theorem Reaches.reply {w : World σ τ κ ℓ ρ} {task : Task σ κ ℓ ρ ε α} {t : τ}
    (h : Reaches host w pool) (value : ρ task.request) (htasks : pool.tasks = [task])
    (hsent : pool.world.sent = pool.world.sent.take task.ticket ++
      ⟨task.request, none, true, false⟩ :: pool.world.sent.drop (task.ticket + 1))
    (hanswers : host.service.answers task.request pool.world.service value t) :
    Reaches host w (resumed task.label ((task.next (.ok value)).advance
      (pool.world.answer host.service task.ticket task.request value true t)) [] []) := by
  obtain ⟨_, hserved, hresumed⟩ := Step.reply value htasks hsent hanswers
  exact (h.step hserved).step hresumed

end Step

end Pool

/-- One invariant, and what the program of each label relies on and grants; the programs of labels
that are apart do not stand in each other's way. -/
structure Accord (σ τ κ ℓ : Type) (ρ : κ → Type) where
  inv : World σ τ κ ℓ ρ → Prop
  rely : ℓ → World σ τ κ ℓ ρ → World σ τ κ ℓ ρ → Prop
  guar : ℓ → World σ τ κ ℓ ρ → World σ τ κ ℓ ρ → Prop
  apart : ℓ → ℓ → Prop

def Accord.terms (accord : Accord σ τ κ ℓ ρ) (label : ℓ) : Terms σ τ κ ℓ ρ where
  inv := accord.inv
  rely := accord.rely label
  guar := accord.guar label

/-- The step under way may end here. -/
def Terms.Ends (terms : Terms σ τ κ ℓ ρ) (start now : World σ τ κ ℓ ρ) : Prop :=
  terms.inv now ∧ terms.guar start now

/-- A program keeps its terms up to its end. -/
abbrev Program.KeepsAmid (service : Service τ κ ρ) (terms : Terms σ τ κ ℓ ρ)
    (p : Program σ κ ρ ε α) (start now : World σ τ κ ℓ ρ) : Prop :=
  p.Amid service terms (fun _ => terms.Ends) (fun _ => terms.Ends) start now

/-- The accord holds on a host: its service, its restarts and the programs it starts respect it. -/
structure Accord.Holds (accord : Accord σ τ κ ℓ ρ) (host : Host σ τ κ ℓ ρ ε α) : Prop where
  refl : ∀ label w, accord.rely label w w
  trans : ∀ label w w' w'',
    accord.rely label w w' → accord.rely label w' w'' → accord.rely label w w''
  served : ∀ w ticket request value w', accord.inv w →
    w.Served host.service ticket request value w' →
    accord.inv w' ∧ ∀ label, accord.rely label w w'
  drifted : ∀ w t', accord.inv w → host.service.drifts w.service t' →
    accord.inv { w with service := t' } ∧ ∀ label, accord.rely label w { w with service := t' }
  rebooted : ∀ w, accord.inv w → accord.inv (w.reboot host.reset)
  granted : ∀ label other w w', accord.apart label other → accord.inv w → accord.inv w' →
    accord.guar label w w' → accord.rely other w w'
  admitted : ∀ label w, host.admits label w → ∀ other ∈ w.came,
    accord.apart label other ∧ accord.apart other label
  handled : ∀ label w, accord.inv w → host.admits label w →
    (host.handler label).KeepsAmid host.service (accord.terms label) w (w.arrive label)

variable {service : Service τ κ ρ} {terms : Terms σ τ κ ℓ ρ}

/-- A paused program keeps its terms however it is resumed. -/
def Paused.Waits (service : Service τ κ ρ) (terms : Terms σ τ κ ℓ ρ) (paused : Paused σ κ ρ ε α)
    (w : World σ τ κ ℓ ρ) : Prop :=
  (∀ later, terms.rely w later → terms.inv later → ∀ error,
    (paused.next (.error error)).KeepsAmid service terms later (later.abandon paused.ticket)) ∧
  ((w.outcomes[paused.ticket]? = some ⟨paused.request, none⟩ ∧
    ∀ later, terms.rely w later → terms.inv later → ∀ value served,
      later.Served service paused.ticket paused.request value served →
      terms.rely later served → terms.inv served → ∀ resumed, terms.rely served resumed →
        terms.inv resumed → (paused.next (.ok value)).KeepsAmid service terms resumed resumed) ∨
  ∃ value, w.outcomes[paused.ticket]? = some ⟨paused.request, some value⟩ ∧
    ∀ resumed, terms.rely w resumed → terms.inv resumed →
      (paused.next (.ok value)).KeepsAmid service terms resumed resumed)

namespace Paused.Waits
variable {paused : Paused σ κ ρ ε α} {w w' : World σ τ κ ℓ ρ} {value : ρ paused.request}

theorem amid (h : paused.Waits service terms w)
    (htrans : ∀ w w' w'', terms.rely w w' → terms.rely w' w'' → terms.rely w w'')
    (hrely : terms.rely w w')
    (houtcome : w'.outcomes[paused.ticket]? = w.outcomes[paused.ticket]?) :
    paused.Waits service terms w' := by
  obtain ⟨herror, hnext⟩ := h
  refine ⟨fun later hlater => herror later (htrans _ _ _ hrely hlater), ?_⟩
  rw [houtcome]
  rcases hnext with ⟨hnone, hserve⟩ | ⟨value, hsome, hresume⟩
  · exact .inl ⟨hnone, fun later hlater => hserve later (htrans _ _ _ hrely hlater)⟩
  · exact .inr ⟨value, hsome, fun resumed hresumed => hresume resumed (htrans _ _ _ hrely hresumed)⟩

theorem served {request : κ} {value : ρ request} (h : paused.Waits service terms w)
    (hrefl : ∀ w, terms.rely w w)
    (htrans : ∀ w w' w'', terms.rely w w' → terms.rely w' w'' → terms.rely w w'')
    (hserved : w.Served service paused.ticket request value w') (hrely : terms.rely w w')
    (hinv : terms.inv w) (hinv' : terms.inv w') : paused.Waits service terms w' := by
  obtain ⟨herror, hnext⟩ := h
  refine ⟨fun later hlater => herror later (htrans _ _ _ hrely hlater), ?_⟩
  have hunanswered := hserved.unanswered
  rcases hnext with ⟨hnone, hserve⟩ | ⟨answer, hsome, _⟩
  · rw [hnone] at hunanswered
    cases hunanswered
    exact .inr ⟨value, hserved.answered, hserve w (hrefl w) hinv value w' hserved hrely hinv'⟩
  · rw [hsome] at hunanswered
    cases hunanswered

end Paused.Waits

namespace Program
variable {start now : World σ τ κ ℓ ρ}

theorem outcomes_advance (p : Program σ κ ρ ε α) (now : World σ τ κ ℓ ρ) :
    now.outcomes <+: (p.advance now).1.outcomes := by
  induction p generalizing now with
  | ret value => exact List.prefix_refl _
  | fail error => exact List.prefix_refl _
  | load next ih => exact ih now.state now
  | store change next ih => exact ih (now.change change)
  | call request next ih => exact ⟨[⟨request, none⟩], (World.outcomes_send now request).symm⟩

theorem Amid.advance {p : Program σ κ ρ ε α} (h : p.KeepsAmid service terms start now) :
    terms.Ends start (p.advance now).1 ∧
      ∀ paused, (p.advance now).2 = some paused → paused.Waits service terms (p.advance now).1 := by
  induction p generalizing start now with
  | ret value => exact ⟨h, fun _ heq => (by cases heq)⟩
  | fail error => exact ⟨h, fun _ heq => (by cases heq)⟩
  | load next ih => exact ih now.state h
  | store change next ih => exact ih h
  | call request next ih =>
    obtain ⟨hinv, hguar, hnext⟩ := h
    refine ⟨⟨hinv, hguar⟩, ?_⟩
    intro paused heq
    cases heq
    refine ⟨fun later hlater hinvLater => (hnext later hlater hinvLater).1, .inl ⟨?_, ?_⟩⟩
    · change (now.send request).outcomes[now.sent.length]? = _
      have hlength : now.outcomes.length = now.sent.length := by
        simp only [World.outcomes, List.length_map]
      rw [World.outcomes_send, ← hlength, List.getElem?_concat_length]
    · exact fun later hlater hinvLater => (hnext later hlater hinvLater).2

end Program

namespace Pool

/-- The tasks of the pool keep the terms of their labels, and are apart. -/
structure Sound (host : Host σ τ κ ℓ ρ ε α) (accord : Accord σ τ κ ℓ ρ)
    (pool : Pool σ τ κ ℓ ρ ε α) : Prop where
  inv : accord.inv pool.world
  waits : ∀ task ∈ pool.tasks,
    task.toPaused.Waits host.service (accord.terms task.label) pool.world
  came : ∀ task ∈ pool.tasks, task.label ∈ pool.world.came
  apart : pool.tasks.Pairwise fun task other =>
    accord.apart task.label other.label ∧ accord.apart other.label task.label

variable {host : Host σ τ κ ℓ ρ ε α} {accord : Accord σ τ κ ℓ ρ} {pool pool' : Pool σ τ κ ℓ ρ ε α}
  {w now : World σ τ κ ℓ ρ} {label : ℓ} {before after tasks : List (Task σ κ ℓ ρ ε α)}
  {task : Task σ κ ℓ ρ ε α} {p : Program σ κ ρ ε α}

/-- One program takes a step, the tasks around it keep waiting. -/
theorem Sound.resume (haccord : accord.Holds host)
    (h : Sound host accord ⟨w, before ++ after⟩)
    (hp : p.KeepsAmid host.service (accord.terms label) w now) (houtcomes : now.outcomes = w.outcomes)
    (hcame : w.came ⊆ now.came) (hlabel : label ∈ now.came)
    (hapart : ∀ task ∈ before ++ after,
      accord.apart label task.label ∧ accord.apart task.label label) :
    Sound host accord (resumed label (p.advance now) before after) := by
  obtain ⟨⟨hinv, hguar⟩, hwaits⟩ := hp.advance
  have hothers : ∀ task ∈ before ++ after,
      task.toPaused.Waits host.service (accord.terms task.label) (p.advance now).1 := by
    intro task htask
    have hwait := h.waits task htask
    apply hwait.amid (haccord.trans task.label)
      (haccord.granted label task.label w _ (hapart task htask).1 h.inv hinv hguar)
    obtain ⟨rest, hrest⟩ := p.outcomes_advance now
    rw [← hrest, houtcomes, List.getElem?_append_left]
    rcases hwait.2 with ⟨hnone, _⟩ | ⟨_, hsome, _⟩
    · exact (List.getElem?_eq_some_iff.mp hnone).1
    · exact (List.getElem?_eq_some_iff.mp hsome).1
  have hstays : ∀ task ∈ before ++ after, task.label ∈ (p.advance now).1.came := by
    intro task htask
    rw [p.came_advance]
    exact hcame (h.came task htask)
  unfold resumed
  cases hleft : (p.advance now).2 with
  | none =>
    simp only [Option.map_none, Option.toList_none, List.append_nil]
    exact ⟨hinv, hothers, hstays, h.apart⟩
  | some paused =>
    simp only [Option.map_some, Option.toList_some, List.append_assoc, List.singleton_append]
    have hmem : ∀ task, task ∈ before ++ { paused with label } :: after →
        task = { paused with label } ∨ task ∈ before ++ after := by
      intro task htask
      rw [List.mem_append, List.mem_cons] at htask
      rw [List.mem_append]
      tauto
    refine ⟨hinv, ?_, ?_, ?_⟩
    · intro task htask
      rcases hmem task htask with rfl | htask
      · exact hwaits paused hleft
      · exact hothers task htask
    · intro task htask
      rcases hmem task htask with rfl | htask
      · change label ∈ (p.advance now).1.came
        rw [p.came_advance]
        exact hlabel
      · exact hstays task htask
    · rw [List.pairwise_middle fun hpair => hpair.symm, List.pairwise_cons]
      exact ⟨hapart, h.apart⟩

theorem Sound.others (h : Sound host accord ⟨w, before ++ task :: after⟩) :
    Sound host accord ⟨w, before ++ after⟩ ∧ ∀ other ∈ before ++ after,
      accord.apart task.label other.label ∧ accord.apart other.label task.label := by
  have hmem : ∀ other ∈ before ++ after, other ∈ before ++ task :: after := by
    intro other hother
    rw [List.mem_append] at hother
    rw [List.mem_append, List.mem_cons]
    tauto
  have hpairs := h.apart
  rw [List.pairwise_middle fun hpair => hpair.symm, List.pairwise_cons] at hpairs
  exact ⟨⟨h.inv, fun other hother => h.waits other (hmem other hother),
    fun other hother => h.came other (hmem other hother), hpairs.2⟩, hpairs.1⟩

theorem Sound.step (haccord : accord.Holds host) (h : Sound host accord pool)
    (hstep : Step host pool pool') : Sound host accord pool' := by
  cases hstep with
  | @served w w' ticket request value tasks hserved =>
    obtain ⟨hinv, hrely⟩ := haccord.served w ticket request value w' h.inv hserved
    refine ⟨hinv, ?_, ?_, h.apart⟩
    · intro task htask
      have hwait := h.waits task htask
      by_cases heq : task.ticket = ticket
      · subst heq
        exact hwait.served (haccord.refl task.label) (haccord.trans task.label) hserved
          (hrely task.label) h.inv hinv
      · exact hwait.amid (haccord.trans task.label) (hrely task.label) (hserved.outcomes_ne heq)
    · intro task htask
      rw [hserved.came_eq]
      exact h.came task htask
  | @drifted w t' tasks hdrift =>
    obtain ⟨hinv, hrely⟩ := haccord.drifted w t' h.inv hdrift
    refine ⟨hinv, ?_, h.came, h.apart⟩
    exact fun task htask => (h.waits task htask).amid (haccord.trans task.label) (hrely task.label) rfl
  | @answered w task value before after hanswer =>
    obtain ⟨hothers, hapart⟩ := h.others
    have hmem : task ∈ before ++ task :: after := List.mem_append_right _ List.mem_cons_self
    obtain ⟨_, ⟨hnone, _⟩ | ⟨other, hsome, hresume⟩⟩ := h.waits task hmem
    · rw [hanswer] at hnone
      cases hnone
    · rw [hanswer] at hsome
      cases hsome
      exact hothers.resume haccord (hresume w (haccord.refl task.label w) h.inv) rfl
        (List.Subset.refl _) (h.came task hmem) hapart
  | @failed w task error before after =>
    obtain ⟨hothers, hapart⟩ := h.others
    have hmem : task ∈ before ++ task :: after := List.mem_append_right _ List.mem_cons_self
    have herror := (h.waits task hmem).1 w (haccord.refl task.label w) h.inv error
    exact hothers.resume haccord herror (World.outcomes_abandon w task.ticket)
      (List.Subset.refl _) (h.came task hmem) hapart
  | @arrived w label tasks hadmits =>
    have hempty : Sound host accord ⟨w, tasks ++ []⟩ := by rwa [List.append_nil]
    apply hempty.resume haccord (haccord.handled label w h.inv hadmits) rfl
      (List.subset_append_left _ _) (List.mem_append_right _ List.mem_cons_self)
    intro task htask
    rw [List.append_nil] at htask
    exact haccord.admitted label w hadmits task.label (h.came task htask)
  | @rebooted w tasks =>
    exact ⟨haccord.rebooted w h.inv, fun _ hmem => (by cases hmem), fun _ hmem => (by cases hmem),
      .nil⟩

theorem Reaches.sound (haccord : accord.Holds host) (hinv : accord.inv w)
    (h : Reaches host w pool) : Sound host accord pool := by
  induction h with
  | start => exact ⟨hinv, fun _ hmem => (by cases hmem), fun _ hmem => (by cases hmem), .nil⟩
  | step _ hstep ih => exact ih.step haccord hstep

end Pool
end Effect
