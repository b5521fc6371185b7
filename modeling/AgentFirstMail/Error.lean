import AgentFirstMail.Data.Lists

namespace AgentFirstMail

/-- The members of an error's details that the push executor reads back. -/
structure ErrorDetails where
  remoteCallsStarted : Option Bool := none
  remoteEffectRejected : Option Bool := none
  remoteEffectCompleted : Option Bool := none
deriving DecidableEq

structure AppError where
  errorCode : String
  message : String
  retryable : Bool := false
  details : Option ErrorDetails := none
deriving DecidableEq

/-- `error_code: message`, the form stored in `last_error`. -/
def AppError.toString (error : AppError) : String := s!"{error.errorCode}: {error.message}"

def AppError.withDetails (error : AppError) (details : ErrorDetails) : AppError :=
  { error with details := some details }

abbrev Result (α : Type) := Except AppError α

/-- Fails with `error` unless `condition` holds. -/
def ensure (condition : Bool) (error : AppError) : Result Unit :=
  if condition then .ok () else .error error

@[simp] theorem ensure_eq_ok_iff : ensure condition error = .ok () ↔ condition = true := by
  unfold ensure
  split <;> simp_all

theorem Result.bind_eq_ok_iff {x : Except ε α} {f : α → Except ε β} :
    (x >>= f) = .ok b ↔ ∃ a, x = .ok a ∧ f a = .ok b := by
  cases x with
  | error e =>
    constructor
    · intro h
      cases h
    · intro h
      obtain ⟨_, h, _⟩ := h
      cases h
  | ok a =>
    constructor
    · intro h
      exact ⟨a, rfl, h⟩
    · intro h
      obtain ⟨_, ha, h⟩ := h
      cases ha
      exact h

theorem Result.bind_unit_eq_ok_iff {x : Result Unit} {f : Unit → Result β} :
    (x >>= f) = .ok b ↔ x = .ok () ∧ f () = .ok b := by
  rw [bind_eq_ok_iff]
  exact ⟨fun ⟨_, h⟩ => h, fun h => ⟨(), h⟩⟩

theorem Result.bind_ok {x : Except ε α} {f : α → Except ε β} (h : (x >>= f) = .ok b) :
    ∃ a, x = .ok a ∧ f a = .ok b := bind_eq_ok_iff.mp h

theorem Result.seq_ok {x : Result Unit} {f : Unit → Result β} (h : (x >>= f) = .ok b) :
    x = .ok () ∧ f () = .ok b := bind_unit_eq_ok_iff.mp h

theorem Result.forM_eq_ok_iff {f : α → Result Unit} {items : List α} :
    items.forM f = .ok () ↔ ∀ item ∈ items, f item = .ok () := by
  induction items with
  | nil => exact ⟨fun _ _ h => (List.not_mem_nil h).elim, fun _ => rfl⟩
  | cons item rest ih =>
    change (f item >>= fun _ => rest.forM f) = .ok () ↔ _
    rw [bind_unit_eq_ok_iff, List.forall_mem_cons, ih]

theorem Result.mapM_eq_ok_iff {f : α → Result β} {items : List α} {values : List β} :
    items.mapM f = .ok values ↔ List.Forall₂ (fun item value => f item = .ok value) items values := by
  induction items generalizing values with
  | nil =>
    constructor
    · intro h
      cases h
      exact .nil
    · intro h
      cases h
      rfl
  | cons item rest ih =>
    rw [List.mapM_cons, bind_eq_ok_iff]
    constructor
    · intro ⟨value, hvalue, h⟩
      obtain ⟨others, hothers, h⟩ := bind_eq_ok_iff.mp h
      cases h
      exact .cons hvalue (ih.mp hothers)
    · intro h
      cases h with
      | cons hvalue hothers =>
        refine ⟨_, hvalue, ?_⟩
        rw [ih.mpr hothers]
        rfl

theorem Result.exists_mapM {f : α → Result β} {items : List α}
    (h : ∀ item ∈ items, ∃ value, f item = .ok value) : ∃ values, items.mapM f = .ok values := by
  induction items with
  | nil => exact ⟨[], rfl⟩
  | cons item rest ih =>
    obtain ⟨hfirst, hrest⟩ := List.forall_mem_cons.mp h
    obtain ⟨value, hvalue⟩ := hfirst
    obtain ⟨values, hvalues⟩ := ih hrest
    exact ⟨value :: values, mapM_eq_ok_iff.mpr (.cons hvalue (mapM_eq_ok_iff.mp hvalues))⟩

theorem mapError_eq_ok_iff {f : ε → ε'} {result : Except ε α} {value : α} :
    result.mapError f = .ok value ↔ result = .ok value := by
  cases result with
  | ok other =>
    change Except.ok other = Except.ok value ↔ _
    constructor
    · intro h
      cases h
      rfl
    · intro h
      cases h
      rfl
  | error error =>
    constructor
    · intro h
      cases h
    · intro h
      cases h

/-- Whatever a computation fails with satisfies `p`. -/
def Result.Fails (p : AppError → Prop) (x : Result α) : Prop := ∀ error, x = .error error → p error

namespace Result.Fails
variable {p : AppError → Prop}

theorem ok (value : α) : Result.Fails p (Except.ok value) := by
  intro error h
  cases h

theorem failure {error : AppError} (h : p error) :
    Result.Fails p (Except.error error : Result α) := by
  intro other heq
  cases heq
  exact h

theorem ensure {error : AppError} (h : p error) : Result.Fails p (ensure condition error) := by
  unfold AgentFirstMail.ensure
  split
  · exact ok ()
  · exact failure h

theorem bind {x : Result α} {f : α → Result β} (hx : x.Fails p)
    (hf : ∀ value, x = .ok value → (f value).Fails p) : (x >>= f).Fails p := by
  cases x with
  | error error =>
    intro other heq
    cases heq
    exact hx error rfl
  | ok value => exact hf value rfl

theorem mapM {f : α → Result β} {items : List α} (hf : ∀ item ∈ items, (f item).Fails p) :
    (items.mapM f).Fails p := by
  induction items with
  | nil => exact ok []
  | cons item rest ih =>
    rw [List.mapM_cons]
    apply bind (hf item List.mem_cons_self)
    intro value _
    apply bind (ih fun item hitem => hf item (List.mem_cons_of_mem _ hitem))
    intro values _
    exact ok _

theorem foldlM {f : β → α → Result β} {items : List α} {initial : β}
    (hf : ∀ value item, (f value item).Fails p) : (items.foldlM f initial).Fails p := by
  induction items generalizing initial with
  | nil => exact ok initial
  | cons item rest ih =>
    rw [List.foldlM_cons]
    exact bind (hf initial item) fun _ _ => ih

theorem forM {f : α → Result Unit} {items : List α} (hf : ∀ item, (f item).Fails p) :
    (items.forM f).Fails p := by
  induction items with
  | nil => exact ok ()
  | cons item rest ih => exact bind (hf item) fun _ _ => ih

end Result.Fails
end AgentFirstMail
