import AgentFirstMail.PushQueue.StepState

namespace AgentFirstMail

/-- The states name consecutive indices. -/
def IndexedFrom (start : Nat) (states : List PushStepState) : Prop :=
  ∀ i state, states[i]? = some state → state.index = start + i

theorem indexedFrom_nil (start : Nat) : IndexedFrom start [] := by
  intro i state h
  cases h

theorem indexedFrom_cons : IndexedFrom start (state :: rest) ↔
    state.index = start ∧ IndexedFrom (start + 1) rest := by
  constructor
  · intro h
    refine ⟨h 0 state rfl, ?_⟩
    intro i later hi
    have hindex := h (i + 1) later hi
    omega
  · intro ⟨hfirst, hrest⟩ i later hi
    cases i with
    | zero =>
      cases hi
      exact hfirst
    | succ i =>
      have hindex := hrest i later hi
      omega

theorem IndexedFrom.append (h : IndexedFrom start states)
    (hlater : IndexedFrom (start + states.length) later) :
    IndexedFrom start (states ++ later) := by
  intro i state hi
  by_cases hlt : i < states.length
  · rw [List.getElem?_append_left hlt] at hi
    exact h i state hi
  · rw [List.getElem?_append_right (by omega)] at hi
    have hindex := hlater _ state hi
    omega

theorem IndexedFrom.of_mem (h : IndexedFrom start states) (hmem : state ∈ states) :
    start ≤ state.index ∧ state.index < start + states.length := by
  obtain ⟨i, hi, rfl⟩ := List.getElem_of_mem hmem
  have hindex := h i _ (List.getElem?_eq_getElem hi)
  omega

theorem IndexedFrom.modifyStep_eq (h : IndexedFrom start states) (index : Nat)
    (change : PushStepState → PushStepState) :
    modifyStep (start + index) change states = states.modify index change := by
  induction states generalizing start index with
  | nil => cases index <;> rfl
  | cons state rest ih =>
    obtain ⟨hfirst, hrest⟩ := indexedFrom_cons.mp h
    cases index with
    | zero => simp [modifyStep, hfirst]
    | succ index =>
      have hne : state.index ≠ start + (index + 1) := by omega
      have hih := ih hrest index
      rw [Nat.add_right_comm, Nat.add_assoc] at hih
      simp [modifyStep, hne, hih]

/-- The states of an item name the indices from zero. -/
abbrev Indexed (states : List PushStepState) : Prop := IndexedFrom 0 states

theorem Indexed.modifyStep_eq (h : Indexed states) (index : Nat)
    (change : PushStepState → PushStepState) :
    modifyStep index change states = states.modify index change := by
  have hmodify := IndexedFrom.modifyStep_eq h index change
  rw [Nat.zero_add] at hmodify
  exact hmodify

theorem Indexed.modify (h : Indexed states)
    (hchange : ∀ state, (change state).index = state.index) :
    Indexed (states.modify index change) := by
  intro i state hi
  rw [List.getElem?_modify] at hi
  obtain ⟨before, hbefore, rfl⟩ := Option.map_eq_some_iff.mp hi
  have hindex := h i before hbefore
  split
  · rw [hchange, hindex]
  · exact hindex

theorem Indexed.any_iff (h : Indexed states) (index : Nat) (test : PushStepState → Bool) :
    (states.any fun state => state.index == index && test state) = true ↔
      ∃ state, states[index]? = some state ∧ test state = true := by
  rw [List.any_eq_true]
  constructor
  · intro ⟨state, hmem, htest⟩
    rw [Bool.and_eq_true, beq_iff_eq] at htest
    obtain ⟨i, hi, rfl⟩ := List.getElem_of_mem hmem
    have hindex := h i _ (List.getElem?_eq_getElem hi)
    have heq : i = index := by omega
    subst heq
    exact ⟨_, List.getElem?_eq_getElem hi, htest.2⟩
  · intro ⟨state, hget, htest⟩
    have hindex := h index state hget
    rw [Nat.zero_add] at hindex
    exact ⟨state, List.mem_of_getElem? hget, by simp [hindex, htest]⟩

/-- What is added for steps that have no state yet. -/
def plannedFrom (start : Nat) (steps : List ActionStep) : List PushStepState :=
  (steps.zipIdx start).map fun entry => PushStepState.planned entry.2 entry.1

theorem indexed_plannedFrom (start : Nat) (steps : List ActionStep) :
    IndexedFrom start (plannedFrom start steps) := by
  intro i state hi
  simp only [plannedFrom, List.getElem?_map, List.getElem?_zipIdx, Option.map_map] at hi
  obtain ⟨step, _, rfl⟩ := Option.map_eq_some_iff.mp hi
  rfl

@[simp] theorem length_plannedFrom (start : Nat) (steps : List ActionStep) :
    (plannedFrom start steps).length = steps.length := by
  simp [plannedFrom]

theorem labels_plannedFrom (start : Nat) (steps : List ActionStep) :
    (plannedFrom start steps).map (·.label) = steps.map (·.label) := by
  induction steps generalizing start with
  | nil => rfl
  | cons step rest ih =>
    change step.label :: (plannedFrom (start + 1) rest).map (·.label) = _
    rw [ih, List.map_cons]

theorem mem_plannedFrom (h : state ∈ plannedFrom start steps) :
    ∃ index step, state = PushStepState.planned index step := by
  obtain ⟨entry, _, rfl⟩ := List.mem_map.mp h
  exact ⟨entry.2, entry.1, rfl⟩

theorem addMissing_foldl {steps : List ActionStep} (h : Indexed states)
    (hle : start ≤ states.length) :
    ((steps.zipIdx start).foldl (fun states entry =>
      if states.any (·.index == entry.2) then states
      else states ++ [PushStepState.planned entry.2 entry.1]) states) =
      states ++ plannedFrom states.length (steps.drop (states.length - start)) := by
  induction steps generalizing start states with
  | nil => simp [plannedFrom]
  | cons step rest ih =>
    rw [List.zipIdx_cons, List.foldl_cons]
    by_cases hlt : start < states.length
    · have hhas : (states.any (·.index == start)) = true := by
        have hindex := h start _ (List.getElem?_eq_getElem hlt)
        rw [Nat.zero_add] at hindex
        rw [List.any_eq_true]
        exact ⟨_, List.getElem_mem hlt, beq_iff_eq.mpr hindex⟩
      have hdrop : states.length - start = states.length - (start + 1) + 1 := by omega
      rw [if_pos hhas, ih h hlt, hdrop, List.drop_succ_cons]
    · have heq : start = states.length := by omega
      subst heq
      have hmissing : ¬(states.any (·.index == states.length)) = true := by
        rw [List.any_eq_true]
        intro ⟨state, hmem, hindex⟩
        rw [beq_iff_eq] at hindex
        have hbound := IndexedFrom.of_mem h hmem
        omega
      have hnext : Indexed (states ++ [PushStepState.planned states.length step]) := by
        apply IndexedFrom.append h
        rw [indexedFrom_cons]
        exact ⟨by simp [PushStepState.planned], indexedFrom_nil _⟩
      rw [if_neg hmissing, ih hnext (by simp)]
      simp [plannedFrom, List.zipIdx_cons]

/-- Resolving an item keeps the states it has and adds one for each later step. -/
theorem PushItem.ensureStepStates_stepStates {item : PushItem} {steps : List ActionStep}
    (h : Indexed item.stepStates) (hle : item.stepStates.length ≤ steps.length) :
    (item.ensureStepStates steps).stepStates = item.stepStates ++
      plannedFrom item.stepStates.length (steps.drop item.stepStates.length) := by
  have hadded : addMissingSteps item.stepStates steps = item.stepStates ++
      plannedFrom item.stepStates.length (steps.drop item.stepStates.length) :=
    addMissing_foldl h (Nat.zero_le _)
  have hindexed : Indexed (addMissingSteps item.stepStates steps) := by
    rw [hadded]
    apply IndexedFrom.append h
    rw [Nat.zero_add]
    exact indexed_plannedFrom _ _
  have hlength : (addMissingSteps item.stepStates steps).length = steps.length := by
    rw [hadded, List.length_append, length_plannedFrom, List.length_drop]
    omega
  have hfilter : (addMissingSteps item.stepStates steps).filter (·.index < steps.length) =
      addMissingSteps item.stepStates steps := by
    apply List.filter_eq_self.mpr
    intro state hmem
    have hbound := IndexedFrom.of_mem hindexed hmem
    rw [decide_eq_true_eq]
    omega
  have hsorted : (addMissingSteps item.stepStates steps).Pairwise
      fun a b => a.index ≤ b.index := by
    rw [List.pairwise_iff_getElem]
    intro i j hi hj hlt
    have hleft := hindexed i _ (List.getElem?_eq_getElem hi)
    have hright := hindexed j _ (List.getElem?_eq_getElem hj)
    omega
  change ((addMissingSteps item.stepStates steps).filter (·.index < steps.length)).insertionSort
    (fun a b => a.index ≤ b.index) = _
  rw [hfilter, hsorted.insertionSort_eq, hadded]

/-- Steps run in order: everything before a started step succeeded. -/
structure StepsOrdered (states : List PushStepState) : Prop where
  indexed : Indexed states
  ordered : ∀ (i j : Nat) (before state : PushStepState), i < j → states[i]? = some before → states[j]? = some state →
    state.started = true → before.status = .succeeded

namespace StepsOrdered
variable {states later : List PushStepState} {state : PushStepState}
  {change : PushStepState → PushStepState} {index : Nat}

theorem nil : StepsOrdered [] := ⟨indexedFrom_nil 0, fun _ _ _ _ _ h => nomatch h⟩

theorem modify (h : StepsOrdered states)
    (hbefore : ∀ i (before : PushStepState), i < index → states[i]? = some before → before.status = .succeeded)
    (hafter : ∀ j (state : PushStepState), index < j → states[j]? = some state → state.started = false)
    (hchange : ∀ state, (change state).index = state.index) :
    StepsOrdered (states.modify index change) where
  indexed := h.indexed.modify hchange
  ordered := by
    intro i j before state hij hi hj hstarted
    rw [List.getElem?_modify] at hi hj
    obtain ⟨old, hold, rfl⟩ := Option.map_eq_some_iff.mp hi
    obtain ⟨oldState, holdState, rfl⟩ := Option.map_eq_some_iff.mp hj
    by_cases hindex : index < j
    · rw [if_neg (by omega)] at hstarted
      have hunstarted := hafter j oldState hindex holdState
      rw [hunstarted] at hstarted
      cases hstarted
    · rw [if_neg (by omega)]
      exact hbefore i old (by omega) hold

theorem before_started (h : StepsOrdered states) (hget : states[index]? = some state)
    (hstarted : state.started = true) :
    ∀ i before, i < index → states[i]? = some before → before.status = .succeeded := by
  intro i before hlt hi
  exact h.ordered i index before state hlt hi hget hstarted

theorem after_unfinished (h : StepsOrdered states) (hget : states[index]? = some state)
    (hstatus : state.status ≠ .succeeded) :
    ∀ j later, index < j → states[j]? = some later → later.started = false := by
  intro j later hlt hj
  by_contra hstarted
  rw [Bool.not_eq_false] at hstarted
  exact hstatus (h.ordered index j state later hlt hget hj hstarted)

theorem modify_current (h : StepsOrdered states) (hget : states[index]? = some state)
    (hstarted : state.started = true) (hstatus : state.status ≠ .succeeded)
    (hchange : ∀ state, (change state).index = state.index) :
    StepsOrdered (states.modify index change) :=
  h.modify (h.before_started hget hstarted) (h.after_unfinished hget hstatus) hchange

theorem append (h : StepsOrdered states) (hindexed : IndexedFrom states.length later)
    (hunstarted : ∀ state ∈ later, state.started = false) : StepsOrdered (states ++ later) where
  indexed := by
    apply IndexedFrom.append h.indexed
    rw [Nat.zero_add]
    exact hindexed
  ordered := by
    intro i j before state hij hi hj hstarted
    by_cases hlt : j < states.length
    · rw [List.getElem?_append_left hlt] at hj
      rw [List.getElem?_append_left (by omega)] at hi
      exact h.ordered i j before state hij hi hj hstarted
    · rw [List.getElem?_append_right (by omega)] at hj
      have hfalse := hunstarted state (List.mem_of_getElem? hj)
      rw [hfalse] at hstarted
      cases hstarted

/-- Succeeded steps, then at most one that was started and has not succeeded, then steps that
were never started. -/
def Split (states : List PushStepState) : Prop :=
  ∃ done current rest, states = done ++ current ++ rest ∧
    (∀ state ∈ done, state.status = .succeeded) ∧ current.length ≤ 1 ∧
    (∀ state ∈ current, state.started = true ∧ state.status ≠ .succeeded) ∧
    ∀ state ∈ rest, state.started = false

theorem split_of_ordered
    (h : ∀ (i j : Nat) (before state : PushStepState), i < j → states[i]? = some before →
      states[j]? = some state → state.started = true → before.status = .succeeded) :
    Split states := by
  induction states with
  | nil => exact ⟨[], [], [], rfl, by simp, by simp, by simp, by simp⟩
  | cons first rest ih =>
    by_cases hstatus : first.status = .succeeded
    · have hrest := ih fun i j before state hij hi hj =>
        h (i + 1) (j + 1) before state (by omega) hi hj
      obtain ⟨done, current, later, happend, hdone, hcurrent⟩ := hrest
      refine ⟨first :: done, current, later, by simp [happend], ?_, hcurrent⟩
      intro state hmem
      cases List.mem_cons.mp hmem with
      | inl heq => rw [heq, hstatus]
      | inr hmem => exact hdone state hmem
    · have hrest : ∀ state ∈ rest, state.started = false := by
        intro state hmem
        obtain ⟨j, hj, rfl⟩ := List.getElem_of_mem hmem
        by_contra hstarted
        rw [Bool.not_eq_false] at hstarted
        exact hstatus (h 0 (j + 1) first _ (by omega) rfl (List.getElem?_eq_getElem hj) hstarted)
      by_cases hstarted : first.started = true
      · exact ⟨[], [first], rest, rfl, by simp, by simp, by simpa using ⟨hstarted, hstatus⟩,
          hrest⟩
      · rw [Bool.not_eq_true] at hstarted
        exact ⟨[], [], first :: rest, rfl, by simp, by simp, by simp,
          by simpa using ⟨hstarted, hrest⟩⟩

theorem split (h : StepsOrdered states) : Split states := split_of_ordered h.ordered

end StepsOrdered
end AgentFirstMail
