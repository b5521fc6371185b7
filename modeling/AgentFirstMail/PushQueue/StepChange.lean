import AgentFirstMail.PushQueue.Consistency

namespace AgentFirstMail

namespace PushItem

/-- The states of an item are those of the steps it runs. -/
structure Resolved (item : PushItem) (steps : List ActionStep) : Prop where
  labels : item.labels = steps.map (·.label)
  single : ∀ step ∈ steps, step.opCount = 1
  action : ∀ action, item.plannedMessageAction = some action → action.steps = steps

/-- A step was started and has not succeeded. -/
structure Attempts (item : PushItem) (index : Nat) (state : PushStepState) : Prop where
  get : item.stepStates[index]? = some state
  started : state.started = true
  unfinished : state.status ≠ .succeeded

/-- A change that a step's state goes through when it is attempted. -/
structure Recolors (step : ActionStep) (change : PushStepState → PushStepState) : Prop where
  index : ∀ state, (change state).index = state.index
  label : ∀ state, state.label = step.label → (change state).label = step.label
  started : ∀ state, state.started = true → (change state).started = true

theorem started_of_status {state : PushStepState} (h : state.status ≠ .pending) :
    state.started = true := by
  rw [PushStepState.started, bne_iff_ne.mpr h, Bool.true_or, Bool.true_or]

theorem recolors_markPending (step : ActionStep) (now : String) :
    Recolors step (·.markPending step now) where
  index _ := rfl
  label _ _ := rfl
  started _ _ := rfl

theorem recolors_markSucceeded (step : ActionStep) (now : String) :
    Recolors step (·.markSucceeded step now) where
  index _ := rfl
  label _ _ := rfl
  started _ _ := rfl

theorem recolors_markFailed (step : ActionStep) (error : AppError) (now : String) :
    Recolors step (·.markFailed step error now) where
  index _ := rfl
  label _ _ := rfl
  started _ _ := rfl

theorem recolors_markRemoteOutcomeUnknown (step : ActionStep) (error : Option AppError)
    (now : String) : Recolors step (·.markRemoteOutcomeUnknown step error now) where
  index _ := rfl
  label _ _ := rfl
  started _ _ := rfl

theorem recolors_sendReceipt (step : ActionStep) (receipt : SendReceipt) :
    Recolors step fun state => { state with sendReceipt := some receipt } where
  index _ := rfl
  label _ h := h
  started _ h := h

variable {item : PushItem} {steps : List ActionStep} {step : ActionStep} {index : Nat}
  {state : PushStepState} {states : List PushStepState} {change : PushStepState → PushStepState}

theorem stepHasStatus_iff (h : Indexed item.stepStates) :
    item.stepHasStatus index status = true ↔
      ∃ state, item.stepStates[index]? = some state ∧ state.status = status := by
  rw [stepHasStatus, h.any_iff index (fun state => state.status == status)]
  simp only [beq_iff_eq]

theorem attempts_of_unknown (h : Indexed item.stepStates)
    (hunknown : item.stepRemoteOutcomeUnknown index = true) :
    ∃ state, item.Attempts index state ∧ state.status = .remoteOutcomeUnknown := by
  obtain ⟨state, hget, hstatus⟩ := (stepHasStatus_iff h).mp hunknown
  refine ⟨state, ⟨hget, started_of_status ?_, ?_⟩, hstatus⟩
  · rw [hstatus]
    intro heq
    cases heq
  · rw [hstatus]
    intro heq
    cases heq

theorem Resolved.length (h : item.Resolved steps) :
    item.stepStates.length = steps.length := by
  have hlength := congrArg List.length h.labels
  rw [PushItem.labels, List.length_map, List.length_map] at hlength
  exact hlength

theorem Resolved.label (h : item.Resolved steps)
    (hget : item.stepStates[index]? = some state) (hstep : steps[index]? = some step) :
    state.label = step.label := by
  have hlabel := congrArg (·[index]?) h.labels
  simp only [PushItem.labels, List.getElem?_map, hget, hstep, Option.map_some,
    Option.some.injEq] at hlabel
  exact hlabel

theorem Resolved.exists_state (h : item.Resolved steps)
    (hstep : steps[index]? = some step) : ∃ state, item.stepStates[index]? = some state := by
  have hlt : index < steps.length := List.getElem?_eq_some_iff.mp hstep |>.1
  rw [← h.length] at hlt
  exact ⟨_, List.getElem?_eq_getElem hlt⟩

theorem labels_modify (hget : states[index]? = some state) (hlabel : (change state).label = state.label) :
    (states.modify index change).map (·.label) = states.map (·.label) := by
  apply List.ext_getElem?
  intro i
  rw [List.getElem?_map, List.getElem?_map, List.getElem?_modify]
  by_cases heq : index = i
  · subst heq
    simp [hget, hlabel]
  · cases hi : states[i]? <;> simp [heq]

theorem modifyStepState_stepStates (h : Indexed item.stepStates) :
    (item.modifyStepState index change).stepStates = item.stepStates.modify index change :=
  h.modifyStep_eq index change

theorem modifyStepState_get (change : PushStepState → PushStepState)
    (h : Indexed item.stepStates) (hget : item.stepStates[index]? = some state) :
    (item.modifyStepState index change).stepStates[index]? = some (change state) := by
  rw [modifyStepState_stepStates h, List.getElem?_modify_eq, hget]
  rfl

theorem modifyStepState_get_ne (h : Indexed item.stepStates) (hne : index ≠ other) :
    (item.modifyStepState index change).stepStates[other]? = item.stepStates[other]? := by
  rw [modifyStepState_stepStates h, List.getElem?_modify_ne _ _ hne]

theorem Resolved.changeStep (h : item.Resolved steps) (hindexed : Indexed item.stepStates)
    (hstep : steps[index]? = some step) (hchange : Recolors step change) :
    (item.modifyStepState index change).Resolved steps where
  labels := by
    obtain ⟨state, hget⟩ := h.exists_state hstep
    have hlabel := h.label hget hstep
    rw [PushItem.labels, modifyStepState_stepStates hindexed,
      labels_modify hget ((hchange.label state hlabel).trans hlabel.symm)]
    exact h.labels
  single := h.single
  action := h.action

theorem Consistent.localStage_none (h : item.Consistent) (hmem : state ∈ item.stepStates)
    (hstatus : state.status ≠ .succeeded) : item.localStage = none := by
  by_contra hstage
  exact hstatus (h.finished (Option.isSome_iff_ne_none.mpr hstage) state hmem)

theorem hasStartedEffects_of_get (hget : item.stepStates[index]? = some state)
    (hstarted : state.started = true) : item.hasStartedEffects = true :=
  started_of_mem (List.mem_of_getElem? hget) hstarted

/-- The step an item is at may change its state, and nothing else. -/
theorem Consistent.changeStep (h : item.Consistent) (hres : item.Resolved steps)
    (hstep : steps[index]? = some step) (hcurrent : item.Attempts index state)
    (hchange : Recolors step change) : (item.modifyStepState index change).Consistent where
  steps := by
    rw [modifyStepState_stepStates h.steps.indexed]
    exact h.steps.modify_current hcurrent.get hcurrent.started hcurrent.unfinished hchange.index
  finished := by
    intro hstage
    change item.localStage.isSome at hstage
    rw [h.localStage_none (List.mem_of_getElem? hcurrent.get) hcurrent.unfinished] at hstage
    cases hstage
  frozen := by
    intro message hmessage
    have hfrozen := h.frozen message hmessage
    refine ⟨hfrozen.pushId, ?_, ?_⟩
    · rw [← hfrozen.started, hasStartedEffects_of_get hcurrent.get hcurrent.started]
      exact hasStartedEffects_of_get (modifyStepState_get change h.steps.indexed hcurrent.get)
        (hchange.started state hcurrent.started)
    · intro action haction
      obtain ⟨hfor, hlabels⟩ := hfrozen.action action haction
      refine ⟨hfor, ?_⟩
      rw [(hres.changeStep h.steps.indexed hstep hchange).labels, ← hres.labels, hlabels]

theorem Planned.congr {other : PushItem} (h : item.Planned) (hpushId : other.pushId = item.pushId)
    (hpayload : other.payload = item.payload)
    (houtbound : other.plannedOutbound = item.plannedOutbound)
    (haction : other.plannedMessageAction = item.plannedMessageAction)
    (hmessage : other.plannedOutboundMessage = item.plannedOutboundMessage)
    (haudit : item.auditPending.isSome → other.auditPending.isSome) : other.Planned := by
  cases h with
  | reported hpending => exact .reported (haudit hpending)
  | message message action hp ho ha hfor hfrozen =>
    exact .message message action (hpayload.trans hp) (houtbound.trans ho) (haction.trans ha) hfor
      hfrozen
  | draft draft outbound hp ha ho hcase hsteps hprepared =>
    refine .draft draft outbound (hpayload.trans hp) (haction.trans ha) (houtbound.trans ho) hcase
      hsteps ?_
    rw [hmessage, hpushId]
    exact hprepared

theorem Planned.changeStep (h : item.Planned) : (item.modifyStepState index change).Planned :=
  h.congr rfl rfl rfl rfl rfl id

theorem freeze_stepStates : item.freezeMessageActionSnapshot.stepStates = item.stepStates := by
  unfold freezeMessageActionSnapshot
  split <;> rfl

theorem freeze_localStage : item.freezeMessageActionSnapshot.localStage = item.localStage := by
  unfold freezeMessageActionSnapshot
  split <;> rfl

theorem freeze_auditPending :
    item.freezeMessageActionSnapshot.auditPending = item.auditPending := by
  unfold freezeMessageActionSnapshot
  split <;> rfl

theorem freeze_pushId : item.freezeMessageActionSnapshot.pushId = item.pushId := by
  unfold freezeMessageActionSnapshot
  split <;> rfl

theorem freeze_plannedMessageAction :
    item.freezeMessageActionSnapshot.plannedMessageAction = item.plannedMessageAction := by
  unfold freezeMessageActionSnapshot
  split <;> rfl

theorem freeze_of_draft {draft : DraftPush} (h : item.payload = .draft draft) :
    item.freezeMessageActionSnapshot = item := by
  rw [freezeMessageActionSnapshot, h]

theorem freeze_of_message {message : MessagePush} (h : item.payload = .message message) :
    item.freezeMessageActionSnapshot = { item with payload := .message { message with
      messageActionSnapshot := message.messageActionSnapshot.or item.plannedMessageAction } } := by
  rw [freezeMessageActionSnapshot, h]

/-- A step that every earlier one succeeded before, and that did not succeed itself. -/
structure Next (item : PushItem) (index : Nat) : Prop where
  before : ∀ i state, i < index → item.stepStates[i]? = some state → state.status = .succeeded
  unfinished : ∀ state, item.stepStates[index]? = some state → state.status ≠ .succeeded

theorem Next.after (h : item.Next index) (hitem : StepsOrdered item.stepStates)
    (hget : item.stepStates[index]? = some state) :
    ∀ j later, index < j → item.stepStates[j]? = some later → later.started = false :=
  hitem.after_unfinished hget (h.unfinished state hget)

theorem Planned.snapshot (h : item.Planned) (haudit : item.AuditKept) (hstage : item.localStage = none)
    {message : MessagePush} (hmessage : item.payload = .message message) :
    ∃ action, item.plannedMessageAction = some action ∧
      action.For message.action message.messageId ∧
      ∀ frozen, message.messageActionSnapshot = some frozen → frozen = action := by
  cases h with
  | reported hpending =>
    rw [haudit.mp hpending] at hstage
    cases hstage
  | message other action hp ho ha hfor hfrozen =>
    cases hp.symm.trans hmessage
    exact ⟨action, ha, hfor, hfrozen⟩
  | draft draft outbound hp => cases hp.symm.trans hmessage

theorem Consistent.markStepPending (h : item.Consistent) (hplanned : item.Planned)
    (haudit : item.AuditKept) (hres : item.Resolved steps) (hstep : steps[index]? = some step)
    (hnext : item.Next index) : (item.markStepPending index step now).Consistent := by
  obtain ⟨state, hget⟩ := hres.exists_state hstep
  have hunfinished := hnext.unfinished state hget
  have hstage := h.localStage_none (List.mem_of_getElem? hget) hunfinished
  have hchange := recolors_markPending step now
  have hstates : (item.markStepPending index step now).stepStates =
      item.stepStates.modify index (·.markPending step now) := by
    change modifyStep index _ item.freezeMessageActionSnapshot.stepStates = _
    rw [freeze_stepStates, h.steps.indexed.modifyStep_eq]
  have hnone : (item.markStepPending index step now).localStage = none := by
    change item.freezeMessageActionSnapshot.localStage = none
    rw [freeze_localStage, hstage]
  refine ⟨?_, ?_, ?_⟩
  · rw [hstates]
    exact h.steps.modify (fun i before hlt hi => hnext.before i before hlt hi)
      (hnext.after h.steps hget) hchange.index
  · rw [hnone]
    intro hsome
    cases hsome
  · intro message hmessage
    cases hpayload : item.payload with
    | draft draft =>
      change item.freezeMessageActionSnapshot.message = some message at hmessage
      rw [freeze_of_draft hpayload, PushItem.message, hpayload] at hmessage
      cases hmessage
    | message queued =>
      change item.freezeMessageActionSnapshot.message = some message at hmessage
      rw [freeze_of_message hpayload] at hmessage
      cases hmessage
      obtain ⟨action, haction, hfor, hfrozen⟩ := hplanned.snapshot haudit hstage hpayload
      have hold := h.frozen queued (by rw [PushItem.message, hpayload])
      have hsnapshot : queued.messageActionSnapshot.or item.plannedMessageAction = some action := by
        cases hqueued : queued.messageActionSnapshot with
        | none => rw [Option.none_or, haction]
        | some frozen => rw [Option.some_or, hfrozen frozen hqueued]
      refine ⟨?_, ?_, ?_⟩
      · change item.freezeMessageActionSnapshot.pushId = _
        rw [freeze_pushId]
        exact hold.pushId
      · rw [hsnapshot]
        have hmarked : (item.markStepPending index step now).stepStates[index]? =
            some (state.markPending step now) := by
          rw [hstates, List.getElem?_modify_eq, hget]
          rfl
        exact hasStartedEffects_of_get hmarked rfl
      · intro other heq
        rw [hsnapshot] at heq
        cases heq
        refine ⟨hfor, ?_⟩
        rw [PushItem.labels, hstates, labels_modify hget (hres.label hget hstep).symm]
        rw [hres.action action haction]
        exact hres.labels

theorem Resolved.markStepPending (h : item.Resolved steps) (hindexed : Indexed item.stepStates)
    (hstep : steps[index]? = some step) :
    (item.markStepPending index step now).Resolved steps := by
  obtain ⟨state, hget⟩ := h.exists_state hstep
  refine ⟨?_, h.single, ?_⟩
  · change (modifyStep index _ item.freezeMessageActionSnapshot.stepStates).map _ = _
    rw [freeze_stepStates, hindexed.modifyStep_eq, labels_modify hget (h.label hget hstep).symm]
    exact h.labels
  · change ∀ action, item.freezeMessageActionSnapshot.plannedMessageAction = some action → _
    rw [freeze_plannedMessageAction]
    exact h.action

theorem AuditKept.markStepPending (h : item.AuditKept) :
    (item.markStepPending index step now).AuditKept := by
  change item.freezeMessageActionSnapshot.auditPending.isSome ↔
    item.freezeMessageActionSnapshot.localStage = _
  rw [freeze_auditPending, freeze_localStage]
  exact h

theorem Planned.markStepPending (h : item.Planned) :
    (item.markStepPending index step now).Planned := by
  cases h with
  | reported hpending =>
    apply Planned.reported
    change item.freezeMessageActionSnapshot.auditPending.isSome
    rw [freeze_auditPending]
    exact hpending
  | message message action hp ho ha hfor hfrozen =>
    have hfreeze := freeze_of_message hp
    refine .message { message with
      messageActionSnapshot := message.messageActionSnapshot.or item.plannedMessageAction } action
      ?_ ?_ ?_ hfor ?_
    · change item.freezeMessageActionSnapshot.payload = _
      rw [hfreeze]
    · change item.freezeMessageActionSnapshot.plannedOutbound = _
      rw [hfreeze]
      exact ho
    · change item.freezeMessageActionSnapshot.plannedMessageAction = _
      rw [freeze_plannedMessageAction]
      exact ha
    · intro frozen heq
      change message.messageActionSnapshot.or item.plannedMessageAction = some frozen at heq
      cases hold : message.messageActionSnapshot with
      | none =>
        rw [hold, Option.none_or, ha] at heq
        exact (Option.some.inj heq).symm
      | some old =>
        rw [hold, Option.some_or] at heq
        exact hfrozen frozen (hold.trans heq)
  | draft draft outbound hp ha ho hcase hsteps hprepared =>
    have hfreeze := freeze_of_draft hp
    have hmark : item.markStepPending index step now = { item.modifyStepState index
        (·.markPending step now) with updatedRfc3339 := now } := by
      rw [PushItem.markStepPending, hfreeze]
    rw [hmark]
    exact .draft draft outbound hp ha ho hcase hsteps hprepared

theorem attempts_markStepPending (h : Indexed item.stepStates)
    (hget : item.stepStates[index]? = some state) :
    (item.markStepPending index step now).Attempts index (state.markPending step now) where
  get := by
    change (modifyStep index _ item.freezeMessageActionSnapshot.stepStates)[index]? = _
    rw [freeze_stepStates, h.modifyStep_eq, List.getElem?_modify_eq, hget]
    rfl
  started := rfl
  unfinished := by
    intro heq
    cases heq

end PushItem
end AgentFirstMail
