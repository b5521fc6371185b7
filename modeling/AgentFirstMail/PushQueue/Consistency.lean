import AgentFirstMail.PushQueue.Plan
import AgentFirstMail.PushQueue.Progress
import AgentFirstMail.PushQueue.Queue

namespace AgentFirstMail

namespace PushItem

/-- The labels of the steps an item has states for. -/
def labels (item : PushItem) : List String := item.stepStates.map (·.label)

/-- A message item keeps the action it was started with, and none before. -/
structure Frozen (item : PushItem) (message : MessagePush) : Prop where
  pushId : item.pushId = messagePushId message.messageId
  started : item.hasStartedEffects = message.messageActionSnapshot.isSome
  action : ∀ action, message.messageActionSnapshot = some action →
    action.For message.action message.messageId ∧ item.labels = action.steps.map (·.label)

/-- An item whose steps ran in order, up to the local stages after the last of them. -/
structure Consistent (item : PushItem) : Prop where
  steps : StepsOrdered item.stepStates
  finished : item.localStage.isSome → ∀ state ∈ item.stepStates, state.status = .succeeded
  frozen : ∀ message, item.message = some message → item.Frozen message

/-- The audit identity and the stage that says it is kept go together. -/
def AuditKept (item : PushItem) : Prop :=
  item.auditPending.isSome ↔ item.localStage = some .auditPending

/-- An item as a plan presents it: with one that is only to be reported, nothing is run. -/
inductive Planned (item : PushItem) : Prop
  | reported : item.auditPending.isSome → Planned item
  | message (message : MessagePush) (action : MessageActionPush) :
      item.payload = .message message → item.plannedOutbound = none →
      item.plannedMessageAction = some action → action.For message.action message.messageId →
      (∀ frozen, message.messageActionSnapshot = some frozen → frozen = action) →
      Planned item
  | draft (draft : DraftPush) (outbound : OutboundPush) :
      item.payload = .draft draft → item.plannedMessageAction = none →
      item.plannedOutbound = some outbound → outbound.caseUid = draft.caseUid →
      (∀ step ∈ outbound.steps, step.opCount = 1) →
      (∀ prepared, item.plannedOutboundMessage = some prepared →
        prepared.messageId = messageIdForPush item.pushId) →
      Planned item

/-- The steps an item has states for lead those it is planned to run. -/
structure Leads (item : PushItem) : Prop where
  message : ∀ action, item.auditPending = none → item.plannedMessageAction = some action →
    item.labels <+: action.steps.map (·.label)
  draft : ∀ outbound, item.auditPending = none → item.localStage = none →
    item.plannedOutbound = some outbound → item.labels <+: outbound.steps.map (·.label)

/-- What planning keeps of a queue record; steps that never started may be dropped. -/
structure Resumes (item record : PushItem) : Prop where
  pushId : item.pushId = record.pushId
  enqueueSeq : item.enqueueSeq = record.enqueueSeq
  payload : item.payload = record.payload
  localStage : item.localStage = record.localStage
  auditPending : item.auditPending = record.auditPending
  stepStates : item.stepStates = record.stepStates ∨
    item.stepStates = [] ∧ record.hasStartedEffects = false

theorem Resumes.refl (item : PushItem) : item.Resumes item := ⟨rfl, rfl, rfl, rfl, rfl, .inl rfl⟩

theorem not_started_iff {item : PushItem} : item.hasStartedEffects = false ↔
    (∀ state ∈ item.stepStates, state.started = false) ∧ item.localStage = none ∧
      item.auditPending = none := by
  simp only [hasStartedEffects, hasStartedSteps, Bool.or_eq_false_iff, List.any_eq_false,
    Option.isSome_eq_false_iff, Option.isNone_iff_eq_none, and_assoc]
  apply and_congr_left'
  apply forall₂_congr
  intro state _
  rw [PushStepState.started, Bool.not_eq_true]

theorem started_of_mem {item : PushItem} (hmem : state ∈ item.stepStates)
    (h : state.started = true) : item.hasStartedEffects = true := by
  by_contra hnot
  rw [Bool.not_eq_true] at hnot
  rw [(not_started_iff.mp hnot).1 state hmem] at h
  cases h

theorem Resumes.hasStartedEffects {item record : PushItem} (h : item.Resumes record) :
    item.hasStartedEffects = record.hasStartedEffects := by
  cases h.stepStates with
  | inl hsame =>
    simp only [PushItem.hasStartedEffects, hasStartedSteps, hsame, h.localStage, h.auditPending]
  | inr hreset =>
    obtain ⟨hnil, hnot⟩ := hreset
    obtain ⟨_, hstage, haudit⟩ := not_started_iff.mp hnot
    rw [hnot, not_started_iff, hnil, h.localStage, h.auditPending]
    exact ⟨by simp, hstage, haudit⟩

/-- Planning keeps an item consistent. -/
theorem Consistent.resumes {item record : PushItem} (h : record.Consistent)
    (hresumes : item.Resumes record) : item.Consistent where
  steps := by
    cases hresumes.stepStates with
    | inl hsame =>
      rw [hsame]
      exact h.steps
    | inr hreset =>
      rw [hreset.1]
      exact .nil
  finished := by
    intro hstage state hmem
    cases hresumes.stepStates with
    | inl hsame =>
      rw [hsame] at hmem
      rw [hresumes.localStage] at hstage
      exact h.finished hstage state hmem
    | inr hreset =>
      rw [hreset.1] at hmem
      cases hmem
  frozen := by
    intro message hmessage
    rw [PushItem.message, hresumes.payload] at hmessage
    have hfrozen := h.frozen message hmessage
    refine ⟨hresumes.pushId.trans hfrozen.pushId, hresumes.hasStartedEffects.trans hfrozen.started,
      ?_⟩
    intro action haction
    obtain ⟨hfor, hlabels⟩ := hfrozen.action action haction
    cases hresumes.stepStates with
    | inl hsame => exact ⟨hfor, by rw [labels, hsame, ← hlabels, labels]⟩
    | inr hreset =>
      have hstarted := hfrozen.started
      rw [hreset.2, haction] at hstarted
      cases hstarted

theorem AuditKept.resumes {item record : PushItem} (h : record.AuditKept)
    (hresumes : item.Resumes record) : item.AuditKept := by
  rw [AuditKept, hresumes.auditPending, hresumes.localStage]
  exact h

end PushItem

/-- The queue file of an item is named by its id, and its content is consistent. -/
structure Workspace.Holds (pushId : String) (item : PushItem) : Prop where
  pushId : item.pushId = pushId
  consistent : item.Consistent
  auditKept : item.AuditKept

def Workspace.QueueConsistent (w : Workspace) : Prop :=
  ∀ (pushId : String) item, w.pushItems[pushId]? = some item → Workspace.Holds pushId item

theorem resetProgressIfPlanChanged_eq_ok
    (h : resetProgressIfPlanChanged w config item = .ok planned) :
    (planned = item ∧ (item.stepStates = [] ∨
      ∃ actions, actionsFor w config item = .ok actions ∧ item.labels <+: actions)) ∨
    (item.hasStartedEffects = false ∧
      planned = { item with stepStates := [], localStage := none, lastError := none }) := by
  unfold resetProgressIfPlanChanged at h
  split at h
  · rename_i hempty
    cases h
    exact .inl ⟨rfl, .inl (List.isEmpty_iff.mp hempty)⟩
  · obtain ⟨actions, hactions, h⟩ := Result.bind_ok h
    split at h
    · rename_i hleads
      cases h
      exact .inl ⟨rfl, .inr ⟨actions, hactions, List.isPrefixOf_iff_prefix.mp hleads⟩⟩
    · split at h
      · cases h
      · rename_i hstarted
        cases h
        exact .inr ⟨Bool.not_eq_true _ ▸ hstarted, rfl⟩

theorem resetProgressIfPlanChanged_resumes
    (h : resetProgressIfPlanChanged w config item = .ok planned) :
    planned.Resumes item ∧ planned.plannedOutbound = item.plannedOutbound ∧
      planned.plannedMessageAction = item.plannedMessageAction ∧
      (planned.labels = [] ∨
        ∃ actions, actionsFor w config item = .ok actions ∧ planned.labels <+: actions) := by
  cases resetProgressIfPlanChanged_eq_ok h with
  | inl hkept =>
    obtain ⟨rfl, hlabels⟩ := hkept
    refine ⟨.refl _, rfl, rfl, ?_⟩
    cases hlabels with
    | inl hnil =>
      left
      rw [PushItem.labels, hnil, List.map_nil]
    | inr hleads => exact .inr hleads
  | inr hreset =>
    obtain ⟨hnot, rfl⟩ := hreset
    obtain ⟨_, hstage, _⟩ := PushItem.not_started_iff.mp hnot
    exact ⟨⟨rfl, rfl, rfl, hstage.symm, rfl, .inr ⟨rfl, hnot⟩⟩, rfl, rfl, .inl rfl⟩

theorem prefix_of_nil_or {labels steps : List String}
    (h : labels = [] ∨ ∃ actions, (.ok steps : Result (List String)) = .ok actions ∧
      labels <+: actions) : labels <+: steps := by
  cases h with
  | inl hnil =>
    rw [hnil]
    exact List.nil_prefix
  | inr hleads =>
    obtain ⟨actions, hactions, hleads⟩ := hleads
    rw [Except.ok.inj hactions]
    exact hleads

theorem resolveMessageAction_for {item : PushItem} {message : MessagePush}
    (hconfig : config.validate = .ok ()) (hfrozen : item.Frozen message)
    (h : resolveMessageAction w config item message = .ok (some action)) :
    action.For message.action message.messageId ∧
      ∀ frozen, message.messageActionSnapshot = some frozen → frozen = action := by
  unfold resolveMessageAction at h
  have hstarted := hfrozen.started
  split at h
  · rename_i snapshot _ hsnapshot
    split at h
    · cases h
      refine ⟨(hfrozen.action _ hsnapshot).1, ?_⟩
      intro frozen heq
      exact Option.some.inj (heq.symm.trans hsnapshot)
    · cases h
  · rename_i hnot
    refine ⟨Workspace.planMessagePush_for hconfig h, ?_⟩
    intro frozen heq
    rw [heq, Option.isSome_some] at hstarted
    exact (hnot frozen hstarted heq).elim

/-- What a queue record is planned to. -/
structure PushItem.PlannedFrom (item record : PushItem) : Prop where
  resumes : item.Resumes record
  attemptCount : item.attemptCount = record.attemptCount
  planned : item.Planned
  leads : item.Leads

theorem resetProgressIfPlanChanged_attemptCount
    (h : resetProgressIfPlanChanged w config item = .ok planned) :
    planned.attemptCount = item.attemptCount := by
  rcases resetProgressIfPlanChanged_eq_ok h with ⟨rfl, _⟩ | ⟨_, rfl⟩
  · rfl
  · rfl

theorem planMessageItem_planned {item : PushItem} {message : MessagePush}
    (hconfig : config.validate = .ok ()) (hitem : item.Consistent) (hstored : item.stored = item)
    (hpayload : item.payload = .message message)
    (h : planMessageItem w config item message = .ok (some planned)) :
    planned.PlannedFrom item := by
  obtain ⟨resolved, hresolve, h⟩ := Result.bind_ok h
  have hmessage : item.message = some message := by
    rw [PushItem.message, hpayload]
  cases resolved with
  | none =>
    obtain ⟨_, h⟩ := Result.seq_ok h
    cases h
  | some action =>
    obtain ⟨kept, hkept, h⟩ := Result.bind_ok h
    obtain ⟨raws, _, h⟩ := Result.bind_ok h
    cases h
    obtain ⟨hfor, hsnapshot⟩ := resolveMessageAction_for hconfig (hitem.frozen _ hmessage) hresolve
    obtain ⟨hresumes, houtbound, haction, hlabels⟩ := resetProgressIfPlanChanged_resumes hkept
    have hnone : item.plannedOutbound = none := by
      rw [← hstored]
      rfl
    have hcount := resetProgressIfPlanChanged_attemptCount hkept
    refine ⟨⟨hresumes.pushId, hresumes.enqueueSeq, hresumes.payload, hresumes.localStage,
      hresumes.auditPending, hresumes.stepStates⟩, hcount, ?_, ?_⟩
    · exact .message message action (hresumes.payload.trans hpayload) (houtbound.trans hnone)
        haction hfor hsnapshot
    · constructor
      · intro other _ heq
        cases haction.symm.trans heq
        exact prefix_of_nil_or hlabels
      · intro other _ _ heq
        cases (houtbound.trans hnone).symm.trans heq

theorem filterReplyToSteps_single (hsteps : ∀ step ∈ steps, ActionStep.opCount step = 1)
    (h : filterReplyToSteps w outbound steps = .ok filtered) :
    ∀ step ∈ filtered, step.opCount = 1 := by
  obtain ⟨frontmatter, _, h⟩ := Result.bind_ok h
  split at h
  · obtain ⟨_, h⟩ := Result.seq_ok h
    cases h
    intro step hmem
    rw [List.mem_singleton] at hmem
    rw [hmem]
    rfl
  · obtain ⟨_, h⟩ := Result.seq_ok h
    split at h
    · obtain ⟨skip, _, h⟩ := Result.bind_ok h
      cases h
      intro step hmem
      split at hmem
      · exact hsteps step (List.mem_of_mem_filter hmem)
      · exact hsteps step hmem
    · cases h
      exact hsteps

theorem configuredOutboundSteps_single (hconfig : config.validate = .ok ())
    (action : OutboundAction) :
    ∀ step ∈ configuredOutboundSteps config action, step.opCount = 1 := by
  have hsingle := MailConfig.validate_singleSteps hconfig
  cases action with
  | saveDraft => exact hsingle.draftSave
  | send => exact hsingle.draftSend

theorem prepareCurrentOutbound_messageId (hnone : item.plannedOutboundMessage = none)
    (h : prepareCurrentOutbound context w item = .ok prepared) :
    prepared.messageId = messageIdForPush item.pushId := by
  rw [prepareCurrentOutbound, hnone] at h
  obtain ⟨outbound, _, h⟩ := Result.bind_ok h
  obtain ⟨_, _, h⟩ := Result.bind_ok h
  obtain ⟨_, h⟩ := Result.seq_ok h
  exact (prepareOutbound_eq_ok h).1

theorem planOutboundItem_planned {item : PushItem} {draft : DraftPush}
    (hconfig : context.config.validate = .ok ()) (hstored : item.stored = item)
    (hpayload : item.payload = .draft draft)
    (h : planOutboundItem context w item draft frontmatter action = .ok planned) :
    planned.PlannedFrom item := by
  obtain ⟨steps, hsteps, h⟩ := Result.bind_ok h
  obtain ⟨kept, hkept, h⟩ := Result.bind_ok h
  obtain ⟨prepared, hprepared, h⟩ := Result.bind_ok h
  cases h
  obtain ⟨hresumes, houtbound, haction, hlabels⟩ := resetProgressIfPlanChanged_resumes hkept
  have hnone : item.plannedMessageAction = none := by
    rw [← hstored]
    rfl
  have hmessage : kept.plannedOutboundMessage = none := by
    have hempty : item.plannedOutboundMessage = none := by
      rw [← hstored]
      rfl
    cases resetProgressIfPlanChanged_eq_ok hkept with
    | inl hsame =>
      rw [hsame.1]
      exact hempty
    | inr hreset =>
      rw [hreset.2]
      exact hempty
  have hcount := resetProgressIfPlanChanged_attemptCount hkept
  refine ⟨⟨hresumes.pushId, hresumes.enqueueSeq, hresumes.payload, hresumes.localStage,
    hresumes.auditPending, hresumes.stepStates⟩, hcount, ?_, ⟨?_, ?_⟩⟩
  · refine .draft draft _ (hresumes.payload.trans hpayload) (haction.trans hnone) houtbound rfl
      (filterReplyToSteps_single (configuredOutboundSteps_single hconfig _) hsteps) ?_
    intro other heq
    cases heq
    exact (prepareCurrentOutbound_messageId hmessage hprepared :
      prepared.messageId = messageIdForPush kept.pushId)
  · intro other _ heq
    cases (haction.trans hnone).symm.trans heq
  · intro other _ hstage heq
    cases houtbound.symm.trans heq
    have hitemStage : item.localStage = none := hresumes.localStage.symm.trans hstage
    change kept.labels <+: steps.map (·.label)
    cases hlabels with
    | inl hnil =>
      rw [hnil]
      exact List.nil_prefix
    | inr hleads =>
      obtain ⟨actions, hactions, hleads⟩ := hleads
      simp only [actionsFor, PushItem.messageAction, hnone, PushItem.outbound, hitemStage] at hactions
      split at hactions
      · cases hactions
        exact hleads
      · obtain ⟨refiltered, hagain, hactions⟩ := Result.bind_ok hactions
        cases hactions
        rw [Except.ok.inj (hagain.symm.trans hsteps)] at hleads
        exact hleads

theorem planDraftItem_planned {item : PushItem} {draft : DraftPush}
    (hconfig : context.config.validate = .ok ()) (hstored : item.stored = item)
    (hpayload : item.payload = .draft draft)
    (h : planDraftItem context w item draft = .ok (some planned)) :
    planned.PlannedFrom item := by
  obtain ⟨frontmatter, _, h⟩ := Result.bind_ok h
  cases frontmatter with
  | none =>
    dsimp only at h
    split at h
    · rename_i hstage
      cases h
      refine ⟨⟨rfl, rfl, rfl, rfl, rfl, .inl rfl⟩, rfl, ?_, ⟨?_, ?_⟩⟩
      · refine .draft draft _ hpayload ?_ rfl rfl (by simp [removedDraftPlan]) ?_
        · rw [← hstored]
          rfl
        · intro prepared heq
          rw [← hstored] at heq
          cases heq
      · intro action _ heq
        rw [← hstored] at heq
        cases heq
      · intro outbound _ hnone
        change item.localStage = none at hnone
        rw [PushItem.localStageAtLeast, hnone] at hstage
        cases hstage
    · obtain ⟨_, h⟩ := Result.seq_ok h
      cases h
  | some frontmatter =>
    cases hintent : frontmatter.syncIntent with
    | none =>
      simp only [hintent] at h
      obtain ⟨_, h⟩ := Result.seq_ok h
      cases h
    | some action =>
      simp only [hintent] at h
      obtain ⟨found, hfound, h⟩ := Result.bind_ok h
      cases h
      exact planOutboundItem_planned hconfig hstored hpayload hfound

theorem hydrateAuditPendingPlan_resumes
    (h : hydrateAuditPendingPlan item pending = .ok planned) :
    planned.Resumes item ∧ planned.attemptCount = item.attemptCount := by
  unfold hydrateAuditPendingPlan at h
  split at h
  · split at h
    · cases h
    · cases h
      exact ⟨⟨rfl, rfl, rfl, rfl, rfl, .inl rfl⟩, rfl⟩
  · split at h
    · cases h
    · cases h
      exact ⟨⟨rfl, rfl, rfl, rfl, rfl, .inl rfl⟩, rfl⟩

theorem planItem_planned {item : PushItem} (hconfig : context.config.validate = .ok ())
    (hitem : item.Consistent) (hstored : item.stored = item)
    (h : planItem context w item = .ok (some planned)) : planned.PlannedFrom item := by
  unfold planItem at h
  split at h
  · rename_i pending haudit
    obtain ⟨hydrated, hhydrated, h⟩ := Result.bind_ok h
    cases h
    obtain ⟨hresumes, hcount⟩ := hydrateAuditPendingPlan_resumes hhydrated
    have hpending : planned.auditPending = some pending := hresumes.auditPending.trans haudit
    refine ⟨hresumes, hcount, .reported ?_, ⟨?_, ?_⟩⟩
    · rw [hpending]
      rfl
    · intro action hnone
      cases hpending.symm.trans hnone
    · intro outbound hnone
      cases hpending.symm.trans hnone
  · rename_i hpayload
    exact planMessageItem_planned hconfig hitem hstored hpayload h
  · rename_i hpayload
    exact planDraftItem_planned hconfig hstored hpayload h

/-- An item is left out of a plan only before it is started. -/
theorem planItem_none {item : PushItem} (h : planItem context w item = .ok none) :
    item.hasStartedEffects = false := by
  have hensured : ∀ {error : AppError} {rest : Result (Option PushItem)},
      (ensure (!item.hasStartedEffects) error >>= fun _ => rest) = .ok none →
        item.hasStartedEffects = false := by
    intro error rest hrest
    obtain ⟨hensure, _⟩ := Result.seq_ok hrest
    exact (Bool.not_eq_true' _).mp (ensure_eq_ok_iff.mp hensure)
  unfold planItem at h
  split at h
  · obtain ⟨_, _, h⟩ := Result.bind_ok h
    cases h
  · obtain ⟨resolved, _, h⟩ := Result.bind_ok h
    cases resolved with
    | none => exact hensured h
    | some action =>
      obtain ⟨_, _, h⟩ := Result.bind_ok h
      obtain ⟨_, _, h⟩ := Result.bind_ok h
      cases h
  · obtain ⟨frontmatter, _, h⟩ := Result.bind_ok h
    cases frontmatter with
    | none =>
      dsimp only at h
      split at h
      · cases h
      · exact hensured h
    | some frontmatter =>
      dsimp only at h
      split at h
      · exact hensured h
      · obtain ⟨_, _, h⟩ := Result.bind_ok h
        cases h

end AgentFirstMail
