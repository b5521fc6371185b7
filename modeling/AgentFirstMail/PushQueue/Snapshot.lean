import AgentFirstMail.PushQueue.Requeue

namespace AgentFirstMail
open Effect Command
variable {context : PushExecutionContext} {steps steps' : Option (List ActionStep)}
  {attempt attempt' : Attempt} {h h' events : List RemoteEvent} {m m' : Process}
  {w w' w₀ : Workspace} {item later planned : PushItem} {pushId : String}
  {action : MessageActionPush}

section Sessions

theorem PushItem.Consistent.snapshot (hitem : item.Consistent) (hmessage : item.message.isSome = true) :
    item.hasStartedEffects = item.snapshot?.isSome := by
  obtain ⟨message, hsome⟩ := Option.isSome_iff_exists.mp hmessage
  rw [(hitem.frozen message hsome).started, snapshot?, hsome, Option.bind_some]

theorem PushItem.message_of_snapshot (hsnapshot : item.snapshot? = some action) :
    ∃ message, item.payload = .message message ∧ message.messageActionSnapshot = some action := by
  unfold snapshot? at hsnapshot
  obtain ⟨message, hmessage, hsnapshot⟩ := Option.bind_eq_some_iff.mp hsnapshot
  exact ⟨message, message_eq_some.mp hmessage, hsnapshot⟩

theorem PushItem.Consistent.started_of_snapshot (hitem : item.Consistent)
    (hsnapshot : item.snapshot? = some action) : item.hasStartedEffects = true := by
  obtain ⟨message, hpayload, _⟩ := message_of_snapshot hsnapshot
  rw [hitem.snapshot (by rw [message_eq_some.mpr hpayload]; rfl), hsnapshot]
  rfl

theorem PushItem.snapshot_of_payload (hpayload : later.payload = item.payload) :
    later.snapshot? = item.snapshot? := by
  unfold snapshot? PushItem.message
  rw [hpayload]

theorem Workspace.Requeued.snapshot {same after : PushItem → Prop}
    (hrequeued : w.Requeued same after w') (hqueue : w.QueueConsistent)
    (hget : w.pushItems[pushId]? = some item) (hsnapshot : item.snapshot? = some action)
    (hlater : w'.pushItems[pushId]? = some later) : later.snapshot? = some action := by
  obtain ⟨found, hfound, hcase⟩ := hrequeued.kept pushId item hget
  cases hlater.symm.trans hfound
  rcases hcase with rfl | ⟨_, hagain⟩
  · exact hsnapshot
  · by_cases hsame : same item
    · rw [(hagain.kept hsame).snapshot]
      exact hsnapshot
    · have hstarted := (hqueue pushId item hget).consistent.started_of_snapshot hsnapshot
      cases (hagain.reset hsame).1.symm.trans hstarted

theorem Workspace.QueueFrom.snapshot {related : PushItem → PushItem → Prop}
    (hfrom : w.QueueFrom related w')
    (hrelated : ∀ later item, related later item → item.snapshot? = some action →
      later.snapshot? = some action)
    (hget : w.pushItems[pushId]? = some item) (hsnapshot : item.snapshot? = some action)
    (hlater : w'.pushItems[pushId]? = some later) : later.snapshot? = some action := by
  obtain ⟨found, hfound, hitem⟩ := hfrom pushId later hlater
  cases hget.symm.trans hfound
  exact hrelated later item hitem hsnapshot

theorem PushItem.SameOrSettled.snapshot (hsame : later.SameOrSettled item) :
    later.snapshot? = item.snapshot? := by
  rcases hsame with rfl | ⟨settled, _, _, hsettled, rfl⟩
  · rfl
  · exact snapshot_of_payload hsettled.payload

/-- No session changes the action of a started item that it leaves in the queue. -/
theorem QueueSession.snapshot (hqueue : w.QueueConsistent) (hkeyed : w.QueueKeyed)
    (hsession : QueueSession w events w') (hget : w.pushItems[pushId]? = some item)
    (hsnapshot : item.snapshot? = some action)
    (hlater : w'.pushItems[pushId]? = some later) : later.snapshot? = some action := by
  cases hsession with
  | push hpush =>
    exact (hpush.queueContinues hqueue).snapshot (fun _ _ hcontinues => hcontinues.frozen action) hget
      hsnapshot hlater
  | command hcommand hexec =>
    cases hcommand with
    | queueOutbound =>
      exact (queueOutbound_queueing hqueue hkeyed hexec).1.requeued.snapshot hqueue hget hsnapshot
        hlater
    | queueActionSteps =>
      exact (queueActionSteps_queueing hqueue hkeyed hexec).1.requeued.snapshot hqueue hget hsnapshot
        hlater
    | removeOutboundForDraft caseUid draftName =>
      have hfrom := ((RemovalCommand.draft caseUid draftName).queueFrom hqueue hexec).1
      apply hfrom.snapshot _ hget hsnapshot hlater
      intro _ _ heq
      rw [heq]
      exact id
    | removePendingMessagePushes messageId action =>
      have hfrom := ((RemovalCommand.message messageId action).queueFrom hqueue hexec).1
      apply hfrom.snapshot _ hget hsnapshot hlater
      intro _ _ heq
      rw [heq]
      exact id
    | recover =>
      apply (recover_queueFrom hqueue hexec).1.snapshot _ hget hsnapshot hlater
      intro _ _ hsame
      rw [hsame.snapshot]
      exact id
  | other hsame =>
    rw [hsame, hget] at hlater
    cases hlater
    exact hsnapshot

end Sessions
section Planning

theorem messageActionSnapshotMatches_of_for {message : MessagePush}
    (hfor : action.For message.action message.messageId) :
    messageActionSnapshotMatches message action = true := by
  have hplaces : action.locations.all (·.messageId == message.messageId) = true := by
    rw [List.all_eq_true]
    intro place hmem
    exact beq_iff_eq.mpr (hfor.places place hmem)
  have hlocations : action.locations.isEmpty = false := by
    rw [Bool.eq_false_iff, ne_eq, List.isEmpty_iff]
    exact hfor.locations
  have hsteps : action.steps.isEmpty = false := by
    rw [Bool.eq_false_iff, ne_eq, List.isEmpty_iff]
    exact hfor.steps
  simp [messageActionSnapshotMatches, hfor.action, hfor.messageIds, hplaces, hlocations, hsteps]

theorem resetProgress_of_labels {action : MessageActionPush} (config : MailConfig)
    (haction : item.messageAction = some action)
    (hlabels : item.labels = action.steps.map (·.label)) :
    resetProgressIfPlanChanged w config item = .ok item := by
  unfold resetProgressIfPlanChanged
  split
  · rfl
  · have hplanned : actionsFor w config item = .ok item.labels := by
      rw [actionsFor, haction, hlabels]
    have hleads : (item.stepStates.map (·.label)).isPrefixOf item.labels = true :=
      List.isPrefixOf_iff_prefix.mpr List.prefix_rfl
    rw [hplanned]
    change (if (item.stepStates.map (·.label)).isPrefixOf item.labels then _ else _) = _
    rw [hleads]
    rfl

/-- The plan of a started message item is the action it holds, whatever the configuration. -/
theorem planItem_of_snapshot (hitem : item.Consistent) (haudit : item.auditPending = none)
    (hsnapshot : item.snapshot? = some action) :
    planItem context w item = (plannedRfc822 w action).map fun raws =>
      some { item with plannedMessageAction := some action, plannedMessageRfc822 := raws } := by
  obtain ⟨message, hpayload, hkept⟩ := PushItem.message_of_snapshot hsnapshot
  have hfrozen := hitem.frozen message (PushItem.message_eq_some.mpr hpayload)
  have hstarted := hitem.started_of_snapshot hsnapshot
  obtain ⟨hfor, hlabels⟩ := hfrozen.action action hkept
  have hresolve : resolveMessageAction w context.config item message = .ok (some action) := by
    rw [resolveMessageAction, hstarted, hkept]
    simp only [messageActionSnapshotMatches_of_for hfor, if_true]
  have hreset : resetProgressIfPlanChanged w context.config
      { item with plannedMessageAction := some action } =
      .ok { item with plannedMessageAction := some action } :=
    resetProgress_of_labels context.config rfl hlabels
  have hplan : planItem context w item = planMessageItem w context.config item message := by
    rw [planItem, haudit, hpayload]
  rw [hplan, planMessageItem, hresolve]
  change (resetProgressIfPlanChanged w context.config
    { item with plannedMessageAction := some action } >>= _) = _
  rw [hreset]
  cases plannedRfc822 w action with
  | error error => rfl
  | ok raws => rfl

theorem planItem_of_unstarted {message : MessagePush} (hpayload : item.payload = .message message)
    (hunstarted : item.hasStartedEffects = false)
    (hplan : planItem context w item = .ok (some planned)) :
    w.planMessagePush context.config message.messageId message.action (some item.pushId) =
      .ok planned.plannedMessageAction := by
  have haudit : item.auditPending = none := (PushItem.not_started_iff.mp hunstarted).2.2
  rw [planItem, haudit, hpayload] at hplan
  obtain ⟨resolved, hresolve, hplan⟩ := Result.bind_ok hplan
  have hcurrent : w.planMessagePush context.config message.messageId message.action
      (some item.pushId) = .ok resolved := by
    rw [resolveMessageAction, hunstarted] at hresolve
    exact hresolve
  cases resolved with
  | none =>
    obtain ⟨_, hplan⟩ := Result.seq_ok hplan
    cases hplan
  | some action =>
    obtain ⟨kept, hkept, hplan⟩ := Result.bind_ok hplan
    obtain ⟨raws, _, hplan⟩ := Result.bind_ok hplan
    cases hplan
    rw [hcurrent, (resetProgressIfPlanChanged_resumes hkept).2.2.1]

/-- A plan takes a draft's steps from the configuration and the front matter there are. -/
theorem planItem_of_draft {draft : DraftPush} (hpayload : item.payload = .draft draft)
    (haudit : item.auditPending = none) (hstage : item.localStage = none)
    (hplan : planItem context w item = .ok (some planned)) :
    ∃ outbound, planned.plannedOutbound = some outbound ∧
      filterReplyToSteps w { outbound with steps := [] }
        (configuredOutboundSteps context.config outbound.action) = .ok outbound.steps := by
  rw [planItem, haudit, hpayload] at hplan
  obtain ⟨frontmatter, _, hplan⟩ := Result.bind_ok hplan
  cases frontmatter with
  | none =>
    dsimp only at hplan
    split at hplan
    · rename_i hremoved
      rw [PushItem.localStageAtLeast, hstage] at hremoved
      cases hremoved
    · obtain ⟨_, hplan⟩ := Result.seq_ok hplan
      cases hplan
  | some frontmatter =>
    dsimp only at hplan
    split at hplan
    · obtain ⟨_, hplan⟩ := Result.seq_ok hplan
      cases hplan
    · rename_i action _
      obtain ⟨found, hfound, hplan⟩ := Result.bind_ok hplan
      cases hplan
      obtain ⟨steps, hsteps, hfound⟩ := Result.bind_ok hfound
      obtain ⟨kept, hkept, hfound⟩ := Result.bind_ok hfound
      obtain ⟨prepared, _, hfound⟩ := Result.bind_ok hfound
      cases hfound
      exact ⟨_, (resetProgressIfPlanChanged_resumes hkept).2.1, hsteps⟩

end Planning
section Requests

/-- A record that takes up an action takes that of the plan it is pushed with. -/
def PushItem.TakesPlan (context : PushExecutionContext) (w : Workspace) (later record : PushItem) :
    Prop :=
  later.snapshot? = record.snapshot? ∨ ∃ planned,
    planItem context w record.stored = .ok (some planned) ∧
      later.snapshot? = planned.plannedMessageAction

/-- An item that is pushed goes on from its record and runs the action it was planned with. -/
structure PushItem.RunsPlan (context : PushExecutionContext) (w : Workspace)
    (later record : PushItem) : Prop where
  continues : later.Continues record
  plan : ∃ planned, planItem context w record.stored = .ok (some planned) ∧
    later.plannedMessageAction = planned.plannedMessageAction ∧
      (later.snapshot? = record.snapshot? ∨ later.snapshot? = planned.plannedMessageAction)

/-- A request that is to have an effect is made for an item. -/
def RemoteEvent.Affects (event : RemoteEvent) (pushId : String) : Prop :=
  event.request.setsFlags = true ∧ event.state.item.pushId = pushId ∨
    ∃ site, event.request.site? = some site ∧ site.pushId = pushId

/-- A request carries out the first step that its item has not finished of the action that the
item was planned with and holds. -/
structure RemoteEvent.Executes (config : MailConfig) (action : MessageActionPush)
    (event : RemoteEvent) : Prop where
  planned : event.state.item.messageAction = some action
  held : event.state.item.snapshot? = some action
  step : ∃ index step, action.steps[index]? = some step ∧ event.state.item.Next index ∧
    event.request.CarriesOut config event.state step ∧
    ∀ site, event.request.site? = some site →
      site.pushId = event.state.item.pushId ∧ site.stepIndex = index

/-- A request for a message item carries out what the item was planned with. -/
def RemoteEvent.RunsPlan (context : PushExecutionContext) (w : Workspace) (event : RemoteEvent) :
    Prop :=
  ∀ pushId record, event.Affects pushId → w.pushItems[pushId]? = some record →
    record.message.isSome = true → ∃ planned action,
      planItem context w record.stored = .ok (some planned) ∧
      planned.plannedMessageAction = some action ∧ event.Executes context.config action ∧
      ∀ held, record.snapshot? = some held → held = action

theorem planItems_mem {items : List PushItem} {planned : PlannedItems}
    (hplan : planItems context w items = .ok planned) :
    ∀ item ∈ planned.items, ∃ record ∈ items, planItem context w record = .ok (some item) := by
  induction items generalizing planned with
  | nil =>
    cases hplan
    intro item hmem
    cases hmem
  | cons first rest ih =>
    obtain ⟨found, hfound, hplan⟩ := Result.bind_ok hplan
    obtain ⟨others, hothers, hplan⟩ := Result.bind_ok hplan
    have hrest : ∀ item ∈ others.items, ∃ record ∈ first :: rest,
        planItem context w record = .ok (some item) := by
      intro item hmem
      obtain ⟨record, hrecord, hitem⟩ := ih hothers item hmem
      exact ⟨record, List.mem_cons_of_mem _ hrecord, hitem⟩
    cases found with
    | none =>
      cases hplan
      exact hrest
    | some found =>
      cases hplan
      intro item hmem
      rcases List.mem_cons.mp hmem with rfl | hmem
      · exact ⟨first, List.mem_cons_self, hfound⟩
      · exact hrest item hmem

/-- The items of a plan run it. -/
theorem resolvePlannedItems_runsPlan {planned : PlannedItems}
    (hconfig : context.config.validate = .ok ()) (hqueue : w.QueueConsistent)
    (hplan : resolvePlannedItems context w = .ok planned) :
    ∀ item ∈ planned.items, w.ItemFrom (PushItem.RunsPlan context w) item := by
  intro item hmem
  have hof := resolvePlannedItems_of hconfig hqueue hplan
  obtain ⟨found, hfound, hplan⟩ := Result.bind_ok hplan
  cases hplan
  obtain ⟨read, hread, hitem⟩ :=
    planItems_mem hfound item ((orderItemsForDependencies_perm found.items).mem_iff.mp hmem)
  obtain ⟨pushId, record, hget, rfl⟩ :=
    Workspace.mem_readItems.mp (Workspace.mem_sortedItems.mp hread)
  have hrecord := hqueue pushId record hget
  have hplanned : item.PlannedFrom record.stored :=
    planItem_planned hconfig hrecord.consistent.stored rfl hitem
  have hid : item.pushId = pushId := hplanned.resumes.pushId.trans hrecord.pushId
  have hcontinues : item.Continues record :=
    (PushItem.Continues.of_planned hplanned).trans .stored
  refine ⟨record, ?_, hcontinues, item, hitem, rfl, .inl ?_⟩
  · rw [hid]
    exact hget
  · exact PushItem.snapshot_of_payload hplanned.resumes.payload

theorem PushItem.snapshot_freeze :
    item.freezeMessageActionSnapshot.snapshot? = item.snapshot? ∨
      item.freezeMessageActionSnapshot.snapshot? = item.plannedMessageAction := by
  cases hpayload : item.payload with
  | draft draft =>
    left
    rw [freeze_of_draft hpayload]
  | message message =>
    rw [freeze_of_message hpayload]
    cases hheld : message.messageActionSnapshot with
    | none =>
      right
      rfl
    | some action =>
      left
      change some action = item.snapshot?
      rw [snapshot?, PushItem.message_eq_some.mpr hpayload, Option.bind_some, hheld]

/-- An item that is served is frozen as it was planned, and keeps its plan. -/
theorem ItemTransition.keepsAction
    (ht : ItemTransition context steps attempt h m steps' attempt' h' m') :
    m'.item.pushId = m.item.pushId ∧
      m'.item.plannedMessageAction = m.item.plannedMessageAction ∧
      (m'.item.snapshot? = m.item.snapshot? ∨ m'.item.snapshot? = m.item.plannedMessageAction) := by
  have hmarked : ∀ (index : Nat) (step : ActionStep) (now : String),
      (m.item.markStepPending index step now).pushId = m.item.pushId ∧
        (m.item.markStepPending index step now).plannedMessageAction =
          m.item.plannedMessageAction ∧
        ((m.item.markStepPending index step now).snapshot? = m.item.snapshot? ∨
          (m.item.markStepPending index step now).snapshot? = m.item.plannedMessageAction) := by
    intro index step now
    refine ⟨?_, ?_, PushItem.snapshot_freeze⟩
    · cases hpayload : m.item.payload with
      | draft draft => rw [PushItem.markStepPending, PushItem.freeze_of_draft hpayload]; rfl
      | message message => rw [PushItem.markStepPending, PushItem.freeze_of_message hpayload]; rfl
    · cases hpayload : m.item.payload with
      | draft draft => rw [PushItem.markStepPending, PushItem.freeze_of_draft hpayload]; rfl
      | message message => rw [PushItem.markStepPending, PushItem.freeze_of_message hpayload]; rfl
  cases ht with
  | begin index step => exact hmarked index step _
  | resetLegacy index step => exact hmarked index step context.host.now
  | ask | cache | resolve | arm | setFlags | call | move | relocate | flags | receipt | succeed | fail
  | failUnknown | recoverRelocate | settle | advance | writeEvidence | writeMetadata
  | appendToCase | removeDraft | removeDraftState | name | assignAudit | report | reportSuccess
  | newline | delete | archiveCase | keepAudit | bookkeep => exact ⟨rfl, rfl, .inl rfl⟩

theorem ItemTransition.runsPlan (hs : Serving steps attempt m)
    (ht : ItemTransition context steps attempt h m steps' attempt' h' m')
    (hitem : w.ItemFrom (PushItem.RunsPlan context w) m.item) :
    w.ItemFrom (PushItem.RunsPlan context w) m'.item := by
  obtain ⟨hid, haction, hsnapshot⟩ := ht.keepsAction
  obtain ⟨record, hget, hcontinues, planned, hplan, hplanned, hheld⟩ := hitem
  refine ⟨record, ?_, (ht.continues hs).trans hcontinues, planned, hplan, haction.trans hplanned,
    ?_⟩
  · rw [hid]
    exact hget
  · rcases hsnapshot with hsame | htaken
    · rw [hsame]
      exact hheld
    · exact .inr (htaken.trans hplanned)

/-- The requests of a served item are for its frozen steps. -/
theorem ItemTransition.requests (hs : Serving steps attempt m)
    (ht : ItemTransition context steps attempt h m steps' attempt' h' m')
    (hitem : w.ItemFrom (PushItem.RunsPlan context w) m.item) :
    ∃ more, h' = h ++ more ∧ ∀ event ∈ more, event.RunsPlan context w := by
  have hquiet : ∃ more, h = h ++ more ∧ ∀ event ∈ more, RemoteEvent.RunsPlan context w event :=
    ⟨[], (List.append_nil h).symm, fun _ hmem => by cases hmem⟩
  have hidle : ∀ event : RemoteEvent, event.request.site? = none →
      event.request.setsFlags = false →
      ∃ more, h ++ [event] = h ++ more ∧ ∀ event ∈ more, event.RunsPlan context w := by
    intro event hnone hflags
    refine ⟨[event], rfl, ?_⟩
    intro other hmem pushId record haffects
    rw [List.mem_singleton.mp hmem] at haffects
    rcases haffects with ⟨hsets, _⟩ | ⟨site, hsite, _⟩
    · cases hflags.symm.trans hsets
    · cases hnone.symm.trans hsite
  have heffect : ∀ (event : RemoteEvent) (resolved : List ActionStep) (index : Nat)
      (step : ActionStep), steps = some resolved → event.state = m →
      attempt.index? = some index → resolved[index]? = some step →
      event.request.CarriesOut context.config m step →
      (∀ site, event.request.site? = some site →
        site.pushId = m.item.pushId ∧ site.stepIndex = index) →
      ∃ more, h ++ [event] = h ++ more ∧ ∀ event ∈ more, event.RunsPlan context w := by
    intro event resolved index step hsteps hstate hindex hstep hcarries hsites
    subst hsteps hstate
    refine ⟨[event], rfl, ?_⟩
    intro other hmem pushId record haffects hget hkind
    rw [List.mem_singleton.mp hmem] at haffects ⊢
    have hid : event.state.item.pushId = pushId := by
      rcases haffects with ⟨_, hid⟩ | ⟨site, hsite, hid⟩
      · exact hid
      · exact (hsites site hsite).1.symm.trans hid
    subst hid
    obtain ⟨found, hfound, hcontinues, planned, hplan, hplanned, _⟩ := hitem
    cases hget.symm.trans hfound
    obtain ⟨message, hmessage⟩ : ∃ message, event.state.item.message = some message := by
      have hsame := congrArg Option.isSome hcontinues.action
      rw [Option.isSome_map, Option.isSome_map, hkind] at hsame
      exact Option.isSome_iff_exists.mp hsame
    obtain ⟨state, hcurrent⟩ := hs.current hindex
    have hstage := hs.serves.localStage_none hcurrent
    have haudit := hs.auditKept (Serving.ne_assigned hindex)
    obtain ⟨action, haction, _, hagrees⟩ := hs.serves.planned.snapshot haudit hstage
      (PushItem.message_eq_some.mp hmessage)
    have hstarted := PushItem.hasStartedEffects_of_get hcurrent.get hcurrent.started
    have hsnapshot : event.state.item.snapshot? = some action := by
      have hsome := (hs.serves.consistent.frozen message hmessage).started
      rw [hstarted] at hsome
      obtain ⟨frozen, hfrozen⟩ := Option.isSome_iff_exists.mp hsome.symm
      rw [PushItem.snapshot?, hmessage, Option.bind_some, hfrozen, hagrees frozen hfrozen]
    have hsteps := (hs.serves.resolved resolved rfl).action action haction
    refine ⟨planned, action, hplan, hplanned.symm.trans haction, ⟨haction, hsnapshot, index, step,
      ?_, hs.serves.next_of_attempts hcurrent, hcarries, hsites⟩, ?_⟩
    · rw [hsteps]
      exact hstep
    · intro held hheld
      exact Option.some.inj ((hcontinues.frozen held hheld).symm.trans hsnapshot)
  cases ht with
  | ask event hnone hflags => exact hidle event hnone hflags
  | name eventId => exact hidle _ rfl rfl
  | setFlags index step place reply hstep =>
    exact heffect _ _ index step rfl rfl rfl hstep rfl fun site hsite => by cases hsite
  | call index step unit event hstate hsite _ hstep hcarries =>
    refine heffect event _ index step rfl hstate rfl hstep hcarries ?_
    intro site hother
    cases hsite.symm.trans hother
    exact ⟨rfl, rfl⟩
  | move index step mailboxId source target rfc822MessageId reply hstep hmove hcached =>
    refine heffect _ _ index step rfl rfl rfl hstep ⟨mailboxId, hmove, hcached⟩ ?_
    intro site hsite
    cases hsite
    exact ⟨rfl, rfl⟩
  | cache | resolve | begin | resetLegacy | arm | relocate | flags | receipt | succeed | fail
  | failUnknown | recoverRelocate | settle | advance | writeEvidence | writeMetadata
  | appendToCase | removeDraft | removeDraftState | assignAudit | report | reportSuccess
  | newline | delete | archiveCase | keepAudit | bookkeep => exact hquiet

/-- A push asks for nothing but its plan, and its records take up nothing else. -/
structure PushRunsPlan (context : PushExecutionContext) (w : Workspace) (position : PushPosition) :
    Prop where
  queue : PushFrom (PushItem.TakesPlan context w) (PushItem.RunsPlan context w) w position
  events : ∀ event ∈ position.history, RemoteEvent.RunsPlan context w event

theorem PushRunsPlan.step (hconfig : context.config.validate = .ok ())
    (hqueue : w.QueueConsistent) {position next : PushPosition}
    (hconsistent : PushConsistent position) (hruns : PushRunsPlan context w position)
    (ht : PushTransition context position next) : PushRunsPlan context w next := by
  have hfrom : PushFrom (PushItem.TakesPlan context w) (PushItem.RunsPlan context w) w next := by
    apply PushFrom.step _ _ _ hconsistent hruns.queue ht
    · intro planned hplanned
      exact resolvePlannedItems_runsPlan hconfig hqueue hplanned
    · intro item record ⟨_, planned, hplan, _, hsnapshot⟩
      rcases hsnapshot with hsame | htaken
      · exact .inl hsame
      · exact .inr ⟨planned, hplan, htaken⟩
    · intro _ _ _ _ _ _ _ _ hs ht hitem
      exact ht.runsPlan hs hitem
  refine ⟨hfrom, ?_⟩
  have hevents := hruns.events
  cases ht with
  | serve ht =>
    obtain ⟨more, heq, hmore⟩ := ht.requests hconsistent.phase.1 hruns.queue.phase.1
    intro event hmem
    change event ∈ _ at hmem
    rw [heq] at hmem
    rcases List.mem_append.mp hmem with hold | hnew
    · exact hevents event hold
    · exact hmore event hnew
  | plan | reconcileWrite | reconcileDelete | reconciled | pick | finish => exact hevents

theorem pushRunsPlan_of_reaches (hconfig : context.config.validate = .ok ())
    (hqueue : w.QueueConsistent)
    (hreaches : Reaches (PushTransition context) ⟨.idle, [], .start w⟩ phase h m) :
    PushRunsPlan context w ⟨phase, h, m⟩ := by
  have hstep : ∀ position next, PushConsistent position ∧ PushRunsPlan context w position →
      PushTransition context position next →
      PushConsistent next ∧ PushRunsPlan context w next := by
    intro position next hheld ht
    exact ⟨hheld.1.step hconfig ht, hheld.2.step hconfig hqueue hheld.1 ht⟩
  have hstart : PushFrom (PushItem.TakesPlan context w) (PushItem.RunsPlan context w) w
      ⟨.idle, [], .start w⟩ := ⟨.refl (fun _ => .inl rfl) w, rfl⟩
  refine (hreaches.invariant ?_ hstep).2
  exact ⟨⟨hqueue, trivial⟩, hstart, fun event hmem => nomatch hmem⟩

/-- What one push does with the plan it makes of a queue record. -/
structure PushSession.FollowsPlan (w : Workspace) (events : List RemoteEvent) (w' : Workspace)
    (context : PushExecutionContext) : Prop where
  config : context.config = w.config
  events : ∀ event ∈ events, RemoteEvent.RunsPlan context w event
  queue : w.QueueFrom (PushItem.TakesPlan context w) w'

theorem PushSession.followsPlan (hqueue : w.QueueConsistent) (hsession : PushSession w events w') :
    ∃ context, PushSession.FollowsPlan w events w' context := by
  cases hsession with
  | run host confirmed outcome process hexec =>
    have hpath : Path ⟨host, w.config⟩ ⟨.idle, [], .start w⟩ ([] ++ events) process :=
      pushConfirmed_conforms hqueue hexec
    obtain ⟨phase, hat⟩ := hpath
    refine ⟨⟨host, w.config⟩, ?_⟩
    by_cases hvalid : w.config.validate = .ok ()
    · have hruns := pushRunsPlan_of_reaches hvalid hqueue hat
      exact ⟨rfl, hruns.events, hruns.queue.queue⟩
    · have hsame := unbegun_of_invalid hvalid rfl hat
      have hstate : process = .start w := hsame.state
      have hhistory : ([] ++ events : List RemoteEvent) = [] := hsame.history
      rw [List.nil_append] at hhistory
      subst hhistory hstate
      exact ⟨rfl, (fun event hmem => nomatch hmem), .refl (fun _ => .inl rfl) w⟩

end Requests
section Rules

/-- A session that leaves a record in the queue under an id. -/
def KeepsQueued (pushId : String) (w : Workspace) (events : List RemoteEvent) (w' : Workspace) :
    Prop :=
  QueueSession w events w' ∧ w'.pushItems[pushId]?.isSome

/-- A started message item: its plan is the action it holds, from any configuration, and a push
asks for nothing else on its account. -/
structure Workspace.RunsFrozen (w : Workspace) (pushId : String) (action : MessageActionPush) :
    Prop where
  held : ∃ record, w.pushItems[pushId]? = some record ∧ record.snapshot? = some action
  planned : ∀ context record, w.pushItems[pushId]? = some record → record.auditPending = none →
    planItem context w record.stored = (plannedRfc822 w action).map fun raws =>
      some { record.stored with plannedMessageAction := some action, plannedMessageRfc822 := raws }
  requested : ∀ events w', PushSession w events w' → ∀ event ∈ events, event.Affects pushId →
    event.Executes w.config action

/-- The record of an item takes up the steps of its first push and keeps them. -/
structure Workspace.FreezesAction (w : Workspace) (item : PushItem) : Prop where
  /-- what a started message item holds is what every later session plans and runs -/
  frozen : item.message.isSome → item.hasStartedEffects = true → ∃ action,
    item.snapshot? = some action ∧ item.labels = action.steps.map (·.label) ∧
      ∀ events w', Run (KeepsQueued item.pushId) w events w' → w'.RunsFrozen item.pushId action
  /-- a message item that has not started is planned from the configuration there is -/
  current : ∀ message, item.payload = .message message → item.hasStartedEffects = false →
    ∀ context planned, planItem context w item.stored = .ok (some planned) →
      w.planMessagePush context.config message.messageId message.action (some item.pushId) =
        .ok planned.plannedMessageAction
  /-- a push that starts it freezes what it planned from that configuration, and runs it -/
  taken : ∀ message, item.payload = .message message → item.hasStartedEffects = false →
    ∀ events w', PushSession w events w' →
      (∀ later action, w'.pushItems[item.pushId]? = some later →
        later.snapshot? = some action →
        w.planMessagePush w.config message.messageId message.action (some item.pushId) =
          .ok (some action)) ∧
      ∀ event ∈ events, event.Affects item.pushId → ∃ action,
        w.planMessagePush w.config message.messageId message.action (some item.pushId) =
          .ok (some action) ∧ event.Executes w.config action
  /-- a draft is planned anew each time: once started, along the steps it has states for -/
  draft : ∀ draft, item.payload = .draft draft → item.auditPending = none →
    item.localStage = none → ∀ context planned, context.config.validate = .ok () →
    planItem context w item.stored = .ok (some planned) → ∃ outbound,
      planned.plannedOutbound = some outbound ∧
      filterReplyToSteps w { outbound with steps := [] }
        (configuredOutboundSteps context.config outbound.action) = .ok outbound.steps ∧
      (item.hasStartedEffects = true → item.labels <+: outbound.steps.map (·.label))

theorem runsFrozen_of_held (hqueue : w.QueueConsistent) (hget : w.pushItems[pushId]? = some item)
    (hsnapshot : item.snapshot? = some action) : w.RunsFrozen pushId action where
  held := ⟨item, hget, hsnapshot⟩
  planned := by
    intro context record hrecord haudit
    cases hget.symm.trans hrecord
    exact planItem_of_snapshot (hqueue pushId item hget).consistent.stored haudit hsnapshot
  requested := by
    intro events w' hsession event hmem haffects
    obtain ⟨context, hfollows⟩ := hsession.followsPlan hqueue
    obtain ⟨message, hpayload, _⟩ := PushItem.message_of_snapshot hsnapshot
    have hkind : item.message.isSome = true := by
      rw [PushItem.message_eq_some.mpr hpayload]
      rfl
    obtain ⟨_, ran, _, _, hexecutes, hheld⟩ :=
      hfollows.events event hmem pushId item haffects hget hkind
    cases hheld action hsnapshot
    rw [← hfollows.config]
    exact hexecutes

theorem runsFrozen_of_run (hqueue : w.QueueConsistent) (hkeyed : w.QueueKeyed)
    (hget : w.pushItems[pushId]? = some item) (hsnapshot : item.snapshot? = some action)
    (hrun : Run (KeepsQueued pushId) w events w') : w'.RunsFrozen pushId action := by
  have hsessions : ∀ (_ : List RemoteEvent) w more w', (w.QueueConsistent ∧ w.QueueKeyed ∧
      ∃ later, w.pushItems[pushId]? = some later ∧ later.snapshot? = some action) →
      KeepsQueued pushId w more w' → w'.QueueConsistent ∧ w'.QueueKeyed ∧
        ∃ later, w'.pushItems[pushId]? = some later ∧ later.snapshot? = some action := by
    intro _ w more w' ⟨hqueue, hkeyed, item, hget, hsnapshot⟩ ⟨hsession, hkept⟩
    obtain ⟨later, hlater⟩ := Option.isSome_iff_exists.mp hkept
    have hframe := hsession.snapshot hqueue hkeyed hget hsnapshot hlater
    exact ⟨hsession.queueConsistent hqueue, (hsession.keeps hqueue hkeyed).1, later, hlater, hframe⟩
  have hheld := hrun.invariant ⟨hqueue, hkeyed, item, hget, hsnapshot⟩ hsessions
  obtain ⟨hqueue, _, later, hlater, hsnapshot⟩ := hheld
  exact runsFrozen_of_held hqueue hlater hsnapshot

/-- What a queue record is planned and run with, after every run from an empty queue. -/
theorem freezesAction_of_run (hempty : w₀.pushItems = ∅) (hrun : Run QueueSession w₀ events w)
    (hget : w.pushItems[pushId]? = some item) : w.FreezesAction item := by
  obtain ⟨hqueue, hkeyed⟩ := queueKeyed_of_run hempty hrun
  have hheld := hqueue pushId item hget
  have hitem := hheld.consistent
  have hid : item.pushId = pushId := hheld.pushId
  subst hid
  have hcurrent : ∀ message, item.payload = .message message → item.hasStartedEffects = false →
      ∀ context planned, planItem context w item.stored = .ok (some planned) →
        w.planMessagePush context.config message.messageId message.action (some item.pushId) =
          .ok planned.plannedMessageAction := by
    intro message hpayload hunstarted context planned hplan
    have hstored : item.stored.payload = .message message := hpayload
    have hplanned := planItem_of_unstarted hstored hunstarted hplan
    exact hplanned
  have hkind : ∀ message, item.payload = .message message → item.message.isSome = true := by
    intro message hpayload
    rw [PushItem.message_eq_some.mpr hpayload]
    rfl
  refine ⟨?_, hcurrent, ?_, ?_⟩
  · intro hmessage hstarted
    have hsome := hitem.snapshot hmessage
    rw [hstarted] at hsome
    obtain ⟨action, hsnapshot⟩ := Option.isSome_iff_exists.mp hsome.symm
    obtain ⟨message, hpayload, hkept⟩ := PushItem.message_of_snapshot hsnapshot
    have hfrozen := hitem.frozen message (PushItem.message_eq_some.mpr hpayload)
    refine ⟨action, hsnapshot, (hfrozen.action action hkept).2, ?_⟩
    intro events w' hrun
    exact runsFrozen_of_run hqueue hkeyed hget hsnapshot hrun
  · intro message hpayload hunstarted events w' hsession
    obtain ⟨context, hconfig, hevents, hrecords⟩ := hsession.followsPlan hqueue
    rw [← hconfig]
    have hnone : item.snapshot? = none := by
      have hsome := hitem.snapshot (hkind message hpayload)
      rw [hunstarted] at hsome
      apply Option.not_isSome_iff_eq_none.mp
      rw [← hsome]
      exact Bool.false_ne_true
    constructor
    · intro later action hlater hsnapshot
      obtain ⟨record, hrecord, htakes⟩ := hrecords item.pushId later hlater
      cases hget.symm.trans hrecord
      rcases htakes with hsame | ⟨planned, hplan, htaken⟩
      · rw [hsame, hnone] at hsnapshot
        cases hsnapshot
      · rw [hcurrent message hpayload hunstarted context planned hplan, ← htaken, hsnapshot]
    · intro event hmem haffects
      obtain ⟨planned, action, hplan, hplanned, hexecutes, _⟩ :=
        hevents event hmem item.pushId item haffects hget (hkind message hpayload)
      refine ⟨action, ?_, hexecutes⟩
      rw [hcurrent message hpayload hunstarted context planned hplan, hplanned]
  · intro draft hpayload haudit hstage context planned hconfig hplan
    have hstored : item.stored.payload = .draft draft := hpayload
    obtain ⟨outbound, houtbound, hsteps⟩ := planItem_of_draft hstored haudit hstage hplan
    have hplanned := planItem_planned hconfig hitem.stored rfl hplan
    refine ⟨outbound, houtbound, hsteps, ?_⟩
    intro hstarted
    rcases hplanned.resumes.stepStates with hsame | ⟨_, hnot⟩
    · have hleads := hplanned.leads.draft outbound (hplanned.resumes.auditPending.trans haudit)
        (hplanned.resumes.localStage.trans hstage) houtbound
      rw [PushItem.labels, hsame] at hleads
      exact hleads
    · cases hnot.symm.trans hstarted

/-- The message item of the push that was cut off has its action, for good. -/
theorem freezesAction_spamHalfway : ∃ events item, Run QueueSession spamFiled events spamHalfway ∧
    spamHalfway.pushItems["push_message_m"]? = some item ∧ item.snapshot?.isSome = true ∧
      spamHalfway.FreezesAction item := by
  obtain ⟨queueing, hqueued⟩ := Program.run_exec flagsThenGone queueSpam (.start spamFiled) ()
  obtain ⟨pushing, hpushed⟩ := pushSession_run plainHost flagsThenGone spamQueued ()
    (reviewedPlan plainHost spamQueued)
  have hrun : Run QueueSession spamFiled (([] ++ queueing) ++ pushing) spamHalfway :=
    .next (.next .start (.command (.queueActionSteps _ _ _ _ _) hqueued)) (.push hpushed)
  have hitem : ∃ item, spamHalfway.pushItems["push_message_m"]? = some item ∧
      item.snapshot?.isSome = true := by decide +kernel
  obtain ⟨item, hget, hsnapshot⟩ := hitem
  exact ⟨_, item, hrun, hget, hsnapshot, freezesAction_of_run rfl hrun hget⟩

/-- A workspace with a draft that answers a message of its case. -/
def replyDrafted : Workspace where
  config := .default
  cases := .ofList [("c", ({ group := "", dirName := "c", caseName := "c", drafts := .ofList [("d",
    (⟨{ caseUid := "c", sendIntent := some "reply", syncIntent := some .send,
        replyToMessageId := some "m" }, []⟩ : DraftFile))] } : CaseRecord))]

/-- A server that gives out names and is gone otherwise. -/
def namesThenGone (_ : Unit) : (request : Request) → Except AppError request.Reply × Unit
  | .newDraftPushSuffix => (.ok "d", ())
  | .newEventId => (.ok "event", ())
  | _ => (.error { errorCode := "imap_error", message := "connection lost" }, ())

def replyQueued : Workspace :=
  ((queueOutbound plainHost "c" "d" .send none).run namesThenGone (.start replyDrafted) ()).2.1.workspace

def replyStarted : Workspace :=
  ((pushConfirmed plainHost (reviewedPlan plainHost replyQueued)).run namesThenGone
    (.start replyQueued) ()).2.1.workspace

/-- The same workspace when a reply is to set one flag less. -/
def replyReconfigured : Workspace :=
  { replyStarted with config := { MailConfig.default with actions := { ActionsSection.default with
      draftSend := [.appendTo "drafts", .smtp, .appendTo "sent",
        { addFlags := ["\\Seen"], on := some .replyToMessage }] } } }

/-- The steps that the drafts in the queue are planned to run. -/
def plannedDraftSteps (w : Workspace) : List (List ActionStep) :=
  match planItems ⟨plainHost, w.config⟩ w w.readItems with
  | .ok planned => planned.items.filterMap (·.outbound) |>.map (·.steps)
  | .error _ => []

/-- A draft that has started runs other steps after a change of the configuration. -/
theorem plannedDraftSteps_replyStarted : ∃ events, Run QueueSession replyDrafted events replyStarted ∧
    QueueSession replyStarted [] replyReconfigured ∧
    replyStarted.readItems.map (·.hasStartedEffects) = [true] ∧
    plannedDraftSteps replyStarted = [defaultDraftSendSteps] ∧
    plannedDraftSteps replyReconfigured = [[.appendTo "drafts", .smtp, .appendTo "sent",
      { addFlags := ["\\Seen"], on := some .replyToMessage }]] := by
  obtain ⟨queueing, hqueued⟩ := Program.run_exec namesThenGone
    (queueOutbound plainHost "c" "d" .send none) (.start replyDrafted) ()
  obtain ⟨pushing, hpushed⟩ := pushSession_run plainHost namesThenGone replyQueued ()
    (reviewedPlan plainHost replyQueued)
  have hrun : Run QueueSession replyDrafted (([] ++ queueing) ++ pushing) replyStarted :=
    .next (.next .start (.command (.queueOutbound _ _ _ _ _) hqueued)) (.push hpushed)
  refine ⟨_, hrun, .other rfl, ?_, ?_, ?_⟩
  · decide +kernel
  · decide +kernel
  · decide +kernel

end Rules
end AgentFirstMail
