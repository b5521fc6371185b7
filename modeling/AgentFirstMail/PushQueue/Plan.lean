import AgentFirstMail.PushQueue.Tracked

namespace AgentFirstMail

def pushAuditStateInvalid (message : String) : AppError :=
  { errorCode := "push_audit_state_invalid", message }

def OutboundAction.parse : String → Option OutboundAction
  | "save_draft" => some .saveDraft
  | "send" => some .send
  | _ => none

/-- Restores what the pending audit event says about an item that has nothing left to do. -/
def hydrateAuditPendingPlan (item : PushItem) (pending : PushAuditPending) : Result PushItem :=
  match pending.caseUid, pending.draftName, pending.action with
  | some caseUid, some draftName, some action =>
    match OutboundAction.parse action with
    | none => .error (pushAuditStateInvalid
        s!"unsupported audit_pending outbound action: {action}")
    | some action => .ok { item with plannedOutbound := some {
        action, caseUid, draftName
        draftUidValidity := item.draft.bind (·.draftUidValidity)
        draftUid := item.draft.bind (·.draftUid) } }
  | _, _, _ =>
    match MessagePushAction.fromKind pending.pushKind with
    | none => .error (pushAuditStateInvalid
        s!"unsupported audit_pending message action: {pending.pushKind}")
    | some action => .ok { item with plannedMessageAction := some {
        action, messageIds := pending.messageIds, locations := [], steps := [] } }

def messageActionSnapshotMatches (message : MessagePush) (snapshot : MessageActionPush) : Bool :=
  snapshot.action == message.action && snapshot.messageIds == [message.messageId] &&
    snapshot.locations.all (·.messageId == message.messageId) &&
    !snapshot.locations.isEmpty && !snapshot.steps.isEmpty

def snapshotMismatch (pushId : String) : AppError :=
  pushItemInvalid s!"message action snapshot does not match queued intent for {pushId}"

/-- The labels of the steps an item is planned to run. -/
def actionsFor (w : Workspace) (config : MailConfig) (item : PushItem) : Result (List String) :=
  match item.messageAction, item.outbound with
  | some action, _ => .ok (action.steps.map (·.label))
  | none, some outbound =>
    if !outbound.steps.isEmpty then .ok (outbound.steps.map (·.label))
    else if item.localStage.isSome then .ok (item.stepStates.map (·.label))
    else do
      let steps ← filterReplyToSteps w outbound (configuredOutboundSteps config outbound.action)
      return steps.map (·.label)
  | none, none => .ok []

def pushPlanChangedAfterStart (pushId : String) : AppError :=
  { errorCode := "push_plan_changed_after_start"
    message := (s!"push item {pushId} has recorded remote progress but now resolves to a " ++
      "different plan") }

/-- Progress stays valid while the recorded labels lead the planned ones. -/
def resetProgressIfPlanChanged (w : Workspace) (config : MailConfig) (item : PushItem) :
    Result PushItem :=
  if item.stepStates.isEmpty then .ok item
  else do
    let planned ← actionsFor w config item
    if (item.stepStates.map (·.label)).isPrefixOf planned then return item
    else if item.hasStartedEffects then throw (pushPlanChangedAfterStart item.pushId)
    else return { item with stepStates := [], localStage := none, lastError := none }

def pushStartedWithoutPlan (message : String) : AppError :=
  { errorCode := "push_remote_outcome_unknown", message }

def originalPlanUnavailable (pushId : String) : AppError :=
  pushStartedWithoutPlan
    s!"message push {pushId} has started but its original action plan is unavailable"

def draftHasNoSyncIntent (pushId : String) : AppError :=
  pushStartedWithoutPlan s!"draft push {pushId} has started but the draft has no sync_intent"

/-- The action of a message item: the frozen one once it has started, else today's. -/
def resolveMessageAction (w : Workspace) (config : MailConfig) (item : PushItem)
    (message : MessagePush) : Result (Option MessageActionPush) :=
  match item.hasStartedEffects, message.messageActionSnapshot with
  | true, some snapshot =>
    if messageActionSnapshotMatches message snapshot then .ok (some snapshot)
    else .error (snapshotMismatch item.pushId)
  | _, _ => w.planMessagePush config message.messageId message.action (some item.pushId)

def plannedRfc822 (w : Workspace) (action : MessageActionPush) :
    Result (List (String × Bytes)) :=
  if action.steps.any (·.appendToMailboxId.isSome) then
    action.messageIds.mapM fun messageId =>
      match w.messages[messageId]?.bind (·.eml) with
      | some raw => .ok (messageId, raw)
      | none => .error (messageEmlUnreadable messageId)
  else .ok []

/-- Plans a message item; `none` when it is no longer planned. -/
def planMessageItem (w : Workspace) (config : MailConfig) (item : PushItem)
    (message : MessagePush) : Result (Option PushItem) := do
  match ← resolveMessageAction w config item message with
  | some action =>
    let item ← resetProgressIfPlanChanged w config
      { item with plannedMessageAction := some action }
    let raws ← plannedRfc822 w action
    return some { item with plannedMessageRfc822 := raws }
  | none =>
    ensure (!item.hasStartedEffects) (originalPlanUnavailable item.pushId)
    return none

/-- The plan of a draft that finalization removed already. -/
def removedDraftPlan (draft : DraftPush) : OutboundPush :=
  { action := .send, caseUid := draft.caseUid, draftName := draft.draftName
    draftUidValidity := draft.draftUidValidity, draftUid := draft.draftUid }

def planOutboundItem (context : PushExecutionContext) (w : Workspace) (item : PushItem)
    (draft : DraftPush) (frontmatter : DraftFrontmatter) (action : OutboundAction) :
    Result PushItem := do
  let outbound : OutboundPush :=
    { action, caseUid := draft.caseUid, draftName := draft.draftName
      draftUidValidity := draft.draftUidValidity, draftUid := draft.draftUid
      replyToMessageId := frontmatter.replyToMessageId }
  let steps ← filterReplyToSteps w outbound (configuredOutboundSteps context.config action)
  let item ← resetProgressIfPlanChanged w context.config
    { item with plannedOutbound := some { outbound with steps } }
  let prepared ← prepareCurrentOutbound context w item
  return { item with plannedOutboundMessage := some prepared }

def planDraftItem (context : PushExecutionContext) (w : Workspace) (item : PushItem)
    (draft : DraftPush) : Result (Option PushItem) := do
  match ← w.draftFrontmatter draft.caseUid draft.draftName with
  | none =>
    if item.localStageAtLeast .draftRemoved then
      return some { item with plannedOutbound := some (removedDraftPlan draft) }
    else
      ensure (!item.hasStartedEffects) (draftHasNoSyncIntent item.pushId)
      return none
  | some frontmatter =>
    match frontmatter.syncIntent with
    | none =>
      ensure (!item.hasStartedEffects) (draftHasNoSyncIntent item.pushId)
      return none
    | some action =>
      let item ← planOutboundItem context w item draft frontmatter action
      return some item

/-- Plans one queued item; `none` when it is no longer planned. -/
def planItem (context : PushExecutionContext) (w : Workspace) (item : PushItem) :
    Result (Option PushItem) :=
  match item.auditPending, item.payload with
  | some pending, _ => do
    let item ← hydrateAuditPendingPlan item pending
    return some item
  | none, .message message => planMessageItem w context.config item message
  | none, .draft draft => planDraftItem context w item draft

/-- Whether a reply has to go out before a message it answers is moved away. -/
def itemMustRunBefore (item candidate : PushItem) : Bool :=
  match item.outbound, candidate.messageAction with
  | some outbound, some action =>
    outbound.action == .send && !candidate.hasStartedEffects &&
      (action.action == .notification || action.action == .spam || action.action == .trash) &&
      outbound.replyToMessageId.any (action.messageIds.contains ·)
  | _, _ => false

/-- The first item that no other one has to run before, or else the first item. -/
def nextIndependent (remaining : List PushItem) : Option PushItem :=
  (remaining.find? fun candidate =>
    !remaining.any (itemMustRunBefore · candidate)).or remaining.head?

def orderFrom : Nat → List PushItem → List PushItem
  | 0, remaining => remaining
  | fuel + 1, remaining =>
    match nextIndependent remaining with
    | none => []
    | some next => next :: orderFrom fuel (remaining.erase next)

/-- First in, first out, but for the items another one has to run before. -/
def orderItemsForDependencies (items : List PushItem) : List PushItem :=
  orderFrom items.length items

/-- The items of a push in the order they run, and those that are no longer planned. -/
structure PlannedItems where
  items : List PushItem
  skipped : List PushItem

def planItems (context : PushExecutionContext) (w : Workspace) :
    List PushItem → Result PlannedItems
  | [] => .ok ⟨[], []⟩
  | item :: rest => do
    let planned ← planItem context w item
    let others ← planItems context w rest
    match planned with
    | some item => return ⟨item :: others.items, others.skipped⟩
    | none => return ⟨others.items, item :: others.skipped⟩

def resolvePlannedItems (context : PushExecutionContext) (w : Workspace) :
    Result PlannedItems := do
  let planned ← planItems context w w.sortedItems
  return { planned with items := orderItemsForDependencies planned.items }

end AgentFirstMail
