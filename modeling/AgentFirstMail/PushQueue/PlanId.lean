import AgentFirstMail.PushQueue.Plan

namespace AgentFirstMail

/-- What a plan shows of a draft that is to be sent or saved. -/
structure PushPlanOutbound where
  caseUid : String
  draftName : String
  draftText : Option Bytes := none
  content : Option Bytes := none
  replyRoute : Option ReplyRoute := none
  review : Option DraftReview := none
deriving DecidableEq

structure PushPlanItemView where
  pushId : String
  queueItem : PushItem
  displayKind : String
  action : Option String
  caseUid : Option String
  draftName : Option String
  messageId : Option String
  actions : List String
  steps : List ActionStep
  stepStates : List PushStepState
  attemptCount : Nat
  localStage : Option PushLocalStage
  auditPending : Bool
  lastError : Option String
  messageIds : List String
  locations : List PushLocation
  outbound : Option PushPlanOutbound
  messageContents : List (String × Bytes)
deriving DecidableEq

/-- Everything a plan id is computed from. The hash is taken to be injective, so the digest
stands for the id. -/
structure PushPlanDigest where
  workspaceUid : String
  configEffect : MailConfig
  queueRecords : List PushItem
  items : List PushPlanItemView
  skippedItems : List String
deriving DecidableEq

structure ResolvedPushPlan where
  planId : PushPlanDigest
  items : List PushItem
  skippedItems : List PushItem

def pushPlanOutbound (context : PushExecutionContext) (w : Workspace) (item : PushItem)
    (outbound : OutboundPush) : Result PushPlanOutbound := do
  let case_ ← w.findCase outbound.caseUid
  match case_.drafts[outbound.draftName]?, item.plannedOutboundMessage with
  | some draft, some prepared =>
    let review ← context.host.reviewDraft w outbound.draft
    return { caseUid := outbound.caseUid, draftName := outbound.draftName
             draftText := some draft.text, content := some prepared.raw
             replyRoute := draft.frontmatter.replyRoute, review := some review }
  | _, _ => return { caseUid := outbound.caseUid, draftName := outbound.draftName }

def plannedOutboundView (context : PushExecutionContext) (w : Workspace) (item : PushItem) :
    Result (Option PushPlanOutbound) :=
  match item.outbound with
  | none => .ok none
  | some outbound => do
    let view ← pushPlanOutbound context w item outbound
    return some view

/-- The label of a message action among the push modes. -/
def MessagePushAction.modeLabel : MessagePushAction → String
  | caseAdd => "case"
  | notification => "notification"
  | spam => "spam"
  | trash => "trash"
  | unspam => "unspam"
  | untrash => "untrash"

def pushPlanItemView (context : PushExecutionContext) (w : Workspace) (item : PushItem) :
    Result PushPlanItemView := do
  let actions ← actionsFor w context.config item
  let outbound ← plannedOutboundView context w item
  let queueItem := ((w.pushItems[item.pushId]?).map (·.stored)).getD item.stored
  return {
    pushId := item.pushId
    queueItem
    displayKind := item.displayKind
    action := (item.outbound.map (·.action.asStr)).or
      (item.messageAction.map (·.action.modeLabel))
    caseUid := item.outbound.map (·.caseUid)
    draftName := item.outbound.map (·.draftName)
    messageId := item.message.map (·.messageId)
    actions
    steps := ((item.messageAction.map (·.steps)).or (item.outbound.map (·.steps))).getD []
    stepStates := item.stepStates
    attemptCount := item.attemptCount
    localStage := item.localStage
    auditPending := item.auditPending.isSome
    lastError := item.lastError
    messageIds := item.messageIds
    locations := item.locations
    outbound
    messageContents := item.plannedMessageRfc822 }

def buildPushPlan (context : PushExecutionContext) (w : Workspace) : Result ResolvedPushPlan := do
  let planned ← resolvePlannedItems context w
  let views ← planned.items.mapM (pushPlanItemView context w)
  return {
    planId := {
      workspaceUid := w.workspaceUid
      configEffect := context.config
      queueRecords := w.readItems
      items := views
      skippedItems := planned.skipped.map (·.pushId) }
    items := planned.items
    skippedItems := planned.skipped }

end AgentFirstMail
