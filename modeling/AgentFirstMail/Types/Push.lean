import AgentFirstMail.Types.Remote

namespace AgentFirstMail

abbrev Bytes := List UInt8

instance : LawfulBEq Bytes := inferInstance

/-- The recipients of a send, as the provider reported them. -/
structure SendReceipt where
  messageId : String
  delivered : List String := []
  queued : List String := []
  permanentBounces : List String := []
  suppressedRecipients : List String := []
deriving DecidableEq

inductive PushStepStatus where
  | pending | succeeded | failed | remoteOutcomeUnknown
deriving DecidableEq

/-- The stages of local finalization, in order. -/
inductive PushLocalStage where
  | remoteSucceeded | outboundRecorded | draftRemoved | pendingCleared | auditPending
deriving DecidableEq

def PushLocalStage.rank : PushLocalStage → Nat
  | remoteSucceeded => 0
  | outboundRecorded => 1
  | draftRemoved => 2
  | pendingCleared => 3
  | auditPending => 4

inductive OutboundAction where
  | saveDraft | send
deriving DecidableEq

def OutboundAction.asStr : OutboundAction → String
  | saveDraft => "save_draft"
  | send => "send"

inductive MessagePushAction where
  | caseAdd | notification | spam | trash | unspam | untrash
deriving DecidableEq

def MessagePushAction.kind : MessagePushAction → String
  | caseAdd => "case.add"
  | notification => "message.notification"
  | spam => "message.spam"
  | trash => "message.trash"
  | unspam => "message.unspam"
  | untrash => "message.untrash"

def MessagePushAction.fromKind : String → Option MessagePushAction
  | "case.add" | "case_add" => some caseAdd
  | "message.notification" | "notification" => some notification
  | "message.spam" | "spam" => some spam
  | "message.trash" | "trash" => some trash
  | "message.unspam" | "unspam" => some unspam
  | "message.untrash" | "untrash" => some untrash
  | _ => none

/-- The durable state of one planned step. -/
structure PushStepState where
  index : Nat
  label : String
  status : PushStepStatus := .pending
  startedRfc3339 : Option String := none
  completedRfc3339 : Option String := none
  resultSummary : Option String := none
  sendReceipt : Option SendReceipt := none
  errorCode : Option String := none
  error : Option String := none
  retryable : Option Bool := none
deriving DecidableEq

structure PushAuditPending where
  eventId : String
  createdRfc3339 : String
  pushKind : String
  caseUid : Option String := none
  draftName : Option String := none
  action : Option String := none
  messageIds : List String := []
  succeededStepCount : Nat
  attemptCount : Nat
  lastError : Option String := none
deriving DecidableEq

structure DraftPush where
  caseUid : String
  draftName : String
  draftUidValidity : Option Nat := none
  draftUid : Option Nat := none
deriving DecidableEq

structure MessageActionPush where
  action : MessagePushAction
  messageIds : List String
  locations : List PushLocation
  steps : List ActionStep
  replyToMessageId : Option String := none
deriving DecidableEq

/-- The snapshot is the action resolved when the first step of the item started. -/
structure MessagePush where
  messageId : String
  action : MessagePushAction
  messageActionSnapshot : Option MessageActionPush := none
deriving DecidableEq

inductive PushPayload where
  | draft (draft : DraftPush)
  | message (message : MessagePush)
deriving DecidableEq

structure OutboundPush where
  action : OutboundAction
  caseUid : String
  draftName : String
  draftUidValidity : Option Nat := none
  draftUid : Option Nat := none
  steps : List ActionStep := []
  replyToMessageId : Option String := none
deriving DecidableEq

structure ReplyRoute where
  channel : String
  sourceId : String
  conversationId : String
deriving DecidableEq

structure PreparedEmail where
  deliveryRaw : Bytes
  envelopeFrom : String
  envelopeTo : List String
deriving DecidableEq

inductive OutboundDelivery where
  | email (email : PreparedEmail)
  | file (route : ReplyRoute)
deriving DecidableEq

structure PreparedOutbound where
  messageId : String
  raw : Bytes
  delivery : OutboundDelivery
deriving DecidableEq

def PreparedOutbound.email (prepared : PreparedOutbound) : Result PreparedEmail :=
  match prepared.delivery with
  | .email email => .ok email
  | .file _ => .error { errorCode := "channel_operation_unsupported"
                        message := "email transport cannot deliver a file-channel message" }

/-- A queue record, with the plan that a push resolves for it and never stores. -/
structure PushItem where
  pushId : String
  enqueueSeq : Nat
  payload : PushPayload
  plannedOutbound : Option OutboundPush := none
  plannedOutboundMessage : Option PreparedOutbound := none
  plannedMessageAction : Option MessageActionPush := none
  plannedMessageRfc822 : List (String × Bytes) := []
  createdRfc3339 : String
  updatedRfc3339 : String
  attemptCount : Nat := 0
  stepStates : List PushStepState := []
  localStage : Option PushLocalStage := none
  auditPending : Option PushAuditPending := none
  lastError : Option String := none
deriving DecidableEq

namespace PushItem

/-- The part of an item that is written to the queue. -/
def stored (item : PushItem) : PushItem :=
  { item with plannedOutbound := none, plannedOutboundMessage := none,
              plannedMessageAction := none, plannedMessageRfc822 := [] }

def kind (item : PushItem) : String :=
  match item.payload with
  | .draft _ => "draft"
  | .message _ => "message"

def draft (item : PushItem) : Option DraftPush :=
  match item.payload with
  | .draft draft => some draft
  | .message _ => none

def message (item : PushItem) : Option MessagePush :=
  match item.payload with
  | .draft _ => none
  | .message message => some message

def outbound (item : PushItem) : Option OutboundPush := item.plannedOutbound

def messageAction (item : PushItem) : Option MessageActionPush := item.plannedMessageAction

def displayKind (item : PushItem) : String :=
  match item.plannedOutbound, item.plannedMessageAction, item.payload with
  | some outbound, _, _ => outbound.action.asStr
  | none, some action, _ => action.action.kind
  | none, none, .draft _ => "draft"
  | none, none, .message message => message.action.kind

def messageIds (item : PushItem) : List String :=
  match item.plannedMessageAction, item.payload with
  | some action, _ => action.messageIds
  | none, .message message => [message.messageId]
  | none, .draft _ => []

def locations (item : PushItem) : List PushLocation :=
  match item.plannedMessageAction with
  | some action => action.locations
  | none => []

def replyToMessageId (item : PushItem) : Option String :=
  (item.plannedMessageAction.bind (·.replyToMessageId)).or
    (item.plannedOutbound.bind (·.replyToMessageId))

/-- Counts the leading states that are in index order and succeeded. -/
def succeededStepCount (item : PushItem) : Nat :=
  item.stepStates.foldl (fun completed state =>
    if state.index = completed ∧ state.status = .succeeded then completed + 1 else completed) 0

def hasStartedSteps (item : PushItem) : Bool :=
  item.stepStates.any fun state =>
    state.status != .pending || state.startedRfc3339.isSome || state.completedRfc3339.isSome

def hasStartedEffects (item : PushItem) : Bool :=
  item.hasStartedSteps || item.localStage.isSome || item.auditPending.isSome

def localStageAtLeast (item : PushItem) (stage : PushLocalStage) : Bool :=
  item.localStage.any fun current => stage.rank ≤ current.rank

theorem localStage_of_atLeast {item : PushItem} {stage : PushLocalStage}
    (h : item.localStageAtLeast stage = true) : item.localStage.isSome = true := by
  unfold localStageAtLeast at h
  cases hstage : item.localStage with
  | none =>
    rw [hstage] at h
    cases h
  | some current => rfl

@[simp] theorem stored_pushId (item : PushItem) : item.stored.pushId = item.pushId := rfl
@[simp] theorem stored_payload (item : PushItem) : item.stored.payload = item.payload := rfl

end PushItem
end AgentFirstMail
