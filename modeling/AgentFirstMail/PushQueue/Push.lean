import AgentFirstMail.PushQueue.Finalize
import AgentFirstMail.PushQueue.PlanId

namespace AgentFirstMail
open Effect Command

def pushTargets (item : PushItem) : List (String × String) :=
  ("push", item.pushId) ::
    match item.outbound with
    | some outbound => [("case", outbound.caseUid)]
    | none => item.messageIds.map ("message", ·)

/-- The event that reports a finished item, under the identity kept for it. -/
def succeededEvent (item : PushItem) (pending : PushAuditPending) : AuditEvent :=
  { eventId := pending.eventId, createdRfc3339 := pending.createdRfc3339
    kind := "push_succeeded"
    targets := ("push", item.pushId) ::
      match pending.caseUid with
      | some caseUid => [("case", caseUid)]
      | none => pending.messageIds.map ("message", ·) }

def noAuditPending (pushId : String) : AppError :=
  pushAuditStateInvalid s!"push {pushId} has no durable audit_pending identity"

def auditPushSucceeded : Command Unit := do
  let item ← currentItem
  match item.auditPending with
  | none => Program.fail (noAuditPending item.pushId)
  | some pending =>
    let _ ← appendAuditEventWithIdentity (succeededEvent item pending)
    return ()

def auditPushFailed (context : PushExecutionContext) : Command Unit := do
  let item ← currentItem
  appendAuditEvent context.host "push_failed" (pushTargets item) none

/-- Reports the item, removes it, and archives the cases that waited for it. -/
def completeSuccessfulPushAudit (context : PushExecutionContext) : Command Unit := do
  auditPushSucceeded
  let item ← currentItem
  writeWorkspace (·.deleteItem item.pushId)
  finalizeArchivingCases context
  modifyItem fun item => { item with auditPending := none, lastError := none }

/-- Keeps the item for the next push to finish its report. -/
def keepAuditPending (error : AppError) : Command Unit :=
  saveItem fun item => { item with
    auditPending := item.auditPending.map fun pending =>
      { pending with lastError := some error.toString }
    lastError := some error.toString }

/-- What a push reports of an item that went through. -/
structure PushSuccess where
  pushId : String
  kind : String
  displayKind : String
  caseUid : Option String
  draftName : Option String
  action : Option String
  messageIds : List String
  succeededStepCount : Nat
  auditPending : Bool
  sendReceipts : List SendReceipt
deriving DecidableEq

/-- What a push reports of an item that failed. -/
structure PushFailure where
  error : AppError
  pushId : String
  succeededStepCount : Nat
  partiallyApplied : Bool
  sendReceipts : List SendReceipt
deriving DecidableEq

/-- What a push reports about the items it ran. -/
structure PushSummary where
  reconciledRemovedPushIds : List String := []
  pushedCount : Nat := 0
  failedCount : Nat := 0
  partiallyAppliedCount : Nat := 0
  auditPendingCount : Nat := 0
  stoppedAfterFailure : Bool := false
  unattemptedCount : Nat := 0
  succeededItems : List PushSuccess := []
  failures : List PushFailure := []
deriving DecidableEq

def PushItem.sendReceipts (item : PushItem) : List SendReceipt :=
  item.stepStates.filterMap (·.sendReceipt)

def pushSuccessValue (item : PushItem) : PushSuccess :=
  { pushId := item.pushId, kind := item.kind, displayKind := item.displayKind
    caseUid := item.outbound.map (·.caseUid), draftName := item.outbound.map (·.draftName)
    action := item.outbound.map (·.action.asStr), messageIds := item.messageIds
    succeededStepCount := item.succeededStepCount, auditPending := item.auditPending.isSome
    sendReceipts := item.sendReceipts }

def pushFailureValue (item : PushItem) (error : AppError) (partiallyApplied : Bool) :
    PushFailure :=
  { error, pushId := item.pushId, succeededStepCount := item.succeededStepCount
    partiallyApplied, sendReceipts := item.sendReceipts }

def partiallyApplied (item : PushItem) : Bool :=
  0 < item.succeededStepCount || item.localStage.isSome ||
    item.stepStates.any (·.status == .remoteOutcomeUnknown)

/-- Counts an item that went through; one that still has to be reported ends the push. -/
def PushSummary.addPushed (summary : PushSummary) (item : PushItem) : PushSummary :=
  { summary with
    pushedCount := summary.pushedCount + 1
    succeededItems := summary.succeededItems ++ [pushSuccessValue item]
    stoppedAfterFailure := item.auditPending.isSome }

def PushSummary.addAuditPending (summary : PushSummary) : PushSummary :=
  { summary with auditPendingCount := summary.auditPendingCount + 1 }

def PushSummary.addFailed (summary : PushSummary) (item : PushItem) (error : AppError) :
    PushSummary :=
  { summary with
    failedCount := summary.failedCount + 1, stoppedAfterFailure := true
    partiallyAppliedCount := summary.partiallyAppliedCount + (partiallyApplied item).toNat
    failures := summary.failures ++ [pushFailureValue item error (partiallyApplied item)] }

def runItem (context : PushExecutionContext) : Command Unit := do
  let item ← currentItem
  if item.auditPending.isSome then return ()
  else
    match item.payload with
    | .draft _ => pushOutbound context
    | .message _ => pushActionSteps context
    finalizePushedItem context

/-- Records a failed attempt; the queue item stays as far as it came. -/
def recordFailedItem (context : PushExecutionContext) (error : AppError) : Command Unit := do
  (auditPushFailed context).tryCatch fun _ => return ()
  saveItem fun item => { item with
    attemptCount := item.attemptCount + 1, updatedRfc3339 := context.host.now
    lastError := some error.toString }

/-- Runs one item to its end: whether the push goes on to the next one. -/
def pushItem (context : PushExecutionContext) (summary : PushSummary) :
    Command (Bool × PushSummary) := do
  let result ← (do runItem context; return none : Command (Option AppError)).tryCatch
    fun error => return some error
  match result with
  | none =>
    let audit ← (do completeSuccessfulPushAudit context; return none :
      Command (Option AppError)).tryCatch fun error => return some error
    match audit with
    | none =>
      let item ← currentItem
      return (item.auditPending.isNone, summary.addPushed item)
    | some error =>
      keepAuditPending error
      let item ← currentItem
      return (item.auditPending.isNone, (summary.addPushed item).addAuditPending)
  | some error =>
    let item ← currentItem
    recordFailedItem context error
    return (false, summary.addFailed item error)

/-- Runs the items in order, up to the first one that does not finish. -/
def pushItems (context : PushExecutionContext) :
    PushSummary → List PushItem → Command PushSummary
  | summary, [] => return summary
  | summary, item :: rest => do
    modifyItem fun _ => item
    let (goOn, summary) ← pushItem context summary
    if goOn then pushItems context summary rest
    else return { summary with unattemptedCount := rest.length }

/-- Writes every planned item back and removes those that are no longer planned. -/
def reconcilePushPlan (plan : ResolvedPushPlan) : Command Unit := do
  Program.forEach plan.items fun item => writeWorkspace (·.writeItem item)
  Program.forEach plan.skippedItems fun item => writeWorkspace (·.deleteItem item.pushId)

def pushPlanChanged : AppError :=
  { errorCode := "push_plan_changed"
    message := "the confirmed push plan does not match the current resolved queue"
    details := some { remoteCallsStarted := some false } }

/-- The plan a push runs: every send in it has to be compiled in. -/
def resolvePushPlan (context : PushExecutionContext) (w : Workspace) :
    Result ResolvedPushPlan := do
  let plan ← buildPushPlan context w
  plan.items.forM fun item =>
    (item.outbound.toList).forM fun outbound =>
      requireCompiledSendFeatures context.host.compiled outbound.steps
  return plan

def loadConfig (w : Workspace) : Result MailConfig := do
  w.config.validate
  return w.config

def pushConfirmed (host : Host) (confirmed : PushPlanDigest) : Command PushSummary := do
  let w ← workspace
  let config ← Program.ofExcept (loadConfig w)
  let plan ← Program.ofExcept (resolvePushPlan ⟨host, config⟩ w)
  Program.ofExcept (ensure (plan.planId = confirmed) pushPlanChanged)
  reconcilePushPlan plan
  pushItems ⟨host, config⟩ { reconciledRemovedPushIds := plan.skippedItems.map (·.pushId) }
    plan.items

/-- A fresh process over a workspace: nothing is cached and no item is held. -/
def Process.start (w : Workspace) : Process :=
  { workspace := w
    item := { pushId := "", enqueueSeq := 0, payload := .draft { caseUid := "", draftName := "" }
              createdRfc3339 := "", updatedRfc3339 := "" } }

/-- A confirmed push that ends, fails or is cut off somewhere. -/
inductive PushSession : Workspace → List RemoteEvent → Workspace → Prop
  | run (host : Host) (confirmed : PushPlanDigest) (outcome : Outcome AppError PushSummary)
      (process : Process) :
      Exec (pushConfirmed host confirmed) (.start w) events outcome process →
      PushSession w events process.workspace

end AgentFirstMail
