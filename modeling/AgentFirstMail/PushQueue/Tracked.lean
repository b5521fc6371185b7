import AgentFirstMail.PushQueue.Execute
import AgentFirstMail.Store.RemoteSync

namespace AgentFirstMail
open Effect Command

/-- The messages whose views a successful step refreshes. -/
def messageIdsForStepRefresh (w : Workspace) (item : PushItem) (step : ActionStep) :
    Result (List String) := do
  let acted ←
    if !step.addFlags.isEmpty || step.moveToMailboxId.isSome then actionLocations w item step
    else .ok []
  return acted.map (·.messageId) ++
    if step.appendToMailboxId.isSome then item.messageIds else []

def refreshMessagePushViews (context : PushExecutionContext) (messageIds : List String) :
    Command Unit :=
  if messageIds.isEmpty then return ()
  else do
    let w ← workspace
    Program.ofExcept (context.host.renderMessageViews w messageIds)

def refreshAfterSuccessfulStep (context : PushExecutionContext) (step : ActionStep) :
    Command Unit := do
  let item ← currentItem
  let w ← workspace
  let messageIds ← Program.ofExcept (messageIdsForStepRefresh w item step)
  refreshMessagePushViews context messageIds

def appendRfc822MessageIds (w : Workspace) (item : PushItem) : Result (List String) :=
  if item.outbound.isSome then .ok [outboundRfc822MessageId item]
  else item.messageIds.mapM fun messageId => do
    let message ← w.readMessageById messageId
    match message.rfc822MessageId with
    | some rfc822MessageId => return rfc822MessageId
    | none => throw { errorCode := "rfc822_message_id_missing", message := s!"message cannot be verified after append: {messageId}" }

/-- Whether the folder holds every one of some messages. -/
def holdsAll (host : Host) (folder : String) : List String → Command Bool
  | [] => return true
  | rfc822MessageId :: rest => do
    let found ← findByMessageId host folder rfc822MessageId
    if found.isSome then holdsAll host folder rest else return false

def recoverRemoteOutcomeUnknownAppend (context : PushExecutionContext) (index : Nat)
    (step : ActionStep) (mailboxId : String) : Command Bool := do
  let folder ← remoteMailboxFolder context.config mailboxId
  let item ← currentItem
  let w ← workspace
  let messageIds ← Program.ofExcept (appendRfc822MessageIds w item)
  if messageIds.isEmpty then return false
  else
    let held ← holdsAll context.host folder messageIds
    if held then persistStepSucceeded context index step
    return held

/-- A move that failed only while its target UID was looked up. -/
def moveCompletedBeforeTargetUidLookupFailed (item : PushItem) (index : Nat) : Bool :=
  (item.stepState? index).any fun state =>
    state.errorCode == some "imap_move_target_uid_missing" ||
    (state.errorCode == some "imap_uid_missing" &&
      state.error == some "moved message uid was not found") ||
    (state.errorCode == some "push_remote_outcome_unknown" && state.error.any fun error =>
      "remote move completed without a target UID for message ".isPrefixOf error)

def hasActivePlannedSource (message : Message) (sources : List PushLocation) : Bool :=
  message.activeLocations.any fun existing => sources.any existing.matchesPush

/-- A message whose move is being verified, with the places it was to be moved from. -/
structure ReconciledMove where
  message : Message
  sources : List PushLocation

/-- The messages of a move, when the workspace has none of their planned places any more. -/
def reconcileMoveSources (w : Workspace) (locations : List PushLocation) :
    List String → Result (Option (List ReconciledMove))
  | [] => .ok (some [])
  | messageId :: rest => do
    let message ← w.readMessageById messageId
    let sources := locations.filter (·.messageId == messageId)
    if hasActivePlannedSource message sources then return none
    let reconciled ← reconcileMoveSources w locations rest
    return reconciled.map (⟨message, sources⟩ :: ·)

def moveUnverifiable (messageId : String) : AppError :=
  { errorCode := "rfc822_message_id_missing"
    message := s!"message cannot be verified after remote move: {messageId}" }

/-- Where a message is in the target folder: as recorded, or as the server finds it. -/
def locateMovedMessage (host : Host) (folder : String) (message : Message)
    (rfc822MessageId : String) : Command (Option RemoteLocation) :=
  match message.activeLocations.find? (·.mailboxName == folder) with
  | some location => return some location
  | none => findByMessageId host folder rfc822MessageId

/-- Where each reconciled message is in the target folder, if the server has them all. -/
def locateMovedMessages (host : Host) (folder : String) :
    List ReconciledMove → Command (Option (List (ReconciledMove × RemoteLocation)))
  | [] => return some []
  | move :: rest =>
    match move.message.rfc822MessageId with
    | none => Program.fail (moveUnverifiable move.message.messageId)
    | some rfc822MessageId => do
      let found ← locateMovedMessage host folder move.message rfc822MessageId
      match found with
      | none => return none
      | some location =>
        let located ← locateMovedMessages host folder rest
        return located.map ((move, location) :: ·)

def relocateRecoveredMove (recovered : ReconciledMove × RemoteLocation) : Command Unit := do
  let w ← workspace
  let message ← Program.ofExcept (w.readMessageById recovered.1.message.messageId)
  let remaining := message.activeLocations.filter fun existing =>
    !recovered.1.sources.any existing.matchesPush
  relocateMessage message.messageId (addTarget recovered.2 remaining)

def recoverRemoteOutcomeUnknownMove (context : PushExecutionContext) (index : Nat)
    (step : ActionStep) (mailboxId : String) : Command Bool := do
  let item ← currentItem
  let w ← workspace
  let locations ← Program.ofExcept (actionLocations w item step)
  let messageIds :=
    ((item.messageIds ++ locations.map (·.messageId)).eraseDups).insertionSort (· ≤ ·)
  if messageIds.isEmpty then return false
  else
    let reconciled ← Program.ofExcept (reconcileMoveSources w locations messageIds)
    match reconciled with
    | none => return false
    | some reconciled =>
      let folder ← remoteMailboxFolder context.config mailboxId
      let located ← locateMovedMessages context.host folder reconciled
      match located with
      | none => return false
      | some recovered =>
        Program.forEach recovered relocateRecoveredMove
        persistStepSucceeded context index step
        return true

def recoverRemoteOutcomeUnknownFileSend (context : PushExecutionContext) (index : Nat)
    (step : ActionStep) : Command Bool := do
  let item ← currentItem
  let w ← workspace
  let prepared ← Program.ofExcept (prepareCurrentOutbound context w item)
  let confirmed ← perform (.outputConfirmed prepared)
  if confirmed then persistStepSucceeded context index step
  return confirmed

/-- Whether the remote proves that an uncertain step took effect; it is then recorded. -/
def recoverRemoteOutcomeUnknownStep (context : PushExecutionContext) (index : Nat)
    (step : ActionStep) : Command Bool := do
  let item ← currentItem
  if step.fileSend.isSome then recoverRemoteOutcomeUnknownFileSend context index step
  else match step.appendToMailboxId, step.moveToMailboxId with
    | some mailboxId, _ => recoverRemoteOutcomeUnknownAppend context index step mailboxId
    | none, some mailboxId =>
      if moveCompletedBeforeTargetUidLookupFailed item index then
        recoverRemoteOutcomeUnknownMove context index step mailboxId
      else return false
    | none, none => return false

def remoteOutcomeUnknownError (step : ActionStep) : AppError :=
  { errorCode := "push_remote_outcome_unknown"
    message := (s!"remote outcome is unknown for push step {step.label}; refusing to retry " ++
      "automatically")
    details := some {} }

/-- An attempt that may have reached the remote stays uncertain unless its error says that
nothing was applied. -/
def persistStepError (context : PushExecutionContext) (index : Nat) (step : ActionStep)
    (error : AppError) : Command Unit := do
  let item ← currentItem
  if item.stepRemoteOutcomeUnknown index && !remoteEffectNotApplied error then
    saveItem fun item =>
      { item.markStepRemoteOutcomeUnknown index step (some error) context.host.now with
        updatedRfc3339 := context.host.now
        lastError := some (remoteOutcomeUnknownError step).toString }
    Program.fail (remoteOutcomeUnknownError step)
  else
    saveItem fun item =>
      { item.markStepFailed index step error context.host.now with
        updatedRfc3339 := context.host.now, lastError := some error.toString }
    Program.fail error

/-- How one kind of item executes a step. -/
abbrev StepExecutor := PushExecutionContext → Nat → ActionStep → Command Unit

def attemptStep (context : PushExecutionContext) (execute : StepExecutor) (index : Nat)
    (step : ActionStep) : Command Unit := do
  saveItem (·.markStepPending index step context.host.now)
  (execute context index step).tryCatch (persistStepError context index step)
  persistStepSucceeded context index step
  refreshAfterSuccessfulStep context step

/-- An uncertain step is settled by evidence or refused; it is never tried again. -/
def settleUnknownStep (context : PushExecutionContext) (index : Nat) (step : ActionStep) :
    Command Unit := do
  let recovered ← recoverRemoteOutcomeUnknownStep context index step
  if recovered then refreshAfterSuccessfulStep context step
  else Program.fail (remoteOutcomeUnknownError step)

def resetLegacyMove (context : PushExecutionContext) (index : Nat) (step : ActionStep) :
    Command Unit :=
  saveItem fun item => { item.markStepPending index step context.host.now with lastError := none }

def executeTrackedStep (context : PushExecutionContext) (execute : StepExecutor) (index : Nat)
    (step : ActionStep) : Command Unit := do
  let item ← currentItem
  if item.stepSucceeded index then
    if item.localStage.isNone then refreshAfterSuccessfulStep context step
  else
    if item.stepRemoteOutcomeUnknown index &&
        item.legacyMoveMessageIdPreflightFailed index step then
      resetLegacyMove context index step
    let item ← currentItem
    if item.stepRemoteOutcomeUnknown index then settleUnknownStep context index step
    else attemptStep context execute index step

def executeStepsFrom (context : PushExecutionContext) (execute : StepExecutor) :
    Nat → List ActionStep → Command Unit
  | _, [] => return ()
  | index, step :: rest => do
    executeTrackedStep context execute index step
    executeStepsFrom context execute (index + 1) rest

def executeTrackedSteps (context : PushExecutionContext) (steps : List ActionStep)
    (execute : StepExecutor) : Command Unit := do
  modifyItem (·.ensureStepStates steps)
  executeStepsFrom context execute 0 steps

def draftUploadUnavailable : AppError :=
  { errorCode := "draft_upload_unavailable", message := "draft upload is not configured" }

def pushOutbound (context : PushExecutionContext) : Command Unit := do
  let item ← currentItem
  let w ← workspace
  let outbound ← Program.ofExcept (outboundOf item)
  if item.localStage.isSome then return ()
  else
    let steps ← Program.ofExcept
      (if outbound.steps.isEmpty then
        filterReplyToSteps w outbound (configuredOutboundSteps context.config outbound.action)
      else .ok outbound.steps)
    Program.ofExcept (requireCompiledSendFeatures context.host.compiled steps)
    Program.ofExcept
      (ensure (!(outbound.action == .saveDraft && steps.isEmpty)) draftUploadUnavailable)
    executeTrackedSteps context steps executeOutboundStep

def notMessageAction : AppError := pushItemInvalid "push item is not a message action"

/-- What a message action requires of the workspace before it runs. -/
def ensureActionEligible (w : Workspace) (pushId : String) (planned : MessageActionPush) :
    Result Unit :=
  match planned.action with
  | .notification => w.ensureArchiveEligible planned.messageIds (some pushId)
  | .spam | .trash => w.ensureMessageIdsUnreferenced planned.messageIds (some pushId)
  | .caseAdd | .unspam | .untrash => .ok ()

def pushActionSteps (context : PushExecutionContext) : Command Unit := do
  let item ← currentItem
  let w ← workspace
  match item.messageAction with
  | none => Program.fail notMessageAction
  | some planned =>
    Program.ofExcept (ensureActionEligible w item.pushId planned)
    executeTrackedSteps context planned.steps executeMessageStep

end AgentFirstMail
