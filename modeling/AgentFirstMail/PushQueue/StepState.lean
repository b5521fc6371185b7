import Mathlib.Data.List.Sort
import AgentFirstMail.Types.Push

namespace AgentFirstMail

namespace PushStepState

/-- The state of a step that was never attempted. -/
def planned (index : Nat) (step : ActionStep) : PushStepState := { index, label := step.label }

def started (state : PushStepState) : Bool :=
  state.status != .pending || state.startedRfc3339.isSome || state.completedRfc3339.isSome

def recordAttempt (state : PushStepState) (step : ActionStep) (status : PushStepStatus)
    (now : String) : PushStepState :=
  { state with label := step.label, status
               startedRfc3339 := some (state.startedRfc3339.getD now) }

def clearError (state : PushStepState) : PushStepState :=
  { state with errorCode := none, error := none, retryable := none }

def resultSummaryOf (step : ActionStep) : String :=
  if step.fileSend.isSome then "file_send published"
  else if step.cloudflareSend.isSome then
    "cloudflare_send submitted; inspect send_receipt for recipient outcomes"
  else if step.smtpSend.isSome then "smtp_send succeeded"
  else if step.appendToMailboxId.isSome then "append succeeded"
  else if step.moveToMailboxId.isSome then "move succeeded"
  else if !step.addFlags.isEmpty then "flags updated"
  else "noop succeeded"

def markPending (state : PushStepState) (step : ActionStep) (now : String) : PushStepState :=
  { state with label := step.label, status := .pending, startedRfc3339 := some now
               completedRfc3339 := none, resultSummary := none, sendReceipt := none
               errorCode := none, error := none, retryable := none }

def markSucceeded (state : PushStepState) (step : ActionStep) (now : String) : PushStepState :=
  { (state.recordAttempt step .succeeded now).clearError with
    completedRfc3339 := some now, resultSummary := some (resultSummaryOf step) }

def markFailed (state : PushStepState) (step : ActionStep) (error : AppError) (now : String) :
    PushStepState :=
  { state.recordAttempt step .failed now with
    completedRfc3339 := some now, resultSummary := none, errorCode := some error.errorCode
    error := some error.message, retryable := some error.retryable }

def markRemoteOutcomeUnknown (state : PushStepState) (step : ActionStep)
    (error : Option AppError) (now : String) : PushStepState :=
  { state.recordAttempt step .remoteOutcomeUnknown now with
    completedRfc3339 := none, resultSummary := some "remote outcome unknown"
    errorCode := error.map (·.errorCode), error := error.map (·.message)
    retryable := some false }

/-- Releases an uncertain attempt after a recovery, keeping its diagnostic. -/
def markRecoveredPending (state : PushStepState) (summary : String) : PushStepState :=
  { state with status := .pending, startedRfc3339 := none, completedRfc3339 := none
               resultSummary := some summary, retryable := some true }

end PushStepState

/-- Changes the first state of an index. -/
def modifyStep (index : Nat) (change : PushStepState → PushStepState) :
    List PushStepState → List PushStepState
  | [] => []
  | state :: rest =>
    if state.index = index then change state :: rest else state :: modifyStep index change rest

/-- Adds a planned state for each step that has none. -/
def addMissingSteps (states : List PushStepState) (steps : List ActionStep) :
    List PushStepState :=
  steps.zipIdx.foldl (fun states entry =>
    if states.any (·.index == entry.2) then states
    else states ++ [PushStepState.planned entry.2 entry.1]) states

namespace PushItem

/-- One state for each planned step, in the order of the steps. -/
def ensureStepStates (item : PushItem) (steps : List ActionStep) : PushItem :=
  let states := (addMissingSteps item.stepStates steps).filter (·.index < steps.length)
  { item with stepStates := states.insertionSort fun a b => a.index ≤ b.index }

def stepState? (item : PushItem) (index : Nat) : Option PushStepState :=
  item.stepStates.find? (·.index == index)

def stepHasStatus (item : PushItem) (index : Nat) (status : PushStepStatus) : Bool :=
  item.stepStates.any fun state => state.index == index && state.status == status

def stepSucceeded (item : PushItem) (index : Nat) : Bool := item.stepHasStatus index .succeeded

def stepRemoteOutcomeUnknown (item : PushItem) (index : Nat) : Bool :=
  item.stepHasStatus index .remoteOutcomeUnknown

def legacyMoveError (messageId : String) : String :=
  s!"message cannot be relocated after remote move without Message-ID: {messageId}"

/-- A move that an older release gave up on while it was reading message metadata. -/
def legacyMoveMessageIdPreflightFailed (item : PushItem) (index : Nat) (step : ActionStep) :
    Bool :=
  item.messageAction.isSome && step.moveToMailboxId.isSome && step.addFlags.isEmpty &&
    step.appendToMailboxId.isNone && !step.isSend &&
    item.stepStates.any fun state =>
      state.index == index && state.errorCode == some "rfc822_message_id_missing" &&
        item.messageIds.any fun messageId => state.error == some (legacyMoveError messageId)

/-- Keeps the action that the first started step belongs to. -/
def freezeMessageActionSnapshot (item : PushItem) : PushItem :=
  match item.payload with
  | .draft _ => item
  | .message message => { item with payload := .message { message with
      messageActionSnapshot := message.messageActionSnapshot.or item.plannedMessageAction } }

def modifyStepState (item : PushItem) (index : Nat) (change : PushStepState → PushStepState) :
    PushItem :=
  { item with stepStates := modifyStep index change item.stepStates }

def markStepPending (item : PushItem) (index : Nat) (step : ActionStep) (now : String) :
    PushItem :=
  { item.freezeMessageActionSnapshot.modifyStepState index (·.markPending step now) with
    updatedRfc3339 := now }

def markStepSucceeded (item : PushItem) (index : Nat) (step : ActionStep) (now : String) :
    PushItem :=
  item.modifyStepState index (·.markSucceeded step now)

def markStepFailed (item : PushItem) (index : Nat) (step : ActionStep) (error : AppError)
    (now : String) : PushItem :=
  item.modifyStepState index (·.markFailed step error now)

def markStepRemoteOutcomeUnknown (item : PushItem) (index : Nat) (step : ActionStep)
    (error : Option AppError) (now : String) : PushItem :=
  item.modifyStepState index (·.markRemoteOutcomeUnknown step error now)

end PushItem
end AgentFirstMail
