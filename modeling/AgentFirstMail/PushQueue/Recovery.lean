import AgentFirstMail.PushQueue.Push

namespace AgentFirstMail
open Effect Command

inductive SendSettlement where
  | sent | notSent
deriving DecidableEq

def pushRecoveryUnsupported : AppError :=
  { errorCode := "push_recovery_unsupported"
    message := ("recovery requires an uncertain first Drafts APPEND with every later step " ++
      "unstarted, or an uncertain send step with every earlier step succeeded and every later " ++
      "step unstarted") }

def isSendLabel (label : String) : Bool :=
  label == "smtp_send" || label == "cloudflare_send" || label == "file_send"

/-- What is known of an uncertain send besides its step. -/
inductive SendEvidence where
  | email (envelopeFrom : String) (envelopeTo : List String)
  | file (route : ReplyRoute) (outputConfirmed : Bool)
deriving DecidableEq

def SendEvidence.outputConfirmed : SendEvidence → Bool
  | email .. => false
  | file _ outputConfirmed => outputConfirmed

/-- What a person confirms: the queue record and the evidence shown with it. -/
structure RecoveryPlan where
  workspaceUid : String
  item : PushItem
  send : Option SendEvidence := none
  folders : List (String × Option RemoteLocation) := []
deriving DecidableEq

def recoveryPlanChanged : AppError :=
  { errorCode := "push_recovery_plan_changed"
    message := "the confirmed recovery plan does not match the current push item and evidence"
    details := some { remoteCallsStarted := some false } }

def settlementRequired : AppError :=
  { errorCode := "push_recovery_settlement_required"
    message := "settling an uncertain send requires --sent or --not-sent" }

def sentEvidenceFound : AppError :=
  { errorCode := "push_recovery_sent_evidence_found"
    message := "the file output for this send exists with the exact content; it was published" }

def settledAsSent : String := "settled as sent by a person through push recover"

def settledAsNotSent : String :=
  "settled as not sent by a person through push recover; sending requires a newly confirmed " ++
    "push plan"

def noCopyFound : String :=
  "explicit recovery found no Drafts or Sent copy; APPEND may be retried"

def PushStepState.unstarted (state : PushStepState) : Bool :=
  state.status == .pending && state.startedRfc3339.isNone && state.completedRfc3339.isNone

/-- Every step before the uncertain one succeeded and every later one is unstarted. -/
def onlyUncertain (states : List PushStepState) (unknown : Nat) : Bool :=
  states.zipIdx.all fun entry =>
    entry.1.index == entry.2 &&
      (!(entry.2 < unknown) || entry.1.status == .succeeded) &&
      (!(unknown < entry.2) || entry.1.unstarted)

def firstUnknown (item : PushItem) : Option Nat :=
  item.stepStates.findIdx? (·.status == .remoteOutcomeUnknown)

def auditAndWrite (context : PushExecutionContext) (kind : String) (item : PushItem) :
    Command Unit := do
  match item.draft with
  | none => Program.fail pushRecoveryUnsupported
  | some draft =>
    appendAuditEvent context.host kind [("push", item.pushId), ("case", draft.caseUid)] none
    saveItem fun _ => item
    refreshOutboundPushViews context

/-- The uncertain send step of an item, with the item as it is planned today. -/
def uncertainSend (context : PushExecutionContext) (w : Workspace) (original : PushItem) :
    Result (PushItem × Nat × ActionStep) := do
  match firstUnknown original with
  | none => throw pushRecoveryUnsupported
  | some unknown =>
    ensure (original.draft.isSome && original.localStage.isNone && original.auditPending.isNone &&
      onlyUncertain original.stepStates unknown) pushRecoveryUnsupported
    match ← planItem context w original with
    | none => throw pushRecoveryUnsupported
    | some item =>
      match item.outbound with
      | none => throw pushRecoveryUnsupported
      | some outbound =>
        match outbound.steps[unknown]?, item.stepStates[unknown]? with
        | some step, some state =>
          ensure (item.stepStates.length == outbound.steps.length && outbound.action == .send &&
            step.isSend && step.label == state.label) pushRecoveryUnsupported
          return (item, unknown, step)
        | _, _ => throw pushRecoveryUnsupported

/-- A file channel is asked whether its outbox still shows what it published. -/
def sendEvidence (prepared : PreparedOutbound) : Command SendEvidence :=
  match prepared.delivery with
  | .email email => return .email email.envelopeFrom email.envelopeTo
  | .file route => do
    let outputConfirmed ← perform (.outputConfirmed prepared)
    return .file route outputConfirmed

def settleSend (context : PushExecutionContext) (item : PushItem) (unknown : Nat)
    (step : ActionStep) : SendSettlement → PushItem
  | .sent => (item.markStepSucceeded unknown step context.host.now).modifyStepState unknown
      fun state => { state with resultSummary := some settledAsSent }
  | .notSent => item.modifyStepState unknown (·.markRecoveredPending settledAsNotSent)

structure SendReview where
  plan : RecoveryPlan
  item : PushItem
  unknown : Nat
  step : ActionStep
  evidence : SendEvidence

def reviewSend (context : PushExecutionContext) (original : PushItem) : Command SendReview := do
  let w ← workspace
  let (item, unknown, step) ← Program.ofExcept (uncertainSend context w original)
  let prepared ← Program.ofExcept (prepareCurrentOutbound context w item)
  let evidence ← sendEvidence prepared
  let plan : RecoveryPlan :=
    { workspaceUid := w.workspaceUid, item := original, send := some evidence }
  return { plan, item, unknown, step, evidence }

/-- A person settles an uncertain send; `none` shows the plan without changing anything. -/
def recoverSend (context : PushExecutionContext) (original : PushItem)
    (confirmed : Option RecoveryPlan) (settle : Option SendSettlement) :
    Command RecoveryPlan := do
  let review ← reviewSend context original
  match confirmed, settle with
  | none, _ => return review.plan
  | some _, none => Program.fail settlementRequired
  | some confirmed, some settle =>
    Program.ofExcept (ensure (confirmed = review.plan) recoveryPlanChanged)
    Program.ofExcept (ensure (!(settle = .notSent && review.evidence.outputConfirmed))
      sentEvidenceFound)
    auditAndWrite context "push_recovery_settled"
      { settleSend context review.item review.unknown review.step settle with
        updatedRfc3339 := context.host.now, lastError := none }
    return review.plan

def recoveryMailboxesInvalid : AppError :=
  { errorCode := "push_recovery_mailboxes_invalid"
    message := "recovery requires distinct resolved Drafts and Sent mailboxes" }

def sentCopyFound : AppError :=
  { errorCode := "push_recovery_sent_copy_found"
    message := "a Sent copy exists; inspect delivery before recovering this push" }

/-- Only the adapter's explicit zero-result condition is absence. -/
def lookupMessage (host : Host) (folder rfc822MessageId : String) :
    Command (Option RemoteLocation) := do
  let reply ← ask (.findByMessageId folder rfc822MessageId)
  match reply with
  | .ok found => return found.map fun uid => clientLocation folder uid.uidValidity uid.uid host.now
  | .error error =>
    if error.errorCode = "imap_uid_missing" then return none else Program.fail error

def lookupFolders (host : Host) (rfc822MessageId : String) :
    List String → Command (List (String × Option RemoteLocation))
  | [] => return []
  | folder :: rest => do
    let location ← lookupMessage host folder rfc822MessageId
    let others ← lookupFolders host rfc822MessageId rest
    return (folder, location) :: others

def remoteFolders (config : MailConfig) : List String → Command (List String)
  | [] => return []
  | mailboxId :: rest => do
    let folder ← remoteMailboxFolder config mailboxId
    let folders ← remoteFolders config rest
    return folder :: folders

/-- Only the first of the states is uncertain, and no later one was started. -/
def firstUncertain (states : List PushStepState) : Bool :=
  (states.head?.any (·.status == .remoteOutcomeUnknown)) && onlyUncertain states 0

/-- The uncertain first append of a draft, with the item as it is planned today. -/
def uncertainDraftsAppend (context : PushExecutionContext) (w : Workspace)
    (original : PushItem) : Result (PushItem × String × ActionStep) := do
  ensure (original.draft.isSome && original.localStage.isNone && original.auditPending.isNone &&
    firstUncertain original.stepStates) pushRecoveryUnsupported
  match ← planItem context w original with
  | none => throw pushRecoveryUnsupported
  | some item =>
    match item.outbound with
    | none => throw pushRecoveryUnsupported
    | some outbound =>
      match outbound.steps with
      | [] => throw pushRecoveryUnsupported
      | first :: later =>
        match first.appendToMailboxId with
        | none => throw pushRecoveryUnsupported
        | some mailboxId =>
          ensure (item.stepStates.length == outbound.steps.length && outbound.action == .send &&
            outbound.draftUid.isNone && outbound.draftUidValidity.isNone &&
            mailboxIsKind context.config mailboxId .drafts && !first.isSend &&
            first.moveToMailboxId.isNone && first.addFlags.isEmpty &&
            later.any (·.isSend)) pushRecoveryUnsupported
          return (item, mailboxId, first)

def settleDraftsAppend (context : PushExecutionContext) (item : PushItem) (first : ActionStep)
    (found : Bool) : PushItem :=
  if found then item.markStepSucceeded 0 first context.host.now
  else item.modifyStepState 0 (·.markRecoveredPending noCopyFound)

structure AppendReview where
  plan : RecoveryPlan
  item : PushItem
  first : ActionStep
  found : Bool

/-- Looks for a copy in the drafts folder and in every sent folder. -/
def reviewDraftsAppend (context : PushExecutionContext) (original : PushItem) :
    Command AppendReview := do
  let w ← workspace
  let (item, mailboxId, first) ←
    Program.ofExcept (uncertainDraftsAppend context w original)
  let rfc822MessageId := outboundRfc822MessageId item
  let draftsFolder ← remoteMailboxFolder context.config mailboxId
  let sentIds := context.config.mailboxIds.filter (mailboxIsKind context.config · .sent)
  let sentFolders ← remoteFolders context.config sentIds
  let sentFolders := dedupAdjacent (sentFolders.insertionSort (· ≤ ·))
  Program.ofExcept (ensure (!sentFolders.isEmpty && !sentFolders.contains draftsFolder)
    recoveryMailboxesInvalid)
  let draftLocation ← lookupMessage context.host draftsFolder rfc822MessageId
  let sent ← lookupFolders context.host rfc822MessageId sentFolders
  Program.ofExcept (ensure (sent.all (·.2.isNone)) sentCopyFound)
  let plan : RecoveryPlan :=
    { workspaceUid := w.workspaceUid, item := original
      folders := (draftsFolder, draftLocation) :: sent }
  return { plan, item, first, found := draftLocation.isSome }

def recoverDraftsAppend (context : PushExecutionContext) (original : PushItem)
    (confirmed : Option RecoveryPlan) : Command RecoveryPlan := do
  let review ← reviewDraftsAppend context original
  match confirmed with
  | none => return review.plan
  | some confirmed =>
    Program.ofExcept (ensure (confirmed = review.plan) recoveryPlanChanged)
    auditAndWrite context "push_recovery_checked"
      { settleDraftsAppend context review.item review.first review.found with
        updatedRfc3339 := context.host.now, lastError := none }
    return review.plan

def pushNotFound : AppError :=
  { errorCode := "push_not_found", message := "queued push item was not found" }

def settlementUnsupported : AppError :=
  { errorCode := "push_recovery_settlement_unsupported"
    message := "--sent and --not-sent apply only to an uncertain send step" }

def PushItem.uncertainSend (item : PushItem) : Bool :=
  (item.stepStates.find? (·.status == .remoteOutcomeUnknown)).any fun state =>
    isSendLabel state.label

def recoverItem (context : PushExecutionContext) (item : PushItem)
    (confirmed : Option RecoveryPlan) (settle : Option SendSettlement) : Command RecoveryPlan :=
  if item.uncertainSend then recoverSend context item confirmed settle
  else do
    Program.ofExcept (ensure settle.isNone settlementUnsupported)
    recoverDraftsAppend context item confirmed

/-- Settles an item whose send or first append has an unknown outcome. -/
def recover (host : Host) (pushId : String) (confirmed : Option RecoveryPlan)
    (settle : Option SendSettlement) : Command RecoveryPlan := do
  let w ← workspace
  let config ← Program.ofExcept (loadConfig w)
  match w.readItems.find? (·.pushId == pushId) with
  | none => Program.fail pushNotFound
  | some item => recoverItem ⟨host, config⟩ item confirmed settle

end AgentFirstMail
