import AgentFirstMail.Effect.Conformance
import AgentFirstMail.PushQueue.Push

namespace AgentFirstMail
open Effect

/-- How far an item is in what it is doing. `attempting` has applied nothing that is not
recorded yet, `moving` knows where the server put a message before the workspace does, and
after `applied` only success or an unknown outcome is left. `named` and `assigned` lead to the
item's audit identity, and `recording` has an audit record without its newline. -/
inductive Attempt where
  | resting
  | attempting (index : Nat) (armed : Bool)
  | moving (index : Nat) (source : PushLocation) (target : RemoteLocation)
  | applied (index : Nat)
  | named (eventId : String)
  | assigned
  | recording
deriving DecidableEq

namespace Attempt

/-- The step that an attempt belongs to. -/
def index? : Attempt → Option Nat
  | attempting index _ | moving index _ _ | applied index => some index
  | resting | named _ | assigned | recording => none

/-- Whether the step's unknown outcome is on disk. -/
def isArmed : Attempt → Bool
  | attempting _ armed => armed
  | moving .. | applied _ => true
  | resting | named _ | assigned | recording => false

/-- Where an answered move takes its attempt. -/
def afterMove (host : Host) (index : Nat) (source : PushLocation) (target : String) :
    Option (Except AppError (Option RemoteUid)) → Attempt
  | some (.ok (some uid)) =>
    moving index source (clientLocation target uid.uidValidity uid.uid host.now)
  | some (.error error) =>
    if remoteEffectNotApplied error then attempting index true else applied index
  | _ => applied index

end Attempt

namespace RemoteEvent

/-- A call after which its step may be tried again: the error says that nothing was applied,
or a send reached no recipient. -/
def notApplied (event : RemoteEvent) : Bool :=
  match event with
  | ⟨_, _, some (.error error)⟩ => remoteEffectNotApplied error
  | ⟨.sendCloudflareRawMessage _ _, _, some (.ok receipt)⟩ => !receipt.accepted
  | _ => false

/-- The code of the error that answered a request. -/
def errorCode? (event : RemoteEvent) : Option String :=
  match event.reply with
  | some (.error error) => some error.errorCode
  | _ => none

/-- The id that an answered request for one names. -/
def newEventId? (event : RemoteEvent) : Option String :=
  match event with
  | ⟨.newEventId, _, some (.ok eventId)⟩ => some eventId
  | _ => none

end RemoteEvent

/-- The request that moves a place of the item's current step. -/
def moveRequest (pushId : String) (index : Nat) (source : PushLocation) (target : String)
    (rfc822MessageId : Option String) : Request :=
  .moveMessage ⟨pushId, index, .location source⟩ source.mailboxName source.uidValidity source.uid
    target rfc822MessageId

/-- A planned unit that is no place of a message. -/
def EffectUnit.isWhole : EffectUnit → Bool
  | outbound | message _ => true
  | location _ => false

/-- The folder that a mailbox id resolves to is known. -/
def Process.FolderCached (m : Process) (config : MailConfig) (mailboxId folder : String) : Prop :=
  ∃ mailbox boxes, config.mailbox mailboxId = .ok mailbox ∧ m.mailboxes = some boxes ∧
    resolveConfiguredMailbox mailboxId mailbox boxes = .ok folder

/-- What a request asks for is what a step says: its flags, the folder of the mailbox it moves or
appends to, or its way of sending. -/
def Request.CarriesOut (config : MailConfig) (m : Process) (step : ActionStep) : Request → Prop
  | .addFlags _ _ _ flags => flags = step.addFlags
  | .moveMessage _ _ _ _ target _ => ∃ mailboxId,
      step.moveToMailboxId = some mailboxId ∧ m.FolderCached config mailboxId target
  | .appendMessage _ folder _ _ => ∃ mailboxId,
      step.appendToMailboxId = some mailboxId ∧ m.FolderCached config mailboxId folder
  | .publish .. => step.fileSend.isSome
  | .sendCloudflareRawMessage .. => step.cloudflareSend.isSome
  | .sendRawMessage .. => step.smtpSend.isSome
  | _ => True

def legacyMoveErrorCode : String := "rfc822_message_id_missing"

/-- The queue record of the item that a process holds. -/
def Process.record? (process : Process) : Option PushItem :=
  process.workspace.pushItems[process.item.pushId]?

/-- The steps an item is resolved to: the planned ones, or those a draft without planned
steps is found to have. -/
inductive PushItem.ResolvesTo (config : MailConfig) (w : Workspace) (item : PushItem)
    (steps : List ActionStep) : Prop
  | message (action : MessageActionPush) :
      item.kind = "message" → item.messageAction = some action → action.steps = steps →
      ResolvesTo config w item steps
  | draft (outbound : OutboundPush) :
      item.kind = "draft" → item.outbound = some outbound → item.localStage = none →
      outbound.steps = steps →
      ResolvesTo config w item steps
  | refiltered (outbound : OutboundPush) :
      item.kind = "draft" → item.outbound = some outbound → item.localStage = none →
      outbound.steps = [] →
      filterReplyToSteps w outbound (configuredOutboundSteps config outbound.action) = .ok steps →
      ResolvesTo config w item steps

/-- The message of a draft that was sent is being recorded. -/
structure Process.Recording (process : Process) (prepared : PreparedOutbound) : Prop where
  send : ∃ outbound, process.item.outbound = some outbound ∧ outbound.action = .send
  messageId : prepared.messageId = messageIdForPush process.item.pushId
  reached : process.item.localStageAtLeast .remoteSucceeded = true
  before : process.item.localStageAtLeast .outboundRecorded = false

/-- The sent message of an outbound item has its evidence and its place in the case. -/
structure Workspace.RecordsSent (w : Workspace) (pushId caseUid : String) : Prop where
  evidence : ∃ record, w.messages[messageIdForPush pushId]? = some record ∧ record.eml.isSome
  member : ∃ case_, w.cases[caseUid]? = some case_ ∧ messageIdForPush pushId ∈ case_.members

/-- What has to be true before a local stage is written. -/
def StageReady (steps : Option (List ActionStep)) (attempt : Attempt) (process : Process) :
    PushLocalStage → Prop
  | .remoteSucceeded => attempt = .resting ∧ steps.isSome ∧
      ∀ state ∈ process.item.stepStates, state.status = .succeeded
  | .outboundRecorded => attempt = .resting ∧ process.item.localStage.isSome ∧ ∃ outbound,
      process.item.outbound = some outbound ∧
        (outbound.action = .send →
          process.workspace.RecordsSent process.item.pushId outbound.caseUid)
  | .draftRemoved =>
      attempt = .resting ∧ process.item.localStageAtLeast .outboundRecorded = true
  | .pendingCleared => attempt = .resting ∧ process.item.localStage.isSome ∧
      (process.item.outbound.isSome → process.item.localStageAtLeast .draftRemoved = true)
  | .auditPending => attempt = .assigned

variable (context : PushExecutionContext)

/-- One write, call or change in memory while an item is served: the steps it runs once they
are resolved, its attempt, the requests so far and the process. -/
inductive ItemTransition :
    Option (List ActionStep) → Attempt → List RemoteEvent → Process →
    Option (List ActionStep) → Attempt → List RemoteEvent → Process → Prop
  | ask (event : RemoteEvent) :
      event.request.site? = none → event.request.setsFlags = false →
      RemoteEvent.newEventId? event = none → event.state = m →
      ItemTransition steps attempt h m steps attempt (h ++ [event]) m
  | cache (mailboxes : Option (List MailboxInfo)) :
      ItemTransition steps attempt h m steps attempt h { m with mailboxes }
  | resolve (resolved : List ActionStep) :
      m.item.auditPending = none → m.item.ResolvesTo context.config m.workspace resolved →
      ItemTransition none .resting h m
        (some resolved) .resting h (m.onItem (·.ensureStepStates resolved))
  | begin (index : Nat) (step : ActionStep) :
      steps[index]? = some step → (∀ earlier < index, m.item.stepSucceeded earlier = true) →
      m.item.stepSucceeded index = false → m.item.stepRemoteOutcomeUnknown index = false →
      ItemTransition (some steps) .resting h m (some steps) (.attempting index false) h
        (m.save (·.markStepPending index step context.host.now))
  | resetLegacy (index : Nat) (step : ActionStep) :
      steps[index]? = some step → (∀ earlier < index, m.item.stepSucceeded earlier = true) →
      m.item.stepRemoteOutcomeUnknown index = true →
      m.item.legacyMoveMessageIdPreflightFailed index step = true →
      ItemTransition (some steps) .resting h m (some steps) .resting h
        (m.save fun item =>
          { item.markStepPending index step context.host.now with lastError := none })
  | arm (index : Nat) (step : ActionStep) :
      steps[index]? = some step →
      ItemTransition (some steps) (.attempting index armed) h m
        (some steps) (.attempting index true) h
        (m.save fun item =>
          { item.markStepRemoteOutcomeUnknown index step none context.host.now with
            updatedRfc3339 := context.host.now, lastError := none })
  | setFlags (index : Nat) (step : ActionStep) (place : PushLocation)
      (reply : Option (Except AppError Unit)) :
      steps[index]? = some step → step.addFlags ≠ [] →
      (place ∈ m.item.locations ∨
        ∃ location ∈ m.workspace.remoteLocations place.messageId,
          location.matchesPush place = true) →
      ItemTransition (some steps) (.attempting index armed) h m
        (some steps) (.attempting index armed)
        (h ++ [⟨.addFlags place.mailboxName place.uidValidity place.uid step.addFlags, m, reply⟩]) m
  | call (index : Nat) (step : ActionStep) (unit : EffectUnit) (event : RemoteEvent) :
      event.state = m → event.request.site? = some ⟨m.item.pushId, index, unit⟩ →
      unit.isWhole = true → steps[index]? = some step →
      event.request.CarriesOut context.config m step →
      ItemTransition (some steps) (.attempting index true) h m (some steps)
        (if RemoteEvent.notApplied event then .attempting index true else .applied index)
        (h ++ [event]) m
  | move (index : Nat) (step : ActionStep) (mailboxId : String) (source : PushLocation)
      (target : String) (rfc822MessageId : Option String)
      (reply : Option (Except AppError (Option RemoteUid))) :
      steps[index]? = some step → step.moveToMailboxId = some mailboxId →
      m.FolderCached context.config mailboxId target →
      source.messageId ∈ m.item.messageIds →
      source.mailboxName ≠ target →
      alreadyMoved (m.workspace.activeLocations source.messageId) source target = false →
      ItemTransition (some steps) (.attempting index true) h m
        (some steps) (.afterMove context.host index source target reply)
        (h ++ [⟨moveRequest m.item.pushId index source target rfc822MessageId, m, reply⟩]) m
  | relocate (index : Nat) (source : PushLocation) (target : RemoteLocation)
      (locations : List RemoteLocation) :
      (∀ location ∈ locations, location.isActive = true) →
      SamePlaces locations
        (addTarget target (removeSource source (m.workspace.activeLocations source.messageId))) →
      ItemTransition (some steps) (.moving index source target) h m
        (some steps) (.attempting index true) h
        (m.onWorkspace (·.setMessageRemote source.messageId locations))
  | flags (index : Nat) (step : ActionStep) (place : PushLocation) (flags : List String) :
      steps[index]? = some step → step.addFlags ≠ [] →
      (place ∈ m.item.locations ∨
        ∃ location ∈ m.workspace.remoteLocations place.messageId,
          location.matchesPush place = true) →
      ItemTransition (some steps) (.attempting index armed) h m
        (some steps) (.attempting index armed) h
        (m.onWorkspace (·.setMessageRemote place.messageId
          (addFlagsAt context.host.now place flags
            (m.workspace.remoteLocations place.messageId))))
  | receipt (index : Nat) (step : ActionStep) (receipt : SendReceipt) :
      steps[index]? = some step → attempt.index? = some index →
      ItemTransition (some steps) attempt h m (some steps) attempt h
        (m.onItem (·.modifyStepState index fun state =>
          { state with sendReceipt := some receipt }))
  | succeed (index : Nat) (step : ActionStep) :
      steps[index]? = some step → attempt.index? = some index →
      ItemTransition (some steps) attempt h m (some steps) .resting h
        (m.save fun item =>
          { item.markStepSucceeded index step context.host.now with
            updatedRfc3339 := context.host.now, lastError := none })
  | fail (index : Nat) (step : ActionStep) (error : AppError) :
      steps[index]? = some step →
      ItemTransition (some steps) (.attempting index armed) h m (some steps) .resting h
        (m.save fun item =>
          { item.markStepFailed index step error context.host.now with
            updatedRfc3339 := context.host.now, lastError := some error.toString })
  | failUnknown (index : Nat) (step : ActionStep) (error : AppError) :
      steps[index]? = some step → attempt.index? = some index →
      m.item.stepRemoteOutcomeUnknown index = true →
      (m.item.messageAction.isSome → error.errorCode = legacyMoveErrorCode →
        ∃ event ∈ h, RemoteEvent.errorCode? event = some legacyMoveErrorCode) →
      ItemTransition (some steps) attempt h m (some steps) .resting h
        (m.save fun item =>
          { item.markStepRemoteOutcomeUnknown index step (some error) context.host.now with
            updatedRfc3339 := context.host.now
            lastError := some (remoteOutcomeUnknownError step).toString })
  | recoverRelocate (index : Nat) (messageId : String) (locations : List RemoteLocation) :
      m.item.stepRemoteOutcomeUnknown index = true →
      messageId ∈ m.item.messageIds ++ m.item.locations.map (·.messageId) →
      ItemTransition (some steps) .resting h m (some steps) .resting h
        (m.onWorkspace (·.setMessageRemote messageId locations))
  | settle (index : Nat) (step : ActionStep) :
      steps[index]? = some step → m.item.stepRemoteOutcomeUnknown index = true →
      ItemTransition (some steps) .resting h m (some steps) .resting h
        (m.save fun item =>
          { item.markStepSucceeded index step context.host.now with
            updatedRfc3339 := context.host.now, lastError := none })
  | advance (stage : PushLocalStage) :
      m.item.localStageAtLeast stage = false → StageReady steps attempt m stage →
      ItemTransition steps attempt h m steps .resting h
        (m.save fun item =>
          { item with localStage := some stage, updatedRfc3339 := context.host.now })
  | writeEvidence (prepared : PreparedOutbound) (rfc822MessageId : Option String) :
      m.Recording prepared →
      m.workspace.messages[prepared.messageId]?.bind (·.eml) = none →
      ItemTransition steps .resting h m steps .resting h
        (m.onWorkspace (·.writeSentEvidence prepared.messageId prepared.raw rfc822MessageId))
  | writeMetadata (prepared : PreparedOutbound) :
      m.Recording prepared →
      ItemTransition steps .resting h m steps .resting h
        (m.onWorkspace (·.writeSentMetadata prepared.messageId))
  | appendToCase (prepared : PreparedOutbound) (caseUid : String) (summary : Option String) :
      m.Recording prepared →
      ItemTransition steps .resting h m steps .resting h
        (m.onWorkspace (·.alterCase caseUid fun case_ => { case_ with
          members := case_.members.upsertItem prepared.messageId summary context.host.now }))
  | removeDraft (outbound : OutboundPush) :
      m.item.outbound = some outbound → m.item.localStageAtLeast .outboundRecorded = true →
      ItemTransition steps .resting h m steps .resting h
        (m.onWorkspace (·.alterCase outbound.caseUid fun case_ =>
          { case_ with drafts := case_.drafts.erase outbound.draftName }))
  | removeDraftState (outbound : OutboundPush) :
      m.item.outbound = some outbound → m.item.localStageAtLeast .outboundRecorded = true →
      ItemTransition steps .resting h m steps .resting h
        (m.onWorkspace (·.alterCase outbound.caseUid fun case_ =>
          { case_ with draftStates := case_.draftStates.erase outbound.draftName }))
  | name (eventId : String) :
      ItemTransition steps .resting h m
        steps (.named eventId) (h ++ [⟨.newEventId, m, some (.ok eventId)⟩]) m
  | assignAudit (eventId : String) :
      m.item.auditPending = none → m.item.localStageAtLeast .pendingCleared = true →
      ItemTransition steps (.named eventId) h m steps .assigned h
        (m.onItem fun item =>
          { item with auditPending := some (auditPendingOf item eventId context.host.now) })
  | report (event : AuditEvent) :
      event.kind ≠ "push_succeeded" →
      ItemTransition steps (.named event.eventId) h m steps .recording h
        (m.onWorkspace (·.appendAuditRecord event))
  | reportSuccess (pending : PushAuditPending) (log : AuditLogRead) :
      m.item.auditPending = some pending →
      m.workspace.audit.read = .ok log → log.truncatedTail = false →
      (∀ event ∈ log.events, event.eventId ≠ pending.eventId) →
      ItemTransition steps .resting h m steps .recording h
        (m.onWorkspace (·.appendAuditRecord (succeededEvent m.item pending)))
  | newline :
      ItemTransition steps .recording h m steps .resting h (m.onWorkspace (·.appendAuditNewline))
  | delete (pending : PushAuditPending) :
      m.item.auditPending = some pending →
      (∃ event ∈ m.workspace.audit.events, event.eventId = pending.eventId) →
      ItemTransition steps .resting h m steps .resting h
        (m.onWorkspace (·.deleteItem m.item.pushId))
  | archiveCase (caseUid : String) (case_ : CaseRecord) :
      m.workspace.cases[caseUid]? = some case_ → case_.archivedDir = true →
      case_.status = .archiving →
      ItemTransition steps .resting h m steps .resting h
        (m.onWorkspace (·.alterCase caseUid (updateCaseArchiveState context.host.now)))
  | keepAudit (error : AppError) :
      m.item.auditPending.isSome →
      ItemTransition steps .resting h m steps .resting h
        (m.save fun item => { item with
          auditPending := item.auditPending.map fun pending =>
            { pending with lastError := some error.toString }
          lastError := some error.toString })
  | bookkeep (error : AppError) :
      m.item.auditPending = none →
      ItemTransition steps .resting h m steps .resting h
        (m.save fun item => { item with
          attemptCount := item.attemptCount + 1, updatedRfc3339 := context.host.now
          lastError := some error.toString })

/-- Where a push is: it reconciles the queue with its plan, or it serves one planned item
with others left, or it is between two. -/
inductive PushPhase where
  | idle
  | reconciling (items writes deletes : List PushItem)
  | between (remaining : List PushItem)
  | serving (steps : Option (List ActionStep)) (attempt : Attempt) (remaining : List PushItem)

abbrev PushPosition := Position PushPhase Process Request Request.Reply AppError

/-- One write, call or change in memory of a confirmed push. -/
inductive PushTransition : PushPosition → PushPosition → Prop
  | plan (planned : PlannedItems) :
      m.workspace.config = context.config → context.config.validate = .ok () →
      resolvePlannedItems context m.workspace = .ok planned →
      PushTransition ⟨.idle, h, m⟩ ⟨.reconciling planned.items planned.items planned.skipped, h, m⟩
  | reconcileWrite (item : PushItem) (writes : List PushItem) :
      PushTransition ⟨.reconciling items (item :: writes) deletes, h, m⟩
        ⟨.reconciling items writes deletes, h, m.onWorkspace (·.writeItem item)⟩
  | reconcileDelete (item : PushItem) (deletes : List PushItem) :
      PushTransition ⟨.reconciling items [] (item :: deletes), h, m⟩
        ⟨.reconciling items [] deletes, h, m.onWorkspace (·.deleteItem item.pushId)⟩
  | reconciled :
      PushTransition ⟨.reconciling items [] [], h, m⟩ ⟨.between items, h, m⟩
  | pick (item : PushItem) (remaining : List PushItem) :
      PushTransition ⟨.between (item :: remaining), h, m⟩
        ⟨.serving none .resting remaining, h, m.onItem fun _ => item⟩
  | serve :
      ItemTransition context steps attempt h m steps' attempt' h' m' →
      PushTransition ⟨.serving steps attempt remaining, h, m⟩
        ⟨.serving steps' attempt' remaining, h', m'⟩
  | finish (change : PushItem → PushItem) :
      m.record? = none →
      PushTransition ⟨.serving steps .resting remaining, h, m⟩
        ⟨.between remaining, h, m.onItem change⟩

end AgentFirstMail
