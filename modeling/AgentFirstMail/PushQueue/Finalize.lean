import AgentFirstMail.PushQueue.Tracked

namespace AgentFirstMail
open Effect Command

namespace Workspace

def alterCase (w : Workspace) (caseUid : String) (change : CaseRecord → CaseRecord) : Workspace :=
  { w with cases := w.cases.alter caseUid (·.map change) }

theorem alterCase_get {w : Workspace} {change : CaseRecord → CaseRecord}
    (hget : w.cases[caseUid]? = some case_) :
    (w.alterCase caseUid change).cases[caseUid]? = some (change case_) := by
  unfold alterCase
  rw [Std.ExtTreeMap.getElem?_alter_self, hget]
  rfl

theorem alterCase_get_eq_some {w : Workspace} {change : CaseRecord → CaseRecord}
    {caseUid other : String} :
    (w.alterCase caseUid change).cases[other]? = some changed ↔ ∃ case_,
      w.cases[other]? = some case_ ∧ changed = if other = caseUid then change case_ else case_ := by
  unfold alterCase
  rw [Std.ExtTreeMap.getElem?_alter]
  split
  · rename_i heq
    rw [Std.LawfulEqCmp.compare_eq_iff_eq] at heq
    subst heq
    rw [Option.map_eq_some_iff]
    simp [eq_comm]
  · rename_i hne
    rw [Std.LawfulEqCmp.compare_eq_iff_eq] at hne
    have hne : other ≠ caseUid := fun heq => hne heq.symm
    simp [hne]

/-- The evidence of a message that was sent, with what is read out of it. -/
def writeSentEvidence (w : Workspace) (messageId : String) (raw : Bytes)
    (rfc822MessageId : Option String) : Workspace :=
  { w with
    messages := w.messages.alter messageId fun record =>
      some { (record.getD {}) with eml := some raw, rfc822MessageId, direction := some "outbound" } }

/-- The metadata of a message that was sent: it is recorded at no place yet. -/
def writeSentMetadata (w : Workspace) (messageId : String) : Workspace :=
  { w with
    messages := w.messages.alter messageId fun record =>
      let record := record.getD {}
      some { record with metadata := some { record.metadata.getD {} with remote := none } } }

end Workspace

def messageIdConflict (messageId : String) : AppError :=
  { errorCode := "message_id_conflict"
    message := s!"sent message id already belongs to different local content: {messageId}" }

/-- Writes sent evidence once: the same bytes are left alone, other bytes are a conflict. -/
def writeEvidenceOnce (messageId : String) (raw : Bytes) (rfc822MessageId : Option String) :
    Command Unit := do
  let w ← workspace
  match w.messages[messageId]?.bind (·.eml) with
  | some existing => Program.ofExcept (ensure (existing == raw) (messageIdConflict messageId))
  | none => writeWorkspace (·.writeSentEvidence messageId raw rfc822MessageId)

def appendSentMessageToCase (context : PushExecutionContext) (caseUid : String)
    (prepared : PreparedOutbound) : Command Unit := do
  let w ← workspace
  let _ ← Program.ofExcept (w.findCase caseUid)
  writeWorkspace (·.alterCase caseUid fun case_ =>
    { case_ with
      members := case_.members.upsertItem prepared.messageId
        (context.host.sentSubject prepared.raw) context.host.now })

/-- Records an email that was sent: its evidence, its metadata, its place in the case. -/
def markSentAndAppendCase (context : PushExecutionContext) (caseUid : String)
    (prepared : PreparedOutbound) : Command Unit := do
  let w ← workspace
  let record := w.messages[prepared.messageId]?
  Program.ofExcept (ensure (record.all (·.eml.isSome)) (messageIdConflict prepared.messageId))
  writeEvidenceOnce prepared.messageId prepared.raw (some s!"<{prepared.messageId}@afmail.local>")
  writeWorkspace (·.writeSentMetadata prepared.messageId)
  appendSentMessageToCase context caseUid prepared

/-- Records a message that went out through a file channel. -/
def recordSent (context : PushExecutionContext) (caseUid : String)
    (prepared : PreparedOutbound) : Command Unit := do
  writeWorkspace (·.writeSentMetadata prepared.messageId)
  writeEvidenceOnce prepared.messageId prepared.raw none
  writeWorkspace (·.writeSentMetadata prepared.messageId)
  appendSentMessageToCase context caseUid prepared

def recordOutboundAfterPush (context : PushExecutionContext) : Command Unit := do
  let item ← currentItem
  let w ← workspace
  match item.outbound with
  | none => return ()
  | some outbound =>
    let _ ← Program.ofExcept (w.resolveCaseAny outbound.caseUid)
    if outbound.action = .send then
      let prepared ← Program.ofExcept (match item.plannedOutboundMessage with
        | some prepared => .ok prepared
        | none => prepareOutbound context.host w outbound.draft (messageIdForPush item.pushId)
            item.createdRfc3339)
      if prepared.isFile then recordSent context outbound.caseUid prepared
      else markSentAndAppendCase context outbound.caseUid prepared
    else return ()

def OutboundAction.finishedEvent : OutboundAction → String
  | saveDraft => "draft_saved_remote"
  | send => "draft_sent"

def draftStateInvalid (case_ : CaseRecord) : AppError :=
  let tree := if case_.archivedDir then "archived-cases" else "cases"
  { errorCode := "draft_state_invalid"
    message := s!"invalid draft state schema: {tree}/{case_.group}/{case_.dirName}/data/drafts.json" }

/-- What `data/drafts.json` says of the drafts of a case; nothing where there is no file. -/
def CaseRecord.readDraftState (case_ : CaseRecord) : Result (Std.ExtTreeMap String String) :=
  match case_.draftStateIssue with
  | some .notText => .error (storeError "read draft state: stream did not contain valid UTF-8")
  | some (.notJson message) => .error (storeError s!"parse draft state: {message}")
  | some .otherSchema => .error (draftStateInvalid case_)
  | none => .ok case_.draftStates

def Workspace.readDraftState (w : Workspace) (caseUid : String) :
    Result (Std.ExtTreeMap String String) := do
  let case_ ← w.findCase caseUid
  case_.readDraftState

def removeDraftFile (outbound : OutboundPush) (case_ : CaseRecord) : Command Unit :=
  if outbound.draftName ∈ case_.drafts then
    writeWorkspace (·.alterCase outbound.caseUid fun case_ =>
      { case_ with drafts := case_.drafts.erase outbound.draftName })
  else return ()

def removeOutboundDraftAfterPush (context : PushExecutionContext) : Command Unit := do
  let item ← currentItem
  let w ← workspace
  match item.outbound with
  | none => return ()
  | some outbound =>
    let case_ ← Program.ofExcept (w.resolveCaseAny outbound.caseUid)
    removeDraftFile outbound case_
    let _ ← Program.ofExcept case_.readDraftState
    writeWorkspace (·.alterCase outbound.caseUid fun case_ =>
      { case_ with draftStates := case_.draftStates.erase outbound.draftName })
    appendAuditEvent context.host outbound.action.finishedEvent [("case", outbound.caseUid)] none

def refreshOutboundPushViews (context : PushExecutionContext) : Command Unit := do
  let item ← currentItem
  let w ← workspace
  match item.outbound with
  | none => return ()
  | some outbound =>
    let _ ← Program.ofExcept (w.resolveCaseAny outbound.caseUid)
    Program.ofExcept (context.host.renderCaseViews w outbound.caseUid)

def advanceLocalStage (context : PushExecutionContext) (stage : PushLocalStage) :
    Command Unit := do
  let item ← currentItem
  if item.localStageAtLeast stage then return ()
  else saveItem fun item =>
    { item with localStage := some stage, updatedRfc3339 := context.host.now }

/-- The first local stage of a draft: what was sent is recorded. -/
def recordOutboundStage (context : PushExecutionContext) : Command Unit := do
  let item ← currentItem
  if item.localStageAtLeast .outboundRecorded then return ()
  else
    recordOutboundAfterPush context
    advanceLocalStage context .outboundRecorded
    refreshOutboundPushViews context

def removeDraftStage (context : PushExecutionContext) : Command Unit := do
  let item ← currentItem
  if item.localStageAtLeast .draftRemoved then return ()
  else
    removeOutboundDraftAfterPush context
    advanceLocalStage context .draftRemoved
    refreshOutboundPushViews context

def finalizeOutbound (context : PushExecutionContext) : Command Unit := do
  let item ← currentItem
  if item.outbound.isSome then
    recordOutboundStage context
    removeDraftStage context
  else return ()

def clearPendingStage (context : PushExecutionContext) : Command Unit := do
  let item ← currentItem
  if item.localStageAtLeast .pendingCleared then return ()
  else
    let w ← workspace
    Program.ofExcept (context.host.clearPendingCache w item.messageIds)
    advanceLocalStage context .pendingCleared
    refreshMessagePushViews context item.messageIds

/-- The identity of the event that is going to report the item. -/
def auditPendingOf (item : PushItem) (eventId now : String) : PushAuditPending :=
  { eventId, createdRfc3339 := now, pushKind := item.displayKind
    caseUid := item.outbound.map (·.caseUid), draftName := item.outbound.map (·.draftName)
    action := item.outbound.map (·.action.asStr), messageIds := item.messageIds
    succeededStepCount := item.succeededStepCount, attemptCount := item.attemptCount }

/-- Gives the item the identity its report is going to have, in memory. -/
def assignAuditPending (context : PushExecutionContext) : Command Unit := do
  let item ← currentItem
  if item.auditPending.isSome then return ()
  else
    let eventId ← perform .newEventId
    modifyItem fun item => { item with
      auditPending := some (auditPendingOf item eventId context.host.now) }

def preparePushAuditPending (context : PushExecutionContext) : Command Unit := do
  assignAuditPending context
  advanceLocalStage context .auditPending

def finalizePushedItem (context : PushExecutionContext) : Command Unit := do
  advanceLocalStage context .remoteSucceeded
  finalizeOutbound context
  clearPendingStage context
  preparePushAuditPending context

namespace Workspace

/-- The first message with a queued archive push ends the search. -/
def anyPendingNotification (w : Workspace) : List String → Result Bool
  | [] => .ok false
  | messageId :: rest => do
    let message ← w.readMessageById messageId
    if message.pending.any (·.kind == "message.notification") then return true
    else w.anyPendingNotification rest

/-- Whether the queue still has work that keeps a case from being archived. -/
def caseHasPendingArchiveWork (w : Workspace) (caseUid : String) (messageIds : List String) :
    Result Bool :=
  if w.readItems.any fun item => item.draft.any (·.caseUid == caseUid) then .ok true
  else w.anyPendingNotification messageIds

end Workspace

/-- The case file of an archived case. -/
def updateCaseArchiveState (now : String) (case_ : CaseRecord) : CaseRecord :=
  { case_ with status := match case_.status with
      | .archived archivedRfc3339 => .archived archivedRfc3339
      | _ => .archived now }

def finalizeArchivingCase (context : PushExecutionContext) (caseUid : String) :
    Command Unit := do
  let w ← workspace
  let case_ ← Program.ofExcept (w.findCase caseUid)
  if case_.status = .archiving then
    let pending ← Program.ofExcept (w.caseHasPendingArchiveWork caseUid case_.members.messageIds)
    if !pending then
      writeWorkspace (·.alterCase caseUid (updateCaseArchiveState context.host.now))
      appendAuditEvent context.host "case_archived" [("case", caseUid)] none

def finalizeArchivingCases (context : PushExecutionContext) : Command Unit := do
  let w ← workspace
  Program.forEach (w.archivedCaseEntries.map (·.1)) (finalizeArchivingCase context)

end AgentFirstMail
