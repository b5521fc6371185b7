import AgentFirstMail.PushQueue.Draft

namespace AgentFirstMail
open Effect Command

def messagePushId (messageId : String) : String := s!"push_message_{messageId}"

def pushAlreadyStarted (message : String) : AppError :=
  { errorCode := "push_already_started", message }

namespace Workspace
variable (w : Workspace)

def findDraftItem (caseUid draftName : String) : Option PushItem :=
  w.readItems.find? fun item =>
    item.draft.any fun draft => draft.caseUid == caseUid && draft.draftName == draftName

def findMessageItem (messageId : String) : Option PushItem :=
  w.readItems.find? fun item => item.message.any (·.messageId == messageId)

/-- One past the highest number in the queue. -/
def nextEnqueueSeq : Nat := (w.readItems.map (·.enqueueSeq)).foldl max 0 + 1

end Workspace

/-- Whether queueing a draft again starts its progress over. -/
def validateOutboundRequeue (existing : Option PushItem)
    (previousAction : Option OutboundAction) (action : OutboundAction) : Result Bool :=
  match existing with
  | none => .ok false
  | some item =>
    if item.hasStartedEffects then
      .error (pushAlreadyStarted (s!"outbound push item already started and cannot be " ++
        s!"re-queued: {item.pushId}"))
    else .ok (previousAction != some action)

/-- The queue record of a draft: its identity survives, its progress only unless reset. -/
def outboundItem (now pushId : String) (enqueueSeq : Nat) (caseUid draftName : String)
    (existing : Option PushItem) (resetProgress : Bool) : PushItem :=
  let preserved := existing.filter fun _ => !resetProgress
  let draft := existing.bind (·.draft)
  { pushId, enqueueSeq
    payload := .draft { caseUid, draftName, draftUidValidity := draft.bind (·.draftUidValidity)
                        draftUid := draft.bind (·.draftUid) }
    createdRfc3339 := (preserved.map (·.createdRfc3339)).getD now, updatedRfc3339 := now
    attemptCount := (preserved.map (·.attemptCount)).getD 0
    stepStates := (preserved.map (·.stepStates)).getD []
    localStage := preserved.bind (·.localStage)
    auditPending := preserved.bind (·.auditPending) }

def pushIdGenerationFailed : AppError :=
  { errorCode := "push_id_generation_failed"
    message := "could not allocate a unique outbound push identity" }

/-- Draws random identities until one is free. -/
def newDraftPushId : Nat → Command String
  | 0 => Program.fail pushIdGenerationFailed
  | attempts + 1 => do
    let suffix ← perform .newDraftPushSuffix
    let w ← workspace
    let pushId := "push_draft_" ++ suffix
    if pushId ∈ w.pushItems then newDraftPushId attempts else return pushId

def existingOrNewPushId (existing : Option PushItem) : Command String :=
  match existing with
  | some item => return item.pushId
  | none => newDraftPushId 8

def queueOutbound (host : Host) (caseUid draftName : String) (action : OutboundAction)
    (previousAction : Option OutboundAction) : Command String := do
  let w ← workspace
  let existing := w.findDraftItem caseUid draftName
  let reset ← Program.ofExcept (validateOutboundRequeue existing previousAction action)
  let pushId ← existingOrNewPushId existing
  let enqueueSeq := (existing.map (·.enqueueSeq)).getD w.nextEnqueueSeq
  writeWorkspace
    (·.writeItem (outboundItem host.now pushId enqueueSeq caseUid draftName existing reset))
  return pushId

def ensureStartedActionUnchanged (existing : PushItem) (action : MessagePushAction) :
    Result Unit :=
  let previous := (existing.message.map (·.action.kind)).getD "unknown"
  ensure (!existing.hasStartedEffects) (pushAlreadyStarted
    (s!"message push item already started and cannot change action from {previous} to " ++
      s!"{action.kind}: {existing.pushId}"))

def actionChanged (existing : Option PushItem) (action : MessagePushAction) : Bool :=
  (existing.bind (·.message)).any (·.action != action)

/-- The queue record of a message action; the progress of another action is dropped. -/
def messageItem (now : String) (enqueueSeq : Nat) (messageId : String)
    (action : MessagePushAction) (existing : Option PushItem) : PushItem :=
  let preserved := existing.filter fun _ => !actionChanged existing action
  { pushId := messagePushId messageId, enqueueSeq
    payload := .message { messageId, action, messageActionSnapshot :=
      (preserved.bind (·.message)).bind (·.messageActionSnapshot) }
    createdRfc3339 := (preserved.map (·.createdRfc3339)).getD now, updatedRfc3339 := now
    attemptCount := (preserved.map (·.attemptCount)).getD 0
    stepStates := (preserved.map (·.stepStates)).getD []
    localStage := preserved.bind (·.localStage)
    auditPending := preserved.bind (·.auditPending)
    lastError := preserved.bind (·.lastError) }

def queueMessageItem (host : Host) (action : MessagePushAction) (messageId : String) :
    Command Unit := do
  let w ← workspace
  let existing := w.findMessageItem messageId
  if actionChanged existing action then
    Program.ofExcept (existing.toList.forM (ensureStartedActionUnchanged · action))
  let enqueueSeq := (existing.map (·.enqueueSeq)).getD w.nextEnqueueSeq
  writeWorkspace (·.writeItem (messageItem host.now enqueueSeq messageId action existing))

/-- Queues an action for each message that has a location; the ids it queued. -/
def queueActionSteps (host : Host) (action : MessagePushAction) (messageIds : List String)
    (locations : List PushLocation) (steps : List ActionStep) : Command (List String) :=
  if messageIds.isEmpty || steps.isEmpty || locations.isEmpty then return []
  else do
    let queued := messageIds.filter fun messageId => locations.any (·.messageId == messageId)
    Program.forEach queued (queueMessageItem host action)
    return queued.map messagePushId

/-- The queued items of an action that can still be taken back. -/
def removableMessagePushes (w : Workspace) (messageId : String) (action : MessagePushAction) :
    Result (List PushItem) :=
  let items := w.readItems.filter fun item =>
    item.message.any fun message => message.messageId == messageId && message.action == action
  match items.find? (·.hasStartedEffects) with
  | some item => .error (pushAlreadyStarted
      s!"push item already started and cannot be undone locally: {item.pushId}")
  | none => .ok items

def removePendingMessagePushes (messageId : String) (action : MessagePushAction) :
    Command (List String) := do
  let w ← workspace
  let items ← Program.ofExcept (removableMessagePushes w messageId action)
  Program.forEach items fun item => writeWorkspace (·.deleteItem item.pushId)
  return items.map (·.pushId)

def removableOutbound (w : Workspace) (caseUid draftName : String) : Result (List PushItem) :=
  let items := w.readItems.filter fun item =>
    item.draft.any fun draft => draft.caseUid == caseUid && draft.draftName == draftName
  match items.find? (·.hasStartedEffects) with
  | some item => .error (pushAlreadyStarted
      (s!"outbound push item already started and cannot be removed locally: {item.pushId}"))
  | none => .ok items

def removeOutboundForDraft (caseUid draftName : String) : Command (List String) := do
  let w ← workspace
  let items ← Program.ofExcept (removableOutbound w caseUid draftName)
  Program.forEach items fun item => do
    let w ← workspace
    let _ ← Program.ofExcept (w.draftFrontmatter caseUid draftName)
    writeWorkspace (·.deleteItem item.pushId)
  return items.map (·.pushId)

theorem unstarted_eq_ok_iff {found items : List PushItem} {refused : PushItem → AppError} :
    ((match found.find? (·.hasStartedEffects) with
      | some item => .error (refused item)
      | none => .ok found : Result (List PushItem)) = .ok items) ↔
      items = found ∧ ∀ item ∈ items, item.hasStartedEffects = false := by
  split
  · rename_i item hfind
    constructor
    · intro herror
      cases herror
    · rintro ⟨rfl, hunstarted⟩
      have hstarted := List.find?_some hfind
      rw [hunstarted item (List.mem_of_find?_eq_some hfind)] at hstarted
      cases hstarted
  · rename_i hnone
    constructor
    · intro hitems
      cases hitems
      exact ⟨rfl, fun item hmem => Bool.eq_false_iff.mpr (List.find?_eq_none.mp hnone item hmem)⟩
    · rintro ⟨rfl, _⟩
      rfl

theorem removableMessagePushes_eq_ok_iff {s : Workspace} {messageId : String}
    {action : MessagePushAction} {items : List PushItem} :
    removableMessagePushes s messageId action = .ok items ↔
      items = (s.readItems.filter fun item => item.message.any fun message =>
        message.messageId == messageId && message.action == action) ∧
        ∀ item ∈ items, item.hasStartedEffects = false := unstarted_eq_ok_iff

theorem removableOutbound_eq_ok_iff {s : Workspace} {caseUid draftName : String}
    {items : List PushItem} :
    removableOutbound s caseUid draftName = .ok items ↔
      items = (s.readItems.filter fun item => item.draft.any fun draft =>
        draft.caseUid == caseUid && draft.draftName == draftName) ∧
        ∀ item ∈ items, item.hasStartedEffects = false := unstarted_eq_ok_iff

end AgentFirstMail
