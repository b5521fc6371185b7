import AgentFirstMail.Effect.Confined
import AgentFirstMail.PushQueue.Snapshot

namespace AgentFirstMail
open Effect Command

/-- A message that was rendered of a draft. -/
def PreparedOutbound.Rendered (host : Host) (prepared : PreparedOutbound) : Prop :=
  ∃ w draft messageId date, prepareOutbound host w draft messageId date = .ok prepared

/-- An item whose planned message, if it has one, was rendered. -/
def PushItem.HoldsRendered (host : Host) (item : PushItem) : Prop :=
  ∀ prepared, item.plannedOutboundMessage = some prepared → prepared.Rendered host

/-- What is sent was rendered, and of a mail only the bytes for delivery are. -/
def Request.SendsRendered (host : Host) : Request → Prop
  | publish _ prepared => prepared.Rendered host ∧ prepared.isFile = true
  | sendCloudflareRawMessage _ prepared => prepared.Rendered host
  | sendRawMessage _ _ _ raw =>
    ∃ (prepared : PreparedOutbound) (email : PreparedEmail),
      prepared.Rendered host ∧ prepared.email = .ok email ∧ raw = email.deliveryRaw
  | _ => True

def sendBounds (host : Host) : Bounds Process Request AppError Unit where
  state process := process.item.HoldsRendered host
  request request := request.SendsRendered host
  code _ := ()

/-- Whatever a command does, it sends only what was rendered. -/
abbrev SendsRendered (host : Host) (p : Command α) : Prop :=
  Program.Confined (sendBounds host) (fun _ => True) p

section Primitives
variable {host : Host}

theorem sends_check {result : Result α} {f : α → Command β}
    (hf : ∀ value, result = .ok value → SendsRendered host (f value)) :
    SendsRendered host (Program.ofExcept result >>= f) :=
  Program.Confined.ofExcept_bind hf fun _ _ => trivial

theorem sends_verify {result : Result α} : SendsRendered host (Program.ofExcept result) :=
  Program.Confined.ofExcept fun _ _ => trivial

theorem sends_workspace {f : Workspace → Command α} (hf : ∀ w, SendsRendered host (f w)) :
    SendsRendered host (workspace >>= f) := fun process _ => hf process.workspace

theorem sends_currentItem {f : PushItem → Command α}
    (hf : ∀ item, item.HoldsRendered host → SendsRendered host (f item)) :
    SendsRendered host (currentItem >>= f) := fun process h => hf process.item h

theorem sends_writeWorkspace (change : Workspace → Workspace) :
    SendsRendered host (writeWorkspace change) := Program.Confined.write fun _ h => h

theorem sends_modifyItem {change : PushItem → PushItem}
    (h : ∀ item, (change item).plannedOutboundMessage = item.plannedOutboundMessage) :
    SendsRendered host (modifyItem change) :=
  Program.Confined.write fun process hrendered prepared heq =>
    hrendered prepared ((h process.item).symm.trans heq)

theorem sends_saveItem {change : PushItem → PushItem}
    (h : ∀ item, (change item).plannedOutboundMessage = item.plannedOutboundMessage) :
    SendsRendered host (saveItem change) :=
  Program.Confined.write fun process hrendered prepared heq =>
    hrendered prepared ((h process.item).symm.trans heq)

theorem sends_perform (request : Request) (h : request.SendsRendered host) :
    SendsRendered host (perform request) := Program.Confined.perform h

theorem sends_ask {request : Request} {f : Except AppError request.Reply → Command α}
    (h : request.SendsRendered host) (hf : ∀ reply, SendsRendered host (f reply)) :
    SendsRendered host (ask request >>= f) :=
  Program.Confined.ask_bind h (fun value => hf (.ok value))
    fun error => (hf (.error error)).mono fun _ _ => .inl trivial

theorem sends_when {c : Prop} [Decidable c] {p : Command Unit} {f : Unit → Command α}
    (hp : SendsRendered host p) (hf : ∀ done, SendsRendered host (f done)) :
    SendsRendered host (if c then p >>= f else f ()) := by
  split
  · exact hp.bind hf
  · exact hf ()

theorem plannedOutboundMessage_freeze (item : PushItem) :
    item.freezeMessageActionSnapshot.plannedOutboundMessage = item.plannedOutboundMessage := by
  rw [PushItem.freezeMessageActionSnapshot]
  split <;> rfl

end Primitives

section Shared
variable {host : Host} {context : PushExecutionContext} {index : Nat} {step : ActionStep}

theorem sends_cachedMailboxes : SendsRendered host cachedMailboxes := by
  intro process _
  dsimp only [Program.bind]
  split
  · trivial
  · apply (sends_perform .listMailboxes trivial).bind
    intro mailboxes
    apply Program.Confined.bind
    · exact Program.Confined.write fun _ h => h
    · intro _
      trivial

theorem sends_remoteMailboxFolder (config : MailConfig) (mailboxId : String) :
    SendsRendered host (remoteMailboxFolder config mailboxId) :=
  sends_check fun _ _ => sends_cachedMailboxes.bind fun _ => sends_verify

theorem sends_findByMessageId (folder rfc822MessageId : String) :
    SendsRendered host (findByMessageId context.host folder rfc822MessageId) := by
  refine sends_ask trivial fun reply => ?_
  cases reply with
  | ok found => trivial
  | error error =>
    dsimp only
    split <;> trivial

theorem sends_appendAuditEventRecord (event : AuditEvent) :
    SendsRendered host (appendAuditEventRecord event) :=
  (sends_writeWorkspace _).bind fun _ => sends_writeWorkspace _

theorem sends_appendAuditEvent (kind : String) (targets : List (String × String))
    (reason : Option String) :
    SendsRendered host (appendAuditEvent context.host kind targets reason) :=
  (sends_perform .newEventId trivial).bind fun _ => sends_appendAuditEventRecord _

theorem sends_appendAuditEventWithIdentity (event : AuditEvent) :
    SendsRendered host (appendAuditEventWithIdentity event) := by
  refine sends_workspace fun w => sends_check fun existing _ => ?_
  split
  · trivial
  · split
    · trivial
    · exact (sends_appendAuditEventRecord event).bind fun _ => trivial

theorem sends_persistRemoteOutcomeUnknown :
    SendsRendered host (persistRemoteOutcomeUnknown context index step) :=
  sends_saveItem fun _ => rfl

theorem sends_persistStepSucceeded : SendsRendered host (persistStepSucceeded context index step) :=
  sends_saveItem fun _ => rfl

theorem sends_addRemoteFlags (place : PushLocation) (flags : List String) :
    SendsRendered host (addRemoteFlags context.host place flags) := by
  refine sends_workspace fun w => sends_check fun message _ => ?_
  dsimp only
  split
  · trivial
  · exact sends_writeWorkspace _

theorem sends_relocateMessage (messageId : String) (targets : List RemoteLocation) :
    SendsRendered host (relocateMessage messageId targets) := by
  rw [relocateMessage]
  split
  · trivial
  · exact sends_workspace fun w => sends_check fun _ _ => sends_writeWorkspace _

end Shared

section Steps
variable {context : PushExecutionContext} {index : Nat} {step : ActionStep}

theorem sends_executeAddFlags (locations : List PushLocation) (flags : List String) :
    SendsRendered host (executeAddFlags context locations flags) :=
  Program.Confined.forEach fun location _ =>
    (sends_perform (.addFlags location.mailboxName location.uidValidity location.uid flags)
      trivial).bind fun _ => sends_addRemoteFlags location flags

theorem sends_moveLocation (site : EffectSite) (target : String) (messages : MovedMessages)
    (source : PushLocation) :
    SendsRendered host (moveLocation context site target messages source) := by
  rw [moveLocation]
  split
  · trivial
  · rename_i rfc822MessageId existing _
    refine Program.Confined.bind ?_ fun found => ?_
    · exact (sends_perform (.moveMessage site source.mailboxName source.uidValidity source.uid target
        rfc822MessageId) trivial).bind fun _ => trivial
    · cases found with
      | none => trivial
      | some location => exact (sends_relocateMessage _ _).bind fun _ => trivial

theorem sends_moveLocations (pushId target : String) (messages : MovedMessages)
    (locations : List PushLocation) :
    SendsRendered host (moveLocations context pushId index target messages locations) := by
  induction locations generalizing messages with
  | nil => trivial
  | cons source rest ih =>
    rw [moveLocations]
    split
    · exact ih messages
    · split
      · exact ih messages
      · exact (sends_moveLocation _ target messages source).bind fun messages => ih messages

theorem sends_executeMove (locations : List PushLocation) (mailboxId : String) :
    SendsRendered host (executeMove context index locations mailboxId) := by
  rw [executeMove]
  split
  · trivial
  · exact sends_currentItem fun item _ => sends_workspace fun w => sends_check fun messages _ =>
      (sends_remoteMailboxFolder _ mailboxId).bind fun target =>
        sends_moveLocations item.pushId target messages locations

theorem sends_appendMessages (folder : String) (applied : Bool) (messageIds : List String) :
    SendsRendered host (appendMessages context index step folder applied messageIds) := by
  induction messageIds generalizing applied with
  | nil => trivial
  | cons messageId rest ih =>
    rw [appendMessages]
    refine sends_currentItem fun item _ => sends_workspace fun w => sends_check fun raw _ => ?_
    refine sends_when sends_persistRemoteOutcomeUnknown fun _ => sends_ask trivial fun reply => ?_
    cases reply with
    | ok _ => exact ih true
    | error error => trivial

theorem sends_executeFlagsOf : SendsRendered host (executeFlagsOf context step) := by
  rw [executeFlagsOf]
  split
  · trivial
  · exact sends_currentItem fun item _ => sends_workspace fun w => sends_check fun locations _ =>
      sends_executeAddFlags locations step.addFlags

theorem sends_executeMoveOf : SendsRendered host (executeMoveOf context index step) := by
  rw [executeMoveOf]
  split
  · trivial
  · rename_i mailboxId _
    exact sends_currentItem fun item _ => sends_workspace fun w => sends_check fun locations _ =>
      (sends_remoteMailboxFolder _ mailboxId).bind fun target =>
        sends_when sends_persistRemoteOutcomeUnknown fun _ => sends_executeMove locations mailboxId

theorem sends_executeAppendOf : SendsRendered host (executeAppendOf context index step) := by
  rw [executeAppendOf]
  split
  · trivial
  · rename_i mailboxId _
    exact (sends_remoteMailboxFolder _ mailboxId).bind fun folder => sends_currentItem fun item _ =>
      sends_appendMessages folder false item.messageIds

theorem sends_executeMessageStep : SendsRendered host (executeMessageStep context index step) := by
  refine sends_executeFlagsOf.bind fun _ => sends_executeMoveOf.bind fun _ =>
    sends_executeAppendOf.bind fun _ => ?_
  split <;> trivial

section Sending
variable {prepared : PreparedOutbound}

theorem sends_executeFileSend (h : prepared.Rendered host) :
    SendsRendered host (executeFileSend context index step prepared) := by
  rw [executeFileSend]
  split
  · refine sends_check fun _ hfile => (sends_perform (.outputConfirmed prepared) trivial).bind
      fun _ => sends_persistRemoteOutcomeUnknown.bind fun _ => sends_currentItem fun item _ => ?_
    exact sends_perform _ ⟨h, ensure_eq_ok_iff.mp hfile⟩
  · trivial

theorem sends_executeCloudflareSend (h : prepared.Rendered host) :
    SendsRendered host (executeCloudflareSend context index step prepared) := by
  rw [executeCloudflareSend]
  split
  · refine (sends_perform (.prepareCloudflareSend prepared) trivial).bind
      fun _ => sends_persistRemoteOutcomeUnknown.bind fun _ => sends_currentItem fun item _ => ?_
    refine (sends_perform (.sendCloudflareRawMessage _ prepared) h).bind fun receipt => ?_
    exact (sends_modifyItem fun _ => rfl).bind fun _ => sends_verify
  · trivial

theorem sends_executeSmtpSend (h : prepared.Rendered host) :
    SendsRendered host (executeSmtpSend context index step prepared) := by
  rw [executeSmtpSend]
  split
  · refine sends_check fun _ _ => sends_check fun email hemail =>
      (sends_perform (.prepareSend email.envelopeFrom email.envelopeTo) trivial).bind
        fun _ => sends_persistRemoteOutcomeUnknown.bind fun _ => sends_currentItem fun item _ => ?_
    exact sends_perform _ ⟨prepared, email, h, hemail, rfl⟩
  · trivial

theorem sends_executeOutboundAppend :
    SendsRendered host (executeOutboundAppend context index step prepared) := by
  rw [executeOutboundAppend]
  split
  · trivial
  · rename_i mailboxId _
    exact (sends_remoteMailboxFolder _ mailboxId).bind fun folder =>
      sends_persistRemoteOutcomeUnknown.bind fun _ => sends_currentItem fun item _ =>
        sends_perform (.appendMessage _ folder prepared.raw _) trivial

theorem rendered_prepareCurrentOutbound {w : Workspace} {item : PushItem}
    (hitem : item.HoldsRendered context.host)
    (h : prepareCurrentOutbound context w item = .ok prepared) : prepared.Rendered context.host := by
  rw [prepareCurrentOutbound] at h
  split at h
  · rename_i planned hplanned
    cases h
    exact hitem prepared hplanned
  · obtain ⟨outbound, _, h⟩ := Result.bind_ok h
    obtain ⟨_, _, h⟩ := Result.bind_ok h
    obtain ⟨_, h⟩ := Result.seq_ok h
    exact ⟨_, _, _, _, h⟩

theorem sends_executeOutboundStep :
    SendsRendered context.host (executeOutboundStep context index step) := by
  refine sends_currentItem fun item hitem => sends_workspace fun w => sends_check fun _ _ =>
    sends_check fun prepared hprepared => ?_
  have hrendered := rendered_prepareCurrentOutbound hitem hprepared
  refine (sends_executeFileSend hrendered).bind fun _ => (sends_executeCloudflareSend hrendered).bind
    fun _ => (sends_executeSmtpSend hrendered).bind fun _ => sends_executeOutboundAppend.bind fun _ =>
      sends_executeFlagsOf.bind fun _ => ?_
  split
  · exact sends_executeMessageStep
  · trivial

end Sending
end Steps

section Tracking
variable {context : PushExecutionContext} {execute : StepExecutor} {index : Nat} {step : ActionStep}

theorem sends_refreshMessagePushViews (messageIds : List String) :
    SendsRendered host (refreshMessagePushViews context messageIds) := by
  rw [refreshMessagePushViews]
  split
  · trivial
  · exact sends_workspace fun w => sends_verify

theorem sends_refreshAfterSuccessfulStep :
    SendsRendered host (refreshAfterSuccessfulStep context step) :=
  sends_currentItem fun _ _ => sends_workspace fun _ => sends_check fun messageIds _ =>
    sends_refreshMessagePushViews messageIds

theorem sends_holdsAll (folder : String) (messageIds : List String) :
    SendsRendered host (holdsAll context.host folder messageIds) := by
  induction messageIds with
  | nil => trivial
  | cons messageId rest ih =>
    refine (sends_findByMessageId folder messageId).bind fun found => ?_
    split
    · exact ih
    · trivial

theorem sends_recoverAppend (mailboxId : String) :
    SendsRendered host (recoverRemoteOutcomeUnknownAppend context index step mailboxId) := by
  refine (sends_remoteMailboxFolder _ mailboxId).bind fun folder => sends_currentItem fun item _ =>
    sends_workspace fun w => sends_check fun messageIds _ => ?_
  split
  · trivial
  · exact (sends_holdsAll folder messageIds).bind fun held =>
      sends_when sends_persistStepSucceeded fun _ => trivial

theorem sends_locateMovedMessages (folder : String) (moves : List ReconciledMove) :
    SendsRendered host (locateMovedMessages context.host folder moves) := by
  induction moves with
  | nil => trivial
  | cons move rest ih =>
    rw [locateMovedMessages]
    split
    · trivial
    · rename_i rfc822MessageId _
      refine Program.Confined.bind ?_ fun found => ?_
      · rw [locateMovedMessage]
        split
        · trivial
        · exact sends_findByMessageId folder rfc822MessageId
      · cases found with
        | none => trivial
        | some location => exact ih.bind fun _ => trivial

theorem sends_relocateRecoveredMove (recovered : ReconciledMove × RemoteLocation) :
    SendsRendered host (relocateRecoveredMove recovered) :=
  sends_workspace fun _ => sends_check fun _ _ => sends_relocateMessage _ _

theorem sends_recoverMove (mailboxId : String) :
    SendsRendered host (recoverRemoteOutcomeUnknownMove context index step mailboxId) := by
  refine sends_currentItem fun item _ => sends_workspace fun w => sends_check fun locations _ => ?_
  dsimp only
  split
  · trivial
  · refine sends_check fun reconciled _ => ?_
    cases reconciled with
    | none => trivial
    | some reconciled =>
      refine (sends_remoteMailboxFolder _ mailboxId).bind fun folder =>
        (sends_locateMovedMessages folder reconciled).bind fun located => ?_
      cases located with
      | none => trivial
      | some recovered =>
        exact (Program.Confined.forEach fun move _ => sends_relocateRecoveredMove move).bind
          fun _ => sends_persistStepSucceeded.bind fun _ => trivial

theorem sends_recoverStep : SendsRendered host (recoverRemoteOutcomeUnknownStep context index step) := by
  refine sends_currentItem fun item _ => ?_
  split
  · exact sends_currentItem fun item _ => sends_workspace fun w => sends_check fun prepared _ =>
      (sends_perform (.outputConfirmed prepared) trivial).bind fun confirmed =>
        sends_when sends_persistStepSucceeded fun _ => trivial
  · split
    · exact sends_recoverAppend _
    · split
      · exact sends_recoverMove _
      · trivial
    · trivial

theorem sends_persistStepError (error : AppError) :
    SendsRendered host (persistStepError context index step error) := by
  refine sends_currentItem fun item _ => ?_
  split
  · apply Program.Confined.bind
    · apply sends_saveItem
      intro item
      rfl
    · intro _
      trivial
  · apply Program.Confined.bind
    · apply sends_saveItem
      intro item
      rfl
    · intro _
      trivial

theorem sends_markStepPending (now : String) :
    SendsRendered host (saveItem (·.markStepPending index step now)) :=
  sends_saveItem plannedOutboundMessage_freeze

theorem sends_executeTrackedStep
    (hexecute : ∀ index step, SendsRendered host (execute context index step)) :
    SendsRendered host (executeTrackedStep context execute index step) := by
  refine sends_currentItem fun item _ => ?_
  split
  · split
    · exact sends_refreshAfterSuccessfulStep
    · trivial
  · refine sends_when (sends_saveItem plannedOutboundMessage_freeze) fun _ =>
      sends_currentItem fun item _ => ?_
    split
    · refine sends_recoverStep.bind fun recovered => ?_
      split
      · exact sends_refreshAfterSuccessfulStep
      · trivial
    · exact (sends_markStepPending _).bind fun _ =>
        ((hexecute index step).tryCatch sends_persistStepError).bind fun _ =>
          sends_persistStepSucceeded.bind fun _ => sends_refreshAfterSuccessfulStep

theorem sends_executeTrackedSteps (steps : List ActionStep)
    (hexecute : ∀ index step, SendsRendered host (execute context index step)) :
    SendsRendered host (executeTrackedSteps context steps execute) := by
  have hfrom (index : Nat) : SendsRendered host (executeStepsFrom context execute index steps) := by
    induction steps generalizing index with
    | nil => trivial
    | cons step rest ih => exact (sends_executeTrackedStep hexecute).bind fun _ => ih (index + 1)
  exact (sends_modifyItem fun _ => rfl).bind fun _ => hfrom 0

theorem sends_pushOutbound : SendsRendered context.host (pushOutbound context) := by
  refine sends_currentItem fun item _ => sends_workspace fun w => sends_check fun outbound _ => ?_
  split
  · trivial
  · exact sends_check fun steps _ => sends_check fun _ _ => sends_check fun _ _ =>
      sends_executeTrackedSteps steps fun _ _ => sends_executeOutboundStep

theorem sends_pushActionSteps : SendsRendered host (pushActionSteps context) := by
  refine sends_currentItem fun item _ => sends_workspace fun w => ?_
  split
  · trivial
  · rename_i planned _
    exact sends_check fun _ _ =>
      sends_executeTrackedSteps planned.steps fun _ _ => sends_executeMessageStep

end Tracking

section Finishing
variable {context : PushExecutionContext}

theorem sends_writeEvidenceOnce (messageId : String) (raw : Bytes) (rfc822MessageId : Option String) :
    SendsRendered host (writeEvidenceOnce messageId raw rfc822MessageId) := by
  refine sends_workspace fun w => ?_
  split
  · exact sends_verify
  · exact sends_writeWorkspace _

theorem sends_appendSentMessageToCase (caseUid : String) (prepared : PreparedOutbound) :
    SendsRendered host (appendSentMessageToCase context caseUid prepared) :=
  sends_workspace fun _ => sends_check fun _ _ => sends_writeWorkspace _

theorem sends_recordOutboundAfterPush : SendsRendered host (recordOutboundAfterPush context) := by
  refine sends_currentItem fun item _ => sends_workspace fun w => ?_
  split
  · trivial
  · rename_i outbound _
    refine sends_check fun _ _ => ?_
    split
    · refine sends_check fun prepared _ => ?_
      split
      · exact (sends_writeWorkspace _).bind fun _ => (sends_writeEvidenceOnce _ _ _).bind fun _ =>
          (sends_writeWorkspace _).bind fun _ => sends_appendSentMessageToCase _ _
      · exact sends_workspace fun _ => sends_check fun _ _ =>
          (sends_writeEvidenceOnce _ _ _).bind fun _ => (sends_writeWorkspace _).bind fun _ =>
            sends_appendSentMessageToCase _ _
    · trivial

theorem sends_removeOutboundDraftAfterPush :
    SendsRendered host (removeOutboundDraftAfterPush context) := by
  refine sends_currentItem fun item _ => sends_workspace fun w => ?_
  split
  · trivial
  · rename_i outbound _
    refine sends_check fun case_ _ => Program.Confined.bind ?_ fun _ =>
      sends_check fun _ _ => (sends_writeWorkspace _).bind fun _ => sends_appendAuditEvent _ _ _
    rw [removeDraftFile]
    split
    · exact sends_writeWorkspace _
    · trivial

theorem sends_refreshOutboundPushViews : SendsRendered host (refreshOutboundPushViews context) := by
  refine sends_currentItem fun item _ => sends_workspace fun w => ?_
  split
  · trivial
  · exact sends_check fun _ _ => sends_verify

theorem sends_advanceLocalStage (stage : PushLocalStage) :
    SendsRendered host (advanceLocalStage context stage) := by
  refine sends_currentItem fun item _ => ?_
  split
  · trivial
  · exact sends_saveItem fun _ => rfl

theorem sends_finalizeOutbound : SendsRendered host (finalizeOutbound context) := by
  refine sends_currentItem fun item _ => ?_
  split
  · refine Program.Confined.bind ?_ fun _ => ?_
    · refine sends_currentItem fun item _ => ?_
      split
      · trivial
      · exact sends_recordOutboundAfterPush.bind fun _ => (sends_advanceLocalStage _).bind fun _ =>
          sends_refreshOutboundPushViews
    · refine sends_currentItem fun item _ => ?_
      split
      · trivial
      · exact sends_removeOutboundDraftAfterPush.bind fun _ =>
          (sends_advanceLocalStage _).bind fun _ => sends_refreshOutboundPushViews
  · trivial

theorem sends_clearPendingStage : SendsRendered host (clearPendingStage context) := by
  refine sends_currentItem fun item _ => ?_
  split
  · trivial
  · exact sends_workspace fun _ => sends_check fun _ _ => (sends_advanceLocalStage _).bind fun _ =>
      sends_refreshMessagePushViews _

theorem sends_preparePushAuditPending : SendsRendered host (preparePushAuditPending context) := by
  refine Program.Confined.bind ?_ fun _ => sends_advanceLocalStage _
  refine sends_currentItem fun item _ => ?_
  split
  · trivial
  · exact (sends_perform .newEventId trivial).bind fun _ => sends_modifyItem fun _ => rfl

theorem sends_finalizePushedItem : SendsRendered host (finalizePushedItem context) :=
  (sends_advanceLocalStage _).bind fun _ => sends_finalizeOutbound.bind fun _ =>
    sends_clearPendingStage.bind fun _ => sends_preparePushAuditPending

theorem sends_finalizeArchivingCases : SendsRendered host (finalizeArchivingCases context) := by
  refine sends_workspace fun w => Program.Confined.forEach fun caseUid _ =>
    sends_workspace fun w => sends_check fun case_ _ => ?_
  split
  · refine sends_check fun pending _ => ?_
    split
    · exact (sends_writeWorkspace _).bind fun _ => sends_appendAuditEvent _ _ _
    · trivial
  · trivial

theorem sends_completeSuccessfulPushAudit :
    SendsRendered host (completeSuccessfulPushAudit context) := by
  refine Program.Confined.bind ?_ fun _ => sends_currentItem fun item _ =>
    (sends_writeWorkspace _).bind fun _ => sends_finalizeArchivingCases.bind fun _ =>
      sends_modifyItem fun _ => rfl
  refine sends_currentItem fun item _ => ?_
  split
  · trivial
  · exact (sends_appendAuditEventWithIdentity _).bind fun _ => trivial

end Finishing

section Pushing
variable {context : PushExecutionContext}

theorem sends_runItem : SendsRendered context.host (runItem context) := by
  refine sends_currentItem fun item _ => ?_
  split
  · trivial
  · dsimp only
    split
    · exact sends_pushOutbound.bind fun _ => sends_finalizePushedItem
    · exact sends_pushActionSteps.bind fun _ => sends_finalizePushedItem

theorem sends_recordFailedItem (error : AppError) :
    SendsRendered host (recordFailedItem context error) := by
  refine Program.Confined.bind ?_ fun _ => sends_saveItem fun _ => rfl
  refine Program.Confined.tryCatch ?_ fun _ => trivial
  exact sends_currentItem fun item _ => sends_appendAuditEvent _ _ _

theorem sends_pushItem (summary : PushSummary) :
    SendsRendered context.host (pushItem context summary) := by
  have hrun : SendsRendered context.host
      ((do runItem context; return none : Command (Option AppError)).tryCatch
        fun error => return some error) := by
    refine Program.Confined.tryCatch ?_ fun _ => trivial
    exact sends_runItem.bind fun _ => trivial
  refine hrun.bind fun result => ?_
  cases result with
  | some error => exact sends_currentItem fun item _ => (sends_recordFailedItem error).bind fun _ => trivial
  | none =>
    have haudit : SendsRendered context.host
        ((do completeSuccessfulPushAudit context; return none : Command (Option AppError)).tryCatch
          fun error => return some error) := by
      refine Program.Confined.tryCatch ?_ fun _ => trivial
      exact sends_completeSuccessfulPushAudit.bind fun _ => trivial
    refine haudit.bind fun audit => ?_
    cases audit with
    | none => exact sends_currentItem fun item _ => trivial
    | some error =>
      exact (sends_saveItem fun _ => rfl).bind fun _ => sends_currentItem fun item _ => trivial

theorem sends_pushItems {items : List PushItem} (summary : PushSummary)
    (hitems : ∀ item ∈ items, item.HoldsRendered context.host) :
    SendsRendered context.host (pushItems context summary items) := by
  induction items generalizing summary with
  | nil => trivial
  | cons item rest ih =>
    obtain ⟨hitem, hrest⟩ := List.forall_mem_cons.mp hitems
    have hpicked : SendsRendered context.host (modifyItem fun _ => item) :=
      Program.Confined.write fun _ _ => hitem
    refine hpicked.bind fun _ => (sends_pushItem summary).bind fun next => ?_
    obtain ⟨goOn, summary⟩ := next
    dsimp only
    split
    · exact ih summary hrest
    · trivial

theorem plannedOutboundMessage_reset {w : Workspace} {config : MailConfig} {item kept : PushItem}
    (h : resetProgressIfPlanChanged w config item = .ok kept) :
    kept.plannedOutboundMessage = item.plannedOutboundMessage := by
  rcases resetProgressIfPlanChanged_eq_ok h with hsame | hreset
  · rw [hsame.1]
  · rw [hreset.2]

theorem rendered_planOutboundItem {w : Workspace} {item planned : PushItem} {draft : DraftPush}
    {frontmatter : DraftFrontmatter} {action : OutboundAction}
    (hitem : item.HoldsRendered context.host)
    (h : planOutboundItem context w item draft frontmatter action = .ok planned) :
    planned.HoldsRendered context.host := by
  obtain ⟨steps, _, h⟩ := Result.bind_ok h
  obtain ⟨kept, hkept, h⟩ := Result.bind_ok h
  obtain ⟨prepared, hprepared, h⟩ := Result.bind_ok h
  cases h
  have hreset : kept.HoldsRendered context.host := fun prepared heq =>
    hitem prepared ((plannedOutboundMessage_reset hkept).symm.trans heq)
  intro found heq
  cases heq
  exact rendered_prepareCurrentOutbound hreset hprepared

/-- What a plan keeps of an item to send was rendered while it was planned. -/
theorem rendered_planItem {w : Workspace} {item planned : PushItem}
    (hitem : item.HoldsRendered context.host) (h : planItem context w item = .ok (some planned)) :
    planned.HoldsRendered context.host := by
  rw [planItem] at h
  split at h
  · rename_i pending _ _
    obtain ⟨found, hfound, h⟩ := Result.bind_ok h
    cases h
    rw [hydrateAuditPendingPlan] at hfound
    split at hfound
    · split at hfound
      · cases hfound
      · cases hfound
        exact hitem
    · split at hfound
      · cases hfound
      · cases hfound
        exact hitem
  · obtain ⟨action, _, h⟩ := Result.bind_ok h
    cases action with
    | none =>
      obtain ⟨_, h⟩ := Result.seq_ok h
      cases h
    | some action =>
      obtain ⟨kept, hkept, h⟩ := Result.bind_ok h
      obtain ⟨raws, _, h⟩ := Result.bind_ok h
      cases h
      exact fun prepared heq => hitem prepared ((plannedOutboundMessage_reset hkept).symm.trans heq)
  · obtain ⟨frontmatter, _, h⟩ := Result.bind_ok h
    cases frontmatter with
    | none =>
      dsimp only at h
      split at h
      · cases h
        exact hitem
      · obtain ⟨_, h⟩ := Result.seq_ok h
        cases h
    | some frontmatter =>
      dsimp only at h
      split at h
      · obtain ⟨_, h⟩ := Result.seq_ok h
        cases h
      · obtain ⟨found, hfound, h⟩ := Result.bind_ok h
        cases h
        exact rendered_planOutboundItem hitem hfound

theorem rendered_resolvePushPlan {w : Workspace} {plan : ResolvedPushPlan}
    (h : resolvePushPlan context w = .ok plan) :
    ∀ item ∈ plan.items, item.HoldsRendered context.host := by
  obtain ⟨built, hbuilt, h⟩ := Result.bind_ok h
  obtain ⟨_, h⟩ := Result.seq_ok h
  cases h
  obtain ⟨planned, hplanned, hbuilt⟩ := Result.bind_ok hbuilt
  obtain ⟨_, _, hbuilt⟩ := Result.bind_ok hbuilt
  cases hbuilt
  obtain ⟨found, hfound, hplanned⟩ := Result.bind_ok hplanned
  cases hplanned
  intro item hmem
  have hin : item ∈ found.items := (orderItemsForDependencies_perm found.items).mem_iff.mp hmem
  obtain ⟨record, hrecord, hplan⟩ := planItems_mem hfound item hin
  obtain ⟨pushId, kept, _, rfl⟩ :=
    Workspace.mem_readItems.mp (Workspace.mem_sortedItems.mp hrecord)
  have hnone : kept.stored.HoldsRendered context.host := by
    intro prepared heq
    cases heq
  exact rendered_planItem hnone hplan

theorem pushConfirmed_sendsRendered {host : Host} {w : Workspace} {confirmed : PushPlanDigest}
    {outcome : Outcome AppError PushSummary} {process : Process} {events : List RemoteEvent}
    (h : Exec (pushConfirmed host confirmed) (.start w) events outcome process) :
    ∀ event ∈ events, event.request.SendsRendered host := by
  have hstart : (Process.start w).item.HoldsRendered host := fun _ heq => nomatch heq
  have hpush : SendsRendered host (pushConfirmed host confirmed) := by
    refine sends_workspace fun w => sends_check fun config _ => sends_check fun plan hplan =>
      sends_check fun _ _ => Program.Confined.bind ?_ fun _ => ?_
    · refine Program.Confined.bind ?_ fun _ => ?_
      · exact Program.Confined.forEach fun item _ => sends_writeWorkspace _
      · exact Program.Confined.forEach fun item _ => sends_writeWorkspace _
    · exact sends_pushItems _ (rendered_resolvePushPlan hplan)
  exact (h.confined hpush hstart).2.1

end Pushing
end AgentFirstMail
