import AgentFirstMail.PushQueue.RecoveryConformance

namespace AgentFirstMail
open Effect Command

/-- The commands that write queue records, besides a push. -/
inductive QueueCommand : {α : Type} → Command α → Prop
  | queueOutbound (host : Host) (caseUid draftName : String) (action : OutboundAction)
      (previousAction : Option OutboundAction) :
      QueueCommand (queueOutbound host caseUid draftName action previousAction)
  | queueActionSteps (host : Host) (action : MessagePushAction) (messageIds : List String)
      (locations : List PushLocation) (steps : List ActionStep) :
      QueueCommand (queueActionSteps host action messageIds locations steps)
  | removeOutboundForDraft (caseUid draftName : String) :
      QueueCommand (removeOutboundForDraft caseUid draftName)
  | removePendingMessagePushes (messageId : String) (action : MessagePushAction) :
      QueueCommand (removePendingMessagePushes messageId action)
  | recover (host : Host) (pushId : String) (confirmed : Option RecoveryPlan)
      (settle : Option SendSettlement) : QueueCommand (recover host pushId confirmed settle)

/-- What happens to a workspace between two looks at it: a push or another command that works
on the queue, to its end or cut off, or anything that leaves the queue alone. -/
inductive QueueSession : Workspace → List RemoteEvent → Workspace → Prop
  | push : PushSession w events w' → QueueSession w events w'
  | command {program : Command α} : QueueCommand program →
      Exec program (.start w) events outcome process → QueueSession w events process.workspace
  | other : w'.pushItems = w.pushItems → QueueSession w [] w'

section Push

/-- A push that has not begun. -/
structure PushUnbegun (start position : PushPosition) : Prop where
  phase : position.phase = .idle
  history : position.history = start.history
  state : position.state = start.state

theorem unbegun_of_invalid {phase : PushPhase} {h : List RemoteEvent} {m : Process}
    {start : PushPosition} (hconfig : context.config.validate ≠ .ok ())
    (hidle : start.phase = .idle) (hat : At context start phase h m) :
    PushUnbegun start ⟨phase, h, m⟩ := by
  apply Reaches.invariant hat ⟨hidle, rfl, rfl⟩
  intro position next hheld ht
  cases ht with
  | plan planned _ hvalid => exact (hconfig hvalid).elim
  | reconcileWrite | reconcileDelete | reconciled | pick | serve | finish => cases hheld.phase

/-- A push ends in a workspace that its transitions reach, or where it began. -/
theorem PushSession.reached {w w' : Workspace} {fact : Workspace → Prop}
    (hqueue : w.QueueConsistent) (hsession : PushSession w events w') (hstart : fact w)
    (hreached : ∀ context : PushExecutionContext, context.config.validate = .ok () →
      ∀ phase h m, At context ⟨.idle, [], .start w⟩ phase h m → fact m.workspace) : fact w' := by
  cases hsession with
  | run host confirmed outcome process hexec =>
    have hpath : Path ⟨host, w.config⟩ ⟨.idle, [], .start w⟩ ([] ++ events) process :=
      pushConfirmed_conforms hqueue hexec
    obtain ⟨phase, hat⟩ := hpath
    by_cases hvalid : w.config.validate = .ok ()
    · exact hreached ⟨host, w.config⟩ hvalid phase _ _ hat
    · have hsame := (unbegun_of_invalid hvalid rfl hat).state
      change process = _ at hsame
      rw [hsame]
      exact hstart

theorem PushSession.queueConsistent {w w' : Workspace} (hqueue : w.QueueConsistent)
    (hsession : PushSession w events w') : w'.QueueConsistent := by
  apply hsession.reached hqueue hqueue
  intro context hvalid phase h m hat
  exact (sound_start hvalid hqueue phase h m hat).queue

end Push

section Commands
variable {h : List RemoteEvent} {m : Process}
  {abort : AppError → ProcessFact}

/-- The queue is consistent. -/
abbrev Queue : ProcessFact :=
  fun _ m => m.workspace.QueueConsistent

theorem queue_keep {change : Workspace → Workspace}
    (hchange : (change m.workspace).QueueConsistent) :
    Program.wp Queue (fun _ => Queue) abort (writeWorkspace change) h m :=
  keeping_writeWorkspace hchange hchange

end Commands

section Queueing
variable {h : List RemoteEvent} {m : Process} {w : Workspace}

theorem PushItem.consistent_of_nil {item : PushItem} (hstates : item.stepStates = [])
    (hstage : item.localStage = none)
    (hfrozen : ∀ message, item.message = some message → item.Frozen message) :
    item.Consistent where
  steps := by
    rw [hstates]
    exact .nil
  finished hsome := by
    rw [hstage] at hsome
    cases hsome
  frozen := hfrozen

theorem Workspace.QueueConsistent.of_mem (hqueue : w.QueueConsistent)
    (hmem : item ∈ w.readItems) :
    w.pushItems[item.pushId]?.isSome ∧ item.Consistent ∧ item.AuditKept := by
  obtain ⟨pushId, record, hget, rfl⟩ := Workspace.mem_readItems.mp hmem
  have hrecord := hqueue pushId record hget
  refine ⟨?_, hrecord.consistent.stored, hrecord.auditKept⟩
  rw [PushItem.stored_pushId, hrecord.pushId, hget]
  rfl

theorem Workspace.QueueConsistent.write (hqueue : w.QueueConsistent)
    (hitem : item.Consistent ∧ item.AuditKept) : (w.writeItem item).QueueConsistent :=
  hqueue.writeItem hitem.1 hitem.2

/-- Queueing a draft again keeps only progress that never started. -/
theorem outboundItem_consistent {now pushId caseUid draftName : String} {enqueueSeq : Nat}
    {existing : Option PushItem} {reset : Bool}
    (hexisting : ∀ item, existing = some item → item.Consistent ∧ item.AuditKept) :
    (outboundItem now pushId enqueueSeq caseUid draftName existing reset).Consistent ∧
      (outboundItem now pushId enqueueSeq caseUid draftName existing reset).AuditKept := by
  cases hpreserved : existing.filter fun _ => !reset with
  | none =>
    have hstates : (outboundItem now pushId enqueueSeq caseUid draftName existing
        reset).stepStates = [] := by
      simp only [outboundItem, hpreserved, Option.map_none, Option.getD_none]
    have hstage : (outboundItem now pushId enqueueSeq caseUid draftName existing
        reset).localStage = none := by
      simp only [outboundItem, hpreserved, Option.bind_none]
    have haudit : (outboundItem now pushId enqueueSeq caseUid draftName existing
        reset).auditPending = none := by
      simp only [outboundItem, hpreserved, Option.bind_none]
    refine ⟨PushItem.consistent_of_nil hstates hstage (fun _ heq => nomatch heq), ?_⟩
    rw [PushItem.AuditKept, hstage, haudit]
    simp
  | some item =>
    obtain ⟨hitem, hkept⟩ := hexisting item (Option.filter_eq_some_iff.mp hpreserved).1
    have hstates : (outboundItem now pushId enqueueSeq caseUid draftName existing
        reset).stepStates = item.stepStates := by
      simp only [outboundItem, hpreserved, Option.map_some, Option.getD_some]
    have hstage : (outboundItem now pushId enqueueSeq caseUid draftName existing
        reset).localStage = item.localStage := by
      simp only [outboundItem, hpreserved, Option.bind_some]
    have haudit : (outboundItem now pushId enqueueSeq caseUid draftName existing
        reset).auditPending = item.auditPending := by
      simp only [outboundItem, hpreserved, Option.bind_some]
    refine ⟨⟨?_, ?_, fun _ heq => nomatch heq⟩, ?_⟩
    · rw [hstates]
      exact hitem.steps
    · rw [hstates, hstage]
      exact hitem.finished
    · rw [PushItem.AuditKept, hstage, haudit]
      exact hkept

theorem queue_newDraftPushId {attempts : Nat} (hqueue : Queue h m)
    {post : String → ProcessFact}
    (hpost : ∀ pushId h', post pushId h' m) :
    Program.wp Queue post (fun _ => Queue) (newDraftPushId attempts) h m := by
  induction attempts generalizing h with
  | zero => exact hqueue
  | succ attempts ih =>
    rw [newDraftPushId]
    apply wp_then
    apply keeping_perform hqueue
    · intro suffix h'
      apply wp_workspace_bind.mpr
      dsimp only
      split
      · exact ih hqueue
      · exact hpost _ h'
    · intro error h'
      exact hqueue

theorem queue_queueOutbound {host : Host} {caseUid draftName : String} {action : OutboundAction}
    {previousAction : Option OutboundAction} (hqueue : Queue h m) :
    Program.wp Queue (fun _ => Queue) (fun _ => Queue)
      (queueOutbound host caseUid draftName action previousAction) h m := by
  unfold queueOutbound
  apply wp_workspace_bind.mpr
  apply wp_check_bind
  · intro reset _
    have hexisting : ∀ item, m.workspace.findDraftItem caseUid draftName = some item →
        item.Consistent ∧ item.AuditKept := by
      intro item hfind
      exact (hqueue.of_mem (List.mem_of_find?_eq_some hfind)).2
    have hwrite : ∀ pushId h, Program.wp Queue (fun _ => Queue) (fun _ => Queue) (do
        writeWorkspace (·.writeItem (outboundItem host.now pushId
          (((m.workspace.findDraftItem caseUid draftName).map (·.enqueueSeq)).getD
            m.workspace.nextEnqueueSeq) caseUid draftName
          (m.workspace.findDraftItem caseUid draftName) reset))
        return pushId) h m := by
      intro pushId h
      apply wp_then
      apply queue_keep
      exact hqueue.write (outboundItem_consistent hexisting)
    apply wp_then
    unfold existingOrNewPushId
    split
    · exact hwrite _ h
    · exact queue_newDraftPushId hqueue (fun pushId h' => hwrite pushId h')
  · intro error _
    exact hqueue

theorem messageItem_consistent {now messageId : String} {enqueueSeq : Nat}
    {action : MessagePushAction} {existing : Option PushItem}
    (hexisting : ∀ item, existing = some item → item.Consistent ∧ item.AuditKept ∧
      ∃ message, item.message = some message ∧ message.messageId = messageId) :
    (messageItem now enqueueSeq messageId action existing).Consistent ∧
      (messageItem now enqueueSeq messageId action existing).AuditKept := by
  cases hpreserved : existing.filter fun _ => !actionChanged existing action with
  | none =>
    have hitem : messageItem now enqueueSeq messageId action existing =
        { pushId := messagePushId messageId, enqueueSeq
          payload := .message { messageId, action }
          createdRfc3339 := now, updatedRfc3339 := now } := by
      simp only [messageItem, hpreserved, Option.map_none, Option.getD_none, Option.bind_none]
    rw [hitem]
    refine ⟨PushItem.consistent_of_nil rfl rfl ?_, by simp [PushItem.AuditKept]⟩
    intro message heq
    cases heq
    exact ⟨rfl, rfl, fun _ heq => by cases heq⟩
  | some item =>
    obtain ⟨hsome, hsame⟩ := Option.filter_eq_some_iff.mp hpreserved
    obtain ⟨hitem, hkept, message, hmessage, hid⟩ := hexisting item hsome
    have haction : message.action = action := by
      simp only [actionChanged, hsome, Option.bind_some, hmessage, Option.any_some,
        Bool.not_eq_true', bne_eq_false_iff_eq] at hsame
      exact hsame
    obtain ⟨hpushId, hstarted, hfrozen⟩ := hitem.frozen message hmessage
    have hnext : messageItem now enqueueSeq messageId action existing =
        { pushId := messagePushId messageId, enqueueSeq
          payload := .message { messageId, action
                                messageActionSnapshot := message.messageActionSnapshot }
          createdRfc3339 := item.createdRfc3339, updatedRfc3339 := now
          attemptCount := item.attemptCount, stepStates := item.stepStates
          localStage := item.localStage, auditPending := item.auditPending
          lastError := item.lastError } := by
      simp only [messageItem, hpreserved, Option.map_some, Option.getD_some, Option.bind_some,
        hmessage]
    rw [hnext]
    refine ⟨⟨hitem.steps, hitem.finished, ?_⟩, hkept⟩
    intro other heq
    cases heq
    refine ⟨rfl, hstarted, ?_⟩
    intro frozen hsnapshot
    obtain ⟨hfor, hlabels⟩ := hfrozen frozen hsnapshot
    rw [haction, hid] at hfor
    exact ⟨hfor, hlabels⟩

theorem Workspace.QueueConsistent.findMessageItem {messageId : String} (hqueue : w.QueueConsistent)
    (hfind : w.findMessageItem messageId = some item) : item.Consistent ∧ item.AuditKept ∧
      ∃ message, item.message = some message ∧ message.messageId = messageId := by
  obtain ⟨_, hitem, hkept⟩ := hqueue.of_mem (List.mem_of_find?_eq_some hfind)
  refine ⟨hitem, hkept, ?_⟩
  have hany := List.find?_some hfind
  cases hmessage : item.message with
  | none =>
    rw [hmessage] at hany
    cases hany
  | some message =>
    rw [hmessage, Option.any_some, beq_iff_eq] at hany
    exact ⟨message, rfl, hany⟩

theorem queue_queueMessageItem {host : Host} {action : MessagePushAction} {messageId : String}
    (hqueue : Queue h m) :
    Program.wp Queue (fun _ => Queue) (fun _ => Queue)
      (queueMessageItem host action messageId) h m := by
  have hexisting : ∀ item, m.workspace.findMessageItem messageId = some item →
      item.Consistent ∧ item.AuditKept ∧
        ∃ message, item.message = some message ∧ message.messageId = messageId :=
    fun _ hfind => Workspace.QueueConsistent.findMessageItem hqueue hfind
  have hwrite : Program.wp Queue (fun _ => Queue) (fun _ => Queue)
      (writeWorkspace (·.writeItem (messageItem host.now
        (((m.workspace.findMessageItem messageId).map (·.enqueueSeq)).getD
          m.workspace.nextEnqueueSeq) messageId action
        (m.workspace.findMessageItem messageId)))) h m := by
    apply queue_keep
    exact hqueue.write (messageItem_consistent hexisting)
  unfold queueMessageItem
  apply wp_workspace_bind.mpr
  dsimp only
  split
  · apply wp_check_bind
    · intro _ _
      exact hwrite
    · intro error _
      exact hqueue
  · exact hwrite

theorem queue_queueActionSteps {host : Host} {action : MessagePushAction}
    {messageIds : List String} {locations : List PushLocation} {steps : List ActionStep}
    (hqueue : Queue h m) :
    Program.wp Queue (fun _ => Queue) (fun _ => Queue)
      (queueActionSteps host action messageIds locations steps) h m := by
  unfold queueActionSteps
  split
  · exact hqueue
  · apply wp_then
    apply Program.wp_forEach hqueue
    intro messageId _ h' m' hloop
    exact queue_queueMessageItem hloop

end Queueing

section Removal
variable {h : List RemoteEvent} {m : Process}
  {inv : ProcessFact}

/-- What deleting records of a workspace keeps, when nothing of them was started. -/
def Workspace.Discards (w : Workspace) (inv : ProcessFact) :
    Prop :=
  ∀ h m item, item ∈ w.readItems → item.hasStartedEffects = false → inv h m →
    inv h (m.onWorkspace (·.deleteItem item.pushId))

theorem wp_removePendingMessagePushes {messageId : String} {action : MessagePushAction}
    (hinv : inv h m) (hdelete : m.workspace.Discards inv) :
    Program.wp inv (fun _ => inv) (fun _ => inv)
      (removePendingMessagePushes messageId action) h m := by
  unfold removePendingMessagePushes
  apply wp_workspace_bind.mpr
  apply wp_check_bind
  · intro items hitems
    apply wp_then
    apply Program.wp_forEach hinv
    intro item hmem h' m' hloop
    obtain ⟨rfl, hunstarted⟩ := removableMessagePushes_eq_ok_iff.mp hitems
    have hnext := hdelete h' m' item (List.mem_filter.mp hmem).1 (hunstarted item hmem) hloop
    exact ⟨hnext, hnext⟩
  · intro error _
    exact hinv

theorem wp_removeOutboundForDraft {caseUid draftName : String} (hinv : inv h m)
    (hdelete : m.workspace.Discards inv) :
    Program.wp inv (fun _ => inv) (fun _ => inv)
      (removeOutboundForDraft caseUid draftName) h m := by
  unfold removeOutboundForDraft
  apply wp_workspace_bind.mpr
  apply wp_check_bind
  · intro items hitems
    apply wp_then
    apply Program.wp_forEach hinv
    intro item hmem h' m' hloop
    obtain ⟨rfl, hunstarted⟩ := removableOutbound_eq_ok_iff.mp hitems
    apply wp_workspace_bind.mpr
    apply wp_check_bind
    · intro _ _
      have hnext := hdelete h' m' item (List.mem_filter.mp hmem).1 (hunstarted item hmem) hloop
      exact ⟨hnext, hnext⟩
    · intro error _
      exact hloop
  · intro error _
    exact hinv

theorem queue_delete (w : Workspace) : w.Discards Queue := by
  intro h m item _ _ hqueue
  exact Workspace.QueueConsistent.deleteItem hqueue item.pushId

end Removal

section Recovery
variable {w w' : Workspace} {events : List RemoteEvent}

theorem Workspace.Settles.queueConsistent {later : PushItem} (hqueue : w.QueueConsistent)
    (hsettles : w.Settles kind later w') (hlater : later.Consistent ∧ later.AuditKept) :
    w'.QueueConsistent := by
  cases hsettles with
  | untouched | recording | audited => exact hqueue
  | written => exact Workspace.QueueConsistent.writeItem hqueue hlater.1 hlater.2

theorem queue_recover {host : Host} {pushId : String} {confirmed : Option RecoveryPlan}
    {settle : Option SendSettlement} {outcome : Outcome AppError RecoveryPlan} {m m' : Process}
    (hqueue : m.workspace.QueueConsistent)
    (hexec : Exec (recover host pushId confirmed settle) m events outcome m') :
    m'.workspace.QueueConsistent := by
  rcases recover_ends hexec with ⟨hsame, _⟩ | ⟨item, hfind, hends⟩
  · rw [hsame]
    exact hqueue
  · obtain ⟨_, hitem, hkept⟩ := hqueue.of_mem (List.mem_of_find?_eq_some hfind)
    rcases hends.settles with hsame | ⟨kind, _, later, hsettled, hsettles⟩
    · rw [hsame]
      exact hqueue
    · exact hsettles.queueConsistent hqueue ⟨hsettled.consistent hitem, hsettled.auditKept hkept⟩

end Recovery

section Runs

theorem QueueCommand.queueConsistent {program : Command α} {outcome : Outcome AppError α}
    {m m' : Process} (hcommand : QueueCommand program) (hqueue : m.workspace.QueueConsistent)
    (hexec : Exec program m events outcome m') : m'.workspace.QueueConsistent := by
  have hkeeps : Program.wp Queue (fun _ => Queue) (fun _ => Queue) program [] m →
      m'.workspace.QueueConsistent := fun hwp => Program.session_invariant hexec hqueue hwp
  cases hcommand with
  | queueOutbound => exact hkeeps (queue_queueOutbound hqueue)
  | queueActionSteps => exact hkeeps (queue_queueActionSteps hqueue)
  | removeOutboundForDraft => exact hkeeps (wp_removeOutboundForDraft hqueue (queue_delete _))
  | removePendingMessagePushes =>
    exact hkeeps (wp_removePendingMessagePushes hqueue (queue_delete _))
  | recover => exact queue_recover hqueue hexec

theorem QueueSession.queueConsistent {w w' : Workspace} (hqueue : w.QueueConsistent)
    (hsession : QueueSession w events w') : w'.QueueConsistent := by
  cases hsession with
  | push hpush => exact hpush.queueConsistent hqueue
  | command hcommand hexec => exact hcommand.queueConsistent hqueue hexec
  | other hsame => exact hqueue.congr hsame

theorem queueConsistent_of_run {w w' : Workspace} (hqueue : w.QueueConsistent)
    (hrun : Run QueueSession w events w') : w'.QueueConsistent := by
  apply hrun.invariant hqueue
  intro _ _ _ _ hqueue hsession
  exact hsession.queueConsistent hqueue

theorem queueConsistent_of_empty {w : Workspace} (hempty : w.pushItems = ∅) :
    w.QueueConsistent := by
  intro pushId item hget
  rw [hempty, Std.ExtTreeMap.getElem?_empty] at hget
  cases hget

/-- What every queue record shows of its steps. The labels of a planned item lead those of the
steps it is going to run; progress that never started is dropped with the plan it was of. -/
theorem readItems_stepsOrdered {w₀ w : Workspace} (hempty : w₀.pushItems = ∅)
    (hrun : Run QueueSession w₀ events w) (hmem : item ∈ w.readItems) :
    Indexed item.stepStates ∧ StepsOrdered.Split item.stepStates ∧
      (item.localStage.isSome → ∀ state ∈ item.stepStates, state.status = .succeeded) ∧
      ∀ host planned, w.config.validate = .ok () →
        planItem ⟨host, w.config⟩ w item = .ok (some planned) →
          planned.Leads ∧ (planned.stepStates = item.stepStates ∨
            planned.stepStates = [] ∧ item.hasStartedEffects = false) := by
  have hqueue := queueConsistent_of_run (queueConsistent_of_empty hempty) hrun
  obtain ⟨_, hitem, _⟩ := hqueue.of_mem hmem
  refine ⟨hitem.steps.indexed, hitem.steps.split, hitem.finished, ?_⟩
  intro host planned hvalid hplan
  have hstored : item.stored = item := by
    obtain ⟨_, record, _, rfl⟩ := Workspace.mem_readItems.mp hmem
    rfl
  have hplanned := planItem_planned hvalid hitem hstored hplan
  exact ⟨hplanned.leads, hplanned.resumes.stepStates⟩

/-- The digest that a review of the plan shows, to be confirmed. -/
def reviewedPlan (host : Host) (w : Workspace) : PushPlanDigest :=
  match resolvePushPlan ⟨host, w.config⟩ w with
  | .ok plan => plan.planId
  | .error _ =>
    { workspaceUid := w.workspaceUid, configEffect := w.config, queueRecords := [], items := []
      skippedItems := [] }

theorem pushSession_run (host : Host)
    (answer : τ → (request : Request) → Except AppError request.Reply × τ) (w : Workspace)
    (t : τ) (confirmed : PushPlanDigest) :
    ∃ events, PushSession w events
      ((pushConfirmed host confirmed).run answer (.start w) t).2.1.workspace := by
  obtain ⟨events, hexec⟩ := Program.run_exec answer (pushConfirmed host confirmed) (.start w) t
  exact ⟨events, .run host confirmed _ _ hexec⟩

/-- A push of everything that is queued, as it was reviewed. -/
def reviewedPush (host : Host)
    (answer : τ → (request : Request) → Except AppError request.Reply × τ) (w : Workspace)
    (t : τ) : Result PushSummary × Process × τ :=
  (pushConfirmed host (reviewedPlan host w)).run answer (.start w) t

theorem reviewedPush_exec {host : Host}
    {answer : τ → (request : Request) → Except AppError request.Reply × τ} {w : Workspace} {t : τ}
    {summary : PushSummary} (hreturned : (reviewedPush host answer w t).1 = .ok summary) :
    ∃ events, Exec (pushConfirmed host (reviewedPlan host w)) (.start w) events
      (.returned summary) (reviewedPush host answer w t).2.1 := by
  obtain ⟨events, hexec⟩ :=
    Program.run_exec answer (pushConfirmed host (reviewedPlan host w)) (.start w) t
  change Exec _ _ _ (.ofExcept (reviewedPush host answer w t).1) _ at hexec
  rw [hreturned] at hexec
  exact ⟨events, hexec⟩

/-- A workspace with one message, which was filed as spam. -/
def spamFiled : Workspace where
  config := .default
  messages := .ofList [("m", ({ eml := some [], metadata := some { remote := some [
    { mailboxName := "INBOX", uidValidity := some 1, uid := some 7 }] } } : MessageRecord))]
  spam := Members.upsertItem ∅ "m" none ""

def queueSpam : Command (List String) :=
  queueActionSteps plainHost .spam ["m"] [⟨"m", "INBOX", 1, 7⟩]
    [{ addFlags := ["\\Seen", "$Junk"] }, .moveTo "junk"]

def spamQueued : Workspace := (queueSpam.run flagsThenGone (.start spamFiled) ()).2.1.workspace

def spamHalfway : Workspace :=
  ((pushConfirmed plainHost (reviewedPlan plainHost spamQueued)).run flagsThenGone
    (.start spamQueued) ()).2.1.workspace

theorem readItems_stepsOrdered_spamHalfway : ∃ events, Run QueueSession spamFiled events
    spamHalfway ∧ ∃ item ∈ spamHalfway.readItems,
      item.stepStates.map (·.status) = [.succeeded, .failed] ∧
      Indexed item.stepStates ∧ StepsOrdered.Split item.stepStates ∧
      (item.localStage.isSome → ∀ state ∈ item.stepStates, state.status = .succeeded) ∧
      ∀ host planned, spamHalfway.config.validate = .ok () →
        planItem ⟨host, spamHalfway.config⟩ spamHalfway item = .ok (some planned) →
          planned.Leads ∧ (planned.stepStates = item.stepStates ∨
            planned.stepStates = [] ∧ item.hasStartedEffects = false) := by
  obtain ⟨queueing, hqueued⟩ := Program.run_exec flagsThenGone queueSpam (.start spamFiled) ()
  obtain ⟨pushing, hpushed⟩ := pushSession_run plainHost flagsThenGone spamQueued ()
    (reviewedPlan plainHost spamQueued)
  have hrun : Run QueueSession spamFiled (([] ++ queueing) ++ pushing) spamHalfway :=
    .next (.next .start (.command (.queueActionSteps _ _ _ _ _) hqueued)) (.push hpushed)
  have hitem : ∃ item ∈ spamHalfway.readItems,
      item.stepStates.map (·.status) = [.succeeded, .failed] := by decide +kernel
  obtain ⟨item, hmem, hstates⟩ := hitem
  exact ⟨_, hrun, item, hmem, hstates, readItems_stepsOrdered rfl hrun hmem⟩

end Runs
end AgentFirstMail
