import AgentFirstMail.Effect.Confined
import AgentFirstMail.PushQueue.Snapshot

namespace AgentFirstMail
open Effect Command

namespace PushItem

/-- The steps that an item is planned to run. -/
def steps (item : PushItem) : List ActionStep :=
  match item.plannedMessageAction, item.plannedOutbound with
  | some action, _ => action.steps
  | none, some outbound => outbound.steps
  | none, none => []

/-- Whether an item is there to deliver a draft. -/
def sendsDraft (item : PushItem) : Bool := item.outbound.any (·.action == .send)

/-- How the steps of an item are executed. -/
def executor (item : PushItem) : StepExecutor :=
  match item.payload with
  | .draft _ => executeOutboundStep
  | .message _ => executeMessageStep

/-- A step that a push has yet to execute for an item: it neither succeeded nor has an outcome
that is still to be settled. -/
structure Left (item : PushItem) (index : Nat) (step : ActionStep) : Prop where
  auditPending : item.auditPending = none
  localStage : item.localStage = none
  planned : item.steps[index]? = some step
  pending : item.stepSucceeded index = false
  settled : item.stepRemoteOutcomeUnknown index = true →
    item.legacyMoveMessageIdPreflightFailed index step = true

/-- What stays of an item while its steps are executed. -/
structure SamePlan (other item : PushItem) : Prop where
  outbound : other.plannedOutbound = item.plannedOutbound
  prepared : other.plannedOutboundMessage = item.plannedOutboundMessage
  action : other.plannedMessageAction = item.plannedMessageAction
  messageIds : other.messageIds = item.messageIds

theorem SamePlan.refl (item : PushItem) : item.SamePlan item := ⟨rfl, rfl, rfl, rfl⟩

namespace SamePlan
variable {other item : PushItem}

theorem modifyStepState (h : other.SamePlan item) (index : Nat)
    (change : PushStepState → PushStepState) :
    (other.modifyStepState index change).SamePlan item :=
  ⟨h.outbound, h.prepared, h.action, h.messageIds⟩

theorem touch (h : other.SamePlan item) (now : String) :
    SamePlan { other with updatedRfc3339 := now, lastError := none } item :=
  ⟨h.outbound, h.prepared, h.action, h.messageIds⟩

theorem locations (h : other.SamePlan item) : other.locations = item.locations := by
  unfold PushItem.locations
  rw [h.action]

theorem replyToMessageId (h : other.SamePlan item) :
    other.replyToMessageId = item.replyToMessageId := by
  unfold PushItem.replyToMessageId
  rw [h.action, h.outbound]

end SamePlan
end PushItem

/-- A request that delivers a message. -/
def Request.isSend : Request → Bool
  | publish .. | sendCloudflareRawMessage .. | sendRawMessage .. => true
  | _ => false

/-- The codes of an executor that cannot do what a step of its kind asks for. -/
def kindErrorCodes : List String :=
  ["push_item_invalid", "channel_operation_unsupported", "message_not_found"]

/-- The codes of a configuration that lacks what a step needs. -/
def configErrorCodes : List String := ["config_missing", "config_invalid", "unknown_mailbox_id"]

/-- What the effects of a step go through; each has settings of its own. -/
inductive Transport where
  | imap | smtp | cloudflare | files

/-- The transport that serves a request. -/
def Request.transport : Request → Option Transport
  | newEventId | newDraftPushSuffix => none
  | outputConfirmed _ | publish .. => some .files
  | prepareCloudflareSend _ | sendCloudflareRawMessage .. => some .cloudflare
  | prepareSend .. | sendRawMessage .. => some .smtp
  | listMailboxes | findByMessageId .. | addFlags .. | appendMessage .. | moveMessage .. =>
    some .imap

/-- Which transports find their settings. Those of SMTP are read before a send is attempted. -/
structure Settings (host : Host) where
  found : Transport → Bool
  smtp : found .smtp = true ↔ host.requireSmtp = .ok ()

/-- Only a transport that misses its settings answers with a configuration error. -/
def Settings.Govern (settings : Settings host) (events : List RemoteEvent) : Prop :=
  ∀ event ∈ events, ∀ code ∈ configErrorCodes, event.errorCode? = some code →
    ∃ transport, event.request.transport = some transport ∧ settings.found transport = false

/-- A step was refused for its kind, and not because the remote answered so. -/
structure RefusesKind (events : List RemoteEvent) (error : AppError) : Prop where
  code : error.errorCode ∈ kindErrorCodes
  unanswered : ¬FromReply events error

/-- Whatever state the push is in, it refuses no step that it has left for its kind, it stops
behind the first one on no configuration error, and it delivers nothing for an item that is not
there to deliver a draft. -/
def StepsExecutable (context : PushExecutionContext) (settings : Settings context.host)
    (item : PushItem) : Prop :=
  ∀ index step, item.Left index step →
    ∀ process events outcome process', process.item.SamePlan item →
      Exec (item.executor context index step) process events outcome process' →
      (∀ error, outcome = .failed error → ¬RefusesKind events error ∧
        (0 < index → settings.Govern events → error.errorCode ∉ configErrorCodes)) ∧
      ∀ event ∈ events, event.request.isSend = true → item.sendsDraft = true

/-- An SMTP send that ends before the server is spoken to. -/
def Unattempted (context : PushExecutionContext) (item : PushItem) : Prop :=
  ∀ prepared, item.plannedOutboundMessage = some prepared →
    validateSmtpSendAttempt context.host prepared ≠ .ok ()

/-- What an executor supports. A message item neither sends nor acts on the message it replies
to, a draft item does not move that message, and one that is only saved does not send. -/
def SupportsStep (context : PushExecutionContext) (item : PushItem) (step : ActionStep) : Prop :=
  match item.payload with
  | .message _ => step.isSend = false ∧
      (step.on.isSome = true → step.addFlags = [] ∧ step.moveToMailboxId = none)
  | .draft _ => (step.on.isSome = true → step.moveToMailboxId = none) ∧
      (step.isSend = true → item.sendsDraft = false →
        step.cloudflareSend = none ∧ Unattempted context item)

/-- The transports that a step of an item goes through. -/
def PushItem.Uses (item : PushItem) (step : ActionStep) : Transport → Prop
  | .imap => step.moveToMailboxId.isSome = true ∨ step.appendToMailboxId.isSome = true ∨
      step.addFlags ≠ [] ∧ (step.on.isSome = true ∨ item.locations ≠ [])
  | .smtp => step.smtpSend.isSome = true
  | .cloudflare => step.cloudflareSend.isSome = true
  | .files => step.fileSend.isSome = true

/-- The configuration has the mailboxes that a step names and the settings of what it uses. -/
structure FindsSettings (context : PushExecutionContext) (settings : Settings context.host)
    (item : PushItem) (step : ActionStep) : Prop where
  mailboxes : ∀ mailboxId ∈ step.moveToMailboxId.toList ++ step.appendToMailboxId.toList,
    ∃ mailbox, context.config.mailboxes[mailboxId]? = some mailbox
  transports : ∀ transport, item.Uses step transport → settings.found transport = true

/-- Every step left of an item is one that its executor supports, and behind the first one the
configuration has what it needs. -/
def StepsSupported (context : PushExecutionContext) (settings : Settings context.host)
    (item : PushItem) : Prop :=
  ∀ index step, item.Left index step → SupportsStep context item step ∧
    (0 < index → FindsSettings context settings item step)

/-- What the plan of a draft says about its steps. -/
structure PlansDraft (config : MailConfig) (outbound : OutboundPush)
    (prepared : PreparedOutbound) : Prop where
  file : ∀ step ∈ outbound.steps, step.fileSend.isSome = true →
    outbound.action = .send ∧ prepared.isFile = true
  email : ∀ step ∈ outbound.steps, step.fileSend = none → prepared.isFile = false
  replyTo : ∀ step ∈ outbound.steps, step.on.isSome = true →
    outbound.replyToMessageId.isSome = true
  targets : ∀ step ∈ outbound.steps,
    ∀ mailboxId ∈ step.moveToMailboxId.toList ++ step.appendToMailboxId.toList,
      ∃ mailbox, config.mailboxes[mailboxId]? = some mailbox

section Planning
variable {config : MailConfig} {w : Workspace} {outbound : OutboundPush}
  {steps kept : List ActionStep}

theorem filterEmailSteps_eq_ok (h : filterEmailSteps w outbound steps = .ok kept) :
    (∀ step ∈ kept, step ∈ steps ∧ step.fileSend = none) ∧
      ∀ step ∈ kept, step.on.isSome = true →
        ∃ draft, w.readDraft outbound.caseUid outbound.draftName = .ok draft ∧
          draft.frontmatter.replyToMessageId.isSome = true := by
  obtain ⟨hfile, h⟩ := Result.seq_ok h
  rw [ensure_eq_ok_iff, List.all_eq_true] at hfile
  have hnone : ∀ step ∈ steps, step.fileSend = none := fun step hmem =>
    Option.isNone_iff_eq_none.mp (hfile step hmem)
  split at h
  · obtain ⟨skip, hskip, h⟩ := Result.bind_ok h
    obtain ⟨draft, hdraft, hskip⟩ := Result.bind_ok hskip
    cases h
    cases hskip
    split
    · constructor
      · intro step hmem
        have hstep := List.mem_of_mem_filter hmem
        exact ⟨hstep, hnone step hstep⟩
      · intro step hmem hon
        have hother := (List.mem_filter.mp hmem).2
        obtain ⟨target, htarget⟩ := Option.isSome_iff_exists.mp hon
        rw [htarget] at hother
        cases target
        cases hother
    · rename_i hkept
      rw [Bool.not_eq_true, Bool.or_eq_false_iff, Option.isNone_eq_false_iff] at hkept
      exact ⟨fun step hmem => ⟨hmem, hnone step hmem⟩, fun _ _ _ => ⟨draft, hdraft, hkept.2⟩⟩
  · rename_i hany
    cases h
    refine ⟨fun step hmem => ⟨hmem, hnone step hmem⟩, fun step hmem hon => ?_⟩
    refine (hany ?_).elim
    obtain ⟨target, htarget⟩ := Option.isSome_iff_exists.mp hon
    cases target
    exact List.any_eq_true.mpr ⟨step, hmem, by rw [htarget]; rfl⟩

theorem draftFrontmatter_of_readDraft {draft : DraftFile}
    (h : w.readDraft caseUid draftName = .ok draft) :
    w.draftFrontmatter caseUid draftName = .ok (some draft.frontmatter) := by
  obtain ⟨case_, hcase, h⟩ := Result.bind_ok h
  cases hdraft : case_.drafts[draftName]? with
  | none =>
    rw [hdraft] at h
    cases h
  | some found =>
    rw [hdraft] at h
    cases h
    apply Result.bind_eq_ok_iff.mpr
    refine ⟨case_, hcase, ?_⟩
    rw [hdraft]
    rfl

theorem configuredOutboundSteps_target (hconfig : config.validate = .ok ())
    (action : OutboundAction) :
    ∀ step ∈ configuredOutboundSteps config action,
      ∀ mailboxId ∈ step.moveToMailboxId.toList ++ step.appendToMailboxId.toList,
        ∃ mailbox, config.mailboxes[mailboxId]? = some mailbox := by
  obtain ⟨hsave, hsend⟩ := MailConfig.validate_draftSteps hconfig
  cases action with
  | saveDraft => exact MailConfig.validateSteps_target hsave
  | send => exact MailConfig.validateSteps_target hsend

theorem plansDraft {frontmatter : DraftFrontmatter} (hconfig : config.validate = .ok ())
    (hfrontmatter : w.draftFrontmatter outbound.caseUid outbound.draftName = .ok (some frontmatter))
    (hreply : outbound.replyToMessageId = frontmatter.replyToMessageId)
    (hsteps : filterReplyToSteps w outbound (configuredOutboundSteps config outbound.action) = .ok steps)
    (hdelivery : (∃ route, frontmatter.replyRoute = some route ∧ prepared.delivery = .file route) ∨
      ∃ email, frontmatter.replyRoute = none ∧ prepared.delivery = .email email) :
    PlansDraft config { outbound with steps } prepared := by
  obtain ⟨found, hfound, hsteps⟩ := Result.bind_ok hsteps
  cases hfound.symm.trans hfrontmatter
  rcases hdelivery with ⟨route, hroute, hfile⟩ | ⟨email, hroute, hemail⟩
  · rw [Option.any_some, hroute, if_pos Option.isSome_some] at hsteps
    obtain ⟨haction, hsteps⟩ := Result.seq_ok hsteps
    rw [ensure_eq_ok_iff, beq_iff_eq] at haction
    cases hsteps
    refine ⟨fun _ _ _ => ⟨haction, ?_⟩, ?_, ?_, ?_⟩
    · rw [PreparedOutbound.isFile, hfile]
    · intro step hmem hnone
      rw [List.mem_singleton.mp hmem] at hnone
      cases hnone
    · intro step hmem hon
      rw [List.mem_singleton.mp hmem] at hon
      cases hon
    · intro step hmem _ htarget
      rw [List.mem_singleton.mp hmem] at htarget
      cases htarget
  · rw [Option.any_some, hroute, if_neg (by decide)] at hsteps
    obtain ⟨hkept, hon⟩ := filterEmailSteps_eq_ok hsteps
    refine ⟨?_, fun _ _ _ => ?_, ?_, ?_⟩
    · intro step hmem hsome
      rw [(hkept step hmem).2] at hsome
      cases hsome
    · rw [PreparedOutbound.isFile, hemail]
    · intro step hmem hsome
      obtain ⟨draft, hdraft, hto⟩ := hon step hmem hsome
      cases (draftFrontmatter_of_readDraft hdraft).symm.trans hfrontmatter
      rw [hreply]
      exact hto
    · intro step hmem
      exact configuredOutboundSteps_target hconfig _ step (hkept step hmem).1

end Planning

/-- What is planned for an item whose steps are to be executed. -/
inductive PlansSteps (config : MailConfig) (item : PushItem) : Prop
  | message (message : MessagePush) (action : MessageActionPush) :
      item.payload = .message message → item.plannedOutbound = none →
      item.plannedMessageAction = some action → action.For message.action message.messageId →
      PlansSteps config item
  | draft (draft : DraftPush) (outbound : OutboundPush) (prepared : PreparedOutbound) :
      item.payload = .draft draft → item.plannedMessageAction = none →
      item.plannedOutbound = some outbound → item.plannedOutboundMessage = some prepared →
      (∀ step ∈ outbound.steps, step.opCount = 1) → PlansDraft config outbound prepared →
      PlansSteps config item

section Planned
variable {context : PushExecutionContext} {w : Workspace} {item planned : PushItem}

theorem planOutboundItem_plansSteps {draft : DraftPush} {frontmatter : DraftFrontmatter}
    (hconfig : context.config.validate = .ok ()) (hstored : item.stored = item)
    (hpayload : item.payload = .draft draft)
    (hfrontmatter : w.draftFrontmatter draft.caseUid draft.draftName = .ok (some frontmatter))
    (h : planOutboundItem context w item draft frontmatter action = .ok planned) :
    PlansSteps context.config planned := by
  have hplanned := planOutboundItem_planned hconfig hstored hpayload h
  obtain ⟨steps, hsteps, h⟩ := Result.bind_ok h
  obtain ⟨kept, hkept, h⟩ := Result.bind_ok h
  obtain ⟨prepared, hprepared, h⟩ := Result.bind_ok h
  cases h
  obtain ⟨hresumes, houtbound, haction, _⟩ := resetProgressIfPlanChanged_resumes hkept
  have hnone : kept.plannedOutboundMessage = none ∧ item.plannedMessageAction = none := by
    have hempty : item.plannedOutboundMessage = none ∧ item.plannedMessageAction = none := by
      rw [← hstored]
      exact ⟨rfl, rfl⟩
    rcases resetProgressIfPlanChanged_eq_ok hkept with hsame | hreset
    · rw [hsame.1]
      exact hempty
    · rw [hreset.2]
      exact hempty
  rw [prepareCurrentOutbound, hnone.1] at hprepared
  obtain ⟨found, hfound, hprepared⟩ := Result.bind_ok hprepared
  rw [outboundOf, PushItem.outbound, houtbound] at hfound
  cases hfound
  obtain ⟨_, _, hprepared⟩ := Result.bind_ok hprepared
  obtain ⟨_, hprepared⟩ := Result.seq_ok hprepared
  obtain ⟨_, other, hother, hdelivery⟩ := prepareOutbound_eq_ok hprepared
  cases hother.symm.trans hfrontmatter
  refine .draft draft _ prepared (hresumes.payload.trans hpayload) (haction.trans hnone.2) houtbound
    rfl ?_ (plansDraft hconfig hfrontmatter rfl hsteps hdelivery)
  exact filterReplyToSteps_single (configuredOutboundSteps_single hconfig _) hsteps

theorem planItem_plansSteps (hconfig : context.config.validate = .ok ())
    (hitem : item.Consistent) (hstored : item.stored = item)
    (h : planItem context w item = .ok (some planned)) (haudit : planned.auditPending = none)
    (hstage : planned.localStage = none) : PlansSteps context.config planned := by
  have hplanned := planItem_planned hconfig hitem hstored h
  have hnone : item.auditPending = none := hplanned.resumes.auditPending.symm.trans haudit
  cases hpayload : item.payload with
  | message message =>
    cases hplanned.planned with
    | reported hsome =>
      rw [haudit] at hsome
      cases hsome
    | message message action hmessage houtbound haction hfor _ =>
      exact .message message action hmessage houtbound haction hfor
    | draft draft _ hdraft =>
      cases (hplanned.resumes.payload.trans hpayload).symm.trans hdraft
  | draft draft =>
    rw [planItem, hnone, hpayload] at h
    obtain ⟨frontmatter, hfrontmatter, h⟩ := Result.bind_ok h
    cases frontmatter with
    | none =>
      dsimp only at h
      split at h
      · rename_i hlate
        cases h
        change item.localStage = none at hstage
        rw [PushItem.localStageAtLeast, hstage] at hlate
        cases hlate
      · obtain ⟨_, h⟩ := Result.seq_ok h
        cases h
    | some frontmatter =>
      dsimp only at h
      cases hintent : frontmatter.syncIntent with
      | none =>
        rw [hintent] at h
        obtain ⟨_, h⟩ := Result.seq_ok h
        cases h
      | some action =>
        rw [hintent] at h
        obtain ⟨found, hfound, h⟩ := Result.bind_ok h
        cases h
        exact planOutboundItem_plansSteps hconfig hstored hpayload hfrontmatter hfound

theorem resolvePlannedItems_plansSteps {planned : PlannedItems}
    (hconfig : context.config.validate = .ok ()) (hqueue : w.QueueConsistent)
    (h : resolvePlannedItems context w = .ok planned) (hmem : item ∈ planned.items)
    (haudit : item.auditPending = none) (hstage : item.localStage = none) :
    PlansSteps context.config item := by
  obtain ⟨found, hfound, h⟩ := Result.bind_ok h
  cases h
  have hin : item ∈ found.items := (orderItemsForDependencies_perm found.items).mem_iff.mp hmem
  obtain ⟨record, hrecord, hplan⟩ := planItems_mem hfound item hin
  obtain ⟨pushId, kept, hget, rfl⟩ :=
    Workspace.mem_readItems.mp (Workspace.mem_sortedItems.mp hrecord)
  exact planItem_plansSteps hconfig (hqueue pushId kept hget).consistent.stored rfl hplan haudit hstage

end Planned

section Execution
variable {context : PushExecutionContext} {item : PushItem} {index : Nat} {step : ActionStep}
  {settings : Settings context.host} {late : Prop} {α : Type}

/-- An error that refuses no step for its kind, and is none of the configuration where a step is
late. -/
structure Unrefusing (late : Prop) (error : AppError) : Prop where
  kind : error.errorCode ∉ kindErrorCodes
  config : late → error.errorCode ∉ configErrorCodes

theorem Unrefusing.of_code {error : AppError} (h : error.errorCode ∉ kindErrorCodes ++ configErrorCodes) :
    Unrefusing late error := by
  rw [List.mem_append, not_or] at h
  exact ⟨h.1, fun _ => h.2⟩

theorem Unrefusing.of_config {error : AppError} (h : error.errorCode ∈ configErrorCodes)
    (hnot : ¬late) : Unrefusing late error := by
  have hcodes : configErrorCodes.all (· ∉ kindErrorCodes) = true := by decide
  exact ⟨of_decide_eq_true (List.all_eq_true.mp hcodes _ h), fun hlate => (hnot hlate).elim⟩

theorem AppError.OfRead.unrefusing {error : AppError} (h : error.OfRead) :
    Unrefusing late error := by
  have hcodes : readErrorCodes.all (· ∉ kindErrorCodes ++ configErrorCodes) = true := by decide
  exact .of_code (of_decide_eq_true (List.all_eq_true.mp hcodes _ h.code))

theorem fails_requireSmtp (host : Host) :
    host.requireSmtp.Fails (·.errorCode ∈ configErrorCodes) := by
  apply Result.Fails.bind
  · exact Result.Fails.ensure (by simp [configMissing, configErrorCodes])
  intro _ _
  apply Result.Fails.bind
  · exact Result.Fails.ensure (by simp [configMissing, configErrorCodes])
  intro _ _
  unfold resolveOptionalPasswordSecret
  split
  · exact Result.Fails.ok _
  · exact Result.Fails.failure (by simp [configInvalid, configErrorCodes])
  · exact Result.Fails.failure (by simp [configMissing, configErrorCodes])

/-- A step of an item keeps its plan and delivers only what the item is there to deliver; a late
one goes only through what finds its settings. -/
def stepBounds (settings : Settings context.host) (late : Prop) (item : PushItem) :
    Bounds Process Request AppError String where
  state process := process.item.SamePlan item
  request request := (request.isSend = true → item.sendsDraft = true) ∧
    ∀ transport, request.transport = some transport → late → settings.found transport = true
  code error := error.errorCode

/-- A command that executes a step of an item without refusing it. -/
abbrev KeepsPlan (settings : Settings context.host) (late : Prop) (item : PushItem)
    (p : Command α) : Prop :=
  Program.Confined (stepBounds settings late item) (Unrefusing late) p

theorem keepsPlan_currentItem {f : PushItem → Command α}
    (hf : ∀ other : PushItem, other.SamePlan item → KeepsPlan settings late item (f other)) :
    KeepsPlan settings late item (currentItem >>= f) := fun process h => hf process.item h

theorem keepsPlan_workspace {f : Workspace → Command α}
    (hf : ∀ w, KeepsPlan settings late item (f w)) :
    KeepsPlan settings late item (workspace >>= f) := fun process _ => hf process.workspace

theorem keepsPlan_check {result : Result α} {f : α → Command β}
    (hfails : result.Fails (Unrefusing late)) (hf : ∀ value, result = .ok value →
      KeepsPlan settings late item (f value)) :
    KeepsPlan settings late item (Program.ofExcept result >>= f) :=
  Program.Confined.ofExcept_bind hf hfails

theorem keepsPlan_writeWorkspace (change : Workspace → Workspace) :
    KeepsPlan settings late item (writeWorkspace change) := Program.Confined.write fun _ h => h

theorem keepsPlan_persistRemoteOutcomeUnknown (index : Nat) (step : ActionStep) :
    KeepsPlan settings late item (persistRemoteOutcomeUnknown context index step) := by
  apply Program.Confined.write
  intro process h
  exact (PushItem.SamePlan.modifyStepState h index _).touch _

theorem stepBounds_request {request : Request} {transport : Transport}
    (hsend : request.isSend = true → item.sendsDraft = true)
    (hserved : request.transport = some transport)
    (hfound : late → settings.found transport = true) :
    (stepBounds settings late item).request request := by
  refine ⟨hsend, fun other hother => ?_⟩
  cases hserved.symm.trans hother
  exact hfound

theorem keepsPlan_perform {request : Request} {transport : Transport}
    (h : request.isSend = false) (hserved : request.transport = some transport)
    (hfound : late → settings.found transport = true) :
    KeepsPlan settings late item (Command.perform request) := by
  apply Program.Confined.perform
  refine stepBounds_request (fun hsend => ?_) hserved hfound
  cases h.symm.trans hsend

theorem keepsPlan_send {request : Request} {transport : Transport} (h : item.sendsDraft = true)
    (hserved : request.transport = some transport)
    (hfound : late → settings.found transport = true) :
    KeepsPlan settings late item (Command.perform request) :=
  Program.Confined.perform (stepBounds_request (fun _ => h) hserved hfound)

theorem keepsPlan_when {condition : Prop} [Decidable condition] {p : Command Unit}
    {f : Unit → Command α} (hp : KeepsPlan settings late item p)
    (hf : KeepsPlan settings late item (f ())) :
    KeepsPlan settings late item (if condition then p.bind f else f ()) := by
  split
  · exact Program.Confined.bind hp fun _ => hf
  · exact hf

section Imap
variable (himap : late → settings.found .imap = true)
include himap

theorem keepsPlan_cachedMailboxes : KeepsPlan settings late item cachedMailboxes := by
  intro process h
  dsimp only [Program.bind]
  split
  · trivial
  · apply Program.Confined.bind (keepsPlan_perform rfl rfl himap)
    intro mailboxes
    apply Program.Confined.bind
    · exact Program.Confined.write fun _ hprocess => hprocess
    · intro _
      trivial

theorem keepsPlan_remoteMailboxFolder {mailboxId : String}
    (hknown : late → ∃ mailbox, context.config.mailboxes[mailboxId]? = some mailbox) :
    KeepsPlan settings late item (remoteMailboxFolder context.config mailboxId) := by
  apply keepsPlan_check
  · intro error herror
    cases fails_mailbox _ _ error herror
    apply Unrefusing.of_config (by simp [MailConfig.unknownMailboxId, configErrorCodes])
    intro hlate
    obtain ⟨mailbox, hmailbox⟩ := hknown hlate
    rw [MailConfig.mailbox, hmailbox] at herror
    cases herror
  intro mailbox _
  apply Program.Confined.bind (keepsPlan_cachedMailboxes himap)
  intro mailboxes
  apply Program.Confined.ofExcept
  intro error herror
  exact (fails_resolveRules mailboxId mailboxes error herror).unrefusing

end Imap

theorem fails_readMessageById_unrefusing (w : Workspace) (messageId : String) :
    (w.readMessageById messageId).Fails (Unrefusing late) := fun error herror =>
  (Workspace.fails_readMessageById messageId error herror).unrefusing

theorem keepsPlan_executeAddFlags {locations : List PushLocation} (flags : List String)
    (himap : locations ≠ [] → late → settings.found .imap = true) :
    KeepsPlan settings late item (executeAddFlags context locations flags) := by
  apply Program.Confined.forEach
  intro location hmem
  apply Program.Confined.bind (keepsPlan_perform rfl rfl (himap (List.ne_nil_of_mem hmem)))
  intro _
  apply keepsPlan_workspace
  intro w
  apply keepsPlan_check (fails_readMessageById_unrefusing w _)
  intro message _
  dsimp only
  split
  · trivial
  · exact keepsPlan_writeWorkspace _

theorem keepsPlan_relocateMessage (messageId : String) (targets : List RemoteLocation) :
    KeepsPlan settings late item (relocateMessage messageId targets) := by
  unfold relocateMessage
  dsimp only
  split
  · trivial
  · apply keepsPlan_workspace
    intro w
    apply keepsPlan_check (fails_readMessageById_unrefusing w _)
    intro _ _
    exact keepsPlan_writeWorkspace _

/-- Every place is one of a message that is known. -/
def MovedMessages.Know (messages : MovedMessages) (locations : List PushLocation) : Prop :=
  ∀ location ∈ locations, location.messageId ∈ messages.map (·.1)

theorem MovedMessages.setLocations_ids (messages : MovedMessages) (messageId : String)
    (locations : List RemoteLocation) :
    (messages.setLocations messageId locations).map (·.1) = messages.map (·.1) := by
  rw [setLocations, List.map_map]
  apply List.map_congr_left
  intro entry _
  rw [Function.comp_apply]
  split
  · rfl
  · rfl

theorem unrefusing_moveTargetUidMissing (messageId : String) :
    Unrefusing late (moveTargetUidMissing messageId) :=
  .of_code (by simp [moveTargetUidMissing, kindErrorCodes, configErrorCodes])

section Moves
variable (himap : late → settings.found .imap = true)
include himap

theorem keepsPlan_moveLocation {site : EffectSite} {target : String} {messages : MovedMessages}
    {source : PushLocation} {f : MovedMessages → Command α}
    (hknow : source.messageId ∈ messages.map (·.1))
    (hf : ∀ locations, KeepsPlan settings late item
      (f (messages.setLocations source.messageId locations))) :
    KeepsPlan settings late item ((moveLocation context site target messages source).bind f) := by
  unfold moveLocation
  cases hlookup : messages.lookup source.messageId with
  | none =>
    obtain ⟨entry, hmem, hid⟩ := List.mem_map.mp hknow
    have hne := List.lookup_eq_none_iff.mp hlookup entry hmem
    rw [hid, bne_self_eq_false] at hne
    cases hne
  | some found =>
    obtain ⟨rfc822MessageId, existing⟩ := found
    dsimp only [Program.bind_eq]
    rw [Program.bind_assoc]
    apply Program.Confined.bind
    · apply Program.Confined.bind (keepsPlan_perform rfl rfl himap)
      intro _
      trivial
    intro moved
    cases moved with
    | none => exact unrefusing_moveTargetUidMissing source.messageId
    | some location =>
      dsimp only
      rw [Program.bind_assoc]
      apply Program.Confined.bind (keepsPlan_relocateMessage _ _)
      intro _
      exact hf _

theorem keepsPlan_moveLocations (pushId target : String) {messages : MovedMessages}
    {locations : List PushLocation} (hknow : messages.Know locations) :
    KeepsPlan settings late item
      (moveLocations context pushId index target messages locations) := by
  induction locations generalizing messages with
  | nil => trivial
  | cons source rest ih =>
    obtain ⟨hsource, hrest⟩ := List.forall_mem_cons.mp hknow
    rw [moveLocations]
    split
    · exact ih hrest
    split
    · exact ih hrest
    apply keepsPlan_moveLocation himap hsource
    intro locations
    apply ih
    intro location hmem
    rw [messages.setLocations_ids]
    exact hrest location hmem

end Moves

theorem readMovedMessages_know {w : Workspace} {messageIds : List String}
    {messages : MovedMessages} {locations : List PushLocation}
    (h : readMovedMessages w messageIds = .ok messages)
    (hmem : ∀ location ∈ locations, location.messageId ∈ messageIds) : messages.Know locations := by
  intro location hlocation
  obtain ⟨entry, hentry, hread⟩ := Lists.exists_of_forall₂ (Result.mapM_eq_ok_iff.mp h).flip
    (List.mem_eraseDups.mpr (hmem location hlocation))
  obtain ⟨message, _, hread⟩ := Result.bind_ok hread
  cases hread
  exact List.mem_map.mpr ⟨_, hentry, rfl⟩

section Steps

theorem keepsPlan_executeMove {locations : List PushLocation} {mailboxId : String}
    (himap : late → settings.found .imap = true)
    (hknown : late → ∃ mailbox, context.config.mailboxes[mailboxId]? = some mailbox)
    (hmem : ∀ location ∈ locations, location.messageId ∈ item.messageIds) :
    KeepsPlan settings late item (executeMove context index locations mailboxId) := by
  unfold executeMove
  split
  · trivial
  apply keepsPlan_currentItem
  intro other hsame
  apply keepsPlan_workspace
  intro w
  apply keepsPlan_check
  · intro error herror
    exact (fails_readMovedMessages w _ error herror).unrefusing
  intro messages hmessages
  apply Program.Confined.bind (keepsPlan_remoteMailboxFolder himap hknown)
  intro target
  rw [hsame.messageIds] at hmessages
  exact keepsPlan_moveLocations himap _ target (readMovedMessages_know hmessages hmem)

/-- Whatever of the messages was moved before, a rejection later keeps its code. -/
theorem keepsPlan_appendMessages (himap : late → settings.found .imap = true) (folder : String)
    (applied : Bool) (messageIds : List String) :
    KeepsPlan settings late item (appendMessages context index step folder applied messageIds) := by
  induction messageIds generalizing applied with
  | nil => trivial
  | cons messageId rest ih =>
    rw [appendMessages]
    apply keepsPlan_currentItem
    intro other hsame
    apply keepsPlan_workspace
    intro w
    apply keepsPlan_check
    · intro error herror
      exact (fails_appendedRaw w other messageId error herror).unrefusing
    intro raw _
    apply keepsPlan_when (keepsPlan_persistRemoteOutcomeUnknown index step)
    apply Program.Confined.ask_bind
    · refine stepBounds_request (fun hsend => ?_) rfl himap
      cases hsend
    · intro _
      exact ih true
    · intro error
      refine .inr ?_
      split
      · rfl
      · rfl

/-- Where a step acts is known without a failure that refuses it. -/
def Locates (late : Prop) (item : PushItem) (step : ActionStep) : Prop :=
  ∀ (w : Workspace) (other : PushItem), other.SamePlan item →
    (actionLocations w other step).Fails (Unrefusing late)

theorem locates_of_none (h : step.on = none) : Locates late item step := by
  intro w other _
  rw [actionLocations, h, if_neg (by decide)]
  exact Result.Fails.ok _

theorem locates_of_replyTo (h : item.replyToMessageId.isSome = true) :
    Locates late item step := by
  intro w other hsame
  rw [actionLocations]
  split
  · apply Result.Fails.bind
    · obtain ⟨replyTo, hreply⟩ := Option.isSome_iff_exists.mp h
      rw [replyToMessageIdForStep, hsame.replyToMessageId, hreply]
      exact Result.Fails.ok _
    · intro replyTo _ error herror
      exact (Workspace.fails_messageRemoteLocationsAny _ error herror).unrefusing
  · exact Result.Fails.ok _

/-- Without a place of its own a step acts on those of the item. -/
theorem locations_ne_nil {w : Workspace} {other : PushItem} (hsame : other.SamePlan item)
    (h : actionLocations w other step = .ok locations) (hne : locations ≠ []) :
    step.on.isSome = true ∨ item.locations ≠ [] := by
  cases hon : step.on with
  | none =>
    rw [actionLocations, hon, if_neg (by decide)] at h
    cases h
    exact .inr (by rwa [← hsame.locations])
  | some target => exact .inl rfl

variable (hfinds : late → FindsSettings context settings item step)
include hfinds

theorem keepsPlan_executeFlagsOf (h : step.addFlags = [] ∨ Locates late item step) :
    KeepsPlan settings late item (executeFlagsOf context step) := by
  unfold executeFlagsOf
  split
  · trivial
  rename_i hflags
  have hlocates := h.resolve_left fun hnil => hflags (by rw [hnil]; rfl)
  apply keepsPlan_currentItem
  intro other hsame
  apply keepsPlan_workspace
  intro w
  apply keepsPlan_check (hlocates w other hsame)
  intro locations hlocations
  apply keepsPlan_executeAddFlags
  intro hne hlate
  have hplaces := locations_ne_nil hsame hlocations hne
  exact (hfinds hlate).transports .imap (.inr (.inr ⟨mt List.isEmpty_iff.mpr hflags, hplaces⟩))

theorem keepsPlan_executeMoveOf (hon : step.on.isSome = true → step.moveToMailboxId = none)
    (hmem : ∀ location ∈ item.locations, location.messageId ∈ item.messageIds) :
    KeepsPlan settings late item (executeMoveOf context index step) := by
  unfold executeMoveOf
  cases hmove : step.moveToMailboxId with
  | none => trivial
  | some mailboxId =>
    have himap : late → settings.found .imap = true := fun hlate =>
      (hfinds hlate).transports .imap (.inl (by rw [hmove]; rfl))
    have hknown : late → ∃ mailbox, context.config.mailboxes[mailboxId]? = some mailbox :=
      fun hlate => (hfinds hlate).mailboxes mailboxId (by rw [hmove]; exact List.mem_cons_self)
    have hnone : step.on = none := by
      cases honcase : step.on with
      | none => rfl
      | some target =>
        rw [hon (by rw [honcase]; rfl)] at hmove
        cases hmove
    apply keepsPlan_currentItem
    intro other hsame
    apply keepsPlan_workspace
    intro w
    apply keepsPlan_check (locates_of_none hnone w other hsame)
    intro locations hlocations
    rw [actionLocations, hnone, if_neg (by decide)] at hlocations
    cases hlocations
    rw [hsame.locations]
    apply Program.Confined.bind (keepsPlan_remoteMailboxFolder himap hknown)
    intro target
    apply keepsPlan_when (keepsPlan_persistRemoteOutcomeUnknown index step)
    exact keepsPlan_executeMove himap hknown hmem

theorem appends_finds {mailboxId : String} (happend : step.appendToMailboxId = some mailboxId) :
    (late → settings.found .imap = true) ∧
      (late → ∃ mailbox, context.config.mailboxes[mailboxId]? = some mailbox) := by
  constructor
  · intro hlate
    exact (hfinds hlate).transports .imap (.inr (.inl (by rw [happend]; rfl)))
  · intro hlate
    apply (hfinds hlate).mailboxes mailboxId
    rw [happend]
    exact List.mem_append_right _ List.mem_cons_self

theorem keepsPlan_executeAppendOf :
    KeepsPlan settings late item (executeAppendOf context index step) := by
  unfold executeAppendOf
  cases happend : step.appendToMailboxId with
  | none => trivial
  | some mailboxId =>
    obtain ⟨himap, hknown⟩ := appends_finds hfinds happend
    apply Program.Confined.bind (keepsPlan_remoteMailboxFolder himap hknown)
    intro folder
    apply keepsPlan_currentItem
    intro other _
    exact keepsPlan_appendMessages himap folder false other.messageIds

theorem keepsPlan_executeMessageStep (hsend : step.isSend = false)
    (hflags : step.addFlags = [] ∨ Locates late item step)
    (hon : step.on.isSome = true → step.moveToMailboxId = none)
    (hmem : ∀ location ∈ item.locations, location.messageId ∈ item.messageIds) :
    KeepsPlan settings late item (executeMessageStep context index step) := by
  apply Program.Confined.bind (keepsPlan_executeFlagsOf hfinds hflags)
  intro _
  apply Program.Confined.bind (keepsPlan_executeMoveOf hfinds hon hmem)
  intro _
  apply Program.Confined.bind (keepsPlan_executeAppendOf hfinds)
  intro _
  rw [hsend]
  trivial

omit hfinds in
theorem keepsPlan_announced {next : PushItem → Command α}
    (hnext : ∀ other, KeepsPlan settings late item (next other)) :
    KeepsPlan settings late item (do
      persistRemoteOutcomeUnknown context index step
      let other ← currentItem
      next other) := by
  apply Program.Confined.bind (keepsPlan_persistRemoteOutcomeUnknown index step)
  intro _
  apply keepsPlan_currentItem
  intro other _
  exact hnext other

theorem keepsPlan_executeFileSend {prepared : PreparedOutbound}
    (hfile : step.fileSend.isSome = true → prepared.isFile = true ∧ item.sendsDraft = true) :
    KeepsPlan settings late item (executeFileSend context index step prepared) := by
  unfold executeFileSend
  split
  · rename_i hsome
    obtain ⟨hroute, hsends⟩ := hfile hsome
    have hfound : late → settings.found .files = true := fun hlate =>
      (hfinds hlate).transports .files hsome
    apply keepsPlan_check
    · rw [hroute]
      exact Result.Fails.ok _
    intro _ _
    apply Program.Confined.bind (keepsPlan_perform rfl rfl hfound)
    intro _
    apply keepsPlan_announced
    intro other
    exact keepsPlan_send hsends rfl hfound
  · trivial

theorem keepsPlan_executeCloudflareSend {prepared : PreparedOutbound}
    (hsends : step.cloudflareSend.isSome = true → item.sendsDraft = true) :
    KeepsPlan settings late item (executeCloudflareSend context index step prepared) := by
  unfold executeCloudflareSend
  split
  · rename_i hsome
    have hfound : late → settings.found .cloudflare = true := fun hlate =>
      (hfinds hlate).transports .cloudflare hsome
    apply Program.Confined.bind (keepsPlan_perform rfl rfl hfound)
    intro _
    apply keepsPlan_announced
    intro other
    apply Program.Confined.bind (keepsPlan_send (hsends hsome) rfl hfound)
    intro receipt
    apply Program.Confined.bind
    · exact Program.Confined.write fun process h => PushItem.SamePlan.modifyStepState h index _
    intro _
    apply Program.Confined.ofExcept
    exact Result.Fails.ensure
      (.of_code (by simp [noRecipientsAccepted, kindErrorCodes, configErrorCodes]))
  · trivial

omit hfinds in
theorem PreparedOutbound.email_of_not_file {prepared : PreparedOutbound}
    (h : prepared.isFile = false) : ∃ email, prepared.email = .ok email := by
  unfold PreparedOutbound.email
  unfold PreparedOutbound.isFile at h
  cases hdelivery : prepared.delivery with
  | email email => exact ⟨email, rfl⟩
  | file route =>
    rw [hdelivery] at h
    cases h

omit hfinds in
theorem fails_validateSmtpSendAttempt {prepared : PreparedOutbound}
    (h : prepared.isFile = false) (hsmtp : late → context.host.requireSmtp = .ok ()) :
    (validateSmtpSendAttempt context.host prepared).Fails (Unrefusing late) := by
  obtain ⟨email, hemail⟩ := PreparedOutbound.email_of_not_file h
  apply Result.Fails.bind
  · intro error herror
    apply Unrefusing.of_config (fails_requireSmtp context.host error herror)
    intro hlate
    rw [hsmtp hlate] at herror
    cases herror
  intro _ _
  rw [hemail]
  apply Result.Fails.bind
  · exact Result.Fails.ok _
  intro _ _
  apply Result.Fails.bind
  · exact Result.Fails.ensure
      (.of_code (by simp [smtpSendFailed, kindErrorCodes, configErrorCodes]))
  · intro _ _
    exact Result.Fails.ensure
      (.of_code (by simp [smtpSendFailed, kindErrorCodes, configErrorCodes]))

theorem keepsPlan_executeSmtpSend {prepared : PreparedOutbound}
    (hemail : step.smtpSend.isSome = true → prepared.isFile = false)
    (hsends : step.smtpSend.isSome = true →
      item.sendsDraft = true ∨ validateSmtpSendAttempt context.host prepared ≠ .ok ()) :
    KeepsPlan settings late item (executeSmtpSend context index step prepared) := by
  unfold executeSmtpSend
  split
  · rename_i hsome
    have hfound : late → settings.found .smtp = true := fun hlate =>
      (hfinds hlate).transports .smtp hsome
    apply keepsPlan_check (fails_validateSmtpSendAttempt (hemail hsome) fun hlate =>
      settings.smtp.mp (hfound hlate))
    intro _ hattempt
    have hdelivers := (hsends hsome).resolve_right fun hfailed => hfailed hattempt
    obtain ⟨email, hok⟩ := PreparedOutbound.email_of_not_file (hemail hsome)
    rw [hok]
    apply Program.Confined.bind (keepsPlan_perform rfl rfl hfound)
    intro _
    apply keepsPlan_announced
    intro other
    exact keepsPlan_send hdelivers rfl hfound
  · trivial

theorem keepsPlan_executeOutboundAppend {prepared : PreparedOutbound} :
    KeepsPlan settings late item (executeOutboundAppend context index step prepared) := by
  unfold executeOutboundAppend
  cases happend : step.appendToMailboxId with
  | none => trivial
  | some mailboxId =>
    obtain ⟨himap, hknown⟩ := appends_finds hfinds happend
    apply Program.Confined.bind (keepsPlan_remoteMailboxFolder himap hknown)
    intro folder
    apply keepsPlan_announced
    intro other
    exact keepsPlan_perform rfl rfl himap

/-- An outbound item acts on no places of its own. -/
theorem keepsPlan_executeOutboundStep {outbound : OutboundPush} {prepared : PreparedOutbound}
    (houtbound : item.plannedOutbound = some outbound)
    (hprepared : item.plannedOutboundMessage = some prepared) (hnone : item.locations = [])
    (hsingle : step.opCount = 1)
    (hfile : step.fileSend.isSome = true → prepared.isFile = true ∧ item.sendsDraft = true)
    (hcloudflare : step.cloudflareSend.isSome = true → item.sendsDraft = true)
    (hemail : step.smtpSend.isSome = true → prepared.isFile = false)
    (hsmtp : step.smtpSend.isSome = true →
      item.sendsDraft = true ∨ validateSmtpSendAttempt context.host prepared ≠ .ok ())
    (hlocates : Locates late item step)
    (hon : step.on.isSome = true → step.moveToMailboxId = none) :
    KeepsPlan settings late item (executeOutboundStep context index step) := by
  apply keepsPlan_currentItem
  intro other hsame
  apply keepsPlan_workspace
  intro w
  rw [outboundOf, PushItem.outbound, hsame.outbound, houtbound]
  apply keepsPlan_check (Result.Fails.ok _)
  intro _ _
  rw [prepareCurrentOutbound, hsame.prepared, hprepared]
  apply Program.Confined.bind (keepsPlan_executeFileSend hfinds hfile)
  intro _
  apply Program.Confined.bind (keepsPlan_executeCloudflareSend hfinds hcloudflare)
  intro _
  apply Program.Confined.bind (keepsPlan_executeSmtpSend hfinds hemail hsmtp)
  intro _
  apply Program.Confined.bind (keepsPlan_executeOutboundAppend hfinds)
  intro _
  apply Program.Confined.bind (keepsPlan_executeFlagsOf hfinds (.inr hlocates))
  intro _
  split
  · rename_i hmove
    apply keepsPlan_executeMessageStep hfinds
    · unfold ActionStep.opCount at hsingle
      rw [hmove] at hsingle
      unfold ActionStep.isSend
      cases hsmtpcase : step.smtpSend.isSome <;> cases hcloud : step.cloudflareSend.isSome <;>
        cases hfilecase : step.fileSend.isSome <;> simp_all
    · exact .inr hlocates
    · exact hon
    · rw [hnone]
      intro _ hmem
      cases hmem
  · trivial

omit hfinds in
theorem steps_of_message {action : MessageActionPush}
    (haction : item.plannedMessageAction = some action) : item.steps = action.steps := by
  rw [PushItem.steps, haction]

omit hfinds in
theorem steps_of_draft {outbound : OutboundPush} (hnone : item.plannedMessageAction = none)
    (houtbound : item.plannedOutbound = some outbound) : item.steps = outbound.steps := by
  rw [PushItem.steps, hnone, houtbound]

/-- A step that its executor supports is executed for what it is. -/
theorem keepsPlan_of_supported (hplan : PlansSteps context.config item) (hmem : step ∈ item.steps)
    (hsupports : SupportsStep context item step) :
    KeepsPlan settings late item (item.executor context index step) := by
  unfold SupportsStep at hsupports
  unfold PushItem.executor
  cases hplan with
  | message message action hpayload _ haction hfor =>
    rw [hpayload] at hsupports ⊢
    obtain ⟨hsend, hon⟩ := hsupports
    refine keepsPlan_executeMessageStep hfinds hsend ?_ (fun hsome => (hon hsome).2) ?_
    · cases hcase : step.on with
      | none => exact .inr (locates_of_none hcase)
      | some target => exact .inl (hon (by rw [hcase]; rfl)).1
    · intro location hlocation
      have hids : item.messageIds = [message.messageId] := by
        rw [PushItem.messageIds, haction]
        exact hfor.messageIds
      rw [PushItem.locations, haction] at hlocation
      rw [hids, hfor.places location hlocation]
      exact List.mem_cons_self
  | draft draft outbound prepared hpayload hnone houtbound hprepared hsingle hdraft =>
    rw [hpayload] at hsupports ⊢
    obtain ⟨hon, hsends⟩ := hsupports
    rw [steps_of_draft hnone houtbound] at hmem
    have hone := hsingle step hmem
    refine keepsPlan_executeOutboundStep hfinds houtbound hprepared ?_ hone ?_ ?_ ?_ ?_ ?_ hon
    · rw [PushItem.locations, hnone]
    · intro hfile
      obtain ⟨haction, hisFile⟩ := hdraft.file step hmem hfile
      refine ⟨hisFile, ?_⟩
      rw [PushItem.sendsDraft, PushItem.outbound, houtbound, Option.any_some, haction]
      rfl
    · intro hcloudflare
      have hsend : step.isSend = true := by
        rw [ActionStep.isSend, hcloudflare, Bool.or_true, Bool.true_or]
      apply Bool.eq_true_of_not_eq_false
      intro hnot
      rw [(hsends hsend hnot).1] at hcloudflare
      cases hcloudflare
    · intro hsmtp
      apply hdraft.email step hmem
      have hdefines : step.defines .smtpSend = true := hsmtp
      have hother : step.defines .fileSend = false :=
        ActionStep.defines_unique hone hdefines (by simp)
      exact Option.isNone_iff_eq_none.mp (Option.isSome_eq_false_iff.mp hother)
    · intro hsmtp
      have hsend : step.isSend = true := by
        rw [ActionStep.isSend, hsmtp, Bool.true_or, Bool.true_or]
      cases hsendsDraft : item.sendsDraft with
      | true => exact .inl rfl
      | false => exact .inr ((hsends hsend hsendsDraft).2 prepared hprepared)
    · cases hcase : step.on with
      | none => exact locates_of_none hcase
      | some target =>
        apply locates_of_replyTo
        rw [PushItem.replyToMessageId, hnone, houtbound]
        exact hdraft.replyTo step hmem (by rw [hcase]; rfl)

end Steps

theorem stepsExecutable_of_supported (hplan : ∀ index step, item.Left index step →
      PlansSteps context.config item) (hsupported : StepsSupported context settings item) :
    StepsExecutable context settings item := by
  intro index step hleft process events outcome process' hsame hexec
  have hmem : step ∈ item.steps := List.mem_of_getElem? hleft.planned
  obtain ⟨hsupports, hfinds⟩ := hsupported index step hleft
  have hkeeps : KeepsPlan settings (0 < index) item (item.executor context index step) :=
    keepsPlan_of_supported hfinds (hplan index step hleft) hmem hsupports
  obtain ⟨_, hasked, hfailed⟩ := hexec.confined hkeeps hsame
  refine ⟨fun error heq => ?_, fun event hevent => (hasked event hevent).1⟩
  rcases hfailed error heq with hun | ⟨event, hevent, answer, hreply, hcode⟩
  · exact ⟨fun hrefuses => hun.kind hrefuses.code, fun hlate _ => hun.config hlate⟩
  · have hanswered : RemoteEvent.errorCode? event = some error.errorCode := by
      rw [RemoteEvent.errorCode?, hreply]
      exact congrArg some hcode
    refine ⟨fun hrefuses => hrefuses.unanswered ⟨event, hevent, hanswered⟩, ?_⟩
    intro hlate hgovern hconfig
    obtain ⟨transport, hserved, hmissing⟩ := hgovern event hevent _ hconfig hanswered
    rw [(hasked event hevent).2 transport hserved hlate] at hmissing
    cases hmissing

theorem executeMoveOf_none (h : step.moveToMailboxId.isSome = false) :
    executeMoveOf context index step = .ret () := by
  rw [Option.isSome_eq_false_iff, Option.isNone_iff_eq_none] at h
  rw [executeMoveOf, h]
  rfl

theorem executeAppendOf_none (h : step.appendToMailboxId.isSome = false) :
    executeAppendOf context index step = .ret () := by
  rw [Option.isSome_eq_false_iff, Option.isNone_iff_eq_none] at h
  rw [executeAppendOf, h]
  rfl

theorem ActionStep.send_defines {step : ActionStep} (h : step.isSend = true) :
    step.defines .smtpSend = true ∨ step.defines .cloudflareSend = true ∨
      step.defines .fileSend = true := by
  rw [ActionStep.isSend, Bool.or_eq_true, Bool.or_eq_true, or_assoc] at h
  exact h

theorem executeMessageStep_send (hsingle : step.opCount = 1) (hsend : step.isSend = true) :
    executeMessageStep context index step =
      .fail (pushItemInvalid "send operations are only valid for outbound push items") := by
  have hnone : step.defines .addFlags = false ∧ step.defines .moveTo = false ∧
      step.defines .appendTo = false := by
    rcases ActionStep.send_defines hsend with hsmtp | hcloudflare | hfile
    · exact ⟨ActionStep.defines_unique hsingle hsmtp (by simp),
        ActionStep.defines_unique hsingle hsmtp (by simp),
        ActionStep.defines_unique hsingle hsmtp (by simp)⟩
    · exact ⟨ActionStep.defines_unique hsingle hcloudflare (by simp),
        ActionStep.defines_unique hsingle hcloudflare (by simp),
        ActionStep.defines_unique hsingle hcloudflare (by simp)⟩
    · exact ⟨ActionStep.defines_unique hsingle hfile (by simp),
        ActionStep.defines_unique hsingle hfile (by simp),
        ActionStep.defines_unique hsingle hfile (by simp)⟩
  rw [executeMessageStep, executeFlagsOf_none hnone.1, executeMoveOf_none hnone.2.1,
    executeAppendOf_none hnone.2.2, hsend]
  rfl

/-- What is refused to a command for want of settings. -/
def Misconfigured (settings : Settings context.host) (p : Command α) (process : Process) : Prop :=
  ∃ events error process', Exec p process events (.failed error) process' ∧
    settings.Govern events ∧ error.errorCode ∈ configErrorCodes

section Misconfigured
variable {process : Process} {prepared : PreparedOutbound} {mailboxId : String}

theorem Misconfigured.bind {p : Command α} {f : α → Command β}
    (h : Misconfigured settings p process) : Misconfigured settings (p.bind f) process := by
  obtain ⟨events, error, process', hexec, hgovern, hcode⟩ := h
  exact ⟨events, error, process', hexec.bind_failed, hgovern, hcode⟩

theorem misconfigured_check {result : Result α} {error : AppError} (h : result = .error error)
    (hcode : error.errorCode ∈ configErrorCodes) :
    Misconfigured settings (Program.ofExcept result) process := by
  rw [h]
  exact ⟨[], error, process, .fail, List.forall_mem_nil _, hcode⟩

theorem misconfigured_perform {request : Request} {transport : Transport}
    (hserved : request.transport = some transport) (hmissing : settings.found transport = false) :
    Misconfigured settings (Command.perform request) process := by
  refine ⟨_, configMissing "", process, .call (.error (configMissing "")) .fail, ?_,
    by simp [configMissing, configErrorCodes]⟩
  intro event hmem _ _ _
  rw [List.mem_singleton.mp hmem]
  exact ⟨transport, hserved, hmissing⟩

theorem misconfigured_folder {w : Workspace}
    (h : (∃ mailbox, context.config.mailboxes[mailboxId]? = some mailbox) →
      settings.found .imap = false) :
    Misconfigured settings (remoteMailboxFolder context.config mailboxId)
      { workspace := w, item } := by
  unfold remoteMailboxFolder
  cases hmailbox : context.config.mailboxes[mailboxId]? with
  | none =>
    apply Misconfigured.bind
    have hunknown : context.config.mailbox mailboxId =
        .error (context.config.unknownMailboxId mailboxId) := by
      rw [MailConfig.mailbox, hmailbox]
    exact misconfigured_check hunknown (by simp [MailConfig.unknownMailboxId, configErrorCodes])
  | some mailbox =>
    have hconfigured : context.config.mailbox mailboxId = .ok mailbox := by
      rw [MailConfig.mailbox, hmailbox]
    rw [hconfigured]
    obtain ⟨events, error, process', hexec, hgovern, hcode⟩ :=
      @misconfigured_perform context settings { workspace := w, item } .listMailboxes .imap rfl
        (h ⟨mailbox, hmailbox⟩)
    exact ⟨events, error, process', .load (hexec.bind_failed.bind_failed), hgovern, hcode⟩

theorem misconfigured_move {w : Workspace} {locations : List PushLocation}
    (hmove : step.moveToMailboxId = some mailboxId)
    (hlocations : actionLocations w item step = .ok locations)
    (h : (∃ mailbox, context.config.mailboxes[mailboxId]? = some mailbox) →
      settings.found .imap = false) :
    Misconfigured settings (executeMoveOf context index step) { workspace := w, item } := by
  obtain ⟨events, error, process', hexec, hgovern, hcode⟩ :=
    @misconfigured_folder context item settings mailboxId w h
  refine ⟨events, error, process', ?_, hgovern, hcode⟩
  rw [executeMoveOf, hmove]
  refine .load (.load ?_)
  change Exec ((Program.ofExcept (actionLocations w item step)).bind _) _ _ _ _
  rw [hlocations]
  exact hexec.bind_failed

theorem misconfigured_append {w : Workspace} (happend : step.appendToMailboxId = some mailboxId)
    (h : (∃ mailbox, context.config.mailboxes[mailboxId]? = some mailbox) →
      settings.found .imap = false) :
    Misconfigured settings (executeAppendOf context index step) { workspace := w, item } ∧
      ∀ prepared, Misconfigured settings (executeOutboundAppend context index step prepared)
        { workspace := w, item } := by
  unfold executeAppendOf executeOutboundAppend
  rw [happend]
  exact ⟨(misconfigured_folder h).bind, fun _ => (misconfigured_folder h).bind⟩

theorem misconfigured_flags {w : Workspace} {source : PushLocation} {rest : List PushLocation}
    (hlocations : actionLocations w item step = .ok (source :: rest)) (hflags : step.addFlags ≠ [])
    (hmissing : settings.found .imap = false) :
    Misconfigured settings (executeFlagsOf context step) { workspace := w, item } := by
  have hadd : Misconfigured settings
      (executeAddFlags context (source :: rest) step.addFlags) { workspace := w, item } :=
    (misconfigured_perform rfl hmissing).bind.bind
  obtain ⟨events, error, process', hexec, hgovern, hcode⟩ := hadd
  refine ⟨events, error, process', ?_, hgovern, hcode⟩
  rw [executeFlagsOf, if_neg (by rwa [List.isEmpty_iff])]
  refine .load (.load ?_)
  change Exec ((Program.ofExcept (actionLocations w item step)).bind _) _ _ _ _
  rw [hlocations]
  exact hexec

/-- A step that moves or appends needs the mailbox and its server. -/
theorem misconfigured_messageStep {w : Workspace} (hsingle : step.opCount = 1)
    (hon : step.on.isSome = true → step.moveToMailboxId = none)
    (hmem : mailboxId ∈ step.moveToMailboxId.toList ++ step.appendToMailboxId.toList)
    (h : (∃ mailbox, context.config.mailboxes[mailboxId]? = some mailbox) →
      settings.found .imap = false) :
    Misconfigured settings (executeMessageStep context index step) { workspace := w, item } := by
  rcases List.mem_append.mp hmem with hmove | happend
  · rw [Option.mem_toList] at hmove
    have hdefines : step.defines .moveTo = true := by
      rw [ActionStep.defines, hmove]
      rfl
    have hnone : step.on = none := by
      by_contra hsome
      rw [hon (Option.isSome_iff_ne_none.mpr hsome)] at hmove
      cases hmove
    have hlocations : actionLocations w item step = .ok item.locations := by
      rw [actionLocations, hnone, if_neg (by decide)]
    have hflags : step.defines .addFlags = false :=
      ActionStep.defines_unique hsingle hdefines (by simp)
    rw [executeMessageStep, executeFlagsOf_none hflags]
    exact (misconfigured_move hmove hlocations h).bind
  · rw [Option.mem_toList] at happend
    have hdefines : step.defines .appendTo = true := by
      rw [ActionStep.defines, happend]
      rfl
    have hflags : step.defines .addFlags = false :=
      ActionStep.defines_unique hsingle hdefines (by simp)
    have hmove : step.defines .moveTo = false :=
      ActionStep.defines_unique hsingle hdefines (by simp)
    rw [executeMessageStep, executeFlagsOf_none hflags, executeMoveOf_none hmove]
    exact (misconfigured_append happend h).1.bind

theorem misconfigured_fileSend (hfile : step.fileSend.isSome = true) (hroute : prepared.isFile = true)
    (hmissing : settings.found .files = false) :
    Misconfigured settings (executeFileSend context index step prepared) process := by
  rw [executeFileSend, if_pos hfile, hroute]
  exact (misconfigured_perform rfl hmissing).bind

theorem misconfigured_cloudflareSend (hcloudflare : step.cloudflareSend.isSome = true)
    (hmissing : settings.found .cloudflare = false) :
    Misconfigured settings (executeCloudflareSend context index step prepared) process := by
  rw [executeCloudflareSend, if_pos hcloudflare]
  exact (misconfigured_perform rfl hmissing).bind

theorem misconfigured_smtpSend (hsmtp : step.smtpSend.isSome = true)
    (hmissing : settings.found .smtp = false) :
    Misconfigured settings (executeSmtpSend context index step prepared) process := by
  rw [executeSmtpSend, if_pos hsmtp]
  apply Misconfigured.bind
  cases hrequire : context.host.requireSmtp with
  | ok _ =>
    rw [settings.smtp.mpr hrequire] at hmissing
    cases hmissing
  | error error =>
    have hattempt : validateSmtpSendAttempt context.host prepared = .error error := by
      rw [validateSmtpSendAttempt, hrequire]
      rfl
    exact misconfigured_check hattempt (fails_requireSmtp context.host error hrequire)

end Misconfigured

theorem actionLocations_noReplyTo {w : Workspace} (hon : step.on.isSome = true)
    (hreply : item.replyToMessageId = none) (hnone : item.plannedOutbound = none) :
    actionLocations w item step = .error noReplyTo := by
  obtain ⟨target, htarget⟩ := Option.isSome_iff_exists.mp hon
  cases target
  rw [actionLocations, if_pos htarget, replyToMessageIdForStep, hreply, PushItem.outbound, hnone]
  rfl

theorem exec_noReplyTo {process : Process} (hon : step.on.isSome = true)
    (hreply : process.item.replyToMessageId = none) (hnone : process.item.plannedOutbound = none)
    (hacts : step.addFlags ≠ [] ∨ step.moveToMailboxId.isSome = true) :
    Exec (executeMessageStep context index step) process [] (.failed noReplyTo) process := by
  have hlocations := actionLocations_noReplyTo (w := process.workspace) hon hreply hnone
  unfold executeMessageStep
  by_cases hflags : step.addFlags = []
  · obtain ⟨mailboxId, hmove⟩ := Option.isSome_iff_exists.mp (hacts.resolve_left fun h => h hflags)
    rw [executeFlagsOf_none (by rw [hflags]; rfl), executeMoveOf, hmove]
    refine .load (.load ?_)
    change Exec (((Program.ofExcept (actionLocations process.workspace process.item step)).bind
      _).bind _) _ _ _ _
    rw [hlocations]
    exact .fail
  · rw [executeFlagsOf, if_neg (by rwa [List.isEmpty_iff])]
    refine .load (.load ?_)
    change Exec (((Program.ofExcept (actionLocations process.workspace process.item step)).bind
      _).bind _) _ _ _ _
    rw [hlocations]
    exact .fail

/-- A workspace that holds one message, at one place. -/
def heldAt (config : MailConfig) (messageId folder : String) : Workspace where
  config := config
  messages := (∅ : Std.ExtTreeMap String MessageRecord).insert messageId
    { eml := some [], metadata := some { remote := some [clientLocation folder 1 1 ""] } }

theorem messageRemoteLocationsAny_heldAt (config : MailConfig) (messageId folder : String) :
    (heldAt config messageId folder).messageRemoteLocationsAny [messageId] =
      .ok [⟨messageId, folder, 1, 1⟩] := by
  obtain ⟨index, hindex⟩ : ∃ index,
      (heldAt config messageId folder).materializedOverlayIndex = .ok index := ⟨_, rfl⟩
  have hget : (heldAt config messageId folder).messages[messageId]? = some
      { eml := some [], metadata := some { remote := some [clientLocation folder 1 1 ""] } } :=
    Std.ExtTreeMap.getElem?_insert_self
  have hread : ∃ message, (heldAt config messageId folder).readMessageUnder index messageId = .ok message ∧
      message.remote = some [clientLocation folder 1 1 ""] := by
    unfold Workspace.readMessageUnder
    rw [hget]
    exact ⟨_, rfl, rfl⟩
  obtain ⟨message, hmessage, hremote⟩ := hread
  apply Result.bind_eq_ok_iff.mpr
  refine ⟨[⟨none, ⟨messageId, folder, 1, 1⟩⟩], ?_, rfl⟩
  unfold Workspace.messageRemoteLocationsWithMailboxIds
  apply Result.bind_eq_ok_iff.mpr
  refine ⟨index, hindex, Result.bind_eq_ok_iff.mpr ⟨[[⟨none, ⟨messageId, folder, 1, 1⟩⟩]], ?_, rfl⟩⟩
  refine Result.mapM_eq_ok_iff.mpr (.cons ?_ .nil)
  apply Result.bind_eq_ok_iff.mpr
  refine ⟨message, hmessage, ?_⟩
  rw [hremote]
  rfl

theorem actionLocations_heldAt (config : MailConfig) {replyTo folder : String}
    (hon : step.on.isSome = true) (hreply : item.replyToMessageId = some replyTo) :
    actionLocations (heldAt config replyTo folder) item step =
      .ok [⟨replyTo, folder, 1, 1⟩] := by
  obtain ⟨target, htarget⟩ := Option.isSome_iff_exists.mp hon
  cases target
  rw [actionLocations, if_pos htarget, replyToMessageIdForStep, hreply]
  exact messageRemoteLocationsAny_heldAt config replyTo folder

theorem exists_firstSelection {rules : List MailboxResolveRule} (hne : rules ≠ [])
    (hvalid : ∀ rule ∈ rules, rule.valid = true) :
    ∃ listed folder, FirstSelection rules listed folder := by
  obtain ⟨rule, rest, rfl⟩ := List.exists_cons_of_ne_nil hne
  rcases MailboxResolveRule.valid_cases (hvalid rule List.mem_cons_self) with ⟨name, rfl⟩ | ⟨use, rfl⟩
  · refine ⟨[{ name }], name, firstSelection_cons.mpr (.inl ?_)⟩
    simp [MailboxResolveRule.selected, namedMailboxes, Text.eqIgnoreAsciiCase]
  · refine ⟨[{ name := "INBOX", attributes := [use] }], "INBOX", firstSelection_cons.mpr (.inl ?_)⟩
    simp [MailboxResolveRule.selected, attributedMailboxes, Text.eqIgnoreAsciiCase]

theorem exec_remoteMailboxFolder {mailboxId : String} {mailbox : ImapMailboxConfig}
    {listed : List MailboxInfo} {target : String} {process : Process}
    (hmailbox : context.config.mailboxes[mailboxId]? = some mailbox)
    (hresolve : resolveConfiguredMailbox mailboxId mailbox listed = .ok target)
    (hlisted : process.mailboxes = some listed) :
    Exec (remoteMailboxFolder context.config mailboxId) process [] (.returned target) process := by
  have hconfigured : context.config.mailbox mailboxId = .ok mailbox := by
    rw [MailConfig.mailbox, hmailbox]
  obtain ⟨w, mailboxes, item⟩ := process
  cases hlisted
  unfold remoteMailboxFolder
  rw [hconfigured]
  apply Exec.load
  change Exec (Program.ofExcept (resolveConfiguredMailbox mailboxId mailbox listed)) _ _ _ _
  rw [hresolve]
  exact .ret

theorem exec_executeMove {mailboxId target : String} {process : Process} {source : PushLocation}
    (hfolder : Exec (remoteMailboxFolder context.config mailboxId) process [] (.returned target) process)
    (hids : process.item.messageIds = []) (hne : source.mailboxName ≠ target) :
    Exec (executeMove context index [source] mailboxId) process []
      (.failed (messageNotFound "message not found during remote relocation")) process := by
  have hmoved : Exec (moveLocations context process.item.pushId index target [] [source]) process []
      (.failed (messageNotFound "message not found during remote relocation")) process := by
    rw [moveLocations, if_neg hne, if_neg (by simp)]
    exact .fail
  refine .load (.load ?_)
  change Exec ((Program.ofExcept (readMovedMessages process.workspace process.item.messageIds)).bind
    _) _ _ _ _
  rw [hids]
  exact hfolder.bind hmoved

theorem exec_conditionalMove {w : Workspace} {mailboxId target : String}
    {listed : List MailboxInfo} {source : PushLocation}
    (hmove : step.moveToMailboxId = some mailboxId) (hids : item.messageIds = [])
    (hlocations : actionLocations w item step = .ok [source])
    (hfolder : ∀ process : Process, process.mailboxes = some listed →
      Exec (remoteMailboxFolder context.config mailboxId) process [] (.returned target) process)
    (hne : source.mailboxName ≠ target) :
    ∃ process', Exec (executeMoveOf context index step)
      { workspace := w, mailboxes := some listed, item } []
      (.failed (messageNotFound "message not found during remote relocation")) process' := by
  let process : Process := { workspace := w, mailboxes := some listed, item }
  obtain ⟨process', hexec⟩ : ∃ process', Exec (persistRemoteOutcomeUnknown context index step >>=
      fun _ => executeMove context index [source] mailboxId) process []
      (.failed (messageNotFound "message not found during remote relocation")) process' :=
    ⟨_, .store (exec_executeMove (hfolder _ rfl) hids hne)⟩
  refine ⟨process', ?_⟩
  rw [executeMoveOf, hmove]
  refine .load (.load ?_)
  change Exec ((Program.ofExcept (actionLocations w item step)).bind _) process _ _ _
  rw [hlocations]
  refine (hfolder process rfl).bind ?_
  rw [if_pos (by simpa using hne)]
  exact hexec

/-- What an outbound step does with its message. -/
def outboundOperations (context : PushExecutionContext) (index : Nat) (step : ActionStep)
    (prepared : PreparedOutbound) : Command Unit := do
  executeFileSend context index step prepared
  executeCloudflareSend context index step prepared
  executeSmtpSend context index step prepared
  executeOutboundAppend context index step prepared
  executeFlagsOf context step
  if step.moveToMailboxId.isSome then executeMessageStep context index step else return ()

theorem exec_executeOutboundStep {outbound : OutboundPush} {prepared : PreparedOutbound}
    {process process' : Process} (houtbound : process.item.plannedOutbound = some outbound)
    (hprepared : process.item.plannedOutboundMessage = some prepared)
    (h : Exec (outboundOperations context index step prepared) process events outcome process') :
    Exec (executeOutboundStep context index step) process events outcome process' := by
  refine .load (.load ?_)
  change Exec ((Program.ofExcept (outboundOf process.item)).bind fun _ =>
    (Program.ofExcept (prepareCurrentOutbound context process.workspace process.item)).bind _) _ _ _ _
  rw [outboundOf, PushItem.outbound, houtbound, prepareCurrentOutbound, hprepared]
  exact h

/-- An execution that is cut off while it delivers a message. -/
def Delivers (p : Command Unit) (process : Process) : Prop :=
  ∃ events process', Exec p process events .crashed process' ∧
    ∃ event ∈ events, event.request.isSend = true

theorem Delivers.bind {p : Command Unit} {f : Unit → Command Unit} {process : Process}
    (h : Delivers p process) : Delivers (p.bind f) process := by
  obtain ⟨events, process', hexec, hsends⟩ := h
  exact ⟨events, process', hexec.bind_crashed, hsends⟩

theorem delivers_executeCloudflareSend {prepared : PreparedOutbound} (process : Process)
    (h : step.cloudflareSend.isSome = true) :
    Delivers (executeCloudflareSend context index step prepared) process := by
  rw [executeCloudflareSend, if_pos h]
  exact ⟨_, _, .call (.ok ()) (.store (.load .lost)), _,
    List.mem_cons_of_mem _ List.mem_cons_self, rfl⟩

theorem delivers_executeSmtpSend {prepared : PreparedOutbound} (process : Process)
    (h : step.smtpSend.isSome = true)
    (hattempt : validateSmtpSendAttempt context.host prepared = .ok ()) :
    Delivers (executeSmtpSend context index step prepared) process := by
  have hemail : ∃ email, prepared.email = .ok email := by
    obtain ⟨_, hattempt⟩ := Result.seq_ok hattempt
    obtain ⟨email, hok, _⟩ := Result.bind_ok hattempt
    exact ⟨email, hok⟩
  obtain ⟨email, hok⟩ := hemail
  rw [executeSmtpSend, if_pos h, hattempt, hok]
  exact ⟨_, _, .call (.ok ()) (.store (.load .lost)), _,
    List.mem_cons_of_mem _ List.mem_cons_self, rfl⟩

end Execution

section Exactness
variable {context : PushExecutionContext} {settings : Settings context.host} {item : PushItem}
  {index : Nat} {step : ActionStep}

theorem StepsExecutable.not_refused (h : StepsExecutable context settings item)
    (hleft : item.Left index step) (w : Workspace) (mailboxes : Option (List MailboxInfo))
    {error : AppError} (hcode : error.errorCode ∈ kindErrorCodes) :
    ¬Exec (item.executor context index step) { workspace := w, mailboxes, item } []
      (.failed error) process' := by
  intro hexec
  obtain ⟨hfailed, _⟩ := h index step hleft _ _ _ _ (PushItem.SamePlan.refl item) hexec
  refine (hfailed error rfl).1 ⟨hcode, ?_⟩
  rintro ⟨event, hmem, _⟩
  cases hmem

theorem StepsExecutable.not_misconfigured (h : StepsExecutable context settings item)
    (hleft : item.Left index step) (hlate : 0 < index) (w : Workspace) :
    ¬Misconfigured settings (item.executor context index step) { workspace := w, item } := by
  rintro ⟨events, error, process', hexec, hgovern, hcode⟩
  obtain ⟨hfailed, _⟩ := h index step hleft _ _ _ _ (PushItem.SamePlan.refl item) hexec
  exact (hfailed error rfl).2 hlate hgovern hcode

theorem StepsExecutable.not_delivered (h : StepsExecutable context settings item)
    (hleft : item.Left index step) (process : Process) (hitem : process.item = item)
    (hdelivers : Delivers (item.executor context index step) process) : item.sendsDraft = true := by
  obtain ⟨events, process', hexec, event, hmem, hsend⟩ := hdelivers
  obtain ⟨_, hsends⟩ := h index step hleft process _ _ _ (by rw [hitem]; exact .refl item) hexec
  exact hsends event hmem hsend

theorem supports_message {message : MessagePush} {action : MessageActionPush}
    (h : StepsExecutable context settings item) (hleft : item.Left index step)
    (hpayload : item.payload = .message message) (hnone : item.plannedOutbound = none)
    (haction : item.plannedMessageAction = some action)
    (hfor : action.For message.action message.messageId) (w : Workspace) :
    SupportsStep context item step := by
  have hexecutor : item.executor = executeMessageStep := by
    rw [PushItem.executor, hpayload]
  have hmem : step ∈ item.steps := List.mem_of_getElem? hleft.planned
  rw [steps_of_message haction] at hmem
  have hsingle := hfor.single step hmem
  have hreply : item.replyToMessageId = none := by
    rw [PushItem.replyToMessageId, haction, hnone, Option.bind_some, hfor.replyTo]
    rfl
  unfold SupportsStep
  rw [hpayload]
  constructor
  · apply Bool.eq_false_iff.mpr
    intro hsend
    have hfails : Exec (item.executor context index step) { workspace := w, item } []
        (.failed (pushItemInvalid "send operations are only valid for outbound push items"))
        { workspace := w, item } := by
      rw [hexecutor, executeMessageStep_send hsingle hsend]
      exact .fail
    exact h.not_refused hleft w none (by simp [pushItemInvalid, kindErrorCodes]) hfails
  · intro hon
    by_contra hacts
    rw [not_and_or] at hacts
    have hfails : Exec (item.executor context index step) { workspace := w, item } []
        (.failed noReplyTo) { workspace := w, item } := by
      rw [hexecutor]
      exact exec_noReplyTo hon hreply hnone (hacts.imp_right Option.isSome_iff_ne_none.mpr)
    exact h.not_refused hleft w none (by simp [noReplyTo, pushItemInvalid, kindErrorCodes]) hfails

theorem supports_draft_move {outbound : OutboundPush} {prepared : PreparedOutbound}
    (hconfig : context.config.validate = .ok ()) (h : StepsExecutable context settings item)
    (hleft : item.Left index step) {draft : DraftPush} (hpayload : item.payload = .draft draft)
    (hnone : item.plannedMessageAction = none) (houtbound : item.plannedOutbound = some outbound)
    (hprepared : item.plannedOutboundMessage = some prepared)
    (hsingle : ∀ step ∈ outbound.steps, step.opCount = 1)
    (hdraft : PlansDraft context.config outbound prepared) (hon : step.on.isSome = true) :
    step.moveToMailboxId = none := by
  have hmem : step ∈ item.steps := List.mem_of_getElem? hleft.planned
  rw [steps_of_draft hnone houtbound] at hmem
  by_contra hsome
  obtain ⟨mailboxId, hmove⟩ := Option.ne_none_iff_exists'.mp hsome
  have htarget : mailboxId ∈ step.moveToMailboxId.toList ++ step.appendToMailboxId.toList := by
    rw [hmove]
    exact List.mem_cons_self
  obtain ⟨mailbox, hmailbox⟩ := hdraft.targets step hmem mailboxId htarget
  obtain ⟨_, hrules, hvalid⟩ := MailConfig.validate_mailboxes hconfig hmailbox
  obtain ⟨listed, target, hfirst⟩ := exists_firstSelection hrules hvalid
  have hresolve : resolveConfiguredMailbox mailboxId mailbox listed = .ok target :=
    (resolveConfiguredMailbox_eq_ok_iff hvalid).mpr hfirst
  obtain ⟨replyTo, hreply⟩ := Option.isSome_iff_exists.mp (hdraft.replyTo step hmem hon)
  have hto : item.replyToMessageId = some replyTo := by
    rw [PushItem.replyToMessageId, hnone, houtbound]
    exact hreply
  have hids : item.messageIds = [] := by
    rw [PushItem.messageIds, hnone, hpayload]
  let folder := target ++ "x"
  have hfolder : folder ≠ target := by
    intro heq
    have hlength := congrArg String.length heq
    simp [folder] at hlength
  obtain ⟨process', hexec⟩ := @exec_conditionalMove context item index step _ _ _ _ _ hmove hids
    (actionLocations_heldAt context.config hon hto) (fun process => exec_remoteMailboxFolder hmailbox hresolve) hfolder
  have hone := hsingle step hmem
  have hdefines : step.defines .moveTo = true := by
    rw [ActionStep.defines, hmove]
    rfl
  have hmoves : step.moveToMailboxId.isSome = true := hdefines
  have hother : ∀ other, other ≠ .moveTo → step.defines other = false :=
    fun other hne => ActionStep.defines_unique hone hdefines hne
  have hfails : Exec (item.executor context index step)
      { workspace := heldAt context.config replyTo folder, mailboxes := some listed, item } []
      (.failed (messageNotFound "message not found during remote relocation")) process' := by
    rw [PushItem.executor, hpayload]
    apply exec_executeOutboundStep houtbound hprepared
    rw [outboundOperations, executeFileSend_none (hother .fileSend (by simp)),
      executeCloudflareSend_none (hother .cloudflareSend (by simp)),
      executeSmtpSend_none (hother .smtpSend (by simp)),
      executeOutboundAppend_none (hother .appendTo (by simp)),
      executeFlagsOf_none (hother .addFlags (by simp)), if_pos hmoves, executeMessageStep,
      executeFlagsOf_none (hother .addFlags (by simp))]
    exact hexec.bind_failed
  exact h.not_refused hleft _ _ (by simp [messageNotFound, kindErrorCodes]) hfails

/-- A draft that is only saved is delivered all the same by a send among its steps. -/
theorem supports_draft_send {outbound : OutboundPush} {prepared : PreparedOutbound}
    {draft : DraftPush} (h : StepsExecutable context settings item) (hleft : item.Left index step)
    (hpayload : item.payload = .draft draft) (hnone : item.plannedMessageAction = none)
    (houtbound : item.plannedOutbound = some outbound)
    (hprepared : item.plannedOutboundMessage = some prepared)
    (hdraft : PlansDraft context.config outbound prepared) (hsends : item.sendsDraft = false)
    (w : Workspace) (hsend : step.isSend = true) :
    step.cloudflareSend = none ∧ Unattempted context item := by
  have hmem : step ∈ item.steps := List.mem_of_getElem? hleft.planned
  rw [steps_of_draft hnone houtbound] at hmem
  let process : Process := { workspace := w, item }
  have hexecutor : item.executor = executeOutboundStep := by
    rw [PushItem.executor, hpayload]
  have hfile : step.fileSend.isSome = false := by
    apply Bool.eq_false_iff.mpr
    intro hsome
    have haction := (hdraft.file step hmem hsome).1
    rw [PushItem.sendsDraft, PushItem.outbound, houtbound, Option.any_some, haction] at hsends
    cases hsends
  have hundelivered : ¬Delivers (do
      executeCloudflareSend context index step prepared
      executeSmtpSend context index step prepared
      executeOutboundAppend context index step prepared
      executeFlagsOf context step
      if step.moveToMailboxId.isSome then executeMessageStep context index step else return ())
      process := by
    rintro ⟨events, process', hexec, hevent⟩
    have hdelivers : Delivers (item.executor context index step) process := by
      refine ⟨events, process', ?_, hevent⟩
      rw [hexecutor]
      apply exec_executeOutboundStep houtbound hprepared
      rw [outboundOperations, executeFileSend_none hfile]
      exact hexec
    rw [h.not_delivered hleft process rfl hdelivers] at hsends
    cases hsends
  have hcloudflare : step.cloudflareSend.isSome = false := by
    apply Bool.eq_false_iff.mpr
    intro hsome
    exact hundelivered (delivers_executeCloudflareSend process hsome).bind
  refine ⟨Option.isNone_iff_eq_none.mp (Option.isSome_eq_false_iff.mp hcloudflare), ?_⟩
  have hsmtp : step.smtpSend.isSome = true := by
    rw [ActionStep.isSend, hcloudflare, hfile, Bool.or_false, Bool.or_false] at hsend
    exact hsend
  intro other hother hattempt
  cases hother.symm.trans hprepared
  rw [executeCloudflareSend_none hcloudflare] at hundelivered
  exact hundelivered (delivers_executeSmtpSend process hsmtp hattempt).bind

theorem finds_message {message : MessagePush} (h : StepsExecutable context settings item)
    (hleft : item.Left index step) (hlate : 0 < index) (hpayload : item.payload = .message message)
    (hsingle : step.opCount = 1) (hsend : step.isSend = false)
    (hon : step.on.isSome = true → step.addFlags = [] ∧ step.moveToMailboxId = none) :
    FindsSettings context settings item step := by
  have hconfigured := h.not_misconfigured hleft hlate { config := context.config }
  rw [PushItem.executor, hpayload] at hconfigured
  have hfolder : ∀ mailboxId ∈ step.moveToMailboxId.toList ++ step.appendToMailboxId.toList,
      (∃ mailbox, context.config.mailboxes[mailboxId]? = some mailbox) ∧
        settings.found .imap = true := by
    intro mailboxId hmem
    by_contra hnot
    rw [not_and, Bool.not_eq_true] at hnot
    exact hconfigured (misconfigured_messageStep hsingle (fun hsome => (hon hsome).2) hmem hnot)
  refine ⟨fun mailboxId hmem => (hfolder mailboxId hmem).1, fun transport huses => ?_⟩
  cases transport with
  | imap =>
    rcases huses with hmove | happend | ⟨hflags, hplaces⟩
    · obtain ⟨mailboxId, hmove⟩ := Option.isSome_iff_exists.mp hmove
      apply (hfolder mailboxId _).2
      rw [hmove]
      exact List.mem_cons_self
    · obtain ⟨mailboxId, happend⟩ := Option.isSome_iff_exists.mp happend
      apply (hfolder mailboxId _).2
      rw [happend]
      exact List.mem_append_right _ List.mem_cons_self
    · have hnone : ¬step.on.isSome = true := fun hsome => hflags (hon hsome).1
      obtain ⟨source, rest, hlocations⟩ := List.exists_cons_of_ne_nil (hplaces.resolve_left hnone)
      have hat : actionLocations { config := context.config } item step = .ok (source :: rest) := by
        rw [actionLocations, if_neg fun heq => hnone (by rw [heq]; rfl), hlocations]
      by_contra hmissing
      exact hconfigured (misconfigured_flags hat hflags (Bool.eq_false_iff.mpr hmissing)).bind
  | smtp | cloudflare | files =>
    have hsome : step.isSend = true := by simp_all [PushItem.Uses, ActionStep.isSend]
    cases hsend.symm.trans hsome

theorem finds_draft {outbound : OutboundPush} {prepared : PreparedOutbound} {draft : DraftPush}
    (h : StepsExecutable context settings item) (hleft : item.Left index step) (hlate : 0 < index)
    (hpayload : item.payload = .draft draft) (hnone : item.plannedMessageAction = none)
    (houtbound : item.plannedOutbound = some outbound)
    (hprepared : item.plannedOutboundMessage = some prepared)
    (hsingle : ∀ step ∈ outbound.steps, step.opCount = 1)
    (hdraft : PlansDraft context.config outbound prepared)
    (hon : step.on.isSome = true → step.moveToMailboxId = none) :
    FindsSettings context settings item step := by
  have hmem : step ∈ item.steps := List.mem_of_getElem? hleft.planned
  rw [steps_of_draft hnone houtbound] at hmem
  have hone := hsingle step hmem
  have hconfigured : ∀ w : Workspace, ¬Misconfigured settings
      (outboundOperations context index step prepared) { workspace := w, item } := by
    rintro w ⟨events, error, process', hexec, hrest⟩
    refine h.not_misconfigured hleft hlate w ⟨events, error, process', ?_, hrest⟩
    rw [PushItem.executor, hpayload]
    exact exec_executeOutboundStep houtbound hprepared hexec
  refine ⟨hdraft.targets step hmem, fun transport huses => ?_⟩
  by_contra hfound
  have hmissing := Bool.eq_false_iff.mpr hfound
  have hother : ∀ {op}, step.defines op = true → ∀ other, other ≠ op → step.defines other = false :=
    fun hdefines _ hne => ActionStep.defines_unique hone hdefines hne
  have w : Workspace := { config := context.config }
  cases transport with
  | files => exact hconfigured w (misconfigured_fileSend huses (hdraft.file step hmem huses).2 hmissing).bind
  | cloudflare =>
    have hdefines : step.defines .cloudflareSend = true := huses
    apply hconfigured w
    rw [outboundOperations, executeFileSend_none (hother hdefines .fileSend (by simp))]
    exact (misconfigured_cloudflareSend huses hmissing).bind
  | smtp =>
    have hdefines : step.defines .smtpSend = true := huses
    apply hconfigured w
    rw [outboundOperations, executeFileSend_none (hother hdefines .fileSend (by simp)),
      executeCloudflareSend_none (hother hdefines .cloudflareSend (by simp))]
    exact (misconfigured_smtpSend huses hmissing).bind
  | imap =>
    rcases huses with hmove | happend | ⟨hflags, hplaces⟩
    · have hdefines : step.defines .moveTo = true := hmove
      obtain ⟨mailboxId, hmailbox⟩ := Option.isSome_iff_exists.mp hmove
      have htarget : mailboxId ∈ step.moveToMailboxId.toList ++ step.appendToMailboxId.toList := by
        rw [hmailbox]
        exact List.mem_cons_self
      apply hconfigured w
      rw [outboundOperations, executeFileSend_none (hother hdefines .fileSend (by simp)),
        executeCloudflareSend_none (hother hdefines .cloudflareSend (by simp)),
        executeSmtpSend_none (hother hdefines .smtpSend (by simp)),
        executeOutboundAppend_none (hother hdefines .appendTo (by simp)),
        executeFlagsOf_none (hother hdefines .addFlags (by simp)), if_pos hmove]
      exact misconfigured_messageStep hone hon htarget fun _ => hmissing
    · have hdefines : step.defines .appendTo = true := happend
      obtain ⟨mailboxId, hmailbox⟩ := Option.isSome_iff_exists.mp happend
      apply hconfigured w
      rw [outboundOperations, executeFileSend_none (hother hdefines .fileSend (by simp)),
        executeCloudflareSend_none (hother hdefines .cloudflareSend (by simp)),
        executeSmtpSend_none (hother hdefines .smtpSend (by simp))]
      exact ((misconfigured_append hmailbox fun _ => hmissing).2 prepared).bind
    · have hdefines : step.defines .addFlags = true := by
        simpa [ActionStep.defines] using hflags
      have hlocations : item.locations = [] := by rw [PushItem.locations, hnone]
      have hsome := hplaces.resolve_right fun hne => hne hlocations
      obtain ⟨replyTo, hreply⟩ := Option.isSome_iff_exists.mp (hdraft.replyTo step hmem hsome)
      have hto : item.replyToMessageId = some replyTo := by
        rw [PushItem.replyToMessageId, hnone, houtbound]
        exact hreply
      apply hconfigured (heldAt context.config replyTo "INBOX")
      rw [outboundOperations, executeFileSend_none (hother hdefines .fileSend (by simp)),
        executeCloudflareSend_none (hother hdefines .cloudflareSend (by simp)),
        executeSmtpSend_none (hother hdefines .smtpSend (by simp)),
        executeOutboundAppend_none (hother hdefines .appendTo (by simp))]
      exact (misconfigured_flags (actionLocations_heldAt _ hsome hto) hflags hmissing).bind

theorem stepsExecutable_iff (hconfig : context.config.validate = .ok ())
    (hplan : item.auditPending = none → item.localStage = none → PlansSteps context.config item) :
    StepsExecutable context settings item ↔ StepsSupported context settings item := by
  constructor
  · intro h index step hleft
    let w : Workspace := { config := context.config }
    cases hplan hleft.auditPending hleft.localStage with
    | message message action hpayload hnone haction hfor =>
      have hsupports := supports_message h hleft hpayload hnone haction hfor w
      refine ⟨hsupports, fun hlate => ?_⟩
      rw [SupportsStep, hpayload] at hsupports
      have hmem : step ∈ item.steps := List.mem_of_getElem? hleft.planned
      rw [steps_of_message haction] at hmem
      exact finds_message h hleft hlate hpayload (hfor.single step hmem) hsupports.1 hsupports.2
    | draft draft outbound prepared hpayload hnone houtbound hprepared hsingle hdraft =>
      have hmove := supports_draft_move hconfig h hleft hpayload hnone houtbound hprepared hsingle
        hdraft
      constructor
      · unfold SupportsStep
        rw [hpayload]
        refine ⟨hmove, fun hsend hsends => ?_⟩
        exact supports_draft_send h hleft hpayload hnone houtbound hprepared hdraft hsends w hsend
      · intro hlate
        exact finds_draft h hleft hlate hpayload hnone houtbound hprepared hsingle hdraft hmove
  · intro h
    apply stepsExecutable_of_supported _ h
    intro index step hleft
    exact hplan hleft.auditPending hleft.localStage

end Exactness

/-- The items that are planned for a workspace. -/
def plannedItems (w : Workspace) : List PushItem :=
  match resolvePlannedItems ⟨plainHost, w.config⟩ w with
  | .ok planned => planned.items
  | .error _ => []

theorem exists_of_plannedItems {w : Workspace} (h : (plannedItems w).any holds = true) :
    ∃ planned item, resolvePlannedItems ⟨plainHost, w.config⟩ w = .ok planned ∧
      item ∈ planned.items ∧ holds item = true := by
  obtain ⟨item, hmem, hholds⟩ := List.any_eq_true.mp h
  unfold plannedItems at hmem
  split at hmem
  · rename_i planned hplan
    exact ⟨planned, item, hplan, hmem, hholds⟩
  · cases hmem

/-- A configuration that sends when a message is filed as spam and when a draft is saved. -/
def sendingConfig : MailConfig :=
  { MailConfig.default with actions := { ActionsSection.default with
      messageSpam := [{ addFlags := ["$Junk"] }, .smtp], draftSave := [.smtp] } }

/-- Every transport finds its settings. -/
def plainSettings : Settings plainHost where
  found _ := true
  smtp := ⟨fun _ => rfl, fun _ => rfl⟩

def spamSending : Workspace := { spamQueued with config := sendingConfig }

theorem run_spamSending : ∃ events, Run QueueSession spamFiled events spamSending := by
  obtain ⟨queueing, hqueued⟩ := Program.run_exec flagsThenGone queueSpam (.start spamFiled) ()
  exact ⟨_, .next (.next .start (.command (.queueActionSteps _ _ _ _ _) hqueued)) (.other rfl)⟩

/-- A draft that is queued to be saved or sent. -/
def draftQueued (config : MailConfig) (action : OutboundAction) : Workspace :=
  ((queueOutbound plainHost "c" "d" action none).run namesThenGone (.start {
    config
    cases := .ofList [("c", ({ group := "", dirName := "c", caseName := "c", drafts := .ofList [
      ("d", (⟨{ caseUid := "c", syncIntent := some action }, []⟩ : DraftFile))] } :
        CaseRecord))] }) ()).2.1.workspace

/-- A server that takes a message and then does not answer. -/
def takesThenGone (_ : Unit) : (request : Request) → Except AppError request.Reply × Unit
  | .prepareSend _ _ => (.ok (), ())
  | .newEventId => (.ok "event", ())
  | _ => (.error { errorCode := "smtp_send_failed", message := "connection lost" }, ())

/-- A server that has a mailbox for drafts and appends to it. -/
def draftsMailbox (_ : Unit) : (request : Request) → Except AppError request.Reply × Unit
  | .newEventId => (.ok "event", ())
  | .listMailboxes => (.ok [{ name := "Drafts", attributes := ["\\Drafts"] }], ())
  | .appendMessage .. => (.ok (), ())
  | _ => (.error { errorCode := "imap_error", message := "connection lost" }, ())

end AgentFirstMail
