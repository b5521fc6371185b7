import AgentFirstMail.PushQueue.StepState
import AgentFirstMail.Store.Relocation

namespace AgentFirstMail
open Effect

structure PushExecutionContext where
  host : Host
  config : MailConfig

def pushItemInvalid (message : String) : AppError := { errorCode := "push_item_invalid", message }

def messageIdForPush (pushId : String) : String :=
  let suffix := if pushId.startsWith "push_" then pushId.drop 5 |>.toString else pushId
  "message_sent_" ++ suffix.map fun c =>
    if Text.isAsciiAlphanumeric c || c == '_' || c == '-' then c else '_'

def outboundRfc822MessageId (item : PushItem) : String :=
  s!"<{messageIdForPush item.pushId}@afmail.local>"

namespace Workspace

def caseNotFound (caseUid : String) : AppError :=
  { errorCode := "case_not_found", message := s!"case not found: {caseUid}" }

def findCase (w : Workspace) (caseUid : String) : Result CaseRecord :=
  match w.cases[caseUid]? with
  | some case_ => .ok case_
  | none => .error (caseNotFound caseUid)

theorem findCase_eq_ok_iff {w : Workspace} :
    w.findCase caseUid = .ok case_ ↔ w.cases[caseUid]? = some case_ := by
  unfold findCase
  split
  · rename_i found hfound
    rw [hfound]
    exact ⟨fun h => congrArg some (Except.ok.inj h), fun h => congrArg Except.ok (Option.some.inj h)⟩
  · rename_i hnone
    rw [hnone]
    exact ⟨fun h => (nomatch h), fun h => (nomatch h)⟩

/-- A case by its uid, whose status has to fit the tree it lies in. -/
def resolveCaseAny (w : Workspace) (caseUid : String) : Result CaseRecord := do
  let case_ ← w.findCase caseUid
  let _ ← caseIndexEntry (caseUid, case_)
  return case_

def draftFrontmatter (w : Workspace) (caseUid draftName : String) :
    Result (Option DraftFrontmatter) := do
  let case_ ← w.findCase caseUid
  return case_.drafts[draftName]?.map (·.frontmatter)

def draftNotFound (draftName : String) : AppError :=
  { errorCode := "draft_not_found", message := s!"queued draft file is missing: {draftName}" }

def readDraft (w : Workspace) (caseUid draftName : String) : Result DraftFile := do
  let case_ ← w.findCase caseUid
  match case_.drafts[draftName]? with
  | some draft => .ok draft
  | none => .error (draftNotFound draftName)

end Workspace

def channelOperationUnsupported (message : String) : AppError :=
  { errorCode := "channel_operation_unsupported", message }

def fileSendNotApplicable : AppError :=
  (channelOperationUnsupported ("file_send applies only to drafts with a file reply route; " ++
    "this email draft cannot use it")).withDetails { remoteCallsStarted := some false }

def configuredOutboundSteps (config : MailConfig) : OutboundAction → List ActionStep
  | .saveDraft => config.actions.draftSave
  | .send => config.actions.draftSend

def shouldSkipReplyToSteps (w : Workspace) (outbound : OutboundPush) : Result Bool := do
  let draft ← w.readDraft outbound.caseUid outbound.draftName
  return draft.frontmatter.sendIntent == some "new" ||
    draft.frontmatter.replyToMessageId.isNone

/-- The steps of a draft whose front matter has no file reply route. -/
def filterEmailSteps (w : Workspace) (outbound : OutboundPush) (steps : List ActionStep) :
    Result (List ActionStep) := do
  ensure (steps.all (·.fileSend.isNone)) fileSendNotApplicable
  if steps.any (·.on == some .replyToMessage) then
    let skip ← shouldSkipReplyToSteps w outbound
    return if skip then steps.filter (·.on != some .replyToMessage) else steps
  else
    return steps

def filterReplyToSteps (w : Workspace) (outbound : OutboundPush) (steps : List ActionStep) :
    Result (List ActionStep) := do
  let frontmatter ← w.draftFrontmatter outbound.caseUid outbound.draftName
  if frontmatter.any (·.replyRoute.isSome) then
    ensure (outbound.action == .send)
      (channelOperationUnsupported "file channels do not upload remote drafts")
    return [{ fileSend := some [] }]
  else
    filterEmailSteps w outbound steps

/-- The first send of a step list that the build has no feature for. -/
def missingSendFeature (compiled : String → Bool) (steps : List ActionStep) :
    Option (String × String) :=
  steps.findSome? fun step =>
    let required :=
      if step.cloudflareSend.isSome then some ("cloudflare_send", "cloudflare")
      else if step.smtpSend.isSome then some ("smtp_send", "smtp")
      else if step.fileSend.isSome then some ("file_send", "files")
      else none
    required.filter fun entry => !compiled entry.2

def featureDisabled (label feature : String) : AppError :=
  { errorCode := "feature_disabled"
    message := (s!"{label} requires the {feature} feature, which this afmail build does " ++
      "not include")
    details := some { remoteCallsStarted := some false } }

def requireCompiledSendFeatures (compiled : String → Bool) (steps : List ActionStep) :
    Result Unit :=
  match missingSendFeature compiled steps with
  | none => .ok ()
  | some (label, feature) => .error (featureDisabled label feature)

def draftUnreadable (draftName : String) : AppError :=
  { errorCode := "io_error", message := s!"read draft: {draftName}" }

/-- Renders a draft under the message id it is going to be recorded under: for the file channel
it replies to, or as an email. -/
def prepareOutbound (host : Host) (w : Workspace) (draft : DraftPush) (messageId date : String) :
    Result PreparedOutbound := do
  let frontmatter ← w.draftFrontmatter draft.caseUid draft.draftName
  match frontmatter with
  | none => throw (draftUnreadable draft.draftName)
  | some frontmatter =>
    match frontmatter.replyRoute with
    | some route => do
      let raw ← host.prepareFile w draft route messageId date
      return { messageId, raw, delivery := .file route }
    | none => do
      let (raw, email) ← host.buildDraftMessage w draft messageId date
      return { messageId, raw, delivery := .email email }

/-- What is rendered keeps its id, and goes to the file channel that the draft replies to, if to
any. -/
theorem prepareOutbound_eq_ok {host : Host} {w : Workspace} {draft : DraftPush}
    {prepared : PreparedOutbound}
    (h : prepareOutbound host w draft messageId date = .ok prepared) :
    prepared.messageId = messageId ∧ ∃ frontmatter,
      w.draftFrontmatter draft.caseUid draft.draftName = .ok (some frontmatter) ∧
      ((∃ route, frontmatter.replyRoute = some route ∧ prepared.delivery = .file route) ∨
        ∃ email, frontmatter.replyRoute = none ∧ prepared.delivery = .email email) := by
  obtain ⟨frontmatter?, hfrontmatter, h⟩ := Result.bind_ok h
  cases frontmatter? with
  | none => cases h
  | some frontmatter =>
    dsimp only at h
    cases hroute : frontmatter.replyRoute with
    | some route =>
      rw [hroute] at h
      obtain ⟨raw, _, h⟩ := Result.bind_ok h
      cases h
      exact ⟨rfl, frontmatter, hfrontmatter, .inl ⟨route, hroute, rfl⟩⟩
    | none =>
      rw [hroute] at h
      obtain ⟨rendered, _, h⟩ := Result.bind_ok h
      cases h
      exact ⟨rfl, frontmatter, hfrontmatter, .inr ⟨rendered.2, hroute, rfl⟩⟩

def notOutbound : AppError := pushItemInvalid "push item is not outbound"

def outboundOf (item : PushItem) : Result OutboundPush :=
  match item.outbound with
  | some outbound => .ok outbound
  | none => .error notOutbound

def OutboundPush.draft (outbound : OutboundPush) : DraftPush :=
  { caseUid := outbound.caseUid, draftName := outbound.draftName
    draftUidValidity := outbound.draftUidValidity, draftUid := outbound.draftUid }

def prepareCurrentOutbound (context : PushExecutionContext) (w : Workspace) (item : PushItem) :
    Result PreparedOutbound :=
  match item.plannedOutboundMessage with
  | some prepared => .ok prepared
  | none => do
    let outbound ← outboundOf item
    let _ ← w.readDraft outbound.caseUid outbound.draftName
    context.host.validateDraft w outbound.draft outbound.action
    prepareOutbound context.host w outbound.draft (messageIdForPush item.pushId)
      item.createdRfc3339

end AgentFirstMail
