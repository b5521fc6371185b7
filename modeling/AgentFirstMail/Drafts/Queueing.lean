import AgentFirstMail.Channels.Publish
import AgentFirstMail.Drafts.Commands
import AgentFirstMail.Store.TextFiles

namespace AgentFirstMail
open Effect Command

/-- What queueing a draft uses besides: how documents are written, the hash of a file, and what
configuration and case say of identities, addresses and attachments. -/
structure DraftQueueHost extends CaseHost where
  format : MarkdownFormat DraftHeader
  blake3Fingerprint : List Char → String
  resolveIdentity : Workspace → Option String → Result ResolvedIdentity
  normalizeRecipientAddress : String → String → Result String
  openDraftAttachment : CaseRecord → String → Result Unit

/-- An edited document is read back with the front matter that it was given. -/
def MarkdownFormat.Rereads (format : MarkdownFormat φ) : Prop :=
  ∀ source frontmatter body edited,
    editFrontmatter format source frontmatter body = .ok edited →
      ∃ kept, readDoc format edited = .ok (frontmatter, kept)

/-- What a file channel demands of a draft. -/
def validateChannelDraft (header : DraftHeader) : Result Unit := do
  ensure (header.attachments.isEmpty && header.cc.isEmpty && header.bcc.isEmpty)
    (channelOperationUnsupported ("file channels support text and to recipients; attachments, " ++
      "cc and bcc are unavailable"))
  header.to_.forM validateIdentifier

def DraftQueueHost.draftHost (host : DraftQueueHost) (w : Workspace) (caseUid : String)
    (case_ : CaseRecord) : DraftHost where
  now := host.now
  caseUid := caseUid
  format := host.format
  blake3Fingerprint := host.blake3Fingerprint
  validPathSegment := host.validPathSegment
  resolveIdentity := host.resolveIdentity w
  normalizeRecipientAddress := host.normalizeRecipientAddress
  validateFileDraft := validateChannelDraft
  containsMessage messageId := decide (messageId ∈ case_.members)
  openDraftAttachment := host.openDraftAttachment case_

def draftIncomplete : AppError :=
  { errorCode := "draft_incomplete"
    message := "draft send requires authored text inside the afmail compose section" }

def ensureDraftComplete (validation : DraftValidation) : Result Unit :=
  ensure (validation.completeness == .complete) draftIncomplete

def ensureOutboundRequeueAllowed (w : Workspace) (caseUid draftName : String)
    (previousAction : Option OutboundAction) (action : OutboundAction) : Result Unit := do
  let _ ← validateOutboundRequeue (w.findDraftItem caseUid draftName) previousAction action

/-- A draft file is written as text; planning reads its front matter back. -/
def DraftFile.ofText (format : MarkdownFormat DraftHeader) (header : DraftHeader)
    (text : List Char) : DraftFile where
  frontmatter := match readDoc format text with
    | .ok (read, _) => read.toDraftFrontmatter
    | .error _ => header.toDraftFrontmatter
  text := textBytes text

/-- The entry that `drafts.json` keeps of a draft. -/
def DraftStateEntry.json (entry : DraftStateEntry) : String :=
  "\x7b\"last_validated_hash\":\"" ++ entry.lastValidatedHash ++
    "\",\"last_validated_rfc3339\":\"" ++ entry.lastValidatedRfc3339 ++ "\"\x7d"

/-- A draft that may be queued, as it is going to be written. -/
structure QueueableDraft where
  caseUid : String
  casePath : String
  previousAction : Option OutboundAction
  text : List Char
  file : DraftFile
  validation : DraftValidation

structure QueuedDraft where
  pushId : String
  action : OutboundAction
  caseUid : String
  draftName : String
  lastValidatedRfc3339 : String
  completeness : DraftCompleteness
deriving DecidableEq

section Queueing
variable (host : DraftQueueHost)

def readDraftText (case_ : CaseRecord) (draftName : String) : Result (List Char) :=
  match case_.drafts[draftName]? with
  | none => .error (draftMissing draftName)
  | some draft => readToString "read draft" draft.text

/-- Everything that is checked before a draft is queued. -/
def queueDraftChecks (w : Workspace) (caseRef draftName : String) (action : OutboundAction) :
    Result QueueableDraft := do
  validateFileName host.validPathSegment "draft_name" draftName
  let (caseUid, case_) ← w.resolveActiveCase host.toHost caseRef
  let text ← readDraftText case_ draftName
  let (header, body) ← readDoc host.format text
  ensureOutboundRequeueAllowed w caseUid draftName header.syncIntent action
  let queued := { header with syncIntent := some action }
  let rendered ← editFrontmatter host.format text queued body
  let validation ← validateDraftBytes (host.draftHost w caseUid case_) draftName rendered
  if action = .send then ensureDraftComplete validation
  return { caseUid, casePath := s!"cases/{case_.group}/{case_.dirName}"
           previousAction := header.syncIntent, text := rendered
           file := .ofText host.format queued rendered, validation }

def draftQueuePaths (draft : QueueableDraft) (draftName : String) : List String :=
  [s!"{draft.casePath}/drafts/{draftName}", s!"{draft.casePath}/data/drafts.json", ".afmail/push"]

/-- The hash of a draft is entered in what is read of the states of its case. -/
def writeDraftValidationState (caseUid draftName hash : String) : Command Unit := do
  let w ← workspace
  let _ ← Program.ofExcept (w.readDraftState caseUid)
  writeWorkspace (·.writeDraftValidationState caseUid draftName
    (DraftStateEntry.json ⟨hash, host.now⟩))

def queueDraft (caseRef draftName : String) (action : OutboundAction) : Command QueuedDraft := do
  let w ← workspace
  let draft ← Program.ofExcept (queueDraftChecks host w caseRef draftName action)
  let transactionId ← beginTransaction host.toCaseHost "draft_queue"
    (draftQueuePaths draft draftName)
  writeWorkspace (·.replaceDraft draft.caseUid draftName draft.file)
  writeDraftValidationState host draft.caseUid draftName draft.validation.draftHash
  let pushId ← queueOutbound host.toHost draft.caseUid draftName action draft.previousAction
  writeWorkspace (·.removeTransaction transactionId)
  appendAuditEvent host.toHost "draft_queued" [("case", draft.caseUid)] none
  return { pushId, action, caseUid := draft.caseUid, draftName, lastValidatedRfc3339 := host.now
           completeness := draft.validation.completeness }

def uploadDraft (caseRef draftName : String) : Command QueuedDraft := do
  let w ← workspace
  Program.ofExcept (ensure (!w.config.actions.draftSave.isEmpty) draftUploadUnavailable)
  queueDraft host caseRef draftName .saveDraft

def sendDraft (caseRef draftName : String) : Command QueuedDraft :=
  queueDraft host caseRef draftName .send

end Queueing

inductive DraftStatus where
  | editable | queuedUpload | queuedSend | pushing | failed

/-- What may be wrong between the front matter of a draft and the queue. -/
inductive DraftProjectionIssue where
  | intentWithoutPush | pushWithoutIntent

/-- What is shown of the state of a draft. -/
structure DraftStateProjection where
  status : DraftStatus
  queuedAction : Option OutboundAction
  issue : Option DraftProjectionIssue

def queuedStatus : OutboundAction → DraftStatus
  | .saveDraft => .queuedUpload
  | .send => .queuedSend

def statusForQueuedItem (intent : OutboundAction) (item : PushItem) : DraftStatus :=
  if item.lastError.isSome || item.stepStates.any fun state =>
      state.status == .failed || state.status == .remoteOutcomeUnknown then .failed
  else if item.hasStartedEffects then .pushing
  else queuedStatus intent

def DraftStateProjection.fromQueue (intent : Option OutboundAction) (queued : Option PushItem) :
    DraftStateProjection :=
  match intent, queued with
  | none, none => ⟨.editable, none, none⟩
  | some _, none => ⟨.failed, none, some .intentWithoutPush⟩
  | none, some _ => ⟨.failed, none, some .pushWithoutIntent⟩
  | some intent, some item => ⟨statusForQueuedItem intent item, some intent, none⟩

end AgentFirstMail
