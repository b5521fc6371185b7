import AgentFirstMail.Drafts.Rejection
import AgentFirstMail.Requests.Mutations
import AgentFirstMail.Review.Pages

namespace AgentFirstMail
open Effect

/-- All that stands in the front matter of a draft. -/
structure DraftHeader extends DraftFrontmatter where
  kind : Option String := none
  identity : Option String := none
  subject : Option String := none
  to_ : List String := []
  cc : List String := []
  bcc : List String := []
  attachments : List String := []
deriving DecidableEq

/-- An identity with what its file sets. -/
structure ResolvedIdentity where
  identity : String
  name : String
  email : String
  footer : Option String := none

def ResolvedIdentity.footerText (identity : ResolvedIdentity) : Option (List Char) :=
  identity.footer.map String.toList

/-- What commands on drafts use: the clock, the hash of a file, how documents are written, and what
the workspace and the case say about identities, addresses, messages and attachments. -/
structure DraftHost where
  now : String
  caseUid : String
  format : MarkdownFormat DraftHeader
  blake3Fingerprint : List Char → String
  validPathSegment : String → Bool
  resolveIdentity : Option String → Result ResolvedIdentity
  normalizeRecipientAddress : String → String → Result String
  validateFileDraft : DraftHeader → Result Unit
  containsMessage : String → Bool
  openDraftAttachment : String → Result Unit

structure DraftValidation where
  draftHash : String
  completeness : DraftCompleteness

/-- When a draft was last validated, and the hash of its file then. -/
structure DraftStateEntry where
  lastValidatedHash : String
  lastValidatedRfc3339 : String

structure DraftChanged where
  draftName : String
  changedFields : List String
  draftHash : String

/-- The drafts of a case: the files, what is kept of their validation, and the audit events. -/
structure CaseDrafts where
  files : Std.ExtTreeMap String (List Char) := ∅
  states : Std.ExtTreeMap String DraftStateEntry := ∅
  events : List DraftChanged := []

abbrev DraftCommand (α : Type) := Local CaseDrafts AppError α

def identityDraftError (error : AppError) : AppError :=
  if error.errorCode = "unknown_identity" ∨ error.errorCode = "config_invalid" then
    { errorCode := "draft_invalid", message := error.message }
  else error

def CaseDrafts.writeString (draftName : String) (text : List Char) (drafts : CaseDrafts) :
    CaseDrafts :=
  { drafts with files := drafts.files.insert draftName text }

def validateFileName (validPathSegment : String → Bool) (label value : String) : Result Unit := do
  ensure (validPathSegment value) (invalidPathSegment label)
  ensure (".md".toList.isSuffixOf value.toList)
    (invalidRequest s!"invalid {label}: must be a markdown file name")

section Commands
variable (host : DraftHost)

def resolveDraftIdentity (identity : Option String) : Result ResolvedIdentity :=
  (host.resolveIdentity identity).mapError identityDraftError

def normalizeRecipientList (values : List String) (field : String) : Result (List String) :=
  values.mapM (host.normalizeRecipientAddress · field)

def checkRecipients (header : DraftHeader) : Result Unit :=
  if header.replyRoute.isSome then host.validateFileDraft header
  else do
    let _ ← normalizeRecipientList host header.to_ "to"
    let _ ← normalizeRecipientList host header.cc "cc"
    let _ ← normalizeRecipientList host header.bcc "bcc"

/-- What has to hold of a draft besides its body. -/
def checkDraftHeader (header : DraftHeader) : Result Unit := do
  ensure (header.kind == some "draft") (draftInvalid "draft kind must be draft")
  ensure (header.caseUid == host.caseUid) (draftInvalid "draft case_uid does not match case")
  ensure (header.subject.any (trimmed · != "")) (draftInvalid "draft subject is required")
  ensure (!(header.to_.isEmpty && header.bcc.isEmpty))
    (draftInvalid "draft requires at least one to or bcc recipient")
  checkRecipients host header
  let _ ← resolveDraftIdentity host header.identity
  ensure (header.replyToMessageId.all host.containsMessage)
    (draftInvalid ("reply_to_message_id does not belong to case: " ++
      header.replyToMessageId.getD ""))
  header.attachments.forM host.openDraftAttachment

def readDraftDoc (text : List Char) : Result (DraftHeader × List Char) :=
  (readDoc host.format text).mapError fun error =>
    draftInvalid s!"invalid draft frontmatter: {error.toString}"

def validateDraftBytes (draftName : String) (text : List Char) : Result DraftValidation := do
  validateFileName host.validPathSegment "draft_name" draftName
  let (header, body) ← readDraftDoc host text
  let content ← checkedDraftContent body
  checkDraftHeader host header
  return { draftHash := host.blake3Fingerprint text, completeness := content.completeness }

/-- The body of a draft that is created: a rendered template, with the text that was given. -/
def newDraftBody (scaffold : List Char) (bodyOverride : Option (List Char))
    (identity : ResolvedIdentity) : Result (List Char) := do
  let body ← match bodyOverride with
    | some body => (replaceAuthoredText scaffold body).mapError draftContentError
    | none => .ok scaffold
  let _ ← checkedDraftContent body
  return ensureIdentityFooter body identity.footerText

def writeStringNew (draftName : String) (text : List Char) : DraftCommand Unit := do
  let drafts ← Program.read
  Program.ofExcept (ensure (!drafts.files.contains draftName)
    { errorCode := "store_error", message := s!"file already exists: {draftName}" })
  Program.write (CaseDrafts.writeString draftName text)

/-- Creates a draft under a name that is free. -/
def createDraft (draftName : String) (header : DraftHeader) (scaffold : List Char)
    (bodyOverride : Option (List Char)) (identity : ResolvedIdentity) : DraftCommand Unit := do
  let body ← Program.ofExcept (newDraftBody scaffold bodyOverride identity)
  let rendered ← Program.ofExcept (renderFrontmatter host.format header body)
  writeStringNew draftName rendered

def draftExists (draftName : String) : AppError :=
  { errorCode := "draft_exists", message := s!"reply draft already exists: {draftName}" }

/-- Creates the draft that answers a message. -/
def replyToMessage (messageId : String) (header : DraftHeader) (scaffold : List Char)
    (bodyOverride : Option (List Char)) (identity : ResolvedIdentity) : DraftCommand Unit := do
  let body ← Program.ofExcept (newDraftBody scaffold bodyOverride identity)
  let draftName := s!"reply-{messageId}.md"
  let drafts ← Program.read
  Program.ofExcept (ensure (!drafts.files.contains draftName) (draftExists draftName))
  let rendered ← Program.ofExcept (renderFrontmatter host.format header body)
  writeStringNew draftName rendered

/-- A draft while it is changed. -/
structure ChangedDraft where
  header : DraftHeader
  body : List Char
  changedFields : List String := []

/-- The recipients that a change asks for, unless it leaves them as they are. -/
def changedRecipients (header : DraftHeader) (clear : Bool) (requested current : List String)
    (field : String) : Result (List String) :=
  if clear then .ok []
  else if requested = [] then .ok current
  else if header.replyRoute.isSome then .ok requested
  else normalizeRecipientList host requested field

def ChangedDraft.noted (draft : ChangedDraft) (changed : Bool) (field : String) : ChangedDraft :=
  if changed && !draft.changedFields.contains field then
    { draft with changedFields := draft.changedFields ++ [field] }
  else draft

def changeSubject (change : DraftChange) (draft : ChangedDraft) : ChangedDraft :=
  match change.subject with
  | none => draft
  | some subject =>
    let changed := draft.header.subject != some subject
    { draft with header := { draft.header with subject := some subject } }.noted changed "subject"

def changeRecipients (change : DraftChange) (draft : ChangedDraft) : Result ChangedDraft := do
  let header := draft.header
  let to_ ← changedRecipients host header false change.to_ header.to_ "to"
  let cc ← changedRecipients host header change.clearCc change.cc header.cc "cc"
  let bcc ← changedRecipients host header change.clearBcc change.bcc header.bcc "bcc"
  let changed := { draft with header := { header with to_, cc, bcc } }
  return ((changed.noted (header.to_ != to_) "to").noted (header.cc != cc) "cc").noted
    (header.bcc != bcc) "bcc"

/-- Replaces the authored text, and adds the footer of the identity the draft will have. -/
def changeBody (change : DraftChange) (newBody : List Char) (draft : ChangedDraft) :
    Result ChangedDraft := do
  let identity ← resolveDraftIdentity host (change.identity.or draft.header.identity)
  let body ← (replaceAuthoredText draft.body newBody).mapError draftContentError
  let body := ensureIdentityFooter body identity.footerText
  return { draft with body }.noted (draft.body != body) "body"

def changeIdentity (identity : String) (draft : ChangedDraft) : Result ChangedDraft := do
  let oldIdentity ← resolveDraftIdentity host draft.header.identity
  let newIdentity ← resolveDraftIdentity host (some identity)
  let body := replaceIdentityFooter draft.body oldIdentity.footerText newIdentity.footerText
  let changed := { draft with
    header := { draft.header with identity := some newIdentity.identity }, body }
  return (changed.noted (draft.header.identity != some newIdentity.identity) "identity").noted
    (draft.body != body) "body"

def changedDraft (change : DraftChange) (bodyOverride : Option (List Char)) (draft : ChangedDraft) :
    Result ChangedDraft := do
  let draft ← changeRecipients host change (changeSubject change draft)
  let draft ← match bodyOverride with
    | some newBody => changeBody host change newBody draft
    | none => .ok draft
  match change.identity with
  | some identity => changeIdentity host identity draft
  | none => .ok draft

def CaseDrafts.writeDraftValidationState (draftName now : String) (validation : DraftValidation)
    (drafts : CaseDrafts) : CaseDrafts :=
  { drafts with states := drafts.states.insert draftName ⟨validation.draftHash, now⟩ }

def CaseDrafts.appendAuditEvent (event : DraftChanged) (drafts : CaseDrafts) : CaseDrafts :=
  { drafts with events := drafts.events ++ [event] }

def changeDraft (draftName : String) (change : DraftChange) :
    DraftCommand (List String × DraftValidation) := do
  Program.ofExcept (validateFileName host.validPathSegment "draft_name" draftName)
  let bodyOverride ← Program.ofExcept change.body
  let drafts ← Program.read
  match drafts.files[draftName]? with
  | none => Program.fail (draftMissing draftName)
  | some text => do
    let (header, body) ← Program.ofExcept (readDraftDoc host text)
    let draft ← Program.ofExcept
      (changedDraft host change (bodyOverride.map String.toList) { header, body })
    let rendered ← Program.ofExcept (editFrontmatter host.format text draft.header draft.body)
    let validation ← Program.ofExcept (validateDraftBytes host draftName rendered)
    Program.write (CaseDrafts.writeString draftName rendered)
    Program.write (CaseDrafts.writeDraftValidationState draftName host.now validation)
    Program.write (CaseDrafts.appendAuditEvent
      ⟨draftName, draft.changedFields, validation.draftHash⟩)
    return (draft.changedFields, validation)

end Commands
end AgentFirstMail
