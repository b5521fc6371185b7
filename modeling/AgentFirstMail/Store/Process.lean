import AgentFirstMail.Effect.Safety
import AgentFirstMail.Imap.Resolve
import AgentFirstMail.Store.Audit

namespace AgentFirstMail
open Effect

/-- What a remote effect is planned for: the message of a draft, a message, or one of the
places a message is at. -/
inductive EffectUnit where
  | outbound
  | message (messageId : String)
  | location (location : PushLocation)

/-- The planned unit a remote effect belongs to. It is not sent anywhere. -/
structure EffectSite where
  pushId : String
  stepIndex : Nat
  unit : EffectUnit

structure RemoteUid where
  uidValidity : Nat
  uid : Nat

/-- Everything a command asks of the outside: the clock and the random source, the mail
server, the sending providers and the outbox of a file channel. -/
inductive Request where
  | newEventId
  | newDraftPushSuffix
  | listMailboxes
  | findByMessageId (folder rfc822MessageId : String)
  | addFlags (mailboxName : String) (uidValidity uid : Nat) (flags : List String)
  | outputConfirmed (prepared : PreparedOutbound)
  | prepareCloudflareSend (prepared : PreparedOutbound)
  | prepareSend (envelopeFrom : String) (envelopeTo : List String)
  | publish (site : EffectSite) (prepared : PreparedOutbound)
  | sendCloudflareRawMessage (site : EffectSite) (prepared : PreparedOutbound)
  | sendRawMessage (site : EffectSite) (envelopeFrom : String) (envelopeTo : List String)
      (raw : Bytes)
  | appendMessage (site : EffectSite) (folder : String) (raw : Bytes) (draft : Bool)
  | moveMessage (site : EffectSite) (mailboxName : String) (uidValidity uid : Nat)
      (target : String) (rfc822MessageId : Option String)

namespace Request

abbrev Reply : Request → Type
  | newEventId => String
  | newDraftPushSuffix => String
  | listMailboxes => List MailboxInfo
  | findByMessageId .. => Option RemoteUid
  | addFlags .. => Unit
  | outputConfirmed _ => Bool
  | prepareCloudflareSend _ => Unit
  | prepareSend .. => Unit
  | publish .. => Unit
  | sendCloudflareRawMessage .. => SendReceipt
  | sendRawMessage .. => Unit
  | appendMessage .. => Unit
  | moveMessage .. => Option RemoteUid

/-- The site of a request that must not be repeated blindly. -/
def site? : Request → Option EffectSite
  | publish site _ => some site
  | sendCloudflareRawMessage site _ => some site
  | sendRawMessage site .. => some site
  | appendMessage site .. => some site
  | moveMessage site .. => some site
  | _ => none

def setsFlags : Request → Bool
  | addFlags .. => true
  | _ => false

end Request

/-- A command at work: the workspace on disk, and what it holds in memory, that is the
mailbox list its remote session cached and the queue item it works on. -/
structure Process where
  workspace : Workspace
  mailboxes : Option (List MailboxInfo) := none
  item : PushItem

namespace Process

def onWorkspace (process : Process) (change : Workspace → Workspace) : Process :=
  { process with workspace := change process.workspace }

/-- Changes the item in memory only. -/
def onItem (process : Process) (change : PushItem → PushItem) : Process :=
  { process with item := change process.item }

end Process

abbrev Command (α : Type) := Program Process Request Request.Reply AppError α

abbrev RemoteEvent := Event Process Request Request.Reply AppError

/-- What is known of the requests so far and of the process. -/
abbrev ProcessFact := Assertion Process Request Request.Reply AppError

/-- What a push plan shows of a draft besides its bytes: the resolved identity, and the path
and content of each attachment. -/
structure DraftReview where
  identity : String
  attachments : List (String × Bytes)
deriving DecidableEq

/-- Why a configured secret cannot be used. -/
inductive SecretError where
  | malformed (message : String)
  | unreadable (message : String)

/-- The settings of the SMTP relay that a send goes by. -/
structure SmtpSection where
  host : Option String := none
  username : Option String := none
  passwordSecret : Option String := none

/-- What commands use of code outside the model: the clock, the features compiled in, the SMTP
settings and what is wrong with a secret, the slug of a name, the checks on paths, drafts and
addresses, the rendering of a draft as an email or for a file channel, and that of the views,
which writes nothing that is read back. -/
structure Host where
  now : String
  compiled : String → Bool
  humanSlug : String → String
  validPathSegment : String → Bool
  smtp : SmtpSection
  secretError : String → Option SecretError
  validAddress : String → Bool
  validateDraft : Workspace → DraftPush → OutboundAction → Result Unit
  buildDraftMessage : Workspace → DraftPush → String → String → Result (Bytes × PreparedEmail)
  prepareFile : Workspace → DraftPush → ReplyRoute → String → String → Result Bytes
  reviewDraft : Workspace → DraftPush → Result DraftReview
  sentSubject : Bytes → Option String
  clearPendingCache : Workspace → List String → Result Unit
  renderMessageViews : Workspace → List String → Result Unit
  renderCaseViews : Workspace → String → Result Unit

def trimmed (text : String) : String := String.ofList (Text.trim text.toList)

def invalidRequest (message : String) : AppError := { errorCode := "invalid_request", message }

def invalidPathSegment (label : String) : AppError :=
  invalidRequest s!"invalid {label}: must be a single path segment"

def validateId (host : Host) (label value : String) : Result Unit :=
  ensure (host.validPathSegment value) (invalidPathSegment label)

def validateName (host : Host) (label value : String) : Result Unit := do
  ensure (!Text.isBlank value) (invalidRequest s!"invalid {label}: must not be empty")
  validateId host label (host.humanSlug value)

/-- A host that finds nothing wrong and renders nothing. -/
def plainHost : Host where
  now := "2024-01-01T00:00:00Z"
  compiled _ := true
  humanSlug name := name
  validPathSegment _ := true
  smtp := { host := some "smtp.example.com" }
  secretError _ := none
  validAddress _ := true
  validateDraft _ _ _ := .ok ()
  buildDraftMessage _ _ _ _ := .ok ([], ⟨[], "me@example.com", ["you@example.com"]⟩)
  prepareFile _ _ _ _ _ := .ok []
  reviewDraft _ _ := .ok ⟨"me", []⟩
  sentSubject _ := none
  clearPendingCache _ _ := .ok ()
  renderMessageViews _ _ := .ok ()
  renderCaseViews _ _ := .ok ()

namespace Workspace

def appendAuditRecord (w : Workspace) (event : AuditEvent) : Workspace :=
  { w with audit := w.audit.appendRecord event }

def appendAuditNewline (w : Workspace) : Workspace :=
  { w with audit := w.audit.appendNewline }

def writeItem (w : Workspace) (item : PushItem) : Workspace :=
  { w with pushItems := w.pushItems.insert item.pushId item.stored }

def deleteItem (w : Workspace) (pushId : String) : Workspace :=
  { w with pushItems := w.pushItems.erase pushId }

end Workspace

/-- Changes the item and writes it to the queue. -/
def Process.save (process : Process) (change : PushItem → PushItem) : Process :=
  { process with item := change process.item
                 workspace := process.workspace.writeItem (change process.item) }

namespace Command

/-- Asks the outside and keeps its answer as a value. -/
def ask (request : Request) : Command (Except AppError request.Reply) := Program.ask request

/-- Asks the outside and fails with the error it answers. -/
def perform (request : Request) : Command request.Reply := Program.perform request

def workspace : Command Workspace := do
  let process ← Program.read
  return process.workspace

/-- One atomic write to the workspace. -/
def writeWorkspace (change : Workspace → Workspace) : Command Unit :=
  Program.write (·.onWorkspace change)

def currentItem : Command PushItem := do
  let process ← Program.read
  return process.item

def modifyItem (change : PushItem → PushItem) : Command Unit :=
  Program.write (·.onItem change)

def saveItem (change : PushItem → PushItem) : Command Unit := Program.write (·.save change)

/-- A record and its newline are two writes. -/
def appendAuditEventRecord (event : AuditEvent) : Command Unit := do
  writeWorkspace (·.appendAuditRecord event)
  writeWorkspace (·.appendAuditNewline)

def appendAuditEvent (host : Host) (kind : String) (targets : List (String × String))
    (reason : Option String) : Command Unit := do
  let eventId ← perform .newEventId
  appendAuditEventRecord { eventId, createdRfc3339 := host.now, kind, targets, reason }

def auditLogRecoveryRequired : AppError :=
  { errorCode := "audit_log_recovery_required"
    message := "audit log has a truncated tail; refusing to append after damaged bytes" }

/-- Appends an event unless the log holds its id; whether it was appended. -/
def appendAuditEventWithIdentity (event : AuditEvent) : Command Bool := do
  let w ← workspace
  let existing ← Program.ofExcept w.audit.read
  if existing.truncatedTail then
    throw auditLogRecoveryRequired
  else if existing.events.any (·.eventId == event.eventId) then
    return false
  else
    appendAuditEventRecord event
    return true

end Command
end AgentFirstMail
