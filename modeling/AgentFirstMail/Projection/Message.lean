import AgentFirstMail.Pull.Site

namespace AgentFirstMail

inductive AuthVerdict where
  | pass | fail | softFail | neutral | none | tempError | permError | missing
deriving DecidableEq

inductive AuthAlignment where
  | aligned | mismatch | unknown
deriving DecidableEq

/-- What the receiving server said of a message's sender. -/
structure MessageAuthentication where
  spf : AuthVerdict := .missing
  dkim : AuthVerdict := .missing
  dmarc : AuthVerdict := .missing
  dmarcPolicy : Option String := none
  authenticatedDomain : Option String := none
  fromDomain : Option String := none
  alignment : AuthAlignment := .unknown
  raw : List String := []
deriving DecidableEq

structure AttachmentRef where
  partId : String
  filename : String
  contentType : String
  sizeBytes : Nat
  filePath : Option String := none
  sourcePath : Option String := none
deriving DecidableEq

/-- What of a message comes from its evidence alone. -/
structure MessageContent where
  rfc822MessageId : Option String := none
  inReplyTo : Option String := none
  references : List String := []
  subject : Option String := none
  from_ : Option String := none
  to_ : List String := []
  cc : List String := []
  bcc : List String := []
  replyTo : List String := []
  sender : Option String := none
  deliveredTo : List String := []
  xOriginalTo : List String := []
  listId : Option String := none
  mailingListHeaders : List String := []
  authentication : MessageAuthentication := {}
  bodyText : String := ""
  bodyMarkdown : Option String := none
deriving DecidableEq

/-- What the parser finds in a mail. -/
structure ParsedMail where
  content : MessageContent := {}
  envelopeTo : List String := []
  attachments : List AttachmentRef := []
  dateRfc3339 : Option String := none

structure MessageOrigin where
  replyRoute : ReplyRoute
  externalMessageId : String
  replyToExternalMessageId : Option String := none
deriving DecidableEq

/-- The input of a file source, as it is read. -/
structure NativeMessage where
  externalMessageId : String
  conversationId : String
  replyToExternalMessageId : Option String := none
  senderId : String
  recipientIds : List String
  subject : String
  bodyText : String

structure RemoteSyncState where
  archiveEligible : Bool
  checkedRfc3339 : String
deriving DecidableEq

structure WorkspacePendingPush where
  pushId : String
  kind : String
  queuedRfc3339 : String
  lastError : Option String := none
deriving DecidableEq

structure WorkspacePushState where
  pending : List WorkspacePendingPush := []
  lastCompletedRfc3339 : Option String := none
deriving DecidableEq

/-- A message's place in the workspace, as its projection tells it. -/
structure WorkspaceState where
  status : MessageStatus := .triage
  notificationUid : Option String := none
  notificationRfc3339 : Option String := none
  origin : Option String := none
  remoteSync : Option RemoteSyncState := none
  push : Option WorkspacePushState := none
deriving DecidableEq

/-- Which of the configured identities a message was sent to. -/
structure IdentityMatch where
  identity : Option String := none
  identityEmail : Option String := none
  identityMatch : Option String := none
  identityCandidates : List String := []
  observedRecipientEmails : List String := []
deriving DecidableEq

/-- A message but for its suggestions. -/
structure MessageBase where
  messageId : String
  content : MessageContent := {}
  origin : Option MessageOrigin := none
  remote : Option (List RemoteLocation) := none
  direction : Option String := none
  envelopeTo : List String := []
  receivedRfc3339 : Option String := none
  sentRfc3339 : Option String := none
  emlPath : Option String := none
  attachments : List AttachmentRef := []
  contact : Option ContactFrontmatter := none
  identity : IdentityMatch := {}
  workspace : WorkspaceState := {}
deriving DecidableEq

/-- A message as its projection `messages/<message_id>.json` holds it. -/
structure MessageFile extends MessageBase where
  agentSuggestion : Option MessageAgentSuggestion := none
  humanSuggestion : Option MessageHumanSuggestion := none
  caseUids : Option (List String) := none
deriving DecidableEq

/-- A projection that is there; one that does not parse, or not as its schema says, answers with
an error. -/
inductive ProjectionFile where
  | message (file : MessageFile)
  | invalid (error : AppError)

/-- What messages are read from: the canonical files of a workspace, the evidence that file
sources left, the projections, and the attachments that were fetched. -/
structure WorkspaceTree where
  workspace : Workspace
  channelEvidence : Std.ExtTreeMap String ChannelEvidence := ∅
  projections : Std.ExtTreeMap String ProjectionFile := ∅
  attachmentFiles : List String := []

def ProjectionFile.read : ProjectionFile → Result MessageFile
  | .message file => .ok file
  | .invalid error => .error error

/-- The spellings of a direction. -/
def MailDirection.parse (value : String) : Option MailDirection :=
  let value := String.ofList (Text.foldAscii (trimmed value))
  if value = "inbound" ∨ value = "received" then some .inbound
  else if value = "outbound" ∨ value = "sent" then some .outbound
  else none

/-- What the reading of messages uses of code outside the model: the parsers, the directions and
identities of the configuration, and the name under which an attachment is kept. -/
structure ProjectionHost extends Host where
  parseMail : Bytes → Option ParsedMail
  native : Bytes → Result NativeMessage
  cloudflareDirection : MailDirection
  matchIdentities : Result (MessageBase → IdentityMatch)
  safeAttachmentFilename : String → String → String

end AgentFirstMail
