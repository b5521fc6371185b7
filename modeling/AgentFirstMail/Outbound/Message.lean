import AgentFirstMail.Drafts.Commands
import AgentFirstMail.Outbound.Lettre

namespace AgentFirstMail
open Text

/-- What rendering a draft as a mail uses of code outside the model, and what it reads in the
workspace: the identities, the message that is answered, and attachments with their names. -/
structure OutboundHost where
  lettre : Lettre
  format : MarkdownFormat DraftHeader
  parseRfc3339 : String → Except String Int
  resolveIdentity : Option String → Result ResolvedIdentity
  readMessageById : String → Result MessageBase
  readAttachment : String → Result (String × Bytes)
  sanitize : String → String
  mimeGuess : String → Option String
  toLowercase : String → String

/-- What precedes the last of some characters in a text, and what follows it. -/
def rsplitOnce (c : Char) (text : List Char) : Option (List Char × List Char) :=
  match text.reverse.span (· != c) with
  | (after, _ :: before) => some (before.reverse, after.reverse)
  | (_, []) => none

section Addresses
variable (lettre : Lettre)

/-- The address of a mailbox whose display name the parser does not take. -/
def fallbackAngleAddress (value : List Char) : Option Address := do
  let (display, rest) ← rsplitOnce '<' value
  if (trim display).isEmpty || !(['>'].isSuffixOf rest) then none
  else (lettre.parseAddress (String.ofList (trim rest.dropLast))).toOption

def parseMailbox (value field : String) : Result Mailbox :=
  let text := trim value.toList
  match lettre.parseMailbox (String.ofList text) with
  | .ok mailbox => .ok mailbox
  | .error error =>
    match fallbackAngleAddress lettre text with
    | some address => .ok { name := none, email := address }
    | none => .error (draftInvalid s!"invalid {field} address: {error}")

def identityMailbox (identity : ResolvedIdentity) : Result Mailbox := do
  let email ← (lettre.parseAddress identity.email).mapError fun error =>
    draftInvalid s!"invalid identity email: {error}"
  return { name := some identity.name, email }

end Addresses

structure ReplyHeaders where
  inReplyTo : String
  references : String

/-- A message id in brackets, with those that it has. -/
def ensureBrackets (id : String) : String :=
  let text := trim id.toList
  String.ofList <|
    if ['<'].isPrefixOf text && ['>'].isSuffixOf text then text else '<' :: text ++ ['>']

def replyToUnidentified (messageId : String) : AppError :=
  draftInvalid s!"reply message has no rfc822_message_id: {messageId}"

/-- The headers of an answer to a message: its id, and its references with the id behind them. -/
def replyHeaders (message : MessageBase) (messageId : String) : Result ReplyHeaders :=
  match message.content.rfc822MessageId with
  | none => .error (replyToUnidentified messageId)
  | some parentId =>
    let refs := message.content.references
    let refs := if refs.contains parentId then refs else refs ++ [parentId]
    .ok { inReplyTo := ensureBrackets parentId
          references := " ".intercalate (refs.map ensureBrackets) }

/-- The headers that are the same whenever a draft is rendered for a push. -/
structure StableMessageHeaders where
  rfc822MessageId : String
  messageId : String
  dateRfc3339 : Option String

section Building
variable (host : OutboundHost)

def safeOutboundAttachmentFilename (filename : String) : String :=
  let sanitized := trimmed (host.sanitize (trimmed filename))
  if sanitized = "" then "attachment" else sanitized

def attachmentPart (attachment : String) : Result SinglePart := do
  let (name, data) ← host.readAttachment attachment
  let filename := safeOutboundAttachmentFilename host name
  let guess := (host.mimeGuess filename).getD "application/octet-stream"
  let contentType ← (host.lettre.parseContentType guess).mapError draftInvalid
  return .attachment filename data contentType

def addMailboxes (name : HeaderName) (field : String) (values : List String)
    (builder : MessageBuilder) : Result MessageBuilder :=
  values.foldlM (fun builder value => do
    let mailbox ← parseMailbox host.lettre value field
    return builder.mailbox name mailbox) builder

def addDate (date : Option String) (builder : MessageBuilder) : Result MessageBuilder :=
  match date with
  | none => .ok builder
  | some value => do
    let seconds ← (host.parseRfc3339 value).mapError fun error =>
      pushItemInvalid s!"queued_rfc3339 is invalid: {error}"
    return builder.header .date (.date seconds)

def addReplyHeaders (replyTo : Option String) (builder : MessageBuilder) : Result MessageBuilder :=
  match replyTo with
  | none => .ok builder
  | some replyId => do
    let message ← host.readMessageById replyId
    let headers ← replyHeaders message replyId
    return (builder.header .inReplyTo (.text headers.inReplyTo)).header .references
      (.text headers.references)

/-- The message with its text, and its attachments if there are any. -/
def finishMessage (attachments : List String) (messageId body : String) (builder : MessageBuilder) :
    Result MailMessage :=
  if attachments.isEmpty then
    ((builder.header .contentType (.text "text/plain; charset=utf-8")).body host.lettre body).mapError
      draftInvalid
  else do
    let parts ← attachments.mapM (attachmentPart host)
    (builder.multipart host.lettre
      { boundary := s!"afmail-{messageId}-mixed", parts := .plain body :: parts }).mapError draftInvalid

/-- The headers in front of the recipients. -/
def startMessage (caseUid : String) (draft : DraftHeader) (identity : ResolvedIdentity)
    (stable : StableMessageHeaders) : Result MessageBuilder := do
  ensure (draft.caseUid == caseUid) (draftInvalid "draft case_uid does not match case")
  let sender ← identityMailbox host.lettre identity
  let builder := (({} : MessageBuilder).mailbox .from_ sender).header .messageId
    (.text stable.rfc822MessageId)
  match draft.subject with
  | none => throw (draftInvalid "draft subject is required")
  | some subject => addDate host stable.dateRfc3339 (builder.header .subject (.text subject))

def buildMessage (caseUid : String) (draft : DraftHeader) (body : String)
    (identity : ResolvedIdentity) (stable : StableMessageHeaders) : Result MailMessage := do
  let builder ← startMessage host caseUid draft identity stable
  let builder ← addMailboxes host .to_ "to" draft.to_ builder
  let builder ← addMailboxes host .cc "cc" draft.cc builder
  let builder ← addMailboxes host .bcc "bcc" draft.bcc builder
  let builder ← addReplyHeaders host draft.replyToMessageId builder.keepBcc
  finishMessage host draft.attachments stable.messageId body builder

def buildDraftMessage (caseUid : String) (draft : DraftHeader) (rawBody : List Char)
    (messageId : String) (date : Option String) : Result MailMessage := do
  let body ← (outboundBody rawBody).mapError draftContentError
  let identity ← (host.resolveIdentity draft.identity).mapError identityDraftError
  buildMessage host caseUid draft (String.ofList body) identity
    { rfc822MessageId := s!"<{messageId}@afmail.local>", messageId, dateRfc3339 := date }

def envelopeFromRequired : AppError := draftInvalid "draft envelope from is required"

/-- Each address once, up to letter case; `seen` are the ones so far. -/
def uniqueAddresses (toLowercase : String → String) :
    Std.ExtTreeSet String → List String → List String
  | _, [] => []
  | seen, address :: rest =>
    let key := toLowercase address
    if seen.contains key then uniqueAddresses toLowercase seen rest
    else address :: uniqueAddresses toLowercase (seen.insert key) rest

/-- The bytes that are kept of a message, those that are delivered, and to whom. -/
def deliver (message : MailMessage) : Result (Bytes × PreparedEmail) :=
  match message.envelope.from_ with
  | none => .error envelopeFromRequired
  | some sender =>
    let delivered := { message with headers := message.headers.remove .bcc }
    .ok (message.formatted host.lettre,
      { deliveryRaw := delivered.formatted host.lettre
        envelopeFrom := sender.text
        envelopeTo := uniqueAddresses host.toLowercase ∅ (message.envelope.to_.map (·.text)) })

/-- What is rendered of a draft that is read. -/
def prepareDraft (caseUid : String) (draft : DraftHeader) (rawBody : List Char) (messageId : String)
    (date : Option String) : Result (Bytes × PreparedEmail) := do
  let message ← buildDraftMessage host caseUid draft rawBody messageId date
  deliver host message

def prepareEmail (caseUid : String) (bytes : Bytes) (messageId : String) (date : Option String) :
    Result (Bytes × PreparedEmail) := do
  let text ← readToString "read draft" bytes
  let (draft, rawBody) ← readDoc host.format text
  prepareDraft host caseUid draft rawBody messageId date

end Building
end AgentFirstMail
