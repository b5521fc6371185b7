import AgentFirstMail.Projection.Message
import AgentFirstMail.Store.Contacts
import AgentFirstMail.Store.Metadata

namespace AgentFirstMail

/-- What is known of a mail besides its bytes. -/
structure MessageParseOptions where
  direction : Option String
  workspace : WorkspaceState
  remote : Option (List RemoteLocation)
  receivedRfc3339 : Option String
  sentRfc3339 : Option String
  attachments : List AttachmentRef

/-- An attachment keeps the paths that one of the same part, or of the same name and type, had. -/
def mergeAttachmentState (previous : List AttachmentRef) (attachment : AttachmentRef) :
    AttachmentRef :=
  match previous.find? fun prior => prior.partId == attachment.partId ||
      (prior.filename == attachment.filename && prior.contentType == attachment.contentType) with
  | some prior => { attachment with filePath := prior.filePath, sourcePath := prior.sourcePath }
  | none => attachment

/-- Whether a mail counts as sent; `sent` is what older workspaces wrote. -/
def isOutbound (direction : String) (options : MessageParseOptions) : Bool :=
  Text.eqIgnoreAsciiCase direction "outbound" ||
    (Text.eqIgnoreAsciiCase direction "sent" && options.receivedRfc3339.isNone &&
      options.sentRfc3339.isSome)

def mailEmlPath (messageId : String) : String := s!".afmail/messages/{messageId}.eml"

/-- A mail that counts as sent has no time of receipt; a time that is not known is that of the
mail itself. -/
def messageFromMail (messageId : String) (parsed : ParsedMail) (options : MessageParseOptions) :
    MessageBase :=
  let direction := options.direction.getD "inbound"
  { messageId
    content := parsed.content
    remote := options.remote
    direction := some direction
    envelopeTo := parsed.envelopeTo
    receivedRfc3339 :=
      if isOutbound direction options then none
      else options.receivedRfc3339.or parsed.dateRfc3339
    sentRfc3339 :=
      if isOutbound direction options then options.sentRfc3339.or parsed.dateRfc3339
      else options.sentRfc3339
    emlPath := some (mailEmlPath messageId)
    attachments := parsed.attachments.map (mergeAttachmentState options.attachments)
    workspace := options.workspace }

def parseMessageWithOptions (host : ProjectionHost) (messageId : String) (raw : Bytes)
    (options : MessageParseOptions) : Result MessageBase :=
  match host.parseMail raw with
  | none => .error mimeParseFailed
  | some parsed => .ok (messageFromMail messageId parsed options)

/-- What the evidence of a file source tells of a message. -/
def messageFromChannel (messageId : String) (stored : ChannelEvidence) (native : NativeMessage) :
    MessageBase :=
  { messageId
    content := { subject := some native.subject, from_ := some native.senderId,
                 to_ := native.recipientIds, bodyText := native.bodyText }
    origin := some {
      replyRoute := ⟨"file", stored.sourceId, native.conversationId⟩
      externalMessageId := native.externalMessageId
      replyToExternalMessageId := native.replyToExternalMessageId }
    direction := some stored.direction
    receivedRfc3339 := if stored.direction = "inbound" then some stored.timestampRfc3339 else none
    sentRfc3339 := if stored.direction = "outbound" then some stored.timestampRfc3339 else none }

def materializeChannel (host : ProjectionHost) (messageId : String) (stored : ChannelEvidence) :
    Result MessageBase := do
  let native ← host.native stored.contentJson
  return messageFromChannel messageId stored native

/-- Recipients of the delivery that are not known yet, up to ASCII case. -/
def mergeEnvelopeTo (envelopeTo recipients : List String) : List String :=
  recipients.foldl (fun out recipient =>
    if out.any (Text.eqIgnoreAsciiCase · recipient) then out else out ++ [recipient]) envelopeTo

/-- An attachment that was fetched is found under its name again. -/
def applyFetchedAttachmentFile (host : ProjectionHost) (files : List String) (messageId : String)
    (attachment : AttachmentRef) : AttachmentRef :=
  let candidate := ".afmail/messages/" ++ messageId ++ ".files/" ++
    host.safeAttachmentFilename attachment.filename attachment.partId
  if attachment.filePath.any (· ∈ files) then attachment
  else if candidate ∈ files then { attachment with filePath := some candidate }
  else attachment

/-- The identity a received mail was sent to; mail that was sent, and what came from a file
source, is not matched. -/
def applyIdentityMatch (matched : MessageBase → IdentityMatch) (message : MessageBase) :
    MessageBase :=
  if message.origin.isSome then message
  else if message.direction.bind MailDirection.parse = some .outbound then
    { message with identity := {} }
  else { message with identity := matched message }

/-- The contact of the address a message is from. -/
def contactForFrom (contacts : Std.ExtTreeMap String ContactFrontmatter) (fromHeader : String) :
    Option ContactFrontmatter :=
  if fromHeader = "" then none
  else if emailAddress fromHeader = "" then none
  else contacts[emailAddress fromHeader]?

def applyContactLink (contacts : Std.ExtTreeMap String ContactFrontmatter)
    (message : MessageBase) : MessageBase :=
  { message with contact := message.content.from_.bind (contactForFrom contacts) }

/-- What messages are read under: the identities, the contacts and the overlays. -/
structure MaterializationContext where
  matchIdentity : MessageBase → IdentityMatch
  contacts : Std.ExtTreeMap String ContactFrontmatter
  overlays : OverlayIndex

namespace Workspace
variable (w : Workspace)

def pendingOf (messageId : String) : List WorkspacePendingPush :=
  ((w.sortedItems.filter (!·.localStageAtLeast .pendingCleared)).flatMap fun item =>
    (item.messageIds.filter (· = messageId)).map fun _ =>
      { pushId := item.pushId, kind := item.displayKind, queuedRfc3339 := item.createdRfc3339
        lastError := item.lastError }).insertionSort (·.pushId ≤ ·.pushId)

/-- When a message was added to the notification it is in. -/
def notifiedRfc3339 (notificationUid messageId : String) : Option String :=
  (w.notifications[notificationUid]?.bind (·.members.find? messageId)).map (·.addedRfc3339)

end Workspace

namespace OverlayIndex
variable (index : OverlayIndex)

/-- A legacy mark of an archive it came from counts like an archived case. -/
def projectedStatus (messageId : String) (origin : Option String) : MessageStatus :=
  match index.status messageId with
  | .triage => if origin.isSome then .archived else .triage
  | status => status

/-- What is queued, and when something queued was last completed. -/
def pushState (pending : List WorkspacePendingPush) (push : Option WorkspacePushState) :
    Option WorkspacePushState :=
  match pending, push.bind (·.lastCompletedRfc3339) with
  | [], none => none
  | pending, completed => some { pending, lastCompletedRfc3339 := completed }

end OverlayIndex

/-- Puts a message where the collections and the queue say it is. -/
def applyWorkspaceOverlays (w : Workspace) (index : OverlayIndex) (message : MessageBase) :
    MessageBase :=
  let messageId := message.messageId
  let placed := messageId ∈ index.dispositions ∨ messageId ∈ index.notifications
  { message with
    workspace := {
      status := index.projectedStatus messageId message.workspace.origin
      notificationUid := index.notificationUid messageId
      notificationRfc3339 :=
        (index.notificationUid messageId).bind (w.notifiedRfc3339 · messageId)
      origin := if placed then none else message.workspace.origin
      remoteSync := message.workspace.remoteSync
      push := OverlayIndex.pushState (w.pendingOf messageId) message.workspace.push } }

inductive MessageCacheReadMode where
  | strict | repair

/-- The suggestions of a message are those of its canonical metadata. -/
def MessageBase.withSuggestions (message : MessageBase) (metadata : MessageMetadata) :
    MessageFile :=
  { toMessageBase := message
    agentSuggestion := metadata.agentSuggestion
    humanSuggestion := metadata.humanSuggestion
    caseUids := metadata.caseUids }

namespace WorkspaceTree
variable (host : ProjectionHost) (tree : WorkspaceTree)

def materializationContext : Result MaterializationContext := do
  let matchIdentity ← host.matchIdentities
  let contacts ← tree.workspace.strictContactEmailMap
  let overlays ← tree.workspace.materializedOverlayIndex
  return { matchIdentity, contacts, overlays }

def metadata? (messageId : String) : Result (Option MessageMetadata) :=
  tree.workspace.readMessageMetadataFile host.toHost messageId

/-- What is left of the projection of a message; one that cannot be read is taken for missing
when it is to be repaired. -/
def prior (mode : MessageCacheReadMode) (messageId : String) : Result (Option MessageFile) :=
  match tree.projections[messageId]?, mode with
  | none, _ => .ok none
  | some (.message file), _ => .ok (some file)
  | some (.invalid _), .repair => .ok none
  | some (.invalid error), .strict => .error error

/-- The direction of a mailbox that a message was pulled from, as configured now. -/
def pulledDirection (location : RemoteLocation) : Option String :=
  match location.mailboxId with
  | none => none
  | some mailboxId =>
    match tree.workspace.config.pullAction mailboxId with
    | .ok action => some action.direction.asStr
    | .error _ => none

/-- A message id that the program makes for what it sends. -/
def localMessageId (rfc822MessageId : String) : Bool :=
  "@afmail.local".toList.isSuffixOf
    (Text.trimMatches (fun c => c == '<' || c == '>') (Text.trim rfc822MessageId.toList))

def inferMaterializedDirection (parsed : Option ParsedMail) (prior : Option MessageFile)
    (remote : Option (List RemoteLocation)) : String :=
  match prior.bind (·.direction), (remote.getD []).findSome? tree.pulledDirection with
  | some direction, _ => direction
  | none, some direction => direction
  | none, none =>
    if (parsed.bind (·.content.rfc822MessageId)).any localMessageId then "outbound" else "inbound"

def deliveredByWorker (delivery : DeliveryEnvelope) : Bool :=
  delivery.sources.any fun
    | .cloudflareR2 .. => true
    | _ => false

/-- The direction of a mail that is read from its bytes. -/
def materializedDirection (parsed : Option ParsedMail) (prior : Option MessageFile)
    (metadata : MessageMetadata) : String :=
  if prior.isNone && metadata.remote.isNone && metadata.delivery.any deliveredByWorker then
    host.cloudflareDirection.asStr
  else tree.inferMaterializedDirection parsed prior metadata.remote

def evidenceUnreadable (messageId : String) : AppError :=
  storeError s!"read message eml .afmail/messages/{messageId}.eml"

/-- Parses the evidence of a message with what its projection and its metadata still say. -/
def parseEvidence (messageId : String) (prior : Option MessageFile) (metadata : MessageMetadata) :
    Result MessageBase :=
  match tree.channelEvidence[messageId]?, (tree.workspace.record messageId).eml with
  | some stored, _ => materializeChannel host messageId stored
  | none, some raw => parseMessageWithOptions host messageId raw {
      direction := some (tree.materializedDirection host (host.parseMail raw) prior metadata)
      workspace := (prior.map (·.workspace)).getD {}
      remote := metadata.remote
      receivedRfc3339 := (prior.bind (·.receivedRfc3339)).or
        (metadata.delivery.bind (·.receivedRfc3339))
      sentRfc3339 := prior.bind (·.sentRfc3339)
      attachments := (prior.map (·.attachments)).getD [] }
  | none, none => .error (evidenceUnreadable messageId)

def hasEvidence (messageId : String) : Bool :=
  tree.channelEvidence.contains messageId || (tree.workspace.record messageId).eml.isSome

/-- What a message is placed under, however it was read. -/
def present (context : MaterializationContext) (message : MessageBase) : MessageBase :=
  applyContactLink context.contacts (applyIdentityMatch context.matchIdentity
    (applyWorkspaceOverlays tree.workspace context.overlays message))

theorem present_messageId {tree : WorkspaceTree} (context : MaterializationContext)
    (message : MessageBase) : (tree.present context message).messageId = message.messageId := by
  unfold present applyContactLink applyIdentityMatch
  dsimp only
  split
  · rfl
  · split <;> rfl

theorem present_status {tree : WorkspaceTree} (context : MaterializationContext)
    (message : MessageBase) : (tree.present context message).workspace.status =
      context.overlays.projectedStatus message.messageId message.workspace.origin := by
  unfold present applyContactLink applyIdentityMatch
  dsimp only
  split
  · rfl
  · split <;> rfl

/-- Adds what was learnt of the delivery, and the attachments that were fetched. -/
def withDelivery (delivery : Option DeliveryEnvelope) (message : MessageBase) : MessageBase :=
  { message with
    envelopeTo := mergeEnvelopeTo message.envelopeTo ((delivery.map (·.envelopeTo)).getD [])
    attachments := message.attachments.map
      (applyFetchedAttachmentFile host tree.attachmentFiles message.messageId) }

def readMessageFromEml (mode : MessageCacheReadMode) (context : MaterializationContext)
    (messageId : String) : Result MessageFile := do
  validateId host.toHost "message_id" messageId
  ensure (tree.hasEvidence messageId) (evidenceUnreadable messageId)
  let prior ← tree.prior mode messageId
  match ← tree.metadata? host messageId with
  | none => .error (Workspace.metadataMissing messageId)
  | some metadata => do
    let parsed ← tree.parseEvidence host messageId prior metadata
    return (tree.present context (tree.withDelivery host metadata.delivery parsed)).withSuggestions
      metadata

def projectionMissing (messageId : String) : AppError :=
  storeError s!"read message json messages/{messageId}.json"

/-- A message without evidence is what its projection says. -/
def readProjection (context : MaterializationContext) (messageId : String) :
    Result MessageFile := do
  match tree.projections[messageId]? with
  | none => .error (projectionMissing messageId)
  | some projection => do
    let message ← projection.read
    return { message with toMessageBase := tree.present context message.toMessageBase }

/-- Reads a message under a context that was read before. -/
def readMessage (context : MaterializationContext) (messageId : String) : Result MessageFile := do
  validateId host.toHost "message_id" messageId
  if tree.hasEvidence messageId then tree.readMessageFromEml host .strict context messageId
  else tree.readProjection context messageId

def readMessageById (messageId : String) : Result MessageFile := do
  let context ← tree.materializationContext host
  tree.readMessage host context messageId

/-- What a projection holds of a message: the suggestions that its metadata has now. -/
def projected (message : MessageFile) : Option MessageMetadata → MessageFile
  | some metadata => message.toMessageBase.withSuggestions metadata
  | none => message

/-- A mail names its evidence. -/
def withEmlPath (message : MessageFile) : MessageFile :=
  if message.origin.isNone && message.emlPath.isNone then
    { message with emlPath := some (mailEmlPath message.messageId) }
  else message

def writeProjection (message : MessageFile) : WorkspaceTree :=
  { tree with projections := tree.projections.insert message.messageId (.message message) }

/-- The projection that is written for a message. -/
def materializedCache (message : MessageFile) : Result MessageFile := do
  let metadata ← tree.metadata? host message.messageId
  return withEmlPath (projected message metadata)

end WorkspaceTree
end AgentFirstMail
