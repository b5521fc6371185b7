import AgentFirstMail.PushQueue.Draft

namespace AgentFirstMail
open Effect Command
open Text (isBlank)

/-- The mailbox list, asked for once in a session. -/
def cachedMailboxes : Command (List MailboxInfo) := do
  let process ← Program.read
  match process.mailboxes with
  | some mailboxes => return mailboxes
  | none =>
    let mailboxes ← perform .listMailboxes
    Program.write fun process => { process with mailboxes := some mailboxes }
    return mailboxes

def remoteMailboxFolder (config : MailConfig) (mailboxId : String) : Command String := do
  let mailbox ← Program.ofExcept (config.mailbox mailboxId)
  let mailboxes ← cachedMailboxes
  Program.ofExcept (resolveConfiguredMailbox mailboxId mailbox mailboxes)

def remoteMoveMessage (host : Host) (site : EffectSite) (source : PushLocation) (target : String)
    (rfc822MessageId : Option String) : Command (Option RemoteLocation) := do
  let found ← perform
    (.moveMessage site source.mailboxName source.uidValidity source.uid target rfc822MessageId)
  return found.map fun uid => clientLocation target uid.uidValidity uid.uid host.now

def findAbsenceIsNonfatal (error : AppError) : Bool :=
  error.errorCode == "imap_uid_missing" || error.errorCode == "remote_operation_unsupported"

/-- Where a folder holds a message; an absence the server reports is an answer. -/
def findByMessageId (host : Host) (folder rfc822MessageId : String) :
    Command (Option RemoteLocation) := do
  let reply ← ask (.findByMessageId folder rfc822MessageId)
  match reply with
  | .ok found => return found.map fun uid => clientLocation folder uid.uidValidity uid.uid host.now
  | .error error =>
    if findAbsenceIsNonfatal error then return none else Program.fail error

def remoteEffectNotApplied (error : AppError) : Bool :=
  error.details.any fun details =>
    details.remoteCallsStarted == some false || details.remoteEffectRejected == some true

/-- After an applied effect of the same step a rejection does not allow the step again. -/
def rejectionAfterAppliedEffect (error : AppError) : AppError :=
  { error with details := error.details.map fun details =>
      { details with remoteEffectRejected := none } }

def persistRemoteOutcomeUnknown (context : PushExecutionContext) (index : Nat)
    (step : ActionStep) : Command Unit :=
  saveItem fun item =>
    { item.markStepRemoteOutcomeUnknown index step none context.host.now with
      updatedRfc3339 := context.host.now, lastError := none }

/-- Records a step as succeeded and writes it. -/
def persistStepSucceeded (context : PushExecutionContext) (index : Nat) (step : ActionStep) :
    Command Unit :=
  saveItem fun item =>
    { item.markStepSucceeded index step context.host.now with
      updatedRfc3339 := context.host.now, lastError := none }

def noReplyTo : AppError := pushItemInvalid "reply_to_message action has no reply_to_message_id"

def replyToMessageIdForStep (w : Workspace) (item : PushItem) : Result String :=
  match item.replyToMessageId, item.outbound with
  | some replyTo, _ => .ok replyTo
  | none, none => .error noReplyTo
  | none, some outbound => do
    let draft ← w.readDraft outbound.caseUid outbound.draftName
    match draft.frontmatter.replyToMessageId with
    | some replyTo => .ok replyTo
    | none => .error noReplyTo

/-- The places a step acts on: the planned ones, or where the replied-to message is now. -/
def actionLocations (w : Workspace) (item : PushItem) (step : ActionStep) :
    Result (List PushLocation) :=
  if step.on = some .replyToMessage then do
    let replyTo ← replyToMessageIdForStep w item
    w.messageRemoteLocationsAny [replyTo]
  else .ok item.locations

def executeAddFlags (context : PushExecutionContext) (locations : List PushLocation)
    (flags : List String) : Command Unit :=
  Program.forEach locations fun location => do
    perform (.addFlags location.mailboxName location.uidValidity location.uid flags)
    addRemoteFlags context.host location flags

/-- What a move knows of the messages of its item: their Message-ID and active locations. -/
abbrev MovedMessages := List (String × Option String × List RemoteLocation)

def readMovedMessages (w : Workspace) (messageIds : List String) : Result MovedMessages :=
  messageIds.eraseDups.mapM fun messageId => do
    let message ← w.readMessageById messageId
    return (messageId, message.rfc822MessageId, message.activeLocations)

def MovedMessages.setLocations (messages : MovedMessages) (messageId : String)
    (locations : List RemoteLocation) : MovedMessages :=
  messages.map fun entry =>
    if entry.1 = messageId then (entry.1, entry.2.1, locations) else entry

def alreadyMoved (existing : List RemoteLocation) (source : PushLocation) (target : String) :
    Bool :=
  !existing.any (·.matchesPush source) && existing.any (·.mailboxName == target)

def messageNotFound (message : String) : AppError := { errorCode := "message_not_found", message }

def moveTargetUidMissing (messageId : String) : AppError :=
  { errorCode := "imap_move_target_uid_missing"
    message := ("remote move succeeded but the target UID was not returned for message " ++
      messageId)
    details := some { remoteEffectCompleted := some true } }

/-- Moves one place and records its message in the target before the next move. -/
def moveLocation (context : PushExecutionContext) (site : EffectSite) (target : String)
    (messages : MovedMessages) (source : PushLocation) : Command MovedMessages :=
  match messages.lookup source.messageId with
  | none => Program.fail (messageNotFound "message not found during remote relocation")
  | some (rfc822MessageId, existing) => do
    let found ← remoteMoveMessage context.host site source target rfc822MessageId
    match found with
    | none => Program.fail (moveTargetUidMissing source.messageId)
    | some location =>
      let locations := addTarget location (removeSource source existing)
      relocateMessage source.messageId locations
      return messages.setLocations source.messageId locations

/-- Moves what is neither in the target nor was moved there by an earlier attempt. -/
def moveLocations (context : PushExecutionContext) (pushId : String) (index : Nat)
    (target : String) : MovedMessages → List PushLocation → Command Unit
  | _, [] => return ()
  | messages, source :: rest =>
    if source.mailboxName = target then moveLocations context pushId index target messages rest
    else if (messages.lookup source.messageId).any (alreadyMoved ·.2 source target) then
      moveLocations context pushId index target messages rest
    else do
      let messages ← moveLocation context ⟨pushId, index, .location source⟩ target messages source
      moveLocations context pushId index target messages rest

def executeMove (context : PushExecutionContext) (index : Nat) (locations : List PushLocation)
    (mailboxId : String) : Command Unit :=
  if locations.isEmpty then return ()
  else do
    let item ← currentItem
    let w ← workspace
    let messages ← Program.ofExcept (readMovedMessages w item.messageIds)
    let target ← remoteMailboxFolder context.config mailboxId
    moveLocations context item.pushId index target messages locations

def messageEmlUnreadable (messageId : String) : AppError :=
  { errorCode := "io_error", message := s!"read message eml: {messageId}" }

/-- The bytes to append for a message: those of the plan, or its evidence. -/
def appendedRaw (w : Workspace) (item : PushItem) (messageId : String) : Result Bytes :=
  match item.plannedMessageRfc822.lookup messageId with
  | some raw => .ok raw
  | none =>
    match w.messages[messageId]?.bind (·.eml) with
    | some raw => .ok raw
    | none => .error (messageEmlUnreadable messageId)

/-- Appends the remaining messages; `applied` tells whether this step appended one already. -/
def appendMessages (context : PushExecutionContext) (index : Nat) (step : ActionStep)
    (folder : String) : Bool → List String → Command Unit
  | _, [] => return ()
  | applied, messageId :: rest => do
    let item ← currentItem
    let w ← workspace
    let raw ← Program.ofExcept (appendedRaw w item messageId)
    if !applied then persistRemoteOutcomeUnknown context index step
    let reply ← ask
      (.appendMessage ⟨item.pushId, index, .message messageId⟩ folder raw false)
    match reply with
    | .error error =>
      Program.fail (if applied then rejectionAfterAppliedEffect error else error)
    | .ok _ => appendMessages context index step folder true rest

def executeFlagsOf (context : PushExecutionContext) (step : ActionStep) : Command Unit :=
  if step.addFlags.isEmpty then return ()
  else do
    let item ← currentItem
    let w ← workspace
    let locations ← Program.ofExcept (actionLocations w item step)
    executeAddFlags context locations step.addFlags

def executeMoveOf (context : PushExecutionContext) (index : Nat) (step : ActionStep) :
    Command Unit :=
  match step.moveToMailboxId with
  | none => return ()
  | some mailboxId => do
    let item ← currentItem
    let w ← workspace
    let locations ← Program.ofExcept (actionLocations w item step)
    let target ← remoteMailboxFolder context.config mailboxId
    if locations.any (·.mailboxName != target) then
      persistRemoteOutcomeUnknown context index step
    executeMove context index locations mailboxId

def executeAppendOf (context : PushExecutionContext) (index : Nat) (step : ActionStep) :
    Command Unit :=
  match step.appendToMailboxId with
  | none => return ()
  | some mailboxId => do
    let folder ← remoteMailboxFolder context.config mailboxId
    let item ← currentItem
    appendMessages context index step folder false item.messageIds

def executeMessageStep (context : PushExecutionContext) (index : Nat) (step : ActionStep) :
    Command Unit := do
  executeFlagsOf context step
  executeMoveOf context index step
  executeAppendOf context index step
  if step.isSend then
    Program.fail (pushItemInvalid "send operations are only valid for outbound push items")
  else return ()

def fileSendRequiresRoute : AppError :=
  (channelOperationUnsupported "file_send requires a draft with a file reply route").withDetails
    { remoteCallsStarted := some false }

def PreparedOutbound.isFile (prepared : PreparedOutbound) : Bool :=
  match prepared.delivery with
  | .email _ => false
  | .file _ => true

def executeFileSend (context : PushExecutionContext) (index : Nat) (step : ActionStep)
    (prepared : PreparedOutbound) : Command Unit :=
  if step.fileSend.isSome then do
    Program.ofExcept (ensure prepared.isFile fileSendRequiresRoute)
    let _ ← perform (.outputConfirmed prepared)
    persistRemoteOutcomeUnknown context index step
    let item ← currentItem
    perform (.publish ⟨item.pushId, index, .outbound⟩ prepared)
  else return ()

def noRecipientsAccepted : AppError :=
  { errorCode := "cloudflare_send_no_recipients_accepted"
    message := "Cloudflare reported no accepted recipients; inspect the send receipt"
    details := some { remoteEffectRejected := some true } }

def SendReceipt.accepted (receipt : SendReceipt) : Bool :=
  !receipt.delivered.isEmpty || !receipt.queued.isEmpty

def executeCloudflareSend (context : PushExecutionContext) (index : Nat) (step : ActionStep)
    (prepared : PreparedOutbound) : Command Unit :=
  if step.cloudflareSend.isSome then do
    perform (.prepareCloudflareSend prepared)
    persistRemoteOutcomeUnknown context index step
    let item ← currentItem
    let receipt ← perform
      (.sendCloudflareRawMessage ⟨item.pushId, index, .outbound⟩ prepared)
    modifyItem (·.modifyStepState index fun state => { state with sendReceipt := some receipt })
    Program.ofExcept (ensure receipt.accepted noRecipientsAccepted)
  else return ()

def configMissing (message : String) : AppError := { errorCode := "config_missing", message }

/-- A user name without a password, or the other way round, is no anonymous relay. -/
def missingSmtpAuthConfig (username password : Option String) : List String :=
  if username.isNone && password.isNone then []
  else [("smtp.username", username), ("smtp.password_secret", password)].filterMap fun entry =>
    if entry.2.all isBlank then some entry.1 else none

def validateSmtpAuth (username password : Option String) : Result Unit :=
  ensure (missingSmtpAuthConfig username password).isEmpty (configMissing
    ("SMTP authentication requires both smtp.username and smtp.password_secret, or neither " ++
      "for an anonymous relay"))

def resolveOptionalPasswordSecret (host : Host) (label : String) (value : Option String) :
    Result Unit :=
  match value.bind host.secretError with
  | none => .ok ()
  | some (.malformed message) => .error (configInvalid s!"{label} {message}")
  | some (.unreadable message) => .error (configMissing s!"{label} {message}")

def Host.requireSmtp (host : Host) : Result Unit := do
  validateSmtpAuth host.smtp.username host.smtp.passwordSecret
  ensure host.smtp.host.isSome (configMissing "smtp.host is required")
  resolveOptionalPasswordSecret host "smtp.password_secret" host.smtp.passwordSecret

def smtpSendFailed (message : String) : AppError := { errorCode := "smtp_send_failed", message }

def validateSmtpSendAttempt (host : Host) (prepared : PreparedOutbound) : Result Unit := do
  host.requireSmtp
  let email ← prepared.email
  ensure (host.validAddress email.envelopeFrom) (smtpSendFailed "invalid envelope from")
  ensure (email.envelopeTo.all host.validAddress) (smtpSendFailed "invalid envelope recipient")

def executeSmtpSend (context : PushExecutionContext) (index : Nat) (step : ActionStep)
    (prepared : PreparedOutbound) : Command Unit :=
  if step.smtpSend.isSome then do
    Program.ofExcept (validateSmtpSendAttempt context.host prepared)
    let email ← Program.ofExcept prepared.email
    perform (.prepareSend email.envelopeFrom email.envelopeTo)
    persistRemoteOutcomeUnknown context index step
    let item ← currentItem
    perform (.sendRawMessage ⟨item.pushId, index, .outbound⟩ email.envelopeFrom
      email.envelopeTo email.deliveryRaw)
  else return ()

def mailboxIsKind (config : MailConfig) (mailboxId : String) (kind : SpecialUseKind) : Bool :=
  mailboxIdMatchesSpecialUse config mailboxId kind

def executeOutboundAppend (context : PushExecutionContext) (index : Nat) (step : ActionStep)
    (prepared : PreparedOutbound) : Command Unit :=
  match step.appendToMailboxId with
  | none => return ()
  | some mailboxId => do
    let folder ← remoteMailboxFolder context.config mailboxId
    persistRemoteOutcomeUnknown context index step
    let item ← currentItem
    perform (.appendMessage ⟨item.pushId, index, .outbound⟩ folder prepared.raw
      (mailboxIsKind context.config mailboxId .drafts))

def executeOutboundStep (context : PushExecutionContext) (index : Nat) (step : ActionStep) :
    Command Unit := do
  let item ← currentItem
  let w ← workspace
  let _ ← Program.ofExcept (outboundOf item)
  let prepared ← Program.ofExcept (prepareCurrentOutbound context w item)
  executeFileSend context index step prepared
  executeCloudflareSend context index step prepared
  executeSmtpSend context index step prepared
  executeOutboundAppend context index step prepared
  executeFlagsOf context step
  if step.moveToMailboxId.isSome then executeMessageStep context index step else return ()

end AgentFirstMail
