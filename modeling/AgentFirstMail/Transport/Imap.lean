import AgentFirstMail.Transport.Wire

namespace AgentFirstMail
open Effect Wire

/-- Where the server says that it put the messages of a move or a copy. -/
structure CopyUidReceipt where
  uidValidity : Nat
  sourceUids : List Nat
  targetUids : List Nat

/-- The target of a source that the receipt maps exactly once. -/
def CopyUidReceipt.targetFor (receipt : CopyUidReceipt) (sourceUid : Nat) : Option Nat :=
  if receipt.sourceUids.length ≠ receipt.targetUids.length then none
  else match (receipt.sourceUids.zip receipt.targetUids).filter (·.1 == sourceUid) with
    | [(_, target)] => some target
    | _ => none

def copyuidMaxExpandedUids : Nat := 4096

def expandUidSetFrom (out : List Nat) : List UidSetMember → Option (List Nat)
  | [] => some out
  | member :: rest => do
    let more ← match member with
      | .uid uid => some [uid]
      | .uidRange first last =>
        if last < first || copyuidMaxExpandedUids ≤ last - first then none
        else some (List.range' first (last + 1 - first))
    let out := out ++ more
    if copyuidMaxExpandedUids < out.length then none else expandUidSetFrom out rest

def expandUidSet (members : List UidSetMember) : Option (List Nat) := expandUidSetFrom [] members

def CopyUidCode.receipt (code : CopyUidCode) : Option CopyUidReceipt := do
  let sourceUids ← expandUidSet code.sources
  let targetUids ← expandUidSet code.targets
  return { uidValidity := code.uidValidity, sourceUids, targetUids }

def ProtoResponse.copyUid : ProtoResponse → Option CopyUidCode
  | done _ _ code => code
  | data _ code => code
  | other => none

/-- The first `COPYUID` of a complete response, if it can be read up to there. -/
def parseCopyuidReceipt (library : ImapLibrary) (response : Bytes) : Option CopyUidReceipt :=
  if response.isEmpty then none
  else match library.parse response with
    | none => none
    | some (remaining, parsed) =>
      match parsed.copyUid with
      | some code => code.receipt
      | none =>
        if remaining.length < response.length then parseCopyuidReceipt library remaining else none
termination_by response.length

structure MoveFlagUpdates where
  markSeen : Bool := false
  keyword : Option String := none

structure MoveOutcome where
  keywordSet : Bool
  keywordError : Option String
  seenSet : Bool
  seenError : Option String
  moved : Bool
  targetLocation : Option RemoteLocation

/-- A rejection by the server, or one before the message was sent. -/
def ImapFailure.rejected (failure : ImapFailure) : Bool :=
  failure.kind == .no || failure.kind == .bad || failure.kind == .append

def effectRejected : ErrorDetails := { remoteEffectRejected := some true }

def callsNotStarted : ErrorDetails := { remoteCallsStarted := some false }

def rejectedEffectError (code : String) (failure : ImapFailure) : AppError :=
  { errorCode := code, message := failure.text
    details := if failure.rejected then some effectRejected else none }

def escapeQuoted (value : String) : String :=
  String.ofList (value.toList.flatMap fun c => if c = '\\' || c = '"' then ['\\', c] else [c])

def quoteMailboxName (value : String) : String := s!"\"{escapeQuoted value}\""

def quoteSearchString (value : String) : String := s!"\"{escapeQuoted value}\""

section Sessions
variable (library : ImapLibrary) (now : String)

def appendLineBreak : AppError :=
  { errorCode := "imap_append_failed", message := "mailbox name contains a line break"
    details := some effectRejected }

/-- What the library made of the replies to an append, which `reader` read along with. -/
def AppendExchange.result (library : ImapLibrary) (exchange : AppendExchange) :
    Except ImapFailure Unit :=
  library.append exchange.lost (exchange.buffered ++ exchange.chunks.flatten)

def AppendExchange.observe (library : ImapLibrary) (exchange : AppendExchange)
    (reader : StatusReader) : StatusReader :=
  exchange.chunks.foldl (·.read library) reader

def appendMessageSession (reader : StatusReader) (folder : String) (raw : Bytes) (draft : Bool) :
    Wire (StatusReader × Result Unit) :=
  if folder.toList.any fun c => c == '\r' || c == '\n' then
    return (reader, .error appendLineBreak)
  else do
    let exchange ← call (.append reader.active (escapeQuoted folder) raw draft)
    let result := match exchange.result library with
      | .ok () => .ok ()
      | .error failure => .error (rejectedEffectError "imap_append_failed" failure)
    return (exchange.observe library reader, result)

/-- Appends over a session whose replies are read along with. -/
def appendMessage (folder : String) (raw : Bytes) (draft : Bool) : Wire Unit := do
  let (reader, result) ← appendMessageSession library .clear folder raw draft
  match result with
  | .ok () => return ()
  | .error error => Program.fail (reader.stop.enrich error)

def messageIdQuery (rfc822MessageId : String) : String :=
  s!"HEADER Message-ID {quoteSearchString rfc822MessageId}"

def uidMissing (message : String) : AppError := { errorCode := "imap_uid_missing", message }

def uidAmbiguous (count : Nat) (folder rfc822MessageId : String) : AppError :=
  { errorCode := "imap_uid_ambiguous"
    message := s!"{count} messages in {folder} share Message-ID {rfc822MessageId}"
    details := some {} }

def foundLocation (folder : String) (uidValidity uid : Nat) : RemoteLocation :=
  { mailboxName := folder, uidValidity := some uidValidity, uid := some uid
    observedRfc3339 := now }

/-- Appends a draft over a session of its own and looks for it. -/
def appendDraftAndFindUid (folder : String) (raw : Bytes) (rfc822MessageId : String) :
    Wire RemoteLocation := do
  let (_, result) ← appendMessageSession library {} folder raw true
  Program.ofExcept result
  let status ← call (.examine folder)
  let uidValidity ← imap "imap_select_failed" status
  let found ← call (.uidSearch (messageIdQuery rfc822MessageId))
  let uids ← imap "imap_search_failed" found
  match uids.max? with
  | some uid => return foundLocation now folder (uidValidity.getD 0) uid
  | none => Program.fail (uidMissing "appended draft uid was not found")

def findUidByMessageId (folder rfc822MessageId : String) : Wire RemoteLocation := do
  let status ← call (.examine folder)
  let uidValidity ← imap "imap_select_failed" status
  let found ← call (.uidSearch (messageIdQuery rfc822MessageId))
  let uids ← imap "imap_search_failed" found
  match uids.eraseDups with
  | [] => Program.fail (uidMissing "message uid was not found")
  | [uid] => return foundLocation now folder (uidValidity.getD 0) uid
  | candidates => Program.fail (uidAmbiguous candidates.length folder rfc822MessageId)

def capabilityHas (capability : String) : Wire Bool := do
  let reply ← call .capabilities
  let capabilities ← imap "imap_capability_failed" reply
  return capabilities.contains capability

def uidplusRequired : AppError :=
  { errorCode := "imap_uidplus_required"
    message := ("remote IMAP server does not advertise MOVE or UIDPLUS; afmail cannot safely " ++
      "fallback to copy/delete without UID EXPUNGE")
    details := some callsNotStarted }

def requireUidplusForPreciseMoveFallback : Wire Unit := do
  let supported ← capabilityHas "UIDPLUS"
  Program.ofExcept (ensure supported uidplusRequired)

def uidvalidityChanged (folder : String) (uid : Nat) : AppError :=
  { errorCode := "imap_uidvalidity_changed"
    message :=
      s!"UIDVALIDITY changed for mailbox {folder}; refusing to use stale UID {uid}"
    details := some callsNotStarted }

def ensureExpectedUidValidity (folder : String) (uid : Nat) (expected actual : Option Nat) :
    Result Unit :=
  ensure (expected.isNone || actual == expected) (uidvalidityChanged folder uid)

def uidMoveWithReceipt (uid : Nat) (targetFolder : String) : Wire (Option CopyUidReceipt) := do
  let served ← call (.uidMove uid (quoteMailboxName targetFolder))
  match served.reply with
  | .ok response => return parseCopyuidReceipt library response
  | .error failure => Program.fail (rejectedEffectError "imap_move_failed" failure)

def uidCopyDeleteExpunge (uid : Nat) (targetFolder : String) : Wire (Option CopyUidReceipt) := do
  let served ← call (.uidCopy (toString uid) (quoteMailboxName targetFolder))
  match served.reply with
  | .error failure => Program.fail (rejectedEffectError "imap_copy_failed" failure)
  | .ok response =>
    let deleted ← call (.uidStore (toString uid) "+FLAGS.SILENT (\\Deleted)")
    imap "imap_store_failed" deleted.reply
    let expunged ← call (.uidExpunge (toString uid))
    imap "imap_expunge_failed" expunged.reply
    return parseCopyuidReceipt library response

/-- The move itself, or a copy and the removal of the original. -/
def moveOrCopy (moveSupported : Bool) (uid : Nat) (targetFolder : String) :
    Wire (Option CopyUidReceipt) :=
  if moveSupported then uidMoveWithReceipt library uid targetFolder
  else uidCopyDeleteExpunge library uid targetFolder

/-- Whether the server can move, and that it can at least copy precisely. -/
def moveSupport (moved : Bool) : Wire Bool :=
  if moved then do
    let moveSupported ← capabilityHas "MOVE"
    if moveSupported then return true
    else
      requireUidplusForPreciseMoveFallback
      return false
  else return false

def uidMove (sourceFolder : String) (uid : Nat) (targetFolder : String) : Wire Unit := do
  let moved := sourceFolder != targetFolder
  let moveSupported ← moveSupport moved
  let status ← call (.select sourceFolder)
  let _ ← imap "imap_select_failed" status
  if moved then
    let _ ← moveOrCopy library moveSupported uid targetFolder
    return ()
  else return ()

/-- A keyword that cannot be set is no failure. -/
def storeKeyword (uid : Nat) : Option String → Wire (Bool × Option String)
  | none => return (false, none)
  | some keyword => do
    let served ← call (.uidStore (toString uid) s!"+FLAGS.SILENT ({keyword})")
    match served.reply with
    | .ok () => return (true, none)
    | .error failure => return (false, some failure.text)

def storeSeen (uid : Nat) (markSeen : Bool) : Wire Bool :=
  if markSeen then do
    let served ← call (.uidStore (toString uid) "+FLAGS.SILENT (\\Seen)")
    imap "imap_store_failed" served.reply
    return true
  else return false

def moveTargetNotFound : AppError :=
  { errorCode := "imap_move_target_uid_missing"
    message := "remote move succeeded but the target message UID was not found"
    details := some { remoteEffectCompleted := some true } }

/-- Where a moved message is: where the server says it put it, or where a search finds it. -/
def locateMoved (moved : Bool) (receipt : Option CopyUidReceipt) (uid : Nat)
    (targetFolder : String) (rfc822MessageId : Option String) : Wire (Option RemoteLocation) :=
  match receipt.bind (fun receipt => (receipt.targetFor uid).map (receipt.uidValidity, ·)),
      rfc822MessageId with
  | some (uidValidity, target), _ => return some (foundLocation now targetFolder uidValidity target)
  | none, some messageId =>
    Program.tryCatch (some <$> findUidByMessageId now targetFolder messageId) fun error =>
      if moved && (error.errorCode == "imap_uid_missing" ||
          error.errorCode == "imap_uid_ambiguous") then
        Program.fail moveTargetNotFound
      else Program.fail error
  | none, none => return none

def uidMarkAndMove (sourceFolder : String) (expectedUidValidity : Option Nat) (uid : Nat)
    (targetFolder : String) (rfc822MessageId : Option String) (flagUpdates : MoveFlagUpdates) :
    Wire MoveOutcome := do
  let moved := sourceFolder != targetFolder
  let status ← call (.select sourceFolder)
  let actual ← imap "imap_select_failed" status
  Program.ofExcept (ensureExpectedUidValidity sourceFolder uid expectedUidValidity actual)
  let moveSupported ← moveSupport moved
  let seenSet ← storeSeen uid flagUpdates.markSeen
  let (keywordSet, keywordError) ← storeKeyword uid flagUpdates.keyword
  let receipt ← if moved then moveOrCopy library moveSupported uid targetFolder else pure none
  let targetLocation ← locateMoved now moved receipt uid targetFolder rfc822MessageId
  return { keywordSet, keywordError, seenSet, seenError := none, moved, targetLocation }

def uidStoreFlags (sourceFolder : String) (expectedUidValidity : Option Nat) (uid : Nat)
    (flags : List String) (add : Bool) : Wire Unit := do
  let status ← call (.select sourceFolder)
  let actual ← imap "imap_select_failed" status
  Program.ofExcept (ensureExpectedUidValidity sourceFolder uid expectedUidValidity actual)
  let operation := if add then "+" else "-"
  let list := " ".intercalate flags
  let served ← call (.uidStore (toString uid) s!"{operation}FLAGS.SILENT ({list})")
  imap "imap_store_failed" served.reply

end Sessions
end AgentFirstMail
