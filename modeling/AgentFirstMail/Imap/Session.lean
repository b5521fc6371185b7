import AgentFirstMail.Pull.Site

namespace AgentFirstMail
open Effect Ingest

def bodyFetchBatchSize : Nat := 25

/-- A message of a mailbox as its header shows it. -/
structure RemoteEnvelope where
  mailbox : String
  uidValidity : Nat
  uid : Nat
  flags : List String
  sizeBytes : Option Nat

structure RemoteMessage where
  mailbox : String
  uidValidity : Nat
  uid : Nat
  flags : List String
  rawEml : Bytes

structure SkippedMessage where
  reason : String
  mailboxName : String
  uid : Nat

structure MailboxHeaderSelection where
  uidValidity : Nat
  uids : List Nat
  cursorUsed : Bool
  uidValidityReset : Bool
  previousHighestUid : Option Nat

def RemoteEnvelope.key (envelope : RemoteEnvelope) : ImapKey :=
  ⟨envelope.mailbox, envelope.uidValidity, envelope.uid⟩

/-- What a message is taken to weigh before its body is there. -/
def RemoteEnvelope.budgetSize (envelope : RemoteEnvelope) : Nat :=
  envelope.sizeBytes.getD maxMessageBytes

/-- A sequence in stretches of a size, the last one perhaps shorter. -/
def chunksFrom (size : Nat) : Nat → List α → List (List α)
  | 0, _ => []
  | _, [] => []
  | fuel + 1, items => items.take size :: chunksFrom size fuel (items.drop size)

def chunks (size : Nat) (items : List α) : List (List α) := chunksFrom size items.length items

def sortByUid (envelopes : List RemoteEnvelope) : List RemoteEnvelope :=
  dedupByKey (·.uid) (envelopes.insertionSort (·.uid ≤ ·.uid))

def searchUids (mailbox : String) : Option UidQuery → Pull (List Nat)
  | none => return []
  | some query => Program.perform (PullRequest.uidSearch mailbox query)

def selectMailboxHeaderUids (mailbox : String) (sinceDays : Option Nat)
    (cursor : Option PullCursorView) : Pull MailboxHeaderSelection := do
  let status : Option Nat ← Program.perform (PullRequest.examine mailbox)
  let uidValidity := status.getD 0
  let validCursor := cursor.filter (·.uidValidity == uidValidity)
  let previousHighestUid := validCursor.map (·.highestUid)
  let found ← searchUids mailbox (headerQuery sinceDays cursor uidValidity)
  -- A range that starts past the last UID runs backwards.
  let fresh := found.filter fun uid => previousHighestUid.all fun previous => decide (previous < uid)
  return {
    uidValidity
    uids := dedupAdjacent (fresh.insertionSort (· ≤ ·))
    cursorUsed := validCursor.isSome
    uidValidityReset := cursor.any (·.uidValidity != uidValidity)
    previousHighestUid }

def headerEnvelope (mailbox : String) (uidValidity : Nat) (uids : List Nat) (fetch : HeaderFetch) :
    Option RemoteEnvelope :=
  match fetch.uid with
  | none => none
  | some uid =>
    if uid ∈ uids ∧ fetch.hasHeader then
      some { mailbox, uidValidity, uid, flags := canonicalFlags fetch.flags, sizeBytes := fetch.size }
    else none

/-- The headers of some UIDs, and the UIDs that were answered without one. -/
def fetchHeaderBatch (mailbox : String) (uidValidity : Nat) (uids : List Nat) :
    Pull (List RemoteEnvelope × List Nat) := do
  let fetches : List HeaderFetch ← Program.perform (PullRequest.fetchHeaders mailbox uids)
  let envelopes := sortByUid (fetches.filterMap (headerEnvelope mailbox uidValidity uids))
  return (envelopes, uids.filter fun uid => decide (uid ∉ envelopes.map (·.uid)))

structure BodyFetchBatch where
  messages : List RemoteMessage := []
  skipped : List SkippedMessage := []
  answered : List Nat := []

namespace BodyFetchBatch

def skip (batch : BodyFetchBatch) (reason mailbox : String) (uid : Nat) : BodyFetchBatch :=
  { batch with skipped := batch.skipped ++ [⟨reason, mailbox, uid⟩] }

end BodyFetchBatch

def fetchBody (mailbox : String) (mode : BodyFetchMode) (uid : Nat) :
    Pull (Option (List String × Bytes)) :=
  Program.perform (PullRequest.fetchBody mailbox mode uid)

/-- Fetches the body of a UID whose size was told. -/
def fetchSizedBody (mailbox : String) (uidValidity : Nat) (mode : BodyFetchMode)
    (batch : BodyFetchBatch) (uid : Nat) (size : Option Nat) : Pull BodyFetchBatch := do
  if size.any fun size => decide (maxMessageBytes < size) then
    return batch.skip "declared_size_exceeded" mailbox uid
  else
    let body ← fetchBody mailbox mode uid
    match body with
    | none => return batch.skip "body_missing" mailbox uid
    | some (flags, rawEml) =>
      if maxMessageBytes < rawEml.length then
        return batch.skip "actual_size_exceeded" mailbox uid
      else
        return { batch with
          messages := batch.messages ++
            [{ mailbox, uidValidity, uid, flags := canonicalFlags flags, rawEml }] }

/-- One item of the answer: what was not asked for, or was answered before, is left aside. -/
def fetchAnswered (mailbox : String) (uidValidity : Nat) (mode : BodyFetchMode) (uids : List Nat)
    (batch : BodyFetchBatch) (fetch : SizeFetch) : Pull BodyFetchBatch :=
  match fetch.uid with
  | none => return batch
  | some uid =>
    if uid ∉ uids ∨ uid ∈ batch.answered then return batch
    else
      fetchSizedBody mailbox uidValidity mode { batch with answered := uid :: batch.answered } uid
        fetch.size

def fetchCurrentMailboxUidBatch (mailbox : String) (uidValidity : Nat) (uids : List Nat)
    (mode : BodyFetchMode) : Pull BodyFetchBatch := do
  let sizes : List SizeFetch ← Program.perform (PullRequest.fetchSizes mailbox uids)
  let batch ← Program.gather sizes {} (fetchAnswered mailbox uidValidity mode uids)
  let unanswered := uids.filter fun uid => decide (uid ∉ batch.answered)
  return unanswered.foldl (fun batch uid => batch.skip "body_missing" mailbox uid) batch

/-- The flags of a known location, which is there again if it was missing: the locations, and
whether the flags and whether anything changed. -/
def refreshLocation (envelope : RemoteEnvelope) (now : String) :
    List RemoteLocation → List RemoteLocation × Bool × Bool
  | [] =>
    ([{ mailboxName := envelope.mailbox, uidValidity := some envelope.uidValidity
        uid := some envelope.uid, flags := envelope.flags, observedRfc3339 := now }],
      !envelope.flags.isEmpty, true)
  | location :: rest =>
    if location.imapKey? = some envelope.key then
      let flags := canonicalFlags envelope.flags
      let flagsUpdated := location.flags != flags
      ({ location with flags, missingRfc3339 := none } :: rest, flagsUpdated,
        location.missingRfc3339.isSome || flagsUpdated)
    else
      let refreshed := refreshLocation envelope now rest
      (location :: refreshed.1, refreshed.2)

def updateRemoteLocationFlags (now messageId : String) (envelope : RemoteEnvelope) :
    Ingest Bool := do
  let w ← Ingest.workspace
  let message ← Program.ofExcept (w.readMessageById messageId)
  let (locations, flagsUpdated, changed) := refreshLocation envelope now (message.remote.getD [])
  if changed then
    writeWorkspace (·.persistMessageMetadata message.messageId (some locations) none)
    writeWorkspace (·.writeMessageMaterializedCache message.messageId message.direction)
    return flagsUpdated
  else return flagsUpdated

/-- A message that was deleted on the server is there again. -/
def restoreRemoteDeletedMessage (now messageId : String) (importAs : PullImportAs) :
    Ingest Bool := do
  let w ← Ingest.workspace
  let message ← Program.ofExcept (w.readMessageById messageId)
  if message.status != .deletedRemote then return false
  else
    writeWorkspace (·.clearDisposition messageId .deletedRemote)
    disposeImported messageId now importAs.disposition?
    writeWorkspace (·.persistMessageMetadata message.messageId message.remote none)
    writeWorkspace (·.writeMessageMaterializedCache message.messageId message.direction)
    return true

/-- What a pull keeps of one mailbox while it goes through it. -/
structure MailboxTally where
  highestObservedUid : Nat
  blockedCursorUid : Option Nat := none
  newEnvelopes : Std.ExtTreeMap Nat RemoteEnvelope := ∅

/-- The cursor must not pass this UID. -/
def MailboxTally.block (tally : MailboxTally) (uid : Nat) : MailboxTally :=
  { tally with blockedCursorUid := some (min (tally.blockedCursorUid.getD uid) uid) }

/-- What a pull reports of the mailboxes it went through. -/
structure PullTally where
  newMessageIds : List String := []
  storedNewMessageBytes : Nat := 0
  updatedLocationCount : Nat := 0
  flagsUpdatedCount : Nat := 0
  reclassifiedMessageCount : Nat := 0
  budgetLimited : Bool := false
  budgetSkippedCount : Nat := 0
  skippedMessages : List SkippedMessage := []

/-- What a pull found of the cursors of the mailboxes it went through. -/
structure PullSurvey where
  allTargetsUsedIncremental : Bool
  uidValidityResetMailboxIds : List String := []
  cursorUpdates : List PullCursorUpdate := []

structure PullReport where
  survey : PullSurvey
  tally : PullTally := {}

namespace PullTally

def overBudget (tally : PullTally) : PullTally :=
  { tally with budgetLimited := true, budgetSkippedCount := tally.budgetSkippedCount + 1 }

def skip (tally : PullTally) (skipped : List SkippedMessage) : PullTally :=
  { tally with skippedMessages := tally.skippedMessages ++ skipped }

end PullTally

/-- A message at a known location: only its flags may be new. -/
def refreshKnown (host : PullHost) (tally : PullTally) (envelope : RemoteEnvelope) :
    Pull PullTally := do
  let site ← Pull.read
  match site.index.imapLocations[envelope.key]? with
  | none => return tally
  | some messageId =>
    let flagsUpdated ← Pull.ingest (updateRemoteLocationFlags host.now messageId envelope)
    return { tally with flagsUpdatedCount := tally.flagsUpdatedCount + flagsUpdated.toNat }

/-- A header: a message at a new location is admitted as long as the budget holds it. -/
def admitEnvelope (host : PullHost) (tallies : PullTally × MailboxTally)
    (envelope : RemoteEnvelope) : Pull (PullTally × MailboxTally) := do
  let tally := tallies.1
  let mailbox := { tallies.2 with
    highestObservedUid := max tallies.2.highestObservedUid envelope.uid }
  let site ← Pull.read
  if envelope.key ∈ site.index.imapKeys then
    let tally ← refreshKnown host tally envelope
    return (tally, mailbox)
  else if site.budget.messages = 0 ∨ site.budget.bytes < envelope.budgetSize then
    return (tally.overBudget, mailbox.block envelope.uid)
  else
    Pull.charge 1 envelope.budgetSize
    return (tally, { mailbox with
      newEnvelopes := mailbox.newEnvelopes.insert envelope.uid envelope })

def admitBatch (host : PullHost) (mailboxName : String) (uidValidity : Nat)
    (tallies : PullTally × MailboxTally) (uids : List Nat) : Pull (PullTally × MailboxTally) := do
  let (envelopes, missingUids) ← fetchHeaderBatch mailboxName uidValidity uids
  let tally := tallies.1.skip (missingUids.map fun uid => ⟨"header_missing", mailboxName, uid⟩)
  let mailbox := missingUids.foldl MailboxTally.block tallies.2
  Program.gather envelopes (tally, mailbox) (admitEnvelope host)

def pulledMessage (host : PullHost) (target : PullTarget) (remote : RemoteMessage) :
    IngestMessage where
  rawEml := remote.rawEml
  remoteLocation := some
    (pulledLocation target.id remote.mailbox remote.uidValidity remote.uid remote.flags host.now)
  importAs := target.importAs
  direction := target.direction

def ingestPulled (host : PullHost) (input : IngestMessage) : Pull IngestOutcome :=
  Pull.ingest (ingestMessageWith host.triageView host.parser host.timezoneOffset host.now input)

/-- Bytes that were known already are given back to the budget. -/
def storeFetched (host : PullHost) (target : PullTarget) (tally : PullTally)
    (remote : RemoteMessage) : Pull PullTally := do
  let outcome ← ingestPulled host (pulledMessage host target remote)
  match outcome with
  | .merged messageId flagsUpdated =>
    Pull.charge (-1) (-remote.rawEml.length)
    let restored ← Pull.ingest (restoreRemoteDeletedMessage host.now messageId target.importAs)
    return { tally with
      reclassifiedMessageCount := tally.reclassifiedMessageCount + restored.toNat
      updatedLocationCount := tally.updatedLocationCount + 1
      flagsUpdatedCount := tally.flagsUpdatedCount + flagsUpdated.toNat }
  | .stored messageId _ =>
    return { tally with
      newMessageIds := tally.newMessageIds ++ [messageId]
      storedNewMessageBytes := tally.storedNewMessageBytes + remote.rawEml.length }

/-- A body: what it weighs more or less than its header said is charged or given back. -/
def receiveFetched (host : PullHost) (target : PullTarget) (tallies : PullTally × MailboxTally)
    (remote : RemoteMessage) : Pull (PullTally × MailboxTally) := do
  match tallies.2.newEnvelopes[remote.uid]? with
  | none => return tallies
  | some envelope =>
    let site ← Pull.read
    let extra : Int := remote.rawEml.length - envelope.budgetSize
    if 0 < extra ∧ site.budget.bytes < extra then
      return ((tallies.1.skip [⟨"total_bytes_budget_exceeded", remote.mailbox, remote.uid⟩]).overBudget,
        tallies.2.block remote.uid)
    else
      Pull.charge 0 extra
      let tally ← storeFetched host target tallies.1 remote
      return (tally, tallies.2)

def receiveBatch (host : PullHost) (target : PullTarget) (uidValidity : Nat)
    (mode : BodyFetchMode) (tallies : PullTally × MailboxTally) (uids : List Nat) :
    Pull (PullTally × MailboxTally) := do
  let fetched ← fetchCurrentMailboxUidBatch target.mailbox uidValidity uids mode
  let mailbox := fetched.skipped.foldl (fun mailbox skipped => mailbox.block skipped.uid) tallies.2
  Program.gather fetched.messages (tallies.1.skip fetched.skipped, mailbox)
    (receiveFetched host target)

/-- How far the cursor of a mailbox may go: short of the first UID that was left aside. -/
def MailboxTally.nextHighestUid (tally : MailboxTally) (previousHighestUid : Nat) : Nat :=
  let unblocked := tally.blockedCursorUid.bind fun uid => if uid = 0 then none else some (uid - 1)
  max (unblocked.getD tally.highestObservedUid) previousHighestUid

/-- What is noted of the cursor of a mailbox that was gone through. -/
def PullSurvey.note (survey : PullSurvey) (target : PullTarget) (selection : MailboxHeaderSelection)
    (highestUid : Nat) : PullSurvey where
  allTargetsUsedIncremental := survey.allTargetsUsedIncremental && selection.cursorUsed
  uidValidityResetMailboxIds := survey.uidValidityResetMailboxIds ++
    if selection.uidValidityReset then [target.id] else []
  cursorUpdates := survey.cursorUpdates ++
    [{ mailboxId := target.id, mailboxName := target.mailbox
       uidValidity := selection.uidValidity, highestUid }]

def pullTargetMailbox (host : PullHost) (options : PullOptions) (mode : BodyFetchMode)
    (cursors : PullCursors) (report : PullReport) (target : PullTarget) : Pull PullReport := do
  let selection ← selectMailboxHeaderUids target.mailbox options.effectiveSinceDays
    (pullCursorForTarget cursors target)
  let previousHighestUid := selection.previousHighestUid.getD 0
  let admitted ← Program.gather (chunks bodyFetchBatchSize selection.uids)
    (report.tally, { highestObservedUid := previousHighestUid })
    (admitBatch host target.mailbox selection.uidValidity)
  let (tally, mailbox) ← Program.gather (chunks bodyFetchBatchSize admitted.2.newEnvelopes.keys)
    admitted (receiveBatch host target selection.uidValidity mode)
  return { survey := report.survey.note target selection (mailbox.nextHighestUid previousHighestUid)
           tally }

/-- The cursors, and whether they could not be read: such a file is put aside. -/
def loadPullCursors : Pull (PullCursors × Bool) := do
  let site ← Pull.read
  match site.cursors with
  | .missing => return (∅, false)
  | .readable mailboxes => return (mailboxes, false)
  | .unreadable _ =>
    Pull.write fun site => { site with cursors := .missing }
    return (∅, true)

def pullWorkspaceSession (host : PullHost) (targets : List PullTarget) (options : PullOptions)
    (mode : BodyFetchMode) : Pull PullReport := do
  Pull.loadIndex host.parser
  Pull.setBudget options
  let (cursors, _) ← loadPullCursors
  Program.gather targets { survey := { allTargetsUsedIncremental := !targets.isEmpty } }
    (pullTargetMailbox host options mode cursors)

def pullCursorChanged : AppError :=
  { errorCode := "pull_cursor_changed"
    message := "pull cursor became unreadable before commit; retry the pull" }

def commitPullCursors (now : String) (updates : List PullCursorUpdate) (fullReconcile : Bool) :
    Pull Unit := do
  if updates.isEmpty then return ()
  else
    let (cursors, recovered) ← loadPullCursors
    if recovered then throw pullCursorChanged
    else
      Pull.write fun site =>
        { site with cursors := .readable (cursors.commit updates fullReconcile now) }

def partialFetchUnsupported : AppError :=
  { errorCode := "imap_partial_fetch_unsupported"
    message := "IMAP server does not support bounded partial BODY fetch" }

/-- Bodies are fetched in parts unless the configuration allows whole ones. -/
def bodyFetchMode (allowUnbounded : Bool) (targets : List PullTarget) : Pull BodyFetchMode := do
  if allowUnbounded then return .compatibilityFull
  else
    match targets with
    | [] => return .boundedPartial
    | target :: _ =>
      let probe ← Program.ask (PullRequest.probePartialFetch target.mailbox)
      match probe with
      | .ok _ => return .boundedPartial
      | .error _ => throw partialFetchUnsupported

/-- The server lists its mailboxes only when a selected id needs it. -/
def resolveTargets (config : MailConfig) (ids : List String) : Pull (List PullTarget) := do
  let selected ← Program.ofExcept (config.selectedPullIds ids)
  if needsList config selected then
    let listed ← Program.ask PullRequest.listMailboxes
    Program.ofExcept (resolvePullTargets config listed ids)
  else Program.ofExcept (resolvePullTargets config (.ok []) ids)

/-- Enters the locations that the reconciliation of the pulled folders found changed. -/
def reconcilePulled (mailboxes : List String) : Pull Unit := do
  let changed : List (String × List RemoteLocation) ←
    Program.perform (PullRequest.reconcileRemoteMissing mailboxes)
  Program.forEach changed fun entry =>
    Pull.writeWorkspace (·.persistMessageMetadata entry.1 (some entry.2) none)

def pullWithProgress (host : PullHost) (config : MailConfig) (allowUnbounded : Bool)
    (ids : List String) (options : PullOptions) : Pull PullReport := do
  let targets ← resolveTargets config ids
  let mode ← bodyFetchMode allowUnbounded targets
  let report ← pullWorkspaceSession host targets options mode
  reconcilePulled (targets.map (·.mailbox))
  commitPullCursors host.now report.survey.cursorUpdates (!report.survey.allTargetsUsedIncremental)
  let _ ← Program.perform PullRequest.renderRefresh
  return report

end AgentFirstMail
