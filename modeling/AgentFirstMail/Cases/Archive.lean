import AgentFirstMail.Cases.Rules

namespace AgentFirstMail
open Effect Command

/-- The components of a path: nothing between slashes and dots after the first do not count. -/
def pathComponents (path : String) : List String :=
  match path.toList.splitOn '/' with
  | [] => []
  | first :: rest =>
    (if first ≠ [] then [String.ofList first] else if rest.isEmpty then [] else ["/"]) ++
      (rest.filter fun part => part != [] && part != ['.']).map String.ofList

def transactionIncomplete (message : String) : AppError :=
  { errorCode := "transaction_incomplete", message }

/-- What a repair does about a transaction. -/
inductive TransactionRepair where
  | caseArchive (caseUid : String)
  | abortedDiscardUndo

/-- The text between a fixed beginning and a fixed end. -/
def stripCircumfix (first last text : String) : Option String :=
  if first.toList.isPrefixOf text.toList then
    let rest := text.toList.drop first.length
    if last.toList.isSuffixOf rest then some (String.ofList (rest.take (rest.length - last.length)))
    else none
  else none

/-- The case that a path to a directory under a root names. -/
def caseUidOfPath (host : Host) (root path : String) : Option String :=
  match pathComponents path with
  | [first, _, name] =>
    if first = root ∧ name ≠ ".." then (parseCaseRef host name).toOption else none
  | _ => none

namespace TransactionRecord
variable (host : Host) (transaction : TransactionRecord)

def caseUidUnder (root : String) : Option String :=
  transaction.paths.findSome? (caseUidOfPath host root)

def repairableCaseArchiveUid : Option String :=
  if transaction.kind ≠ "case_archive" then none
  else
    match caseUidUnder host transaction "cases", caseUidUnder host transaction "archived-cases" with
    | some active, some archived =>
      if active = archived ∧
          transaction.paths.any fun path => pathComponents path == [".afmail", "push"] then
        some active
      else none
    | _, _ => none

/-- The status a message keeps when an undo of this kind stops before its writes, and the
action that was queued with it. -/
def undone : Option (MessageStatus × MessagePushAction) :=
  if transaction.kind = "message_unspammed" then some (.spam, .spam)
  else if transaction.kind = "message_untrashed" then some (.trashed, .trash)
  else none

/-- An undo that stopped at its guard left the disposition and one started item behind. -/
def abortedDiscardUndo (w : Workspace) : Result Bool := do
  match transaction.undone with
  | none => return false
  | some (status, action) =>
    if transaction.paths.length ≠ 2 ∨ ".afmail/push" ∉ transaction.paths then return false
    match transaction.paths.findSome? (stripCircumfix "messages/" ".json") with
    | none => return false
    | some messageId =>
      if (validateId host "message_id" messageId).toOption.isNone then return false
      let message ← w.readMessageById messageId
      if message.status ≠ status then return false
      match w.readItems.filter fun item => item.message.any (·.messageId == messageId) with
      | [item] => return item.hasStartedEffects && item.message.any (·.action == action)
      | _ => return false

def repairAction (w : Workspace) : Result (Option TransactionRepair) := do
  match transaction.repairableCaseArchiveUid host with
  | some caseUid => return some (.caseArchive caseUid)
  | none =>
    let aborted ← transaction.abortedDiscardUndo host w
    return if aborted then some .abortedDiscardUndo else none

end TransactionRecord

/-- A transaction is named after the time, without its punctuation, and its kind. -/
def uniqueTransactionId (now kind : String) : String :=
  let time := String.ofList (now.toList.filter fun c => c != ':' && c != '-')
  let safeKind := String.ofList (kind.toList.map fun c => if c = '.' then '_' else c)
  s!"transaction_{time}_{safeKind}"

namespace Workspace
variable (w : Workspace)

def writeTransaction (transactionId : String) (transaction : TransactionRecord) : Workspace :=
  { w with transactions := w.transactions.insert transactionId transaction }

def removeTransaction (transactionId : String) : Workspace :=
  { w with transactions := w.transactions.erase transactionId }

def ensureNoIncompleteTransactions : Result Unit :=
  let list := ", ".intercalate (w.transactions.keys.map fun id => s!".afmail/transactions/{id}.json")
  ensure w.transactions.isEmpty (transactionIncomplete
    (s!"incomplete afmail transaction(s) detected: {list}; run `afmail doctor` for details"))

/-- Drafts that would be lost in the archive: all but those queued to be sent. -/
def archiveDraftBlockers (caseUid : String) (case_ : CaseRecord) : List String :=
  let queued := (w.outboundPushesForCase caseUid).filterMap fun item => item.draft.map (·.draftName)
  case_.localDraftNames.filter fun name => decide (name ∉ queued) ||
    !(case_.drafts[name]?.any fun draft => draft.frontmatter.syncIntent == some .send)

def ensureCaseDraftsCanArchive (caseUid : String) (case_ : CaseRecord) : Result Unit :=
  ensure (w.archiveDraftBlockers caseUid case_).isEmpty
    (caseHasLocalDrafts caseUid (w.archiveDraftBlockers caseUid case_))

/-- The messages that nothing keeps from being archived remotely. -/
def eligibleMessages (host : Host) (messageIds : List String)
    (allowedPush archivingCase : Option String) : Result (List String) := do
  let blockers ← messageIds.mapM fun messageId => do
    validateId host "message_id" messageId
    w.archiveBlockers messageId allowedPush archivingCase
  return ((messageIds.zip blockers).filter (·.2.isEmpty)).map (·.1)

/-- Where a message is to be archived from, and how. -/
def archiveAction (messageId : String) : Result (List PushLocation × List ActionStep) := do
  let locations ← w.messageRemoteLocationsWithMailboxIds [messageId]
  resolveArchiveAction w.config locations messageId

def archiveActions (messageIds : List String) :
    Result (List (String × List PushLocation × List ActionStep)) :=
  messageIds.mapM fun messageId => do
    let action ← w.archiveAction messageId
    return (messageId, action)

def preflightArchiveEligibility (host : Host) (messageIds : List String)
    (archivingCase : Option String) : Result Unit := do
  let eligible ← w.eligibleMessages host messageIds none archivingCase
  let _ ← w.archiveActions eligible

end Workspace

section Archiving
variable (host : CaseHost)

def beginTransaction (kind : String) (paths : List String) : Command String := do
  let transactionId := uniqueTransactionId host.now kind
  writeWorkspace (·.writeTransaction transactionId { kind, paths })
  return transactionId

def moveChecks (w : Workspace) (caseUid : String) (case_ : CaseRecord) : Result Unit := do
  validateUid "case_uid" caseUid 'c'
  validateId host.toHost "group" case_.group
  ensure (!w.casePathExists true case_.group case_.dirName)
    (caseExists "target case" s!"archived-cases/{case_.group}/{case_.dirName}")

/-- Renames the directory of an open case into the archive, then writes its status. -/
def moveActiveCaseWorkspace (caseUid : String) (case_ : CaseRecord) : Command Unit := do
  let w ← workspace
  Program.ofExcept (moveChecks host w caseUid case_)
  writeWorkspace (·.alterCase caseUid (·.movedTo true case_.group))
  writeWorkspace (·.alterCase caseUid (·.withArchiveState true host.now))

/-- Takes back what is queued for adding a message to a case. -/
def takeBackCaseAdd (messageId : String) : Command Unit := do
  let removed ← removePendingMessagePushes messageId .caseAdd
  if !removed.isEmpty then
    let w ← workspace
    Program.ofExcept (host.clearPendingCache w [messageId])

def queueArchiveForArchivedMessages (messageIds : List String)
    (allowedPush archivingCase : Option String) : Command Unit := do
  let w ← workspace
  let eligible ← Program.ofExcept
    (w.eligibleMessages host.toHost messageIds allowedPush archivingCase)
  let actions ← Program.ofExcept (w.archiveActions eligible)
  Program.forEach eligible (takeBackCaseAdd host)
  Program.forEach actions fun action => do
    let _ ← queueActionSteps host.toHost .notification [action.1] action.2.1 action.2.2

/-- Finishes the archiving of a renamed case; whether work on it is left in the queue. -/
def completeCaseArchiveWorkspace (caseUid : String) (messageIds : List String) : Command Bool := do
  refreshMessagesAfterRefChange host.toHost messageIds
  refreshCaseMessageViews host.toHost caseUid
  queueArchiveForArchivedMessages host messageIds none (some caseUid)
  let w ← workspace
  let pending ← Program.ofExcept (w.caseHasPendingArchiveWork caseUid messageIds)
  if pending then
    writeWorkspace (·.alterCase caseUid fun case_ => { case_ with status := .archiving })
  else
    writeWorkspace (·.alterCase caseUid (updateCaseArchiveState host.now))
  return pending

/-- What is checked before a case is archived. -/
def archiveChecks (w : Workspace) (caseRef : String) (reason : Option String) :
    Result (String × CaseRecord × Option String) := do
  w.ensureNoIncompleteTransactions
  let reason ← checkedReason host.reasonRequired reason
  let (caseUid, case_) ← w.resolveActiveCase host.toHost caseRef
  w.ensureCaseDraftsCanArchive caseUid case_
  w.preflightArchiveEligibility host.toHost case_.members.messageIds (some caseUid)
  return (caseUid, case_, reason)

def archivePaths (caseUid : String) (case_ : CaseRecord) : List String :=
  [s!"cases/{case_.group}/{case_.dirName}", s!"archived-cases/*/{caseUid}", ".afmail/push"]

def archiveCase (caseRef : String) (reason : Option String) : Command Unit := do
  let w ← workspace
  let (caseUid, case_, reason) ← Program.ofExcept (archiveChecks host w caseRef reason)
  let transactionId ← beginTransaction host "case_archive" (archivePaths caseUid case_)
  moveActiveCaseWorkspace host caseUid case_
  let pending ← completeCaseArchiveWorkspace host caseUid case_.members.messageIds
  writeWorkspace (·.removeTransaction transactionId)
  appendAuditEvent host.toHost (if pending then "case_archiving" else "case_archived")
    [("case", caseUid)] reason

def neitherActiveNorArchived (caseUid : String) : AppError :=
  transactionIncomplete (s!"cannot repair case archive transaction: case {caseUid} is neither " ++
    "active nor archived")

/-- The transaction is the authority that a renamed case is to be archived. -/
def recoverCaseArchiveTransaction (caseUid : String) : Command Unit := do
  let w ← workspace
  if (w.findCaseByUid caseUid).isSome then return ()
  match w.findArchivedCaseByUid caseUid with
  | none => Program.fail (neitherActiveNorArchived caseUid)
  | some archived =>
    writeWorkspace (·.alterCase caseUid (updateCaseArchiveState host.now))
    let _ ← completeCaseArchiveWorkspace host caseUid archived.members.messageIds

def transactionUnrepairable (transactionId kind : String) : AppError :=
  transactionIncomplete s!"transaction {transactionId} ({kind}) cannot be repaired automatically"

def repairTransaction (transactionId : String) : TransactionRepair → Command Unit
  | .caseArchive caseUid => do
    recoverCaseArchiveTransaction host caseUid
    writeWorkspace (·.removeTransaction transactionId)
  | .abortedDiscardUndo => writeWorkspace (·.removeTransaction transactionId)

/-- The repairs of all transactions are decided before the first is made. -/
def transactionRepairs (w : Workspace) : Result (List (String × TransactionRepair)) :=
  w.transactions.toList.mapM fun entry => do
    match ← entry.2.repairAction host.toHost w with
    | none => throw (transactionUnrepairable entry.1 entry.2.kind)
    | some repair => return (entry.1, repair)

def repairIncompleteTransactions : Command Unit := do
  let w ← workspace
  let repairs ← Program.ofExcept (transactionRepairs host w)
  Program.forEach repairs fun repair => repairTransaction host repair.1 repair.2

end Archiving

/-- What is wrong with a transaction that was not finished, and whether it can be repaired. -/
structure TransactionIssue where
  transactionId : String
  repairable : Bool

def checkTransactions (host : Host) (w : Workspace) : Result (List TransactionIssue) :=
  w.transactions.toList.mapM fun entry => do
    let repair ← entry.2.repairAction host w
    return { transactionId := entry.1, repairable := repair.isSome }

/-- Every message with evidence can be read. -/
def validateMessages (w : Workspace) : Result Unit := do
  let index ← w.materializedOverlayIndex
  w.messages.toList.forM fun entry =>
    if entry.2.eml.isSome then do
      let _ ← w.readMessageUnder index entry.1
    else return ()

/-- Makes the cached files and all views again. -/
def renderRefresh (host : CaseHost) (w : Workspace) : Result Unit := do
  host.prepareRender w
  validateMessages w
  host.renderMessageViews w w.messages.keys
  host.renderDispositionViews w
  w.cases.keys.forM (caseRefreshed host.toHost w)
  host.renderNotificationViews w

/-- Repairs what was left unfinished, then refreshes everything that is derived. -/
def doctorRepair (host : CaseHost) : Command Unit := do
  let w ← workspace
  let _ ← Program.ofExcept (checkTransactions host.toHost w)
  repairIncompleteTransactions host
  let w ← workspace
  Program.ofExcept (renderRefresh host w)
  let _ ← Program.ofExcept (checkTransactions host.toHost w)

end AgentFirstMail
