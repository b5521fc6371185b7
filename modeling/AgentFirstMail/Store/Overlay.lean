import Mathlib.Data.List.Sort
import AgentFirstMail.Types.Workspace

namespace AgentFirstMail

def storeError (message : String) : AppError := { errorCode := "store_error", message }

/-- One case as the index over all cases keeps it. -/
structure CaseIndexEntry where
  caseUid : String
  status : CaseStatus
  members : Members

abbrev CaseIndex := List CaseIndexEntry

namespace CaseStatus

/-- The status text in a case file. -/
def asStr : CaseStatus → String
  | active => ""
  | archiving => "archiving"
  | archived _ => "archived"

def isActive : CaseStatus → Bool
  | active => true
  | _ => false

end CaseStatus

namespace CaseIndex

def hasActiveReference (index : CaseIndex) (messageId : String) : Bool :=
  index.any fun entry => entry.status.isActive && decide (messageId ∈ entry.members)

def hasArchivedReference (index : CaseIndex) (messageId : String) : Bool :=
  index.any fun entry => !entry.status.isActive && decide (messageId ∈ entry.members)

end CaseIndex

/-- The push ids and kinds still queued for one message. -/
structure PendingPush where
  pushId : String
  kind : String
deriving DecidableEq

/-- Every message's place outside its own files, read in one pass. -/
structure OverlayIndex where
  cases : CaseIndex
  dispositions : Std.ExtTreeMap String MessageStatus
  notifications : Std.ExtTreeMap String String
  pendingPush : List (String × PendingPush)

/-- A message with the workspace state it is read under. -/
structure Message where
  messageId : String
  rfc822MessageId : Option String
  direction : Option String
  remote : Option (List RemoteLocation)
  status : MessageStatus
  notificationUid : Option String
  pending : List PendingPush
deriving DecidableEq

namespace Message

/-- The locations a message is still recorded at. -/
def activeLocations (message : Message) : List RemoteLocation :=
  (message.remote.getD []).filter (·.isActive)

end Message

namespace Workspace
variable (w : Workspace)

def caseEntries : List (String × CaseRecord) := w.cases.toList.filter (!·.2.archivedDir)

/-- Archived cases, in the order their directories are read. -/
def archivedCaseEntries : List (String × CaseRecord) := w.cases.toList.filter (·.2.archivedDir)

def allCaseEntries : List (String × CaseRecord) := w.caseEntries ++ w.archivedCaseEntries

def activeStatusInvalid (caseUid : String) (status : CaseStatus) : AppError :=
  { errorCode := "case_metadata_invalid"
    message :=
      s!"active case {caseUid} must have an empty canonical status, found {repr status.asStr}" }

def archivedStatusInvalid (caseUid : String) (status : CaseStatus) : AppError :=
  { errorCode := "case_metadata_invalid"
    message := (s!"case {caseUid} stored under archived-cases has invalid canonical status " ++
      s!"{repr status.asStr}") }

def ensureStatusFitsTree (caseUid : String) (case_ : CaseRecord) : Result Unit :=
  if case_.archivedDir then
    ensure (!case_.status.isActive) (archivedStatusInvalid caseUid case_.status)
  else
    ensure case_.status.isActive (activeStatusInvalid caseUid case_.status)

/-- A case's index entry, when its status fits the tree its directory lies in. -/
def caseIndexEntry (entry : String × CaseRecord) : Result CaseIndexEntry := do
  ensureStatusFitsTree entry.1 entry.2
  return ⟨entry.1, entry.2.status, entry.2.members⟩

def buildCaseIndex : Result CaseIndex := w.allCaseEntries.mapM caseIndexEntry

def disposedTwice (messageId : String) (existing status : MessageStatus) : AppError :=
  { errorCode := "disposition_state_invalid"
    message := (s!"message {messageId} is present in both {existing.asStr} and " ++
      s!"{status.asStr} dispositions") }

def addDisposition (status : MessageStatus) (out : Std.ExtTreeMap String MessageStatus)
    (messageId : String) : Result (Std.ExtTreeMap String MessageStatus) :=
  match out[messageId]? with
  | some existing => .error (disposedTwice messageId existing status)
  | none => .ok (out.insert messageId status)

def dispositionStateByMessage : Result (Std.ExtTreeMap String MessageStatus) :=
  Disposition.specs.foldlM (fun out spec =>
    (w.disposition spec).messageIds.foldlM (addDisposition spec.status) out) ∅

def notifiedTwice (messageId existing notificationUid : String) : AppError :=
  { errorCode := "notification_state_invalid"
    message := (s!"message {messageId} is present in both notification {existing} and " ++
      notificationUid) }

def addNotified (notificationUid : String) (out : Std.ExtTreeMap String String)
    (messageId : String) : Result (Std.ExtTreeMap String String) :=
  match out[messageId]? with
  | some existing => .error (notifiedTwice messageId existing notificationUid)
  | none => .ok (out.insert messageId notificationUid)

def notificationStateByMessage : Result (Std.ExtTreeMap String String) :=
  w.notifications.toList.foldlM (fun out entry =>
    entry.2.members.messageIds.foldlM (addNotified entry.1) out) ∅

def disposedAndNotified (messageId : String) (status : MessageStatus) (uid : String) : AppError :=
  { errorCode := "message_state_invalid"
    message := (s!"message {messageId} is present in both the {status.asStr} disposition " ++
      s!"and notification {uid}") }

/-- Refuses a message that is both disposed and notified. -/
def ensureDisjoint (dispositions : Std.ExtTreeMap String MessageStatus)
    (notifications : Std.ExtTreeMap String String) : Result Unit :=
  dispositions.toList.forM fun entry =>
    match notifications[entry.1]? with
    | some uid => .error (disposedAndNotified entry.1 entry.2 uid)
    | none => .ok ()

/-- The queue records, which hold no plan. -/
def readItems : List PushItem := w.pushItems.toList.map (·.2.stored)

/-- The queue, in the order its items were enqueued. -/
def sortedItems : List PushItem :=
  w.readItems.insertionSort fun a b =>
    a.enqueueSeq < b.enqueueSeq ∨ a.enqueueSeq = b.enqueueSeq ∧ a.pushId ≤ b.pushId

def pendingPushes : List (String × PendingPush) :=
  (w.sortedItems.filter (!·.localStageAtLeast .pendingCleared)).flatMap fun item =>
    item.messageIds.map fun messageId => (messageId, ⟨item.pushId, item.displayKind⟩)

def materializedOverlayIndex : Result OverlayIndex := do
  let dispositions ← w.dispositionStateByMessage
  let notifications ← w.notificationStateByMessage
  ensureDisjoint dispositions notifications
  let cases ← w.buildCaseIndex
  return { cases, dispositions, notifications, pendingPush := w.pendingPushes }

end Workspace

namespace OverlayIndex
variable (index : OverlayIndex)

/-- A disposition outranks a notification, and both outrank the cases of a message. -/
def status (messageId : String) : MessageStatus :=
  match index.dispositions[messageId]?, index.notifications[messageId]? with
  | some status, _ => status
  | none, some _ => .notification
  | none, none =>
    if index.cases.hasActiveReference messageId then .case
    else if index.cases.hasArchivedReference messageId then .archived
    else .triage

def notificationUid (messageId : String) : Option String :=
  if messageId ∈ index.dispositions then none else index.notifications[messageId]?

def pending (messageId : String) : List PendingPush :=
  index.pendingPush.filterMap fun entry => if entry.1 = messageId then some entry.2 else none

end OverlayIndex

namespace Workspace

def metadataMissing (messageId : String) : AppError :=
  { errorCode := "message_metadata_missing"
    message := s!"canonical metadata is missing for message {messageId}" }

/-- Reads a message from its evidence and metadata, under an index read before. -/
def readMessageUnder (w : Workspace) (index : OverlayIndex) (messageId : String) :
    Result Message := do
  let unreadable := storeError s!"read message eml .afmail/messages/{messageId}.eml"
  match w.messages[messageId]? with
  | none => .error unreadable
  | some record =>
    ensure record.eml.isSome unreadable
    match record.metadata with
    | none => .error (metadataMissing messageId)
    | some metadata => return {
        messageId
        rfc822MessageId := record.rfc822MessageId
        direction := record.direction
        remote := metadata.remote
        status := index.status messageId
        notificationUid := index.notificationUid messageId
        pending := index.pending messageId }

theorem mem_caseEntries {w : Workspace} {caseUid : String} {case_ : CaseRecord} :
    (caseUid, case_) ∈ w.caseEntries ↔
      w.cases[caseUid]? = some case_ ∧ case_.archivedDir = false := by
  rw [caseEntries, List.mem_filter, Std.ExtTreeMap.mem_toList_iff_getElem?_eq_some,
    Bool.not_eq_true']

theorem mem_allCaseEntries {w : Workspace} {caseUid : String} {case_ : CaseRecord} :
    (caseUid, case_) ∈ w.allCaseEntries ↔ w.cases[caseUid]? = some case_ := by
  rw [allCaseEntries, List.mem_append, mem_caseEntries, archivedCaseEntries, List.mem_filter,
    Std.ExtTreeMap.mem_toList_iff_getElem?_eq_some]
  cases case_.archivedDir <;> simp

theorem mem_readItems {w : Workspace} :
    item ∈ w.readItems ↔ ∃ (pushId : String) (record : PushItem),
      w.pushItems[pushId]? = some record ∧ record.stored = item := by
  rw [readItems, List.mem_map]
  constructor
  · intro ⟨entry, hmem, hstored⟩
    exact ⟨entry.1, entry.2, Std.ExtTreeMap.mem_toList_iff_getElem?_eq_some.mp hmem, hstored⟩
  · intro ⟨pushId, record, hget, hstored⟩
    exact ⟨(pushId, record), Std.ExtTreeMap.mem_toList_iff_getElem?_eq_some.mpr hget, hstored⟩

theorem mem_sortedItems {w : Workspace} : item ∈ w.sortedItems ↔ item ∈ w.readItems :=
  List.mem_insertionSort _

theorem readMessageUnder_eq_ok {w : Workspace}
    (h : w.readMessageUnder index messageId = .ok message) :
    ∃ record metadata, w.messages[messageId]? = some record ∧ record.eml.isSome ∧
      record.metadata = some metadata ∧ message.messageId = messageId ∧
      message.remote = metadata.remote ∧ message.status = index.status messageId ∧
      message.notificationUid = index.notificationUid messageId ∧
      message.pending = index.pending messageId := by
  unfold readMessageUnder at h
  split at h
  · cases h
  · rename_i record hget
    obtain ⟨hevidence, h⟩ := Result.seq_ok h
    split at h
    · cases h
    · rename_i metadata hmetadata
      cases h
      exact ⟨record, metadata, hget, ensure_eq_ok_iff.mp hevidence, hmetadata,
        rfl, rfl, rfl, rfl, rfl⟩

def readMessageById (w : Workspace) (messageId : String) : Result Message := do
  let index ← w.materializedOverlayIndex
  w.readMessageUnder index messageId

/-- The active locations of some messages that a remote command can name. -/
def messageRemoteLocationsWithMailboxIds (w : Workspace) (messageIds : List String) :
    Result (List MailboxIdLocation) := do
  if messageIds.isEmpty then return []
  let index ← w.materializedOverlayIndex
  let locations ← messageIds.mapM fun messageId => do
    let message ← w.readMessageUnder index messageId
    return (message.remote.getD []).filterMap (·.toMailboxIdLocation messageId)
  return locations.flatten

def messageRemoteLocationsAny (w : Workspace) (messageIds : List String) :
    Result (List PushLocation) := do
  let locations ← w.messageRemoteLocationsWithMailboxIds messageIds
  return locations.map (·.push)

end Workspace
end AgentFirstMail
