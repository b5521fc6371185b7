import AgentFirstMail.PushQueue.Push
import AgentFirstMail.Review.Documents

namespace AgentFirstMail
open Effect Command

/-- What the commands on cases use besides: whether a reason is demanded, the views of the
dispositions, and the template that puts the notes of two cases together. -/
structure CaseHost extends Host where
  reasonRequired : Bool
  prepareRender : Workspace → Result Unit
  renderDispositionViews : Workspace → Result Unit
  renderNotificationViews : Workspace → Result Unit
  renderNotesMerge : String → String → String → Result String

/-- A host that demands no reason and puts notes together as the built-in template does. -/
def plainCaseHost : CaseHost where
  toHost := plainHost
  reasonRequired := false
  prepareRender _ := .ok ()
  renderDispositionViews _ := .ok ()
  renderNotificationViews _ := .ok ()
  renderNotesMerge primary uid merged := .ok s!"{primary}\n\n## Merged from {uid}\n\n{merged}"

def caseArchivedError (caseUid : String) : AppError :=
  { errorCode := "case_archived", message := s!"case {caseUid} is archived" }

def archivedCaseNotFound (caseUid : String) : AppError :=
  { errorCode := "case_not_found", message := s!"archived case not found: {caseUid}" }

def caseExists (tree : String) (path : String) : AppError :=
  { errorCode := "case_exists", message := s!"{tree} already exists: {path}" }

namespace Workspace
variable (w : Workspace)

/-- A case among the active ones. -/
def findCaseByUid (caseUid : String) : Option CaseRecord :=
  w.cases[caseUid]?.filter (!·.archivedDir)

def findArchivedCaseByUid (caseUid : String) : Option CaseRecord :=
  w.cases[caseUid]?.filter (·.archivedDir)

def resolveActiveCase (host : Host) (caseRef : String) : Result (String × CaseRecord) := do
  let caseUid ← parseCaseRef host caseRef
  match w.findCaseByUid caseUid with
  | some case_ => return (caseUid, case_)
  | none =>
    ensure (w.findArchivedCaseByUid caseUid).isNone (caseArchivedError caseUid)
    throw (caseNotFound caseUid)

def resolveUnarchiveCase (host : Host) (caseRef : String) : Result (String × CaseRecord) := do
  let caseUid ← parseCaseRef host caseRef
  match w.findArchivedCaseByUid caseUid with
  | none => throw (archivedCaseNotFound caseUid)
  | some case_ =>
    ensure (!case_.status.isActive) (archivedStatusInvalid caseUid case_.status)
    return (caseUid, case_)

/-- Whether a case directory lies at a place. -/
def casePathExists (archivedDir : Bool) (group dirName : String) : Bool :=
  w.cases.toList.any fun entry => entry.2.archivedDir == archivedDir &&
    entry.2.group == group && entry.2.dirName == dirName

end Workspace

/-- The case file with its archive state written. -/
def CaseRecord.withArchiveState (case_ : CaseRecord) (archived : Bool) (now : String) : CaseRecord :=
  if archived then updateCaseArchiveState now case_ else { case_ with status := .active }

/-- The case directory renamed into a group of a tree. -/
def CaseRecord.movedTo (case_ : CaseRecord) (archivedDir : Bool) (group : String) : CaseRecord :=
  { case_ with archivedDir, group }

namespace Members

def mergeItem (members : Members) (item : CollectionItem) : Members :=
  if h : item.messageId ∈ members.messageIds then members
  else
    ⟨members.items ++ [item], by
      rw [List.map_append]
      exact List.Nodup.append members.nodup (List.nodup_singleton _)
        (List.disjoint_singleton.mpr h)⟩

/-- The entries of another collection whose messages are not entered yet. -/
def mergeItems (members : Members) (items : List CollectionItem) : Members :=
  items.foldl mergeItem members

end Members

def caseHasLocalDrafts (caseUid : String) (draftNames : List String) : AppError :=
  let list := ", ".intercalate draftNames
  { errorCode := "case_has_local_drafts", message := s!"case {caseUid} has local drafts: {list}" }

def caseHasOutboundPush (caseUid : String) (pushIds : List String) : AppError :=
  let list := ", ".intercalate pushIds
  { errorCode := "case_has_outbound_push"
    message := s!"case {caseUid} has queued outbound push items: {list}" }

def mergeConflict (label name : String) : AppError :=
  { errorCode := "merge_conflict", message := s!"{label} name conflict: {name}" }

/-- A file whose extension is that of a draft. -/
def isDraftName (name : String) : Bool :=
  ".md".toList.isSuffixOf name.toList && name != ".md"

namespace CaseRecord

/-- The drafts of a case, in the order of their names. -/
def localDraftNames (case_ : CaseRecord) : List String := case_.drafts.keys.filter isDraftName

/-- The case with one more entry, unless its message is entered. -/
def withMembers (case_ : CaseRecord) (items : List CollectionItem) : CaseRecord :=
  { case_ with members := case_.members.mergeItems items }

end CaseRecord

/-- A directory that lies in each case directory. -/
structure CaseDirectory (α : Type) where
  children : CaseRecord → Std.ExtTreeMap String α
  withChildren : CaseRecord → Std.ExtTreeMap String α → CaseRecord
  children_with : ∀ case_ entries, children (withChildren case_ entries) = entries
  with_with : ∀ case_ entries entries',
    withChildren (withChildren case_ entries) entries' = withChildren case_ entries'
  with_children : ∀ case_, withChildren case_ (children case_) = case_

namespace CaseDirectory

def files : CaseDirectory Bytes where
  children case_ := case_.files
  withChildren case_ files := { case_ with files }
  children_with _ _ := rfl
  with_with _ _ _ := rfl
  with_children _ := rfl

def drafts : CaseDirectory DraftFile where
  children case_ := case_.drafts
  withChildren case_ drafts := { case_ with drafts }
  children_with _ _ := rfl
  with_with _ _ _ := rfl
  with_children _ := rfl

end CaseDirectory

def ensureCaseHasNoLocalDrafts (caseUid : String) (case_ : CaseRecord) : Result Unit :=
  ensure case_.localDraftNames.isEmpty (caseHasLocalDrafts caseUid case_.localDraftNames)

/-- No entry of a directory has the name of an entry of another. -/
def ensureNoNameConflicts (dest source : Std.ExtTreeMap String α) (label : String) : Result Unit :=
  source.keys.forM fun name => ensure (decide (name ∉ dest)) (mergeConflict label name)

namespace Workspace
variable (w : Workspace)

def outboundPushesForCase (caseUid : String) : List PushItem :=
  (w.readItems.filter fun item => item.draft.any (·.caseUid == caseUid)).insertionSort
    (·.pushId ≤ ·.pushId)

def ensureCaseHasNoOutboundPush (caseUid : String) : Result Unit :=
  let pushIds := (w.outboundPushesForCase caseUid).map (·.pushId)
  ensure pushIds.isEmpty (caseHasOutboundPush caseUid pushIds)

/-- Renames an entry of a directory of one case into that of another. -/
def moveChild (directory : CaseDirectory α) (caseUid otherCaseUid name : String) : Workspace :=
  match w.cases[otherCaseUid]?.bind fun other => (directory.children other)[name]? with
  | none => w
  | some child =>
    (w.alterCase caseUid fun case_ =>
      directory.withChildren case_ ((directory.children case_).insert name child)).alterCase
        otherCaseUid fun other =>
          directory.withChildren other ((directory.children other).erase name)

def removeCase (caseUid : String) : Workspace := { w with cases := w.cases.erase caseUid }

end Workspace

section Refresh
variable (host : Host)

def refreshMessageAfterRefChange (messageId : String) : Command Unit := do
  Program.ofExcept (validateId host "message_id" messageId)
  let w ← workspace
  let _ ← Program.ofExcept (w.readMessageById messageId)
  Program.ofExcept (host.renderMessageViews w [messageId])

def refreshMessagesAfterRefChange (messageIds : List String) : Command Unit :=
  Program.forEach messageIds (refreshMessageAfterRefChange host)

def refreshCaseMessageViews (caseUid : String) : Command Unit := do
  let w ← workspace
  let case_ ← Program.ofExcept (w.findCase caseUid)
  Program.ofExcept (case_.members.messageIds.forM fun messageId => do
    let _ ← w.readMessageById messageId)
  Program.ofExcept (host.renderCaseViews w caseUid)

/-- Takes a message's pushes of one action back, and their mention in its cached file. -/
def takeBackMessagePushes (action : MessagePushAction) (pushIds : List String)
    (messageId : String) : Command (List String) := do
  let removed ← removePendingMessagePushes messageId action
  if !removed.isEmpty then
    let w ← workspace
    Program.ofExcept (host.clearPendingCache w [messageId])
  return pushIds ++ removed

end Refresh

section Commands
variable (host : CaseHost)

def removePendingMessagePushesForMessages (messageIds : List String) (action : MessagePushAction) :
    Command (List String) := do
  let pushIds ← Program.gather messageIds [] (takeBackMessagePushes host.toHost action)
  if !pushIds.isEmpty then
    let w ← workspace
    Program.ofExcept (host.renderDispositionViews w)
  return dedupAdjacent (pushIds.insertionSort (· ≤ ·))

/-- What is checked before a case is taken out of the archive. -/
def unarchiveChecks (w : Workspace) (caseRef group : String) (reason : Option String) :
    Result (String × CaseRecord × Option String) := do
  let reason ← checkedReason host.reasonRequired reason
  validateId host.toHost "group" group
  let (caseUid, case_) ← w.resolveUnarchiveCase host.toHost caseRef
  ensure (!w.casePathExists false group case_.dirName)
    (caseExists "active case path" s!"cases/{group}/{case_.dirName}")
  return (caseUid, case_, reason)

def unarchiveCase (caseRef group : String) (reason : Option String) : Command (List String) := do
  let w ← workspace
  let (caseUid, case_, reason) ← Program.ofExcept (unarchiveChecks host w caseRef group reason)
  writeWorkspace (·.alterCase caseUid (·.withArchiveState false host.now))
  writeWorkspace (·.alterCase caseUid (·.movedTo false group))
  let messageIds := case_.members.messageIds
  let removedPushes ← removePendingMessagePushesForMessages host messageIds .notification
  refreshMessagesAfterRefChange host.toHost messageIds
  refreshCaseMessageViews host.toHost caseUid
  appendAuditEvent host.toHost "case_unarchived" [("case", caseUid)] reason
  return removedPushes

/-- Two cases that can be merged: the one that stays and the one that goes. -/
structure MergePair where
  caseUid : String
  primary : CaseRecord
  otherCaseUid : String
  other : CaseRecord
  reason : Option String

def mergeChecks (w : Workspace) (caseRef otherCaseRef : String) (reason : Option String) :
    Result MergePair := do
  let reason ← checkedReason host.reasonRequired reason
  let (caseUid, primary) ← w.resolveActiveCase host.toHost caseRef
  let (otherCaseUid, other) ← w.resolveActiveCase host.toHost otherCaseRef
  ensure (caseUid != otherCaseUid) (invalidRequest "cannot merge a case into itself")
  ensureCaseHasNoLocalDrafts caseUid primary
  ensureCaseHasNoLocalDrafts otherCaseUid other
  w.ensureCaseHasNoOutboundPush caseUid
  w.ensureCaseHasNoOutboundPush otherCaseUid
  ensureNoNameConflicts primary.files other.files "files"
  ensureNoNameConflicts primary.drafts other.drafts "drafts"
  return { caseUid, primary, otherCaseUid, other, reason }

/-- The notes of a case with those of another after them; nothing where the other has none. -/
def mergedNotes (pair : MergePair) : Result (Option String) :=
  match pair.other.notes with
  | none => .ok none
  | some otherNotes =>
    if Text.isBlank otherNotes then .ok none
    else
      match pair.primary.notes with
      | none => .error (notesMissing s!"cases/{pair.primary.group}/{pair.primary.dirName}/notes.md")
      | some existing => do
        let merged ← host.renderNotesMerge existing pair.otherCaseUid otherNotes
        return some merged

def mergeCaseNotes (pair : MergePair) : Command Unit := do
  match ← Program.ofExcept (mergedNotes host pair) with
  | none => return ()
  | some merged =>
    writeWorkspace (·.alterCase pair.caseUid fun case_ => { case_ with notes := some merged })

def moveChildren (directory : CaseDirectory α) (pair : MergePair) : Command Unit :=
  Program.forEach (directory.children pair.other).keys fun name =>
    writeWorkspace (·.moveChild directory pair.caseUid pair.otherCaseUid name)

def mergeCase (caseRef otherCaseRef : String) (reason : Option String) : Command Nat := do
  let w ← workspace
  let pair ← Program.ofExcept (mergeChecks host w caseRef otherCaseRef reason)
  writeWorkspace (·.alterCase pair.caseUid (·.withMembers pair.other.members.items))
  mergeCaseNotes host pair
  moveChildren .files pair
  moveChildren .drafts pair
  writeWorkspace (·.removeCase pair.otherCaseUid)
  refreshMessagesAfterRefChange host.toHost pair.other.members.messageIds
  refreshCaseMessageViews host.toHost pair.caseUid
  appendAuditEvent host.toHost "case_merged"
    [("case", pair.caseUid), ("case", pair.otherCaseUid)] pair.reason
  return pair.other.members.items.length

end Commands
end AgentFirstMail
