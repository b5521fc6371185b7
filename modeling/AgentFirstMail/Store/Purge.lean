import Mathlib.Algebra.GroupWithZero.Nat
import Mathlib.Data.List.Lex
import Mathlib.Data.String.Basic
import AgentFirstMail.Data.Chrono
import AgentFirstMail.Projection.Read
import AgentFirstMail.Store.RemoteSync

namespace AgentFirstMail
open Chrono

inductive PurgeDisposition where
  | spam | trash | deleted

namespace PurgeDisposition

def status : PurgeDisposition → MessageStatus
  | spam => .spam
  | trash => .trashed
  | deleted => .deletedRemote

def target : PurgeDisposition → String
  | spam => "spam"
  | trash => "trash"
  | deleted => "deleted"

end PurgeDisposition

structure PurgeArtifact where
  path : String
  sizeBytes : Nat
  contentHash : String

structure PurgeCandidate where
  messageId : String
  disposition : PurgeDisposition
  ageBasisRfc3339 : String
  sizeBytes : Nat
  artifacts : List PurgeArtifact

structure PurgeSkipped where
  messageId : String
  disposition : PurgeDisposition
  reason : String

/-- What the id of a plan is the fingerprint of. -/
structure PurgeDigest where
  schemaName : String := "purge_plan"
  schemaVersion : Nat := 1
  workspaceUid : String
  targets : List String
  olderThanDays : UInt64
  candidates : List PurgeCandidate
  skipped : List PurgeSkipped

structure PurgePlan where
  workspaceUid : String
  workspacePath : String
  planId : String
  target : String
  targets : List PurgeDisposition
  olderThanDays : UInt64
  candidates : List PurgeCandidate
  skipped : List PurgeSkipped

/-- What lies in the directory of a message's attachments; a link may lead nowhere. -/
inductive FileNode where
  | file (name : String) (bytes : Bytes)
  | symlink (name : String) (dangling : Bool)
  | special (name : String)
  | directory (name : String) (children : List FileNode)

/-- A workspace with what a purge deletes: the regular files by their paths, and the directories
of attachments by the messages that they belong to. -/
structure PurgeTree extends WorkspaceTree where
  files : Std.ExtTreeMap String Bytes := ∅
  attachmentDirectories : Std.ExtTreeMap String FileNode := ∅

/-- What a purge plan uses of code outside the model. -/
structure PurgeHost extends ProjectionHost where
  limits : Limits
  workspaceUid : Result String
  workspacePath : Result String
  parseRfc3339 : String → Except String (DateTime limits)
  toRfc3339 : DateTime limits → String
  contentHash : Bytes → String
  fingerprint : PurgeDigest → String

namespace Workspace

def addDisposed (status : MessageStatus) (out : Std.ExtTreeMap String (MessageStatus × String))
    (item : CollectionItem) : Result (Std.ExtTreeMap String (MessageStatus × String)) :=
  match out[item.messageId]? with
  | some existing => .error (disposedTwice item.messageId existing.1 status)
  | none => .ok (out.insert item.messageId (status, item.addedRfc3339))

/-- The disposition that each message is in, and since when. -/
def disposedByMessage (w : Workspace) : Result (Std.ExtTreeMap String (MessageStatus × String)) :=
  Disposition.specs.foldlM (fun out spec =>
    (w.disposition spec).items.foldlM (addDisposed spec.status) out) ∅

end Workspace

namespace PurgeTree
variable (host : PurgeHost) (tree : PurgeTree)

/-- The projections in the order of their file names. -/
def messageJsonPaths : List String :=
  tree.projections.keys.insertionSort fun a b => s!"{a}.json" ≤ s!"{b}.json"

def notificationReferences (context : MaterializationContext) (messageId : String) :
    List Reference :=
  match tree.readMessage host.toProjectionHost context messageId with
  | .ok message =>
    if message.workspace.notificationUid.isSome then
      [s!"messages/{messageId}.json:notification_uid"]
    else []
  | .error _ => []

def messageReferences (context : MaterializationContext) (messageId : String) : List Reference :=
  tree.workspace.collectAnyCaseMessageReferences messageId ++
    tree.workspace.collectDraftReferencesExceptCase messageId none ++
    tree.workspace.collectPushReferencesExceptMessagePushes messageId none [] ++
    tree.notificationReferences host context messageId

/-- Which of the messages anything still refers to. -/
def referencedMessageIds (messageIds : List String) : Result (List String) :=
  if messageIds.isEmpty then .ok []
  else do
    let context ← tree.materializationContext host.toProjectionHost
    return messageIds.filter fun messageId =>
      !(tree.messageReferences host context messageId).isEmpty

def unsafeArtifact (kind : String) (path : List String) : AppError :=
  let shown := "/".intercalate path
  { errorCode := "purge_artifact_unsafe", message := s!"refusing {kind} {shown}" }

mutual

/-- The files in a directory, with their paths. -/
def collectFiles (parent : List String) : FileNode → Result (List (List String × Bytes))
  | .file name bytes => .ok [(parent ++ [name], bytes)]
  | .symlink name dangling =>
    if dangling then .ok [] else .error (unsafeArtifact "symlink" (parent ++ [name]))
  | .special name => .error (unsafeArtifact "special file" (parent ++ [name]))
  | .directory name children => collectChildren (parent ++ [name]) children

def collectChildren (parent : List String) : List FileNode → Result (List (List String × Bytes))
  | [] => .ok []
  | child :: rest => do
    let files ← collectFiles parent child
    let others ← collectChildren parent rest
    return files ++ others

end

/-- The files that a message may have by its name alone. -/
def ownPaths (messageId : String) : List (List String) :=
  ["messages", s!"{messageId}.json"] ::
    ["json", "eml", "message", "state.json", "txt"].map fun extension =>
      [".afmail", "messages", s!"{messageId}.{extension}"]

/-- The files of a message, in the order of their paths. -/
def purgeArtifacts (messageId : String) : Result (List PurgeArtifact) := do
  let own := (ownPaths messageId).filterMap fun path =>
    (tree.files["/".intercalate path]?).map fun bytes => (path, bytes)
  let attachments ← match tree.attachmentDirectories[messageId]? with
    | some node => collectFiles [".afmail", "messages"] node
    | none => .ok []
  return ((own ++ attachments).insertionSort fun a b => a.1 ≤ b.1).dedup.map fun file =>
    { path := "/".intercalate file.1
      sizeBytes := file.2.length
      contentHash := host.contentHash file.2 }

end PurgeTree

def purgeAgeUnknown (messageId : String) : AppError :=
  { errorCode := "purge_age_unknown", message := s!"message {messageId} has no purge age" }

def purgeAgeInvalid (messageId value error : String) : AppError :=
  { errorCode := "purge_age_invalid"
    message := s!"message {messageId} has invalid purge age {repr value}: {error}" }

/-- Since when a message is disposed of; without a disposition that says so, when it was received,
or else sent. -/
def messagePurgeAgeTime (host : PurgeHost) (message : MessageFile)
    (disposition : Option (MessageStatus × String)) : Result (DateTime host.limits) :=
  let disposed := disposition.filter fun found => found.1 = message.workspace.status
  match ((disposed.map (·.2)).or message.receivedRfc3339).or message.sentRfc3339 with
  | none => .error (purgeAgeUnknown message.messageId)
  | some value =>
    match host.parseRfc3339 value with
    | .ok time => .ok time
    | .error error => .error (purgeAgeInvalid message.messageId value error)

def purgeTargetName : List PurgeDisposition → String
  | [disposition] => disposition.target
  | _ => "discards"

/-- A message of a selected disposition, with the time that its age counts from. -/
structure AgedMessage (host : PurgeHost) where
  messageId : String
  disposition : PurgeDisposition
  ageBasis : DateTime host.limits

namespace AgedMessage
variable {host : PurgeHost}

/-- Whether a message is too recent to be purged. -/
def isRecent (cutoff : DateTime host.limits) (message : AgedMessage host) : Bool :=
  cutoff.nanos < message.ageBasis.nanos

def skipped (reason : String) (message : AgedMessage host) : PurgeSkipped :=
  { messageId := message.messageId, disposition := message.disposition, reason }

end AgedMessage

/-- What was read of the messages: the ones to skip, and the ones that are old enough. -/
structure PurgeSurvey (host : PurgeHost) where
  skipped : List PurgeSkipped := []
  aged : List (AgedMessage host) := []

def PurgeSurvey.add (cutoff : DateTime host.limits) (survey : PurgeSurvey host)
    (message : AgedMessage host) : PurgeSurvey host :=
  if message.isRecent cutoff then
    { survey with skipped := survey.skipped ++ [message.skipped "recent"] }
  else { survey with aged := survey.aged ++ [message] }

/-- What the plan says of the messages that are old enough. -/
structure PurgeChoice where
  candidates : List PurgeCandidate := []
  skipped : List PurgeSkipped

/-- The plan of what was chosen, in the order of the message ids. -/
def PurgeChoice.plan (host : PurgeHost) (targets : List PurgeDisposition) (days : UInt64)
    (workspaceUid workspacePath : String) (choice : PurgeChoice) : PurgePlan :=
  let candidates := choice.candidates.insertionSort (·.messageId ≤ ·.messageId)
  let skipped := choice.skipped.insertionSort (·.messageId ≤ ·.messageId)
  let hash := host.fingerprint {
    workspaceUid, targets := targets.map (·.target), olderThanDays := days, candidates, skipped }
  { workspaceUid, workspacePath
    planId := s!"purge_plan_{hash}"
    target := purgeTargetName targets
    targets
    olderThanDays := days
    candidates, skipped }

namespace PurgeTree
variable (host : PurgeHost) (tree : PurgeTree)

/-- Reads a message, with its age when it is of a selected disposition. -/
def selectMessage (targets : List PurgeDisposition) (context : MaterializationContext)
    (dispositions : Std.ExtTreeMap String (MessageStatus × String)) (messageId : String) :
    Result (Option (AgedMessage host)) := do
  let message ← tree.readMessage host.toProjectionHost context messageId
  match targets.find? (·.status = message.workspace.status) with
  | none => return none
  | some disposition => do
    let ageBasis ← messagePurgeAgeTime host message dispositions[messageId]?
    return some { messageId := message.messageId, disposition, ageBasis }

def surveyMessage (targets : List PurgeDisposition) (context : MaterializationContext)
    (dispositions : Std.ExtTreeMap String (MessageStatus × String)) (cutoff : DateTime host.limits)
    (survey : PurgeSurvey host) (messageId : String) : Result (PurgeSurvey host) := do
  match ← tree.selectMessage host targets context dispositions messageId with
  | none => return survey
  | some message => return survey.add cutoff message

def purgeCandidate (message : AgedMessage host) : Result PurgeCandidate := do
  let artifacts ← tree.purgeArtifacts host message.messageId
  return {
    messageId := message.messageId
    disposition := message.disposition
    ageBasisRfc3339 := host.toRfc3339 message.ageBasis
    sizeBytes := (artifacts.map (·.sizeBytes)).sum
    artifacts }

def chooseMessage (referenced : List String) (choice : PurgeChoice) (message : AgedMessage host) :
    Result PurgeChoice := do
  if message.messageId ∈ referenced then
    return { choice with skipped := choice.skipped ++ [message.skipped "referenced"] }
  else
    let candidate ← tree.purgeCandidate host message
    return { choice with candidates := choice.candidates ++ [candidate] }

/-- The plan for the messages whose age counts from the cutoff at the latest. -/
def planUntil (targets : List PurgeDisposition) (days : UInt64)
    (workspaceUid workspacePath : String) (cutoff : DateTime host.limits) : Result PurgePlan := do
  let context ← tree.materializationContext host.toProjectionHost
  let dispositions ← tree.workspace.disposedByMessage
  let survey ← tree.messageJsonPaths.foldlM
    (tree.surveyMessage host targets context dispositions cutoff) {}
  let referenced ← tree.referencedMessageIds host (survey.aged.map (·.messageId))
  let choice ← survey.aged.foldlM (tree.chooseMessage host referenced) { skipped := survey.skipped }
  return choice.plan host targets days workspaceUid workspacePath

/-- The days become a signed number before they are taken from the time that it is. -/
def buildPurgePlan (targets : List PurgeDisposition) (days : UInt64) (now : DateTime host.limits) :
    Panics (Result PurgePlan) :=
  match host.workspaceUid, host.workspacePath with
  | .error error, _ => .ok (.error error)
  | .ok _, .error error => .ok (.error error)
  | .ok workspaceUid, .ok workspacePath => do
    let cutoff ← now.subDays days.toInt64.toInt
    return tree.planUntil host targets days workspaceUid workspacePath cutoff

end PurgeTree
end AgentFirstMail
