import AgentFirstMail.Effect.Local
import AgentFirstMail.Ingest.Message
import AgentFirstMail.Store.RemoteSync

namespace AgentFirstMail
open Effect

/-- Every UID a folder holds, and the epoch they are counted in. -/
structure FolderUidSnapshot where
  mailbox : String
  uidValidity : Nat
  uids : Std.ExtTreeSet Nat := ∅
deriving DecidableEq

/-- A workspace with the message caches in it; a cache file is what reading it gives. -/
structure MaterializedWorkspace where
  canonical : Workspace
  caches : Std.ExtTreeMap String (Result Message) := ∅
deriving DecidableEq

/-- A place on the server, without what is recorded of it. -/
structure LocalRemoteLocation where
  mailbox : String
  uidValidity : Nat
  uid : Nat
deriving DecidableEq

namespace RemoteLocation

/-- The place of a location whose epoch and UID are known. -/
def place? (location : RemoteLocation) : Option LocalRemoteLocation :=
  match location.uidValidity, location.uid with
  | some uidValidity, some uid => some ⟨location.mailboxName, uidValidity, uid⟩
  | _, _ => none

def markMissing (now : String) (location : RemoteLocation) : RemoteLocation :=
  if location.isActive then { location with missingRfc3339 := some now } else location

end RemoteLocation

/-- The last snapshot of a folder counts. -/
def snapshotByFolder (snapshots : List FolderUidSnapshot) :
    Std.ExtTreeMap String FolderUidSnapshot :=
  snapshots.foldl (fun out snapshot => out.insert snapshot.mailbox snapshot) ∅

/-- The places of active locations in the selected folders, each once. -/
def activeRemoteLocations (selected : List String) (locations : List RemoteLocation) :
    List LocalRemoteLocation :=
  locations.foldl (fun out location =>
    if !location.isActive || !decide (location.mailboxName ∈ selected) then out
    else match location.place? with
      | some place => if place ∈ out then out else out ++ [place]
      | none => out) []

def hasAnyActiveRemoteLocation (locations : List RemoteLocation) : Bool :=
  locations.any fun location => location.isActive && location.place?.isSome

def remoteLocationMissing (snapshots : Std.ExtTreeMap String FolderUidSnapshot)
    (place : LocalRemoteLocation) : Bool :=
  match snapshots[place.mailbox]? with
  | none => false
  | some snapshot => snapshot.uidValidity != place.uidValidity || !snapshot.uids.contains place.uid

/-- Marks the first location at a place; a place that is not recorded is recorded as missing. -/
def markRemoteLocationMissing (now : String) (place : LocalRemoteLocation) :
    List RemoteLocation → List RemoteLocation
  | [] => [{ mailboxName := place.mailbox, uidValidity := some place.uidValidity,
             uid := some place.uid, observedRfc3339 := now, missingRfc3339 := some now }]
  | location :: rest =>
    if location.place? = some place then location.markMissing now :: rest
    else location :: markRemoteLocationMissing now place rest

def markRemoteLocationsMissing (now : String) (missing : List LocalRemoteLocation)
    (locations : List RemoteLocation) : List RemoteLocation :=
  missing.foldl (fun locations place => markRemoteLocationMissing now place locations) locations

/-- What a reconciliation reports. -/
structure ReconcileReport where
  checkedLocationCount : Nat := 0
  missingLocationCount : Nat := 0
  deletedRemoteMessageIds : List String := []
  tombstonedMessageIds : List String := []
  keptMessageIds : List String := []
deriving DecidableEq

namespace ReconcileReport

def checked (report : ReconcileReport) (active missing : List LocalRemoteLocation) :
    ReconcileReport :=
  { report with
    checkedLocationCount := report.checkedLocationCount + active.length
    missingLocationCount := report.missingLocationCount + missing.length }

def kept (report : ReconcileReport) (messageId : String) : ReconcileReport :=
  { report with keptMessageIds := report.keptMessageIds ++ [messageId] }

def tombstoned (report : ReconcileReport) (messageId : String) : ReconcileReport :=
  { report with tombstonedMessageIds := report.tombstonedMessageIds ++ [messageId] }

def deletedRemote (report : ReconcileReport) (messageId : String) : ReconcileReport :=
  { report with deletedRemoteMessageIds := report.deletedRemoteMessageIds ++ [messageId] }

end ReconcileReport

abbrev Reconcile (α : Type) := Local MaterializedWorkspace AppError α

namespace Workspace
variable (w : Workspace)

/-- The messages that anything still refers to. -/
def referencedMessageIds (messageIds : List String) : Result (List String) := do
  let references ← messageIds.mapM fun messageId => w.messageReferences messageId none []
  return (messageIds.zip references).filterMap fun entry =>
    if entry.2.isEmpty then none else some entry.1

end Workspace

/-- The cached messages in the order of their file names. -/
def MaterializedWorkspace.messageJsonPaths (w : MaterializedWorkspace) : List String :=
  w.caches.keys.insertionSort fun a b => s!"{a}.json" ≤ s!"{b}.json"

namespace Reconcile

def writeCanonical (change : Workspace → Workspace) : Reconcile Unit :=
  Program.write fun w => { w with canonical := change w.canonical }

def readMessageCache (path : String) : Reconcile Message := do
  let w ← Program.read
  match w.caches[path]? with
  | some content => Program.ofExcept content
  | none => throw (storeError s!"read message json messages/{path}.json")

def persistMessageMetadata (message : Message) : Reconcile Unit :=
  writeCanonical (·.persistMessageMetadata message.messageId message.remote none)

def writeMessageMaterializedCache (message : Message) : Reconcile Unit :=
  Program.write fun w =>
    { canonical := w.canonical.writeMessageMaterializedCache message.messageId message.direction
      caches := w.caches.insert message.messageId (.ok message) }

def setMessageDisposition (kind : Disposition) (messageId now : String) : Reconcile Unit := do
  Program.forEach (Disposition.specs.filter (· != kind)) fun other =>
    writeCanonical (·.clearDisposition messageId other)
  writeCanonical fun w => w.setDisposition kind ((w.disposition kind).upsertItem messageId none now)

def writeMessageArtifacts (message : Message) : Reconcile Unit := do
  persistMessageMetadata message
  writeMessageMaterializedCache message

end Reconcile

open Reconcile

/-- Reconciles one message with the folders; one that is left at no active location is put
aside until it is known what refers to it. -/
def reconcileMessage (snapshots : List FolderUidSnapshot) (now : String → String)
    (found : ReconcileReport × List Message) (path : String) :
    Reconcile (ReconcileReport × List Message) := do
  let (report, gone) := found
  let message ← readMessageCache path
  let locations := message.remote.getD []
  let active := activeRemoteLocations (snapshots.map (·.mailbox)) locations
  let missing := active.filter (remoteLocationMissing (snapshotByFolder snapshots))
  let report := report.checked active missing
  if missing.isEmpty then
    return (report, gone)
  else
    let marked := markRemoteLocationsMissing (now message.messageId) missing locations
    let message := { message with remote := some marked }
    if hasAnyActiveRemoteLocation marked then
      writeMessageArtifacts message
      return (report.kept message.messageId, gone)
    else return (report, gone ++ [message])

/-- A message that nothing refers to is marked as deleted; any other one keeps its status. -/
def settleGoneMessage (referenced : List String) (now : String → String)
    (report : ReconcileReport) (message : Message) : Reconcile ReconcileReport := do
  if message.messageId ∈ referenced then
    writeMessageArtifacts message
    return report.tombstoned message.messageId
  else
    Reconcile.setMessageDisposition .deletedRemote message.messageId (now message.messageId)
    writeMessageArtifacts
      { message with status := .deletedRemote, notificationUid := none, pending := [] }
    return report.deletedRemote message.messageId

/-- Reconciles the locations of every cached message with the folders of a pull. -/
def reconcileRemoteMissing (snapshots : List FolderUidSnapshot) (now : String → String) :
    Reconcile ReconcileReport := do
  let w ← Program.read
  let (report, gone) ← Program.gather w.messageJsonPaths ({}, []) (reconcileMessage snapshots now)
  let w ← Program.read
  let referenced ← Program.ofExcept
    (w.canonical.referencedMessageIds (gone.map (·.messageId)))
  Program.gather gone report (settleGoneMessage referenced now)

end AgentFirstMail
