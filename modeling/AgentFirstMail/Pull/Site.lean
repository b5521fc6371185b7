import AgentFirstMail.Cloudflare.Journal
import AgentFirstMail.Effect.Zoom
import AgentFirstMail.Imap.Cursor
import AgentFirstMail.Ingest.Message

namespace AgentFirstMail
open Effect

/-- What a file source keeps of one of its messages, the input itself included. -/
structure ChannelEvidence where
  sourceId : String
  direction : String
  timestampRfc3339 : String
  contentJson : Bytes

/-- What is left for a pull to store; a number below zero would be an underflow. -/
structure PullBudget where
  messages : Int
  bytes : Int

/-- A workspace at its sources: what pulls and the consumer keep on disk, and the index and the
budget that a pull at work holds in memory. -/
structure Site where
  workspace : Workspace
  channelEvidence : Std.ExtTreeMap String ChannelEvidence := ∅
  cursors : PullCursorFile := .missing
  journal : Journal := {}
  batchInputs : Std.ExtTreeMap String (List String) := ∅
  completedMarkers : Std.ExtTreeSet String := ∅
  index : ExistingIndex := {}
  budget : PullBudget := ⟨0, 0⟩

/-- One item of a `FETCH` response to a request for headers. -/
structure HeaderFetch where
  uid : Option Nat
  hasHeader : Bool := true
  flags : List String := []
  size : Option Nat := none

/-- One item of a `FETCH` response to a request for sizes. -/
structure SizeFetch where
  uid : Option Nat
  size : Option Nat := none

inductive BodyFetchMode where
  | boundedPartial | compatibilityFull

/-- An object as R2 lists it. -/
structure R2Object where
  key : String
  sizeBytes : Nat

structure R2Page where
  objects : List R2Object
  continuation : Option String := none

structure R2Download where
  raw : Bytes
  delivery : DeliveryEnvelope := {}
  quotaManaged : Bool := false

/-- What an event of the queue tells of an object. -/
structure R2Event where
  account : String
  action : String
  bucket : String
  object : R2Object

/-- A lease on a queue message, with the event it carries when that can be read. -/
structure QueueMessage where
  leaseId : String
  event : Result R2Event

/-- What the sources, the queue and the clock are asked. -/
inductive PullRequest where
  | listMailboxes
  | probePartialFetch (mailbox : String)
  | examine (mailbox : String)
  | uidSearch (mailbox : String) (query : UidQuery)
  | fetchHeaders (mailbox : String) (uids : List Nat)
  | fetchSizes (mailbox : String) (uids : List Nat)
  | fetchBody (mailbox : String) (mode : BodyFetchMode) (uid : Nat)
  | reconcileRemoteMissing (mailboxes : List String)
  | listFileInbox (sourceId : String)
  | readFileInput (path : String)
  | linkEvidence (messageId : String)
  | syncEvidence (messageId : String)
  | listObjects (bucketPrefix : String) (continuation : Option String)
  | getObject (key : String)
  | copyObject (key target : String)
  | deleteObject (key : String)
  | acknowledgeSpool (key : String) (archiveKey : Option String)
  | pullQueue
  | settleQueue (acks retries : List String)
  | renderRefresh
  | epochSeconds

/-- What is replied when nothing fails: an object may be gone by the time it is asked for, a
message by the time its body is fetched, and the reconciliation of the folders answers with the
locations it found changed. -/
def PullRequest.Reply : PullRequest → Type
  | listMailboxes => List MailboxInfo
  | probePartialFetch _ => Unit
  | examine _ => Option Nat
  | uidSearch _ _ => List Nat
  | fetchHeaders _ _ => List HeaderFetch
  | fetchSizes _ _ => List SizeFetch
  | fetchBody _ _ _ => Option (List String × Bytes)
  | reconcileRemoteMissing _ => List (String × List RemoteLocation)
  | listFileInbox _ => List String
  | readFileInput _ => Bytes
  | linkEvidence _ => Unit
  | syncEvidence _ => Unit
  | listObjects _ _ => R2Page
  | getObject _ => Option R2Download
  | copyObject _ _ => Unit
  | deleteObject _ => Unit
  | acknowledgeSpool _ _ => Unit
  | pullQueue => List QueueMessage
  | settleQueue _ _ => Unit
  | renderRefresh => Unit
  | epochSeconds => Int

abbrev Pull (α : Type) := Program Site PullRequest PullRequest.Reply AppError α
abbrev PullEvent := Event Site PullRequest PullRequest.Reply AppError

/-- What is known of the requests so far and of the site. -/
abbrev SiteFact := Assertion Site PullRequest PullRequest.Reply AppError

/-- What a pull may store, and how far back it looks. -/
structure PullOptions where
  sinceDays : Option Nat := none
  maxNewMessages : Nat := 500
  maxTotalBytes : Nat := 512 * 1024 * 1024
  allHistory : Bool := false

def defaultInitialSinceDays : Nat := 90

def PullOptions.effectiveSinceDays (options : PullOptions) : Option Nat :=
  if options.allHistory then none else some (options.sinceDays.getD defaultInitialSinceDays)

/-- What pulls use of code outside the model; `triageView` renders the view of a message in
triage, whose template is the workspace's own. -/
structure PullHost where
  parser : MailParser
  blake3 : Blake3
  triageView : Bytes → Result Unit
  timezoneOffset : Int
  now : String

namespace Site

/-- The part of a site that ingestion works on. -/
def ingestion : Part Site IngestState where
  get site := { workspace := site.workspace, index := site.index }
  put site state := { site with workspace := state.workspace, index := state.index }
  get_put _ _ := rfl
  put_get _ := rfl
  put_put _ _ _ := rfl

end Site

/-- Keeps the first of neighbours with one key. -/
def dedupByKeyFrom [DecidableEq β] (key : α → β) (first : α) : List α → List α
  | [] => [first]
  | next :: rest =>
    if key first = key next then dedupByKeyFrom key first rest
    else first :: dedupByKeyFrom key next rest

def dedupByKey [DecidableEq β] (key : α → β) : List α → List α
  | [] => []
  | first :: rest => dedupByKeyFrom key first rest

namespace Pull

def read : Pull Site := Program.read

def write (change : Site → Site) : Pull Unit := Program.write change

def writeWorkspace (change : Workspace → Workspace) : Pull Unit :=
  Program.write fun site => { site with workspace := change site.workspace }

def ingest (program : Ingest α) : Pull α := program.zoom Site.ingestion

/-- Charges messages and bytes to the budget; what is negative is given back. -/
def charge (messages bytes : Int) : Pull Unit :=
  Program.write fun site =>
    { site with budget := ⟨site.budget.messages - messages, site.budget.bytes - bytes⟩ }

/-- The budget that a source may use up. -/
def setBudget (options : PullOptions) : Pull Unit :=
  Program.write fun site =>
    { site with budget := ⟨options.maxNewMessages, options.maxTotalBytes⟩ }

/-- Loads what the source at work knows of the stored messages. -/
def loadIndex (parser : MailParser) : Pull Unit := do
  let site ← Program.read
  let index ← Program.ofExcept (site.workspace.loadExistingRemoteIndex parser)
  Program.write fun site => { site with index }

/-- What the sources so far have left of the budget. -/
def remaining (options : PullOptions) : Pull PullOptions := do
  let site ← Program.read
  return { options with
    maxNewMessages := site.budget.messages.toNat
    maxTotalBytes := site.budget.bytes.toNat }

/-- The clock, which always answers. -/
def epochSeconds : Pull Int := do
  let reply ← Program.ask PullRequest.epochSeconds
  let seconds : Option Int := reply.toOption
  return seconds.getD 0

end Pull
end AgentFirstMail
