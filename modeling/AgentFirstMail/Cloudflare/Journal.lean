import AgentFirstMail.Data.Json
import AgentFirstMail.Ingest.Identity

namespace AgentFirstMail

structure R2Section where
  bucket : Option String := none
  bucketPrefix : String := "inbox/"
  importedPrefix : Option String := none
  endpointUrl : Option String := none

structure CloudflareQueueSection where
  queueId : Option String := none
  batchSize : Nat := 20

structure ConsumerSection where
  command : List String := []
  commandTimeoutS : Nat := 300
  retryDelayS : Nat := 60

structure CloudflareSection where
  accountId : Option String := none
  controlUrl : Option String := none
  r2 : R2Section := {}
  queue : CloudflareQueueSection := {}
  consumer : ConsumerSection := {}
  importAs : PullImportAs := .triage
  direction : MailDirection := .inbound

/-- The digests of the consumer; both are 32 bytes long. -/
structure Blake3 where
  ofJson : Json → Bytes
  ofScope : Option String → Option String → Option String → String → Bytes
  length_ofJson : ∀ json, (ofJson json).length = 32
  length_ofScope : ∀ account endpoint bucket key, (ofScope account endpoint bucket key).length = 32

/-- Evidence that an object was imported. -/
structure Receipt where
  messageId : String
  importedEpochS : Int
  contentKey : String
  quotaManaged : Bool
  archiveKey : Option String
  cleanupComplete : Bool

inductive TaskStatus where
  | preparing | pending | completed
deriving DecidableEq

/-- A notification that the handler owes a message. -/
structure JournalTask where
  messageId : String
  status : TaskStatus

structure Batch where
  taskId : String
  contentKeys : List String
  retryAfterEpochS : Int := 0
  attemptCount : Nat := 0
  lastAttemptRfc3339 : Option String := none
  lastErrorCode : Option String := none
  lastExitCode : Option Int := none
deriving DecidableEq

structure Journal where
  receipts : Std.ExtTreeMap String Receipt := ∅
  tasks : Std.ExtTreeMap String JournalTask := ∅
  active : Option Batch := none

def receiptRetentionS : Int := (14 + 1) * 86400

namespace CloudflareSection

/-- Whether imports are followed up by a consumer. -/
def journalEnabled (source : CloudflareSection) : Bool :=
  source.queue.queueId.isSome || !source.consumer.command.isEmpty

def objectId (source : CloudflareSection) (blake3 : Blake3) (key : String) : String :=
  String.ofList (Text.hex
    (blake3.ofScope source.accountId source.r2.endpointUrl source.r2.bucket key))

end CloudflareSection

/-- The id of the batch of these tasks. -/
def batchTaskId (blake3 : Blake3) (keys : List String) : String :=
  String.ofList ("mail_".toList ++ Text.hex (blake3.ofJson (ToJson.toJson keys)))

def isSafeTaskIdChar (c : Char) : Bool := Text.isAsciiAlphanumeric c || c == '_' || c == '-'

def isSafeTaskId (taskId : String) : Bool :=
  "mail_".toList.isPrefixOf taskId.toList && taskId.toList.length ≤ 128 &&
    taskId.toList.all isSafeTaskIdChar

def journalInvalid : AppError :=
  { errorCode := "consumer_journal_invalid"
    message :=
      "Active consumer batch must have a safe task id and distinct pending notification tasks" }

namespace Journal
variable (journal : Journal)

def isPending (key : String) : Bool := journal.tasks[key]?.any (·.status == .pending)

/-- What is asked of a journal each time it is read. -/
def validateActive : Result Unit :=
  match journal.active with
  | none => .ok ()
  | some active =>
    ensure (isSafeTaskId active.taskId && !active.contentKeys.isEmpty &&
      decide active.contentKeys.Nodup && active.contentKeys.all journal.isPending) journalInvalid

/-- Drops what nothing can consult any more. -/
def prune (nowEpochS : Int) : Journal :=
  { journal with
    tasks := journal.tasks.filter fun _ task => task.status != .completed
    receipts := journal.receipts.filter fun _ receipt =>
      !receipt.cleanupComplete || nowEpochS - receipt.importedEpochS < receiptRetentionS }

/-- The journal with the intent to notify of new bytes; none when there is nothing to prepare. -/
def prepared? (parser : MailParser) (offset : Int) (index : ExistingIndex) (raw : Bytes) :
    Option Journal :=
  let contentKey := parser.messageContentKey raw
  if contentKey ∉ index.contentIds ∧ contentKey ∉ journal.tasks then
    some { journal with
      tasks := journal.tasks.insert contentKey ⟨parser.stableMessageId raw offset, .preparing⟩ }
  else none

def withdrawn? (contentKey : String) : Option Journal :=
  if journal.tasks[contentKey]?.any (·.status == .preparing) then
    some { journal with tasks := journal.tasks.erase contentKey }
  else none

/-- Makes a prepared task ready and records where its message came from. -/
def imported (objectId : String) (receipt : Receipt) : Journal :=
  { journal with
    tasks :=
      if journal.tasks[receipt.contentKey]?.any (·.status == .preparing) then
        journal.tasks.insert receipt.contentKey ⟨receipt.messageId, .pending⟩
      else journal.tasks
    receipts := journal.receipts.insert objectId receipt }

def cleaned? (objectId : String) : Option Journal :=
  journal.receipts[objectId]?.map fun receipt =>
    { journal with
      receipts := journal.receipts.insert objectId { receipt with cleanupComplete := true } }

/-- Completes the tasks of the active batch, whose marker was found. -/
def completeActive : Journal :=
  match journal.active with
  | none => journal
  | some active =>
    { journal with
      tasks := active.contentKeys.foldl
        (fun tasks key => tasks.alter key fun task => task.map ({ · with status := .completed }))
        journal.tasks
      active := none }

end Journal

variable {journal : Journal} {key : String}

theorem Journal.isPending_iff :
    journal.isPending key = true ↔ ∃ task, journal.tasks[key]? = some task ∧ task.status = .pending := by
  unfold isPending
  rw [Option.any_eq_true]
  constructor
  · rintro ⟨task, htask, hstatus⟩
    exact ⟨task, htask, beq_iff_eq.mp hstatus⟩
  · rintro ⟨task, htask, hstatus⟩
    exact ⟨task, htask, beq_iff_eq.mpr hstatus⟩

/-- A batch that a journal may hold: its tasks are pending, and each is in it once. -/
structure Journal.Holds (journal : Journal) (batch : Batch) : Prop where
  safe : isSafeTaskId batch.taskId = true
  nonempty : batch.contentKeys ≠ []
  nodup : batch.contentKeys.Nodup
  pending : ∀ key ∈ batch.contentKeys, journal.isPending key = true

theorem Journal.validateActive_eq_ok_iff :
    journal.validateActive = .ok () ↔ ∀ batch, journal.active = some batch → journal.Holds batch := by
  unfold validateActive
  cases hactive : journal.active with
  | none =>
    constructor
    · intro _ batch hbatch
      cases hbatch
    · intro _
      rfl
  | some active =>
    simp only [ensure_eq_ok_iff, Bool.and_eq_true, Bool.not_eq_true', List.isEmpty_eq_false_iff,
      decide_eq_true_eq, List.all_eq_true]
    constructor
    · rintro ⟨⟨⟨hsafe, hnonempty⟩, hnodup⟩, hpending⟩ batch hbatch
      cases hbatch
      exact ⟨hsafe, hnonempty, hnodup, hpending⟩
    · intro h
      obtain ⟨hsafe, hnonempty, hnodup, hpending⟩ := h active rfl
      exact ⟨⟨⟨hsafe, hnonempty⟩, hnodup⟩, hpending⟩

end AgentFirstMail
