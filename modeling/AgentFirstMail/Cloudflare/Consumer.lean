import AgentFirstMail.Cloudflare.Pull

namespace AgentFirstMail
open Effect

def receiptIdentityMismatch : AppError :=
  { errorCode := "consumer_journal_invalid", message := "receipt message identity mismatch" }

def managedCleanupUncontrolled : AppError :=
  { errorCode := "config_missing"
    message := "managed spool cleanup requires cloudflare.spool.control_url" }

def archiveConflict : AppError :=
  { errorCode := "cloudflare_archive_conflict"
    message := "archive destination does not match the imported mail receipt" }

def eventRejected : AppError :=
  { errorCode := "cloudflare_event_rejected"
    message := "Queue event does not match the configured account, bucket, pending prefix, " ++
      "and create actions" }

def importPending : AppError :=
  { errorCode := "cloudflare_import_pending"
    message := "mail import or spool cleanup remains pending"
    retryable := true }

/-- The copy of an object under its archive key, made unless it is there. -/
def ensureArchived (host : PullHost) (key contentKey : String) : Option String → Pull Unit
  | none => return ()
  | some target => do
    let archived : Except AppError (Option R2Download) ← Program.ask (PullRequest.getObject target)
    match archived with
    | .error error => throw error
    | .ok none => Program.perform (PullRequest.copyObject key target)
    | .ok (some download) =>
      Program.ofExcept
        (ensure (host.parser.messageContentKey download.raw == contentKey) archiveConflict)

/-- Takes an imported object out of the spool, as its receipt says. -/
def acknowledgeReceipt (host : PullHost) (source : CloudflareSection) (key : String)
    (receipt : Receipt) : Pull Unit :=
  match source.controlUrl with
  | some _ => Program.perform (PullRequest.acknowledgeSpool key receipt.archiveKey)
  | none =>
    if receipt.quotaManaged then throw managedCleanupUncontrolled
    else do
      ensureArchived host key receipt.contentKey receipt.archiveKey
      Program.perform (PullRequest.deleteObject key)

/-- Whether an object was imported already: what its receipt leaves to be done is done. -/
def recoverReceipt (host : PullHost) (source : CloudflareSection) (key objectId : String) :
    Pull Bool := do
  let journal ← Journal.load
  match journal.receipts[objectId]? with
  | none => return false
  | some receipt =>
    if receipt.cleanupComplete then return true
    else
      let site ← Pull.read
      let message ← Program.ofExcept (site.workspace.readMessageById receipt.messageId)
      Program.ofExcept (ensure (message.messageId == receipt.messageId) receiptIdentityMismatch)
      acknowledgeReceipt host source key receipt
      let _ ← journal.clean objectId
      return true

def createActions : List String := ["PutObject", "CopyObject", "CompleteMultipartUpload"]

def CloudflareSection.accepts (source : CloudflareSection) (event : R2Event) : Bool :=
  event.account == source.accountId.getD "" && source.r2.bucket == some event.bucket &&
    hasPrefix source.r2.bucketPrefix event.object.key && createActions.contains event.action

/-- What a consumer has done with the events it leased. -/
structure ConsumeTally where
  budget : PullOptions := {}
  acks : List String := []
  retries : List String := []
  importedCount : Nat := 0
  reconciled : Bool := false
  warnings : List AppError := []

namespace ConsumeTally

def ack (tally : ConsumeTally) (leaseId : String) : ConsumeTally :=
  { tally with acks := tally.acks ++ [leaseId] }

def retry (tally : ConsumeTally) (leaseId : String) (error : AppError) : ConsumeTally :=
  { tally with retries := tally.retries ++ [leaseId], warnings := tally.warnings ++ [error] }

def imported (tally : ConsumeTally) (pulled : R2Tally) (left : PullOptions) : ConsumeTally :=
  { tally with
    budget := left
    importedCount := tally.importedCount + pulled.newMessageIds.length
    warnings := tally.warnings ++ pulled.warnings.map (·.2) }

end ConsumeTally

/-- An object that an event tells of is pulled, unless it was imported before; what is left of
the budget. -/
def importEvent (host : PullHost) (source : CloudflareSection) (budget : PullOptions)
    (event : Result R2Event) : Pull (Option (R2Tally × PullOptions)) := do
  let event ← Program.ofExcept event
  Program.ofExcept (ensure (source.accepts event) eventRejected)
  let recovered ← recoverReceipt host source event.object.key
    (source.objectId host.blake3 event.object.key)
  if recovered then return none
  else
    let tally ← pullObjects host source budget 0 (some [event.object])
    let left ← Pull.remaining budget
    return some (tally, left)

def ensureCleaned (objectId : String) : Pull Unit := do
  let journal ← Journal.load
  Program.ofExcept (ensure (journal.receipts[objectId]?.any (·.cleanupComplete)) importPending)

/-- One leased event: it is acknowledged once its object is imported and cleaned up. -/
def serveMessage (host : PullHost) (source : CloudflareSection) (tally : ConsumeTally)
    (message : QueueMessage) : Pull ConsumeTally := do
  let imported ← (importEvent host source tally.budget message.event).attempt
  match imported with
  | .error error => return tally.retry message.leaseId error
  | .ok none => return tally.ack message.leaseId
  | .ok (some (pulled, left)) =>
    let tally := tally.imported pulled left
    let cleaned ← (do
      let event ← Program.ofExcept message.event
      ensureCleaned (source.objectId host.blake3 event.object.key)).attempt
    match cleaned with
    | .error error => return tally.retry message.leaseId error
    | .ok _ => return tally.ack message.leaseId

def reconcileObjects (host : PullHost) (source : CloudflareSection) (pages : PageLimit)
    (tally : ConsumeTally) : Pull ConsumeTally := do
  let pulled ← (pullObjects host source tally.budget pages none).attempt
  match pulled with
  | .error error => return { tally with warnings := tally.warnings ++ [error] }
  | .ok pulled => return { tally.imported pulled tally.budget with reconciled := true }

/-- The part of a consumer's tick that holds the workspace: a queue that is out does not keep
it from reconciling. -/
def receiveEvents (host : PullHost) (source : CloudflareSection) (pages : PageLimit)
    (reconcile : Bool) : Pull ConsumeTally := do
  let leased : Except AppError (List QueueMessage) ← Program.ask PullRequest.pullQueue
  let tally ← match leased with
    | .error error => pure { warnings := [error] }
    | .ok messages => Program.gather messages {} (serveMessage host source)
  if reconcile then reconcileObjects host source pages tally
  else return tally

namespace Journal

/-- Folds a durable completion marker into the journal. -/
def applyCompleted (journal : Journal) : Pull (Journal × Bool) := do
  Program.ofExcept journal.validateActive
  let site ← Pull.read
  match journal.active with
  | none => return (journal, false)
  | some active =>
    if active.taskId ∈ site.completedMarkers then return (journal.completeActive, true)
    else return (journal, false)

/-- Whether a marker is of a batch that is not active any more. -/
def isStale (journal : Journal) (taskId? : Option String) (marker : String) : Bool :=
  !(journal.active.isSome && taskId? == some marker)

/-- Saves a folded completion and then retires the markers of other batches. -/
def recordCompleted (journal : Journal) : Pull Journal := do
  let taskId? := journal.active.map (·.taskId)
  let (folded, completed) ← journal.applyCompleted
  let folded ← if completed then folded.save else pure folded
  let site ← Pull.read
  Program.forEach (site.completedMarkers.toList.filter (folded.isStale taskId?)) fun marker =>
    Pull.write fun site => { site with completedMarkers := site.completedMarkers.erase marker }
  return folded

end Journal

def consumerMessageMissing : AppError :=
  { errorCode := "consumer_message_missing"
    message := "a pending consumer task refers to a message that no longer exists; the task " ++
      "was dropped" }

/-- Why a message can not be handed to the handler. -/
def Workspace.unavailable? (w : Workspace) (messageId : String) : Option AppError :=
  if (w.record messageId).eml.isNone then some consumerMessageMissing
  else
    match w.readMessageById messageId with
    | .ok _ => none
    | .error error => some { error with
        message := "a pending consumer task refers to an unreadable message; the task was dropped" }

/-- A batch while it is put together. -/
structure BatchDraft where
  journal : Journal
  keys : List String := []
  items : List String := []
  warnings : List AppError := []

/-- A task whose message is gone must never block a batch: it is dropped. -/
def BatchDraft.take (w : Workspace) (draft : BatchDraft) (key : String) : BatchDraft :=
  match draft.journal.tasks[key]? with
  | none => draft
  | some task =>
    match w.unavailable? task.messageId with
    | none => { draft with keys := draft.keys ++ [key], items := draft.items ++ [task.messageId] }
    | some problem => { draft with
        journal := { draft.journal with tasks := draft.journal.tasks.erase key }
        warnings := draft.warnings ++ [problem] }

/-- Tasks are taken as long as there is room for one more. -/
def BatchDraft.takeWithin (w : Workspace) (size : Nat) (draft : BatchDraft) (key : String) :
    BatchDraft :=
  if size ≤ draft.keys.length then draft else draft.take w key

/-- What is left of the active batch. -/
def Journal.resumeBatch (w : Workspace) (journal : Journal) : BatchDraft :=
  match journal.active with
  | none => { journal }
  | some active =>
    let draft := active.contentKeys.foldl (BatchDraft.take w) { journal }
    let rest := if draft.keys.isEmpty then none else some { active with contentKeys := draft.keys }
    { draft with journal := { draft.journal with active := rest } }

/-- A new batch of pending tasks. -/
def BatchDraft.buildBatch (w : Workspace) (blake3 : Blake3) (size : Nat) (draft : BatchDraft) :
    BatchDraft :=
  let pending := draft.journal.tasks.keys.filter draft.journal.isPending
  let built := pending.foldl (BatchDraft.takeWithin w size)
    { draft with keys := [], items := [] }
  if built.keys.isEmpty then built
  else
    { built with journal := { built.journal with
        active := some { taskId := batchTaskId blake3 built.keys, contentKeys := built.keys } } }

def Journal.selectBatch (w : Workspace) (blake3 : Blake3) (size : Nat) (journal : Journal) :
    BatchDraft :=
  let draft := journal.resumeBatch w
  if draft.journal.active.isNone then draft.buildBatch w blake3 size else draft

def Batch.attempted (batch : Batch) (source : CloudflareSection) (now : String)
    (nowEpochS : Int) : Batch :=
  { batch with
    attemptCount := min (batch.attemptCount + 1) maxU64
    lastAttemptRfc3339 := some now
    retryAfterEpochS := nowEpochS + source.consumer.commandTimeoutS + source.consumer.retryDelayS }

/-- Saves the journal if tasks were dropped from it. -/
def Journal.saveDropped (journal selected : Journal) : Pull Unit := do
  if selected.tasks.size ≠ journal.tasks.size then
    let _ ← selected.save
    return ()
  else return ()

/-- Settles on the batch that the handler is to be given; its input is written before the
attempt is recorded. -/
def beginDispatch (host : PullHost) (source : CloudflareSection) : Pull (Option Batch) := do
  if source.consumer.command.isEmpty then return none
  else
    let journal ← Journal.load
    let journal ← journal.recordCompleted
    let site ← Pull.read
    let draft := journal.selectBatch site.workspace host.blake3 source.queue.batchSize
    match draft.journal.active with
    | none => do
      journal.saveDropped draft.journal
      return none
    | some batch => do
      let now ← Pull.epochSeconds
      if now < batch.retryAfterEpochS then
        journal.saveDropped draft.journal
        return none
      else
        Pull.write fun site =>
          { site with batchInputs := site.batchInputs.insert batch.taskId draft.items }
        let now ← Pull.epochSeconds
        let _ ← { draft.journal with
          active := some (batch.attempted source host.now now) : Journal }.save
        return some batch

/-- What a handler that failed leaves to be recorded. -/
structure HandlerFailure where
  errorCode : String
  exitCode : Option Int := none

/-- A failed attempt is retried after the delay; the batch may be another one by then. -/
def recordFailure (source : CloudflareSection) (batch : Batch) (failure : HandlerFailure) :
    Pull Unit := do
  let journal ← Journal.load
  match journal.active with
  | none => return ()
  | some active =>
    if active.taskId = batch.taskId then
      let now ← Pull.epochSeconds
      let _ ← { journal with
        active := some { active with
          lastErrorCode := some failure.errorCode
          lastExitCode := failure.exitCode
          retryAfterEpochS := now + source.consumer.retryDelayS } : Journal }.save
      return ()
    else return ()

/-- A completion is durable from here on. -/
def writeMarker (batch : Batch) : Pull Unit :=
  Pull.write fun site => { site with completedMarkers := site.completedMarkers.insert batch.taskId }

def foldCompleted : Pull Unit := do
  let journal ← Journal.load
  let _ ← journal.recordCompleted
  return ()

end AgentFirstMail
