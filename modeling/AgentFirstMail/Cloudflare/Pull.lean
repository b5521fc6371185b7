import AgentFirstMail.Imap.Session

namespace AgentFirstMail
open Effect

/-- How many pages of a listing are waited for. -/
abbrev PageLimit := Nat

def cloudflareR2Failed (message : String) : AppError :=
  { errorCode := "cloudflare_r2_failed", message }

def spoolControlMissing : AppError :=
  { errorCode := "config_missing"
    message := "quota-managed objects require cloudflare.spool.control_url and " ++
      "cloudflare.spool.token_secret for acknowledgement" }

namespace Journal

/-- The only save point; what nothing can consult any more is dropped with it. -/
def save (journal : Journal) : Pull Journal := do
  let now ← Pull.epochSeconds
  let pruned := journal.prune now
  Pull.write fun site => { site with journal := pruned }
  return pruned

/-- The journal as it is read: it must hold a valid batch. -/
def load : Pull Journal := do
  let site ← Pull.read
  Program.ofExcept site.journal.validateActive
  return site.journal

/-- Saves a journal that something was changed in. -/
def saveIfChanged (journal : Journal) : Option Journal → Pull Journal
  | none => return journal
  | some changed => changed.save

/-- Records the intent to notify of new bytes, before they are stored. -/
def prepare (host : PullHost) (journal : Journal) (raw : Bytes) : Pull (Journal × Bool) := do
  let site ← Pull.read
  match journal.prepared? host.parser host.timezoneOffset site.index raw with
  | none => return (journal, false)
  | some prepared =>
    let saved ← prepared.save
    return (saved, true)

def withdraw (journal : Journal) (contentKey : String) : Pull Journal :=
  journal.saveIfChanged (journal.withdrawn? contentKey)

def recordImported (journal : Journal) (objectId : String) (receipt : Receipt) : Pull Journal :=
  (journal.imported objectId receipt).save

def clean (journal : Journal) (objectId : String) : Pull Journal :=
  journal.saveIfChanged (journal.cleaned? objectId)

end Journal

/-- What a pull from R2 has done so far; the journal is there when imports are followed up. -/
structure R2Tally where
  journal : Option Journal
  newMessageIds : List String := []
  storedNewMessageBytes : Nat := 0
  mergedCount : Nat := 0
  cleanedCount : Nat := 0
  skipped : List (String × String × Nat) := []
  warnings : List (String × AppError) := []

namespace R2Tally

def skip (tally : R2Tally) (key reason : String) (sizeBytes : Nat) : R2Tally :=
  { tally with skipped := tally.skipped ++ [(key, reason, sizeBytes)] }

def warn (tally : R2Tally) (key : String) (error : AppError) : R2Tally :=
  { tally with warnings := tally.warnings ++ [(key, error)] }

end R2Tally

def hasPrefix (start text : String) : Bool := start.toList.isPrefixOf text.toList

/-- The key an object is kept under once it is imported. -/
def CloudflareSection.archiveKey (source : CloudflareSection) (key : String) : Option String :=
  source.r2.importedPrefix.map fun imported =>
    String.ofList (imported.toList ++
      if hasPrefix source.r2.bucketPrefix key then
        key.toList.drop source.r2.bucketPrefix.toList.length
      else [])

/-- Why an object is left in R2 without a download. -/
def CloudflareSection.skipReason (source : CloudflareSection) (budget : PullBudget)
    (object : R2Object) : Option String :=
  if !hasPrefix source.r2.bucketPrefix object.key then some "outside_prefix"
  else if maxMessageBytes < object.sizeBytes then some "message_too_large"
  else if budget.messages = 0 then some "message_count_budget_exceeded"
  else if budget.bytes < object.sizeBytes then some "total_bytes_budget_exceeded"
  else none

/-- The pages of a listing after a continuation token, none of which may come twice. -/
def listObjectsFrom (bucketPrefix : String) :
    PageLimit → Option String → List String → Pull (List R2Object)
  | 0, _, _ => throw (cloudflareR2Failed "R2 list failed")
  | limit + 1, continuation, tokens => do
    let page : R2Page ← Program.perform (PullRequest.listObjects bucketPrefix continuation)
    match page.continuation with
    | none => return page.objects
    | some token =>
      if token ∈ tokens then
        throw (cloudflareR2Failed "R2 list returned a repeated continuation token")
      else
        let rest ← listObjectsFrom bucketPrefix limit (some token) (token :: tokens)
        return page.objects ++ rest

/-- Takes an object out of the spool, through its control service when there is one. -/
def acknowledge (source : CloudflareSection) (key : String) (archiveKey : Option String)
    (quotaManaged : Bool) : Pull Unit :=
  match source.controlUrl with
  | some _ => Program.perform (PullRequest.acknowledgeSpool key archiveKey)
  | none =>
    if quotaManaged then throw spoolControlMissing
    else
      match archiveKey with
      | none => Program.perform (PullRequest.deleteObject key)
      | some target => do
        let _ ← Program.perform (PullRequest.copyObject key target)
        Program.perform (PullRequest.deleteObject key)

def downloadedMessage (source : CloudflareSection) (download : R2Download) : IngestMessage where
  rawEml := download.raw
  delivery := some download.delivery
  importAs := source.importAs
  direction := source.direction

def prepareTask (host : PullHost) (raw : Bytes) : Option Journal → Pull (Option Journal × Bool)
  | none => return (none, false)
  | some journal => do
    let (journal, prepared) ← journal.prepare host raw
    return (some journal, prepared)

/-- The object stays in R2 for a later pull; its intent is withdrawn. -/
def withdrawTask (contentKey : String) (prepared : Bool) : Option Journal → Pull (Option Journal)
  | none => return none
  | some journal => do
    if prepared then
      let journal ← journal.withdraw contentKey
      return some journal
    else return some journal

def recordImport (objectId : String) (receipt : Int → Receipt) :
    Option Journal → Pull (Option Journal)
  | none => return none
  | some journal => do
    let now ← Pull.epochSeconds
    let journal ← journal.recordImported objectId (receipt now)
    return some journal

def recordCleanup (objectId : String) : Option Journal → Pull (Option Journal)
  | none => return none
  | some journal => do
    let journal ← journal.clean objectId
    return some journal

/-- Only new messages are charged. -/
def chargeOutcome (size : Nat) (tally : R2Tally) : IngestOutcome → Pull R2Tally
  | .merged _ _ => return { tally with mergedCount := tally.mergedCount + 1 }
  | .stored messageId _ => do
    Pull.charge 1 size
    return { tally with
      newMessageIds := tally.newMessageIds ++ [messageId]
      storedNewMessageBytes := tally.storedNewMessageBytes + size }

/-- A failed cleanup leaves a warning: the receipt says what is left to be done. -/
def cleanupObject (host : PullHost) (source : CloudflareSection) (key : String)
    (quotaManaged : Bool) (tally : R2Tally) : Pull R2Tally := do
  let cleanup ← (acknowledge source key (source.archiveKey key) quotaManaged).attempt
  match cleanup with
  | .error error => return tally.warn key error
  | .ok _ =>
    let journal ← recordCleanup (source.objectId host.blake3 key) tally.journal
    return { tally with journal, cleanedCount := tally.cleanedCount + 1 }

/-- What follows the ingestion of an object: its receipt, its charge and its cleanup. -/
def concludeImport (host : PullHost) (source : CloudflareSection) (key : String)
    (download : R2Download) (tally : R2Tally) (outcome : IngestOutcome) : Pull R2Tally := do
  let receipt (now : Int) : Receipt :=
    { messageId := outcome.messageId, importedEpochS := now
      contentKey := host.parser.messageContentKey download.raw
      quotaManaged := download.quotaManaged, archiveKey := source.archiveKey key
      cleanupComplete := false }
  let journal ← recordImport (source.objectId host.blake3 key) receipt tally.journal
  let tally ← chargeOutcome download.raw.length { tally with journal } outcome
  cleanupObject host source key download.quotaManaged tally

/-- A failure of the local store concerns every object; any other one only this object. -/
def refuseImport (host : PullHost) (key : String) (raw : Bytes) (prepared : Bool)
    (tally : R2Tally) (error : AppError) : Pull R2Tally := do
  if error.errorCode = "store_error" then throw error
  else
    let journal ← withdrawTask (host.parser.messageContentKey raw) prepared tally.journal
    return ({ tally with journal } : R2Tally).warn key error

def importDownload (host : PullHost) (source : CloudflareSection) (key : String)
    (tally : R2Tally) (download : R2Download) : Pull R2Tally := do
  let (journal, prepared) ← prepareTask host download.raw tally.journal
  let outcome ← (ingestPulled host (downloadedMessage source download)).attempt
  match outcome with
  | .error error => refuseImport host key download.raw prepared { tally with journal } error
  | .ok outcome => concludeImport host source key download { tally with journal } outcome

def objectMissing (key : String) : AppError := cloudflareR2Failed s!"R2 get failed: {key}"

def importObject (host : PullHost) (source : CloudflareSection) (tally : R2Tally)
    (object : R2Object) : Pull R2Tally := do
  let site ← Pull.read
  match source.skipReason site.budget object with
  | some reason => return tally.skip object.key reason object.sizeBytes
  | none =>
    let downloaded : Except AppError (Option R2Download) ←
      Program.ask (PullRequest.getObject object.key)
    match downloaded with
    | .error error =>
      if error.errorCode = "message_too_large" then
        return tally.skip object.key "message_too_large" object.sizeBytes
      else throw error
    | .ok none => return tally.warn object.key (objectMissing object.key)
    | .ok (some download) =>
      if site.budget.bytes < download.raw.length then
        return tally.skip object.key "total_bytes_budget_exceeded" download.raw.length
      else importDownload host source object.key tally download

def loadJournal? (source : CloudflareSection) : Pull (Option Journal) := do
  if source.journalEnabled then
    let journal ← Journal.load
    return some journal
  else return none

def selectObjects (source : CloudflareSection) (pages : PageLimit) :
    Option (List R2Object) → Pull (List R2Object)
  | some selected => return selected
  | none => listObjectsFrom source.r2.bucketPrefix pages none []

/-- Pulls the given objects, or all that are listed, in the order of their keys. -/
def pullObjects (host : PullHost) (source : CloudflareSection) (options : PullOptions)
    (pages : PageLimit) (selected : Option (List R2Object)) : Pull R2Tally := do
  let objects ← selectObjects source pages selected
  let objects := dedupByKey (·.key) (objects.insertionSort (·.key ≤ ·.key))
  Pull.setBudget options
  Pull.loadIndex host.parser
  let journal ← loadJournal? source
  let tally ← Program.gather objects { journal } (importObject host source)
  let _ ← Program.perform PullRequest.renderRefresh
  return tally

end AgentFirstMail
