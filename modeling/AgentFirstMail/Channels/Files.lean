import AgentFirstMail.Imap.Session

namespace AgentFirstMail
open Effect

/-- A configured inbox of files; its path may conflict with another one's. -/
structure FileSource where
  sourceId : String
  conflict : Option AppError := none
  maxMessageBytes : Nat
  maxInputFiles : Nat

/-- What file sources use of code outside the model: the reader of an input, which answers with
the external id of a valid message, the id of an identity, and the size of encoded evidence. -/
structure ChannelHost where
  native : Bytes → Result String
  evidenceId : String → String → String
  encodedLength : ChannelEvidence → Nat

def channelInboxLimit : AppError :=
  { errorCode := "channel_inbox_limit"
    message := "file inbox exceeds max_input_files; retire old producer files before pulling" }

def channelFileInvalid : AppError :=
  { errorCode := "channel_file_invalid"
    message := "channel file must be a bounded regular file; symbolic links are refused" }

def channelMessageConflict : AppError :=
  { errorCode := "channel_message_conflict"
    message := "external message id already belongs to different input bytes" }

/-- What a pull from file sources has done so far. -/
structure FilesTally where
  newMessageIds : List String := []
  candidateCount : Nat := 0
  mergedCount : Nat := 0
  skippedInputs : List (String × String × String × Nat) := []
  warnings : List (String × AppError) := []

namespace FilesTally

def warn (tally : FilesTally) (sourceId : String) (error : AppError) : FilesTally :=
  { tally with warnings := tally.warnings ++ [(sourceId, error)] }

def counted (tally : FilesTally) : FilesTally :=
  { tally with candidateCount := tally.candidateCount + 1 }

def merge (tally : FilesTally) : FilesTally := { tally with mergedCount := tally.mergedCount + 1 }

def skip (tally : FilesTally) (sourceId path reason : String) (sizeBytes : Nat) : FilesTally :=
  { tally with skippedInputs := tally.skippedInputs ++ [(sourceId, path, reason, sizeBytes)] }

def stored (tally : FilesTally) (messageId : String) : FilesTally :=
  { tally with newMessageIds := tally.newMessageIds ++ [messageId] }

end FilesTally

/-- Evidence is linked into place and is visible from then on; only then its directory is synced,
which may fail. -/
def publishEvidence (messageId : String) (evidence : ChannelEvidence) : Pull Unit := do
  Program.perform (PullRequest.linkEvidence messageId)
  Pull.write fun site =>
    { site with channelEvidence := site.channelEvidence.insert messageId evidence }
  Program.perform (PullRequest.syncEvidence messageId)

def persistChannelMetadata (messageId : String) : Pull Unit :=
  Pull.writeWorkspace (·.persistMessageMetadata messageId none none)

/-- Only durable evidence is charged. -/
def storeInput (host : PullHost) (sourceId messageId : String) (raw : Bytes) (tally : FilesTally) :
    Pull FilesTally := do
  persistChannelMetadata messageId
  publishEvidence messageId
    { sourceId, direction := "inbound", timestampRfc3339 := host.now, contentJson := raw }
  Pull.charge 1 raw.length
  persistChannelMetadata messageId
  Pull.writeWorkspace (·.writeMessageMaterializedCache messageId (some "inbound"))
  return tally.stored messageId

/-- The evidence that is there must be of the same input. -/
def ensureSameInput (channel : ChannelHost) (source : FileSource) (raw : Bytes)
    (stored : ChannelEvidence) : Result Unit := do
  ensure (decide (channel.encodedLength stored ≤ source.maxMessageBytes * 6 + 4096))
    channelFileInvalid
  ensure (stored.sourceId == source.sourceId && stored.contentJson == raw) channelMessageConflict

def budgetReason (budget : PullBudget) (sizeBytes : Nat) : Option String :=
  if budget.messages = 0 then some "message_count_budget_exceeded"
  else if budget.bytes < sizeBytes then some "total_bytes_budget_exceeded"
  else none

def readInput (source : FileSource) (path : String) : Pull Bytes := do
  let raw : Bytes ← Program.perform (PullRequest.readFileInput path)
  Program.ofExcept (ensure (decide (raw.length ≤ source.maxMessageBytes)) channelFileInvalid)
  return raw

def pullInput (host : PullHost) (channel : ChannelHost) (source : FileSource)
    (tally : FilesTally) (path : String) : Pull FilesTally := do
  let raw ← readInput source path
  let externalMessageId ← Program.ofExcept (channel.native raw)
  let messageId := channel.evidenceId source.sourceId externalMessageId
  let site ← Pull.read
  match site.channelEvidence[messageId]? with
  | some stored =>
    Program.ofExcept (ensureSameInput channel source raw stored)
    return tally.merge
  | none =>
    match budgetReason site.budget raw.length with
    | some reason => return tally.skip source.sourceId path reason raw.length
    | none => storeInput host source.sourceId messageId raw tally

/-- A problem with one input never fails the pull. -/
def attemptInput (host : PullHost) (channel : ChannelHost) (source : FileSource)
    (tally : FilesTally) (path : String) : Pull FilesTally := do
  let tally := { tally with candidateCount := tally.candidateCount + 1 }
  let pulled ← (pullInput host channel source tally path).attempt
  match pulled with
  | .ok tally => return tally
  | .error error => return tally.warn source.sourceId error

def listInputs (source : FileSource) : Pull (List String) := do
  let paths : List String ← Program.perform (PullRequest.listFileInbox source.sourceId)
  Program.ofExcept (ensure (decide (paths.length ≤ source.maxInputFiles)) channelInboxLimit)
  return paths.insertionSort (· ≤ ·)

def pullFileSource (host : PullHost) (channel : ChannelHost) (tally : FilesTally)
    (source : FileSource) : Pull FilesTally := do
  match source.conflict with
  | some error => return tally.warn source.sourceId error
  | none =>
    let listed ← (listInputs source).attempt
    match listed with
    | .error error => return tally.warn source.sourceId error
    | .ok paths => Program.gather paths tally (attemptInput host channel source)

def pullFiles (host : PullHost) (channel : ChannelHost) (sources : List FileSource)
    (options : PullOptions) : Pull FilesTally := do
  Pull.setBudget options
  let tally ← Program.gather sources {} (pullFileSource host channel)
  let _ ← Program.perform PullRequest.renderRefresh
  return tally

section DryRun

/-- What is done with an input; `store` is for one that is new and within the budget. -/
def receiveInput (channel : ChannelHost) (source : FileSource) (tally : FilesTally)
    (path : String) (store : String → Bytes → Pull FilesTally) : Pull FilesTally := do
  let raw ← readInput source path
  let externalMessageId ← Program.ofExcept (channel.native raw)
  let messageId := channel.evidenceId source.sourceId externalMessageId
  let site ← Pull.read
  match site.channelEvidence[messageId]? with
  | some stored =>
    Program.ofExcept (ensureSameInput channel source raw stored)
    return tally.merge
  | none =>
    match budgetReason site.budget raw.length with
    | some reason => return tally.skip source.sourceId path reason raw.length
    | none => store messageId raw

/-- An input that a dry run finds new is charged and not stored. -/
def countInput (tally : FilesTally) (raw : Bytes) : Pull FilesTally := do
  Pull.charge 1 raw.length
  return tally

def previewInput (channel : ChannelHost) (source : FileSource) (tally : FilesTally)
    (path : String) : Pull FilesTally :=
  receiveInput channel source tally path fun _ raw => countInput tally raw

/-- One input of a source: whatever goes wrong with it is a warning. -/
def attempted (source : FileSource) (pull : FilesTally → Pull FilesTally) (tally : FilesTally) :
    Pull FilesTally := do
  let pulled ← (pull tally.counted).attempt
  match pulled with
  | .ok tally => return tally
  | .error error => return tally.counted.warn source.sourceId error

def previewAttempt (channel : ChannelHost) (source : FileSource) (tally : FilesTally)
    (path : String) : Pull FilesTally :=
  attempted source (previewInput channel source · path) tally

/-- The inputs of a source, in the order of their paths. -/
def eachInput (source : FileSource) (attempt : FilesTally → String → Pull FilesTally)
    (tally : FilesTally) : Pull FilesTally := do
  match source.conflict with
  | some error => return tally.warn source.sourceId error
  | none =>
    let listed ← (listInputs source).attempt
    match listed with
    | .error error => return tally.warn source.sourceId error
    | .ok paths => Program.gather paths tally attempt

def previewFileSource (channel : ChannelHost) (tally : FilesTally) (source : FileSource) :
    Pull FilesTally :=
  eachInput source (previewAttempt channel source) tally

/-- A dry run over the file sources renders nothing. -/
def previewFiles (channel : ChannelHost) (sources : List FileSource) (options : PullOptions) :
    Pull FilesTally := do
  Pull.setBudget options
  Program.gather sources {} (previewFileSource channel)

end DryRun

theorem pullInput_eq (host : PullHost) (channel : ChannelHost) (source : FileSource)
    (tally : FilesTally) (path : String) : pullInput host channel source tally path =
      receiveInput channel source tally path fun messageId raw =>
        storeInput host source.sourceId messageId raw tally := rfl

theorem attemptInput_eq (host : PullHost) (channel : ChannelHost) (source : FileSource)
    (tally : FilesTally) (path : String) : attemptInput host channel source tally path =
      attempted source (pullInput host channel source · path) tally := rfl

theorem pullFileSource_eq (host : PullHost) (channel : ChannelHost) (source : FileSource)
    (tally : FilesTally) : pullFileSource host channel tally source =
      eachInput source (attemptInput host channel source) tally := rfl

end AgentFirstMail
