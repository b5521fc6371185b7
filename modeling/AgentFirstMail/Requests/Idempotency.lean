import AgentFirstMail.Store.Process

namespace AgentFirstMail
open Effect
variable {ι δ τ α : Type}

/-- The record of a request, with the digest `δ` of its input. Its result is a JSON value other
than `null`, which is read back as no result and which no guarded operation answers. -/
structure IdempotencyRecord (δ α : Type) where
  schemaName : String
  schemaVersion : Nat
  requestId : String
  command : String
  inputHash : δ
  status : String
  createdRfc3339 : String
  updatedRfc3339 : String
  result : Option α

/-- The records under `.afmail/requests`, by request id. -/
abbrev RequestRecords (δ α : Type) := Std.ExtTreeMap String (IdempotencyRecord δ α)

structure IdempotentRequest (ι : Type) where
  requestId : String
  command : String
  input : ι

/-- What the guard asks for: whether there is a workspace, the check of a new request, and the
operation, which is given what the check prepared. -/
inductive GuardCall (ι τ : Type) where
  | requireWorkspace
  | precheck (request : IdempotentRequest ι)
  | operation (request : IdempotentRequest ι) (prepared : τ)

abbrev GuardCall.Reply (α : Type) : GuardCall ι τ → Type
  | requireWorkspace => Unit
  | precheck _ => τ
  | operation .. => α

/-- A program over the records; everything else that an operation writes is its own. -/
abbrev Guarded (ι δ τ α β : Type) :=
  Program (RequestRecords δ α) (GuardCall ι τ) (GuardCall.Reply α) AppError β

/-- Runs a part that is not the guard's own. -/
def performCall (call : GuardCall ι τ) : Guarded ι δ τ α (call.Reply α) := Program.perform call

abbrev GuardEvent (ι δ τ α : Type) :=
  Event (RequestRecords δ α) (GuardCall ι τ) (GuardCall.Reply α) AppError

def idempotencyRecordInvalid (message : String) : AppError :=
  { errorCode := "idempotency_record_invalid", message }

def idempotencyRecordPath (requestId : String) : String := s!".afmail/requests/{requestId}.json"

def idempotencyConflict (requestId : String) : AppError :=
  { errorCode := "idempotency_conflict"
    message := s!"request id {requestId} was already used with different input"
    details := some {} }

def idempotencyIncomplete (requestId : String) : AppError :=
  { errorCode := "idempotency_incomplete"
    message := s!"request id {requestId} has an incomplete prior attempt"
    details := some {} }

/-- What a request that has a record is answered. -/
def answerFromRecord [DecidableEq δ] (request : IdempotentRequest ι) (inputHash : δ)
    (record : IdempotencyRecord δ α) : Result α :=
  if record.schemaName ≠ "idempotency_request" ∨ record.schemaVersion ≠ 1 then
    .error (idempotencyRecordInvalid
      s!"invalid idempotency record schema: {idempotencyRecordPath request.requestId}")
  else if record.command ≠ request.command ∨ record.inputHash ≠ inputHash then
    .error (idempotencyConflict request.requestId)
  else if record.status = "completed" then
    match record.result with
    | some result => .ok result
    | none => .error (idempotencyRecordInvalid
        s!"completed idempotency record has no result: {request.requestId}")
  else .error (idempotencyIncomplete request.requestId)

def pendingRecord (host : Host) (request : IdempotentRequest ι) (inputHash : δ) :
    IdempotencyRecord δ α where
  schemaName := "idempotency_request"
  schemaVersion := 1
  requestId := request.requestId
  command := request.command
  inputHash := inputHash
  status := "pending"
  createdRfc3339 := host.now
  updatedRfc3339 := host.now
  result := none

def completedRecord (host : Host) (request : IdempotentRequest ι) (inputHash : δ) (result : α) :
    IdempotencyRecord δ α where
  schemaName := "idempotency_request"
  schemaVersion := 1
  requestId := request.requestId
  command := request.command
  inputHash := inputHash
  status := "completed"
  createdRfc3339 := host.now
  updatedRfc3339 := host.now
  result := some result

/-- A new request: checked, recorded as pending, run and recorded with its result. -/
def runNewRequest (host : Host) (request : IdempotentRequest ι) (inputHash : δ) :
    Guarded ι δ τ α α := do
  let prepared ← performCall (.precheck request)
  Program.write (·.insert request.requestId (pendingRecord host request inputHash))
  let result ← performCall (.operation request prepared)
  Program.write (·.insert request.requestId (completedRecord host request inputHash result))
  return result

/-- Answers a request from its record, before anything is checked, or runs a new one. -/
def runIdempotentRequestWithPrecheck [DecidableEq δ] (host : Host) (fingerprint : String → ι → δ)
    (request : IdempotentRequest ι) : Guarded ι δ τ α α := do
  performCall .requireWorkspace
  Program.ofExcept (validateId host "request_id" request.requestId)
  Program.ofExcept (validateId host "idempotency command" request.command)
  let inputHash := fingerprint request.command request.input
  let records ← Program.read
  match records[request.requestId]? with
  | some record => Program.ofExcept (answerFromRecord request inputHash record)
  | none => runNewRequest host request inputHash

/-- The same host at another time. -/
def Host.at (host : Host) (now : String) : Host := { host with now }

/-- A request of any kind, run to its end or cut off; the clock may show anything. -/
inductive RequestSession [DecidableEq δ] (host : Host) (fingerprint : String → ι → δ) :
    RequestRecords δ α → List (GuardEvent ι δ τ α) → RequestRecords δ α → Prop
  | run (now : String) (request : IdempotentRequest ι) (outcome : Outcome AppError α) :
      Exec (runIdempotentRequestWithPrecheck (host.at now) fingerprint request) records events
        outcome records' → RequestSession host fingerprint records events records'

end AgentFirstMail
