import Mathlib.Algebra.GroupWithZero.Nat
import AgentFirstMail.Cloudflare.Pull
import AgentFirstMail.Effect.Interleaving

namespace AgentFirstMail.Spool
open Effect

/-! ### Policy -/

inductive SpoolError where
  | limitExceeded
  | thrown (message : String)
deriving DecidableEq

structure PolicyEnv where
  maxMessageBytes : Option String := none
  maxSpoolBytes : Option String := none
  maxSpoolMessages : Option String := none
  rateWindowS : Option String := none
  maxMessagesPerWindow : Option String := none
  archivePrefix : Option String := none

structure Limits where
  maxMessageBytes : Nat
  maxSpoolBytes : Nat
  maxSpoolMessages : Nat
  rateWindowS : Nat
  maxMessagesPerWindow : Nat

/-- `number` reads a text as a safe non-negative integer. -/
def positive (number : String → Option Nat) (value : Option String) (fallback : Nat) :
    Except SpoolError Nat :=
  match value with
  | none => .ok fallback
  | some text =>
    match number text with
    | some (parsed + 1) => .ok (parsed + 1)
    | _ => .error (.thrown "Invalid positive integer limit")

def limits (number : String → Option Nat) (env : PolicyEnv) : Except SpoolError Limits := do
  let result : Limits :=
    { maxMessageBytes := ← positive number env.maxMessageBytes (10 * 1024 * 1024)
      maxSpoolBytes := ← positive number env.maxSpoolBytes (1024 * 1024 * 1024)
      maxSpoolMessages := ← positive number env.maxSpoolMessages 10000
      rateWindowS := ← positive number env.rateWindowS 60
      maxMessagesPerWindow := ← positive number env.maxMessagesPerWindow 100 }
  if 25 * 1024 * 1024 < result.maxMessageBytes then
    throw (.thrown "MAX_MESSAGE_BYTES exceeds inbound platform limit")
  return result

/-- The chunks of a stream as they come, as long as they stay within the bound together. -/
def readChunks (maxBytes size : Nat) : List Bytes → Except SpoolError (List Bytes)
  | [] => .ok []
  | value :: rest =>
    if maxBytes < size + value.length then .error .limitExceeded
    else (readChunks maxBytes (size + value.length) rest).map (value :: ·)

def readBounded (chunks : List Bytes) (maxBytes : Nat) : Except SpoolError Bytes :=
  (readChunks maxBytes 0 chunks).map List.flatten

/-! ### The bucket -/

structure StoredObject where
  body : Bytes
  contentType : Option String
  customMetadata : List (String × String)

def StoredObject.size (object : StoredObject) : Nat := object.body.length

/-- Left by an interrupted settlement. -/
def StoredObject.isFence (object : StoredObject) : Bool :=
  object.customMetadata.lookup "spool_fence" == some "true"

abbrev Bucket := Std.ExtTreeMap String StoredObject

/-- One page of a listing; there are more when it has a cursor. -/
structure Page where
  objects : List (String × Nat)
  cursor : Option String

/-- What an event handler waits for. -/
inductive SpoolOp where
  | turn
  | readStream (body : Bytes)
  | getAlarm
  | setAlarm (delayMs : Nat)
  | list (cursor : Option String) (limit : Nat)
  | head (key : String)
  | get (key : String)
  | create (key : String) (object : StoredObject)
  | delete (key : String)

/-- A conditional create tells whether it was carried out. -/
abbrev SpoolOp.Reply : SpoolOp → Type
  | .turn | .setAlarm _ | .delete _ => Unit
  | .readStream _ => List Bytes
  | .getAlarm => Option Nat
  | .list _ _ => Page
  | .head _ | .get _ => Option StoredObject
  | .create _ _ => Bool

/-- The key that an operation is about. -/
def SpoolOp.key? : SpoolOp → Option String
  | .head key | .get key | .create key _ | .delete key => some key
  | _ => none

section Bucket
-- Whether a key comes after the place where a listing was cut.
variable (after : String → String → Bool)

def comesAfter (cursor : Option String) (key : String) : Bool :=
  match cursor with
  | none => true
  | some cursor => after cursor key

/-- A page lists all that stands between its start and its end. -/
structure Lists (cursor : Option String) (limit : Nat) (bucket : Bucket) (page : Page) : Prop where
  listed : ∀ key size, (key, size) ∈ page.objects →
    ∃ object, bucket[key]? = some object ∧ object.size = size
  complete : ∀ (key : String) object, bucket[key]? = some object →
    comesAfter after cursor key = true →
    (key, object.size) ∈ page.objects ∨
      ∃ cursor, page.cursor = some cursor ∧ after cursor key = true
  length_le : page.objects.length ≤ limit

/-- What is answered where operations are evaluated one at a time, and consistently. -/
def answers : Environment Bucket SpoolOp SpoolOp.Reply
  | .turn, bucket, _, bucket' => bucket' = bucket
  | .readStream body, bucket, chunks, bucket' => List.flatten chunks = body ∧ bucket' = bucket
  | .getAlarm, bucket, _, bucket' => bucket' = bucket
  | .setAlarm _, bucket, _, bucket' => bucket' = bucket
  | .list cursor limit, bucket, page, bucket' =>
    Lists after cursor limit bucket page ∧ bucket' = bucket
  | .head key, bucket, object, bucket' => object = bucket[key]? ∧ bucket' = bucket
  | .get key, bucket, object, bucket' => object = bucket[key]? ∧ bucket' = bucket
  | .create key object, bucket, written, bucket' =>
    if key ∈ bucket then written = false ∧ bucket' = bucket
    else written = true ∧ bucket' = bucket.insert key object
  | .delete key, bucket, _, bucket' => bucket' = bucket.erase key

end Bucket

/-- The services that a worker awaits, with what it relies on. R2 evaluates conditional writes
atomically and is strongly consistent, does not apply a write that failed or was given up once a
fence is created in its place, and changes from outside by deletions only. -/
structure Platform where
  after : String → String → Bool
  service : Service Bucket SpoolOp SpoolOp.Reply
  consistent : ∀ op bucket value bucket', service.answers op bucket value bucket' →
    answers after op bucket value bucket'
  fenced : ∀ key fence object, fence.isFence = true →
    service.rulesOut (.create key fence) true (.create key object) = true
  outside : ∀ bucket bucket', service.drifts bucket bucket' →
    ∃ key : String, bucket' = bucket.erase key

/-! ### The ledger -/

inductive EntryState where
  | reserved | stored
deriving DecidableEq

structure Entry where
  sizeBytes : Nat
  state : EntryState
  sourceKey : Option String

/-- The tables `objects` and `settings`, and the keys whose write this instance is still
awaiting. -/
structure SpoolQuota where
  objects : Std.ExtTreeMap String Entry := ∅
  initialized : Bool := false
  initialCursor : Option String := none
  reconcileCursor : Option String := none
  rateWindow : Option Nat := none
  rateCount : Option Nat := none
  writing : List String := []

abbrev SpoolProgram := Program SpoolQuota SpoolOp SpoolOp.Reply SpoolError

/-- Waits for an operation. -/
def SpoolOp.run (op : SpoolOp) : SpoolProgram op.Reply := Program.perform op

structure Usage where
  usedBytes : Nat
  objectCount : Nat

namespace SpoolQuota

def entry (quota : SpoolQuota) (key : String) : Option Entry := quota.objects[key]?

def usage (quota : SpoolQuota) : Usage where
  usedBytes := (quota.objects.toList.map fun row => row.2.sizeBytes).sum
  objectCount := quota.objects.size

/-- Admission counted in the window of the clock; `none` where the window is full. -/
def countAdmission (quota : SpoolQuota) (policy : Limits) (nowMs : Nat) : Option SpoolQuota :=
  let window := nowMs / (policy.rateWindowS * 1000)
  let count := if quota.rateWindow = some window then quota.rateCount.getD 0 else 0
  if policy.maxMessagesPerWindow ≤ count then none
  else some { quota with rateWindow := some window, rateCount := some (count + 1) }

def reserved (quota : SpoolQuota) (policy : Limits) (nowMs : Nat) (key : String) (size : Nat)
    (source : Option String) (ingress : Bool) : Option SpoolQuota :=
  let usage := quota.usage
  if (quota.entry key).isSome || policy.maxSpoolBytes < usage.usedBytes + size ||
      policy.maxSpoolMessages < usage.objectCount + 1 then none
  else
    (if ingress then quota.countAdmission policy nowMs else some quota).map fun quota =>
      { quota with objects := quota.objects.insert key ⟨size, .reserved, source⟩ }

def committed (key : String) (quota : SpoolQuota) : SpoolQuota :=
  { quota with objects := quota.objects.modify key fun entry => { entry with state := .stored } }

def release (key : String) (quota : SpoolQuota) : SpoolQuota :=
  { quota with objects := quota.objects.erase key }

/-- A visible object proves a reserved write committed. -/
def observed (key : String) (size : Nat) (quota : SpoolQuota) : SpoolQuota :=
  { quota with
    objects := quota.objects.modify key fun entry =>
      { entry with state := .stored, sizeBytes := size } }

def startWriting (key : String) (quota : SpoolQuota) : SpoolQuota :=
  { quota with writing := key :: quota.writing }

def stopWriting (key : String) (quota : SpoolQuota) : SpoolQuota :=
  { quota with writing := quota.writing.filter (· ≠ key) }

/-- Adopts the objects of a page that have no row yet. -/
def adopt (page : Page) (quota : SpoolQuota) : SpoolQuota :=
  let quota := { quota with
    objects := page.objects.foldl
      (fun rows (object : String × Nat) => rows.insertIfNew object.1 ⟨object.2, .stored, none⟩)
      quota.objects }
  match page.cursor with
  | some cursor => { quota with initialCursor := some cursor }
  | none => { quota with initialized := true }

/-- The next rows to reconcile. -/
def reconcilable (quota : SpoolQuota) : List (String × Entry) :=
  (quota.objects.toList.filter fun row => quota.reconcileCursor.getD "" < row.1).take 50

/-- What does not outlive the instance. -/
def restarted (quota : SpoolQuota) : SpoolQuota := { quota with writing := [] }

end SpoolQuota

/-! ### Responses -/

inductive Response where
  | stored (key : String) (sizeBytes : Nat)
  | acknowledged
  | quota (usage : Usage) (policy : Limits)
  | failure (code : String) (status : Nat)

/-- The fields of an acknowledgement, where it has them. -/
structure AckBody where
  key : Option Json
  archiveKey : Option Json

structure Request where
  method : String
  path : String
  body : Option Bytes
  metadata : Except SpoolError (List (String × String))

/-- What the clock and the random source give to a request. -/
structure Draw where
  timestamp : String
  uuid : String
  nowMs : Nat

def Draw.key (draw : Draw) : String := "inbox/" ++ draw.timestamp ++ "-" ++ draw.uuid ++ ".eml"

structure EmailMessage where
  envelopeFrom : String
  envelopeTo : String
  receivedRfc3339 : String
  raw : Bytes

structure WorkerEnv where
  policy : PolicyEnv
  number : String → Option Nat
  parseJson : Bytes → Except SpoolError AckBody

namespace WorkerEnv
variable (env : WorkerEnv)

/-- Awaits an `async` function that is through. -/
def turn : SpoolProgram Unit := SpoolOp.turn.run

def schedule : SpoolProgram Unit := do
  let scheduled : Option Nat ← SpoolOp.getAlarm.run
  if scheduled.isNone then (SpoolOp.setAlarm 60000).run
  turn

def reserve (nowMs : Nat) (key : String) (size : Nat) (source : Option String) (ingress : Bool) :
    SpoolProgram Bool := do
  let policy ← Program.ofExcept (limits env.number env.policy)
  let quota ← Program.read
  match quota.reserved policy nowMs key size source ingress with
  | none => return false
  | some quota =>
    Program.write fun _ => quota
    return true

/-- Adopts existing objects before new writes, one page per event. -/
def adoptPage : SpoolProgram Bool := do
  let quota ← Program.read
  if quota.initialized then return true
  else
    let page : Page ← (SpoolOp.list quota.initialCursor 1000).run
    Program.write (SpoolQuota.adopt page)
    if page.cursor.isSome then schedule
    return page.cursor.isNone

def initialization : SpoolProgram Bool := do
  let quota ← Program.read
  if quota.initialized then
    turn
    return true
  else
    turn
    let ready ← adoptPage
    turn
    return ready

def fence : StoredObject where
  body := []
  contentType := none
  customMetadata := [("spool_fence", "true")]

/-- Settles a reservation whose write ended without a confirmed outcome. -/
def settleUncertain (key : String) : SpoolProgram Unit := do
  let fenced : Bool ← (SpoolOp.create key fence).run
  if !fenced then
    let object : Option StoredObject ← (SpoolOp.head key).run
    match object with
    | some object => Program.write (SpoolQuota.observed key object.size)
    | none => return ()
  else
    (SpoolOp.delete key).run
    Program.write (SpoolQuota.release key)

def reconcile (row : String × Entry) : SpoolProgram Unit := do
  let object : Option StoredObject ← (SpoolOp.head row.1).run
  match object with
  | some object =>
    if object.isFence then
      (SpoolOp.delete row.1).run
      Program.write (SpoolQuota.release row.1)
    else Program.write (SpoolQuota.observed row.1 object.size)
  | none =>
    if row.2.state = .stored then Program.write (SpoolQuota.release row.1)
    else
      let quota ← Program.read
      if row.1 ∉ quota.writing then
        settleUncertain row.1
        turn

def alarm : SpoolProgram Unit := do
  let ready ← initialization
  if ready then
    let quota ← Program.read
    let entries := quota.reconcilable
    Program.forEach entries reconcile
    Program.write fun quota =>
      { quota with
        reconcileCursor := if entries.length = 50 then entries.getLast?.map (·.1) else some "" }
    let quota ← Program.read
    if quota.usage.objectCount ≠ 0 then schedule

/-- Runs one conditional spool write; the caller marked its key in flight. -/
def write (key : String) (object : StoredObject) : SpoolProgram Bool := do
  let outcome : Except SpoolError Bool ← Program.ask (SpoolOp.create key object)
  Program.write (SpoolQuota.stopWriting key)
  turn
  Program.ofExcept outcome

/-- The body of a request, unless it exceeds the bound. -/
def readBody (body : Bytes) (maxBytes : SpoolProgram Nat) : SpoolProgram Bytes := do
  let maxBytes ← maxBytes
  let chunks : List Bytes ← (SpoolOp.readStream body).run
  let raw ← Program.ofExcept (readBounded chunks maxBytes)
  turn
  return raw

def maxMessageBytes : SpoolProgram Nat := do
  let policy ← Program.ofExcept (limits env.number env.policy)
  return policy.maxMessageBytes

def storeMessage (key : String) (raw : Bytes) (metadata : List (String × String)) :
    SpoolProgram Response := do
  let written ← write key
    { body := raw
      contentType := some "message/rfc822"
      customMetadata := metadata.filter (·.1 ≠ "quota_managed") ++ [("quota_managed", "true")] }
  if !written then
    Program.write (SpoolQuota.release key)
    return .failure "spool_key_conflict" 409
  Program.write (SpoolQuota.committed key)
  return .stored key raw.length

def put (draw : Draw) (request : Request) : SpoolProgram Response :=
  match request.body with
  | none => return .failure "invalid_message" 400
  | some body => do
    let raw? ← ((readBody body env.maxMessageBytes).bind fun raw => return some raw).tryCatch
      fun error => if error = .limitExceeded then return none else throw error
    match raw? with
    | none => return .failure "message_too_large" 413
    | some raw =>
      let metadata ← Program.ofExcept request.metadata
      let admitted ← env.reserve draw.nowMs draw.key raw.length none true
      if !admitted then return .failure "spool_limit_exceeded" 429
      Program.write (SpoolQuota.startWriting draw.key)
      schedule
      (storeMessage draw.key raw metadata).tryCatch fun _ =>
        return .failure "spool_write_outcome_unknown" 503

def archivePrefix : Except SpoolError String :=
  let start := env.policy.archivePrefix.getD "imported/"
  if start.toList.getLast? ≠ some '/' || hasPrefix "inbox/" start || hasPrefix start "inbox/" ||
      (start.toList.splitOn '/').any fun part => part = ['.'] || part = ['.', '.'] then
    .error (.thrown "Invalid ARCHIVE_PREFIX")
  else .ok start

/-- `[A-Za-z0-9._-]+\.eml` -/
def isObjectName (name : List Char) : Bool :=
  let stem := name.take (name.length - 4)
  name.drop (name.length - 4) = ".eml".toList && !stem.isEmpty &&
    stem.all fun c => c.isAlphanum || c = '.' || c = '_' || c = '-'

def isValidKey (archivePrefix key : String) : Bool :=
  ["inbox/", archivePrefix].any fun start =>
    hasPrefix start key && isObjectName (key.toList.drop start.toList.length)

def isConfirmed (prior : Option Entry) (target : String) : SpoolProgram Bool :=
  match prior with
  | none => return false
  | some _ => do
    let object : Option StoredObject ← (SpoolOp.head target).run
    return object.isSome

/-- A confirmed copy that vanished is released; an uncertain one keeps its reservation. -/
def releaseVanished (prior : Option Entry) (target : String) : SpoolProgram Unit :=
  if prior.any fun entry => entry.state = .stored then Program.write (SpoolQuota.release target)
  else return ()

def reserveCopy (nowMs : Nat) (key target : String) (size : Nat) : SpoolProgram Bool := do
  let quota ← Program.read
  if (quota.entry target).isSome then return true
  else env.reserve nowMs target size (some key) false

def writeCopy (target : String) (object : StoredObject) : SpoolProgram (Option Response) :=
  ((write target object).bind fun written => do
    if !written then return some (.failure "archive_conflict" 409)
    Program.write (SpoolQuota.committed target)
    return none).tryCatch fun _ => return some (.failure "spool_write_outcome_unknown" 503)

/-- Copies what stands under `key`, unless the ledger has the copy already; a response refuses
the acknowledgement. -/
def archiveCopy (nowMs : Nat) (key target : String) : SpoolProgram (Option Response) := do
  let quota ← Program.read
  let prior := quota.entry target
  if prior.any fun entry => entry.sourceKey ≠ some key then
    return some (.failure "archive_conflict" 409)
  let confirmed ← isConfirmed prior target
  if confirmed then
    Program.write (SpoolQuota.committed target)
    return none
  else
    releaseVanished prior target
    let object : Option StoredObject ← (SpoolOp.get key).run
    match object with
    | none => return some (.failure "source_missing" 409)
    | some object =>
      let admitted ← env.reserveCopy nowMs key target object.size
      if !admitted then return some (.failure "spool_limit_exceeded" 429)
      Program.write (SpoolQuota.startWriting target)
      schedule
      writeCopy target object

/-- Takes a stored object out of the bucket and out of the ledger. -/
def discard (key : String) : SpoolProgram Response :=
  ((SpoolOp.delete key).run.bind fun _ => do
    Program.write (SpoolQuota.release key)
    return .acknowledged).tryCatch fun _ => return .failure "spool_delete_outcome_unknown" 503

def acknowledgeKey (nowMs : Nat) (key : String) (archiveKey : Option Json) :
    SpoolProgram Response := do
  let start ← Program.ofExcept env.archivePrefix
  if !isValidKey start key then return .failure "invalid_key" 400
  let quota ← Program.read
  if (quota.entry key).any fun entry => entry.state = .reserved then
    return .failure "spool_operation_pending" 409
  match archiveKey with
  | none => discard key
  | some target =>
    let expected := String.ofList (start.toList ++ key.toList.drop "inbox/".toList.length)
    if !hasPrefix "inbox/" key || target ≠ .string expected then
      return .failure "invalid_archive_key" 400
    let refused ← env.archiveCopy nowMs key expected
    match refused with
    | some response => return response
    | none => discard key

def acknowledge (nowMs : Nat) (request : Request) : SpoolProgram Response :=
  match request.body with
  | none => return .failure "invalid_request" 400
  | some bytes => do
    let raw ← readBody bytes (return 4096)
    let body ← Program.ofExcept (env.parseJson raw)
    match body.key with
    | some (.string key) => env.acknowledgeKey nowMs key body.archiveKey
    | _ => return .failure "invalid_key" 400

def fetch (draw : Draw) (request : Request) : SpoolProgram Response :=
  (do
    let policy ← Program.ofExcept (limits env.number env.policy)
    let ready ← initialization
    if !ready then return .failure "spool_initializing" 503
    if request.method = "POST" ∧ request.path = "/put" then env.put draw request
    else if request.method = "POST" ∧ request.path = "/v1/ack" then
      env.acknowledge draw.nowMs request
    else if request.method = "GET" ∧ request.path = "/v1/quota" then
      let quota ← Program.read
      return .quota quota.usage policy
    else return .failure "not_found" 404 : SpoolProgram Response).tryCatch fun _ =>
      return .failure "spool_operation_failed" 503

/-! ### Events -/

/-- The request that stores a message that was let through. -/
def spoolRequest (message : EmailMessage) : Request where
  method := "POST"
  path := "/put"
  body := some message.raw
  metadata := .ok [("envelope_from", message.envelopeFrom), ("envelope_to", message.envelopeTo),
    ("received_rfc3339", message.receivedRfc3339)]

/-- The only requests from outside that reach the spool. -/
def isControl (request : Request) : Bool :=
  (request.method = "POST" && request.path = "/v1/ack") ||
    (request.method = "GET" && request.path = "/v1/quota")

end WorkerEnv

inductive SpoolEvent where
  | email (message : EmailMessage) (draw : Draw)
  | control (request : Request) (draw : Draw)
  | alarm

namespace SpoolEvent

def handler (env : WorkerEnv) : SpoolEvent → SpoolProgram (Option Response)
  | .email message draw => (env.fetch draw (WorkerEnv.spoolRequest message)).bind fun response =>
    return some response
  | .control request draw =>
    if WorkerEnv.isControl request then (env.fetch draw request).bind fun response =>
      return some response
    else return some (.failure "not_found" 404)
  | .alarm => WorkerEnv.alarm.bind fun _ => return none

/-- The event makes this key for a new message. -/
def Draws (key : String) : SpoolEvent → Prop
  | .email _ draw => draw.key = key
  | _ => False

/-- The event asks to acknowledge this key. -/
def Names (env : WorkerEnv) (key : String) : SpoolEvent → Prop
  | .control request _ => ∃ body parsed, request.body = some body ∧
      env.parseJson body = .ok parsed ∧ parsed.key = some (.string key)
  | _ => False

end SpoolEvent

abbrev SpoolWorld := World SpoolQuota Bucket SpoolOp SpoolEvent SpoolOp.Reply

/-- A worker, what it runs on and the bucket that it takes over. -/
structure Worker where
  env : WorkerEnv
  platform : Platform
  initial : Bucket

section Worker
variable (worker : Worker)

/-- A key that somebody may have learnt of. -/
def Known (key : String) (w : SpoolWorld) : Prop :=
  key ∈ worker.initial ∨ key ∈ w.state.objects ∨ key ∈ w.state.writing ∨
    (∃ op ∈ w.requests, op.key? = some key) ∨ ∃ event ∈ w.came, event.Names worker.env key

/-- No key is made twice, and nobody names one that was made and not been used yet. -/
def Admits (event : SpoolEvent) (w : SpoolWorld) : Prop :=
  (∀ key, event.Draws key → ¬Known worker key w ∧ ∀ other ∈ w.came, ¬other.Draws key) ∧
  ∀ key, event.Names worker.env key → (∃ other ∈ w.came, other.Draws key) → Known worker key w

def spoolHost :
    Effect.Host SpoolQuota Bucket SpoolOp SpoolEvent SpoolOp.Reply SpoolError (Option Response) where
  service := worker.platform.service
  handler := SpoolEvent.handler worker.env
  admits := Admits worker
  reset := SpoolQuota.restarted

/-- The bucket before its coordinator takes it over. -/
def unadopted : SpoolWorld := ⟨{}, worker.initial, [], []⟩

end Worker

abbrev SpoolPool :=
  Pool SpoolQuota Bucket SpoolOp SpoolEvent SpoolOp.Reply SpoolError (Option Response)

/-- The mail in the inbox of a bucket. -/
def inboxMail (bucket : Bucket) : List (String × StoredObject) :=
  bucket.toList.filter fun row => hasPrefix "inbox/" row.1 && !row.2.isFence

end AgentFirstMail.Spool
