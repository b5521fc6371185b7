import AgentFirstMail.Ingest.Identity

namespace AgentFirstMail
open Effect

def maxMessageBytes : Nat := 100 * 1024 * 1024

/-- A message as a source hands it over. -/
structure IngestMessage where
  rawEml : Bytes
  remoteLocation : Option RemoteLocation := none
  delivery : Option DeliveryEnvelope := none
  importAs : PullImportAs := .triage
  direction : MailDirection := .inbound

inductive IngestOutcome where
  | stored (messageId : String) (duplicateCandidateIds : List String)
  | merged (messageId : String) (flagsUpdated : Bool)

def IngestOutcome.messageId : IngestOutcome → String
  | stored messageId _ => messageId
  | merged messageId _ => messageId

/-- A source at work: the workspace on disk and the index that its session holds. -/
structure IngestState where
  workspace : Workspace
  index : ExistingIndex

/-- Ingestion asks nothing of the outside. -/
abbrev Ingest (α : Type) := Program IngestState Empty (fun _ => Unit) AppError α

def messageTooLarge : AppError :=
  { errorCode := "message_too_large", message := "message exceeds the 100 MiB limit" }

def mimeParseFailed : AppError :=
  { errorCode := "mime_parse_failed", message := "failed to parse RFC822 message" }

def messageIdTaken (messageId : String) : AppError :=
  { errorCode := "message_id_conflict", message := s!"message id {messageId} already exists" }

def deliveryMetadataMissing : AppError :=
  { errorCode := "message_metadata_missing", message := "message metadata is missing" }

def deliveryDateInvalid : AppError :=
  { errorCode := "message_metadata_invalid"
    message := "delivery.received_rfc3339 must be an RFC3339 timestamp" }

/-- Records a location: its place is updated, or added when it is new; whether flags changed. -/
def recordLocation (location : RemoteLocation) : List RemoteLocation → List RemoteLocation × Bool
  | [] => ([location], false)
  | existing :: rest =>
    if existing.samePlace location then (location :: rest, existing.flags != location.flags)
    else
      let recorded := recordLocation location rest
      (existing :: recorded.1, recorded.2)

namespace DeliveryEnvelope

/-- Recipients up to ASCII case, sources as they are, the earliest time of receipt. -/
def merge (parser : MailParser) (delivery incoming : DeliveryEnvelope) :
    Result DeliveryEnvelope := do
  let merged := { delivery with
    envelopeFrom := delivery.envelopeFrom.or incoming.envelopeFrom
    envelopeTo := incoming.envelopeTo.foldl (fun out recipient =>
      if out.any (Text.eqIgnoreAsciiCase · recipient) then out else out ++ [recipient])
      delivery.envelopeTo
    sources := incoming.sources.foldl (fun out source =>
      if source ∈ out then out else out ++ [source]) delivery.sources }
  match incoming.receivedRfc3339 with
  | none => return merged
  | some received =>
    match parser.parseRfc3339 received, delivery.receivedRfc3339 with
    | none, _ => .error deliveryDateInvalid
    | some _, none => return { merged with receivedRfc3339 := some received }
    | some incomingDate, some prior =>
      match parser.parseRfc3339 prior with
      | none => .error deliveryDateInvalid
      | some priorDate =>
        return if incomingDate < priorDate then { merged with receivedRfc3339 := some received }
          else merged

end DeliveryEnvelope

namespace Workspace
variable (w : Workspace) (messageId : String)

/-- What is kept of a message; nothing yet of one that is not known. -/
def record (w : Workspace) (messageId : String) : MessageRecord := w.messages[messageId]?.getD {}

def alterMessage (change : MessageRecord → MessageRecord) : Workspace :=
  { w with messages := w.messages.alter messageId fun record => some (change (record.getD {})) }

def writeMessageMetadataFile (metadata : MessageMetadata) : Workspace :=
  w.alterMessage messageId fun record => { record with metadata := some metadata }

/-- Replaces the locations; what else was known is kept where nothing new is said. -/
def persistMessageMetadata (remote : Option (List RemoteLocation))
    (caseUids : Option (List String)) : Workspace :=
  let prior := (w.record messageId).metadata.getD {}
  w.writeMessageMetadataFile messageId
    { prior with remote, caseUids := caseUids.or prior.caseUids }

/-- Publishes the evidence of a message, with what is read out of it. -/
def writeEml (raw : Bytes) (rfc822MessageId : Option String) : Workspace :=
  w.alterMessage messageId fun record => { record with eml := some raw, rfc822MessageId }

/-- What of the materialized message is read back is its direction. -/
def writeMessageMaterializedCache (direction : Option String) : Workspace :=
  w.alterMessage messageId fun record => { record with direction }

def clearDisposition (kind : Disposition) : Workspace :=
  if messageId ∈ w.disposition kind then
    w.setDisposition kind ((w.disposition kind).remove messageId)
  else w

variable {w : Workspace} {messageId : String}

theorem record_alterMessage (change : MessageRecord → MessageRecord) (other : String) :
    (w.alterMessage messageId change).record other =
      if other = messageId then change (w.record messageId) else w.record other := by
  unfold record alterMessage
  rw [Std.ExtTreeMap.getElem?_alter]
  by_cases heq : messageId = other
  · subst heq
    rw [if_pos Std.ReflCmp.compare_self, if_pos rfl]
    rfl
  · rw [if_neg (fun h => heq (Std.LawfulEqCmp.compare_eq_iff_eq.mp h)), if_neg (Ne.symm heq)]

theorem mem_clearDisposition {other : String} {kind kind' : Disposition} :
    other ∈ (w.clearDisposition messageId kind).disposition kind' ↔
      other ∈ w.disposition kind' ∧ ¬(kind' = kind ∧ other = messageId) := by
  unfold clearDisposition
  by_cases hmem : messageId ∈ w.disposition kind
  · rw [if_pos hmem, disposition_setDisposition]
    by_cases hkind : kind' = kind
    · subst hkind
      rw [if_pos rfl, Members.mem_remove]
      simp only [true_and]
    · rw [if_neg hkind]
      simp only [hkind, false_and, not_false_eq_true, and_true]
  · rw [if_neg hmem]
    constructor
    · intro hother
      refine ⟨hother, ?_⟩
      rintro ⟨rfl, rfl⟩
      exact hmem hother
    · exact And.left

end Workspace

def PullImportAs.disposition? : PullImportAs → Option Disposition
  | triage => none
  | spam => some .spam
  | trashed => some .trashed

def MailDirection.asStr : MailDirection → String
  | inbound => "inbound"
  | outbound => "outbound"

namespace Ingest

def workspace : Ingest Workspace := do
  let s ← Program.read
  return s.workspace

def writeWorkspace (change : Workspace → Workspace) : Ingest Unit :=
  Program.write fun s => { s with workspace := change s.workspace }

/-- Changes the index in memory only. -/
def modifyIndex (change : ExistingIndex → ExistingIndex) : Ingest Unit :=
  Program.write fun s => { s with index := change s.index }

end Ingest

namespace ExistingIndex

/-- What was found at a location before is forgotten. -/
def indexLocation (index : ExistingIndex) (location : RemoteLocation) (messageId : String) :
    ExistingIndex :=
  match location.imapKey? with
  | some key =>
    { index with
      imapKeys := index.imapKeys.insert key
      imapLocations := index.imapLocations.insert key messageId }
  | none => index

end ExistingIndex

open Ingest

def setMessageDisposition (kind : Disposition) (messageId now : String) : Ingest Unit := do
  Program.forEach (Disposition.specs.filter (· != kind)) fun other =>
    writeWorkspace (·.clearDisposition messageId other)
  writeWorkspace fun w => w.setDisposition kind ((w.disposition kind).upsertItem messageId none now)

def mergeMessageDelivery (parser : MailParser) (messageId : String) (incoming : DeliveryEnvelope) :
    Ingest Unit := do
  let w ← workspace
  match (w.record messageId).metadata with
  | none => throw deliveryMetadataMissing
  | some metadata =>
    let delivery ← Program.ofExcept ((metadata.delivery.getD {}).merge parser incoming)
    writeWorkspace (·.writeMessageMetadataFile messageId { metadata with delivery := some delivery })

def mergeDelivery? (parser : MailParser) (messageId : String) :
    Option DeliveryEnvelope → Ingest Unit
  | none => return ()
  | some delivery => mergeMessageDelivery parser messageId delivery

/-- Records where a known message was found once more; whether its flags changed. -/
def mergeLocation? (messageId : String) (remote : Option (List RemoteLocation)) :
    Option RemoteLocation → Ingest Bool
  | none => do
    writeWorkspace (·.persistMessageMetadata messageId remote none)
    return false
  | some location => do
    let recorded := recordLocation location (remote.getD [])
    modifyIndex (·.indexLocation location messageId)
    writeWorkspace (·.persistMessageMetadata messageId (some recorded.1) none)
    return recorded.2

/-- The bytes are stored already: only their delivery and their location may be new. -/
def mergeMessage (parser : MailParser) (input : IngestMessage) (messageId : String) :
    Ingest IngestOutcome := do
  let w ← workspace
  let message ← Program.ofExcept (w.readMessageById messageId)
  let flagsUpdated ← mergeLocation? messageId message.remote input.remoteLocation
  mergeDelivery? parser messageId input.delivery
  let w ← workspace
  let message ← Program.ofExcept (w.readMessageById messageId)
  writeWorkspace (·.writeMessageMaterializedCache messageId message.direction)
  return .merged messageId flagsUpdated

def disposeImported (messageId now : String) : Option Disposition → Ingest Unit
  | none => return ()
  | some kind => setMessageDisposition kind messageId now

def indexLocation? (messageId : String) : Option RemoteLocation → Ingest Unit
  | none => return ()
  | some location => modifyIndex (·.indexLocation location messageId)

def indexRfc822? (messageId : String) : Option String → Ingest Unit
  | none => return ()
  | some id => modifyIndex fun index =>
    { index with rfc822Messages := index.rfc822Messages.add id messageId }

/-- Renders the view of a message in triage; a template of the workspace may fail. -/
def renderTriageView? (triageView : Bytes → Result Unit) (raw : Bytes) :
    PullImportAs → Result Unit
  | .triage => triageView raw
  | _ => .ok ()

/-- The bytes are new. Metadata and disposition come before the evidence that makes a message
of them; its view comes after it. -/
def storeMessageWith (triageView : Bytes → Result Unit) (parser : MailParser) (offset : Int)
    (now : String) (input : IngestMessage) : Ingest IngestOutcome := do
  let s ← Program.read
  let messageId := parser.stableMessageId input.rawEml offset
  let caseUids := s.index.suggestCase parser input.rawEml
  match parser.parse input.rawEml with
  | none => throw mimeParseFailed
  | some parsed =>
    let rfc822Id :=
      (parsed.messageId.map fun id => normalizeMessageId id.toList).filter (· != "")
    let duplicateCandidateIds :=
      (rfc822Id.map fun id => (s.index.rfc822Messages.at_ id).toList).getD []
    let taken := (s.workspace.record messageId).eml.isSome
    Program.ofExcept (ensure (!taken) (messageIdTaken messageId))
    writeWorkspace (·.persistMessageMetadata messageId (input.remoteLocation.map ([·])) caseUids)
    mergeDelivery? parser messageId input.delivery
    disposeImported messageId now input.importAs.disposition?
    writeWorkspace (·.writeEml messageId input.rawEml parsed.messageId)
    writeWorkspace (·.writeMessageMaterializedCache messageId (some input.direction.asStr))
    Program.ofExcept (renderTriageView? triageView input.rawEml input.importAs)
    indexLocation? messageId input.remoteLocation
    modifyIndex fun index =>
      { index with
        contentIds := index.contentIds.insert (parser.messageContentKey input.rawEml) messageId }
    indexRfc822? messageId rfc822Id
    return .stored messageId duplicateCandidateIds

/-- Ingests one message: new bytes are stored, known bytes are merged. -/
def ingestMessageWith (triageView : Bytes → Result Unit) (parser : MailParser) (offset : Int)
    (now : String) (input : IngestMessage) : Ingest IngestOutcome := do
  Program.ofExcept (ensure (decide (input.rawEml.length ≤ maxMessageBytes)) messageTooLarge)
  let s ← Program.read
  match s.index.contentIds[parser.messageContentKey input.rawEml]? with
  | some messageId => mergeMessage parser input messageId
  | none => storeMessageWith triageView parser offset now input

/-- Ingestion with templates that render. -/
def storeMessage : MailParser → Int → String → IngestMessage → Ingest IngestOutcome :=
  storeMessageWith fun _ => .ok ()

def ingestMessage : MailParser → Int → String → IngestMessage → Ingest IngestOutcome :=
  ingestMessageWith fun _ => .ok ()

end AgentFirstMail
