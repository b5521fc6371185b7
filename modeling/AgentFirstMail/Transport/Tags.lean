import AgentFirstMail.Transport.Senders

namespace AgentFirstMail
open Effect Wire

/-- The server refused a command, which fails with it. -/
def Served.refused (rejected : ε → Bool) (served : Served ε α) : Bool :=
  match served.reply with
  | .ok _ => false
  | .error failure => rejected failure

namespace AppendExchange

/-- A line that the server sent as a reply of its own and that ends this command with a refusal. -/
def OwnRefusal (library : ImapLibrary) (exchange : AppendExchange) (line : Bytes) : Prop :=
  .line line ∈ exchange.sent ∧ ∃ rest status copyUid,
    library.parse line = some (rest, .done exchange.tag status copyUid) ∧
      (status = .no ∨ status = .bad)

/-- The lines that were read along with. -/
def observedLines (exchange : AppendExchange) : List Bytes :=
  Lines.complete lineFeed [] exchange.chunks.flatten

/-- A line that reads as a tagged refusal and is not one of this command: a line of a literal, the
rest of a reply that began before, or the end of another command. -/
def StrayRefusal (library : ImapLibrary) (exchange : AppendExchange) : Prop :=
  ∃ line ∈ exchange.observedLines,
    StatusReader.Refuses library line ∧ ¬ exchange.OwnRefusal library line

end AppendExchange

namespace WireCall

/-- Whether the server applied what it was asked for. -/
def applied : (request : WireCall) → request.Reply → Bool
  | select _, _ | examine _, _ | capabilities, _ | uidSearch _, _ => false
  | uidStore .., served => served.applied
  | uidMove .., served => served.applied
  | uidCopy .., served => served.applied
  | uidExpunge _, served => served.applied
  | append .., exchange => exchange.applied
  | sendRaw .., served => served.applied
  | post .., served => served.applied

/-- The service refuses a submission. -/
def refusedWith (statuses : List Nat) : PostReply → Bool
  | .body status (some api) => !api.success && api.result.isNone && statuses.contains status
  | _ => false

/-- A refusal means that nothing was applied: a tagged `NO` or `BAD`, a permanent negative reply,
a response without a receipt whose status is not that of a limit. An append that the library gives
up before it sends the message applies nothing either. -/
def Honest (library : ImapLibrary) : (request : WireCall) → request.Reply → Prop
  | select _, _ | examine _, _ | capabilities, _ | uidSearch _, _ => True
  | uidStore .., served => served.refused (·.rejected) = true → served.applied = false
  | uidMove .., served => served.refused (·.rejected) = true → served.applied = false
  | uidCopy .., served => served.refused (·.rejected) = true → served.applied = false
  | uidExpunge _, served => served.refused (·.rejected) = true → served.applied = false
  | append .., exchange => (∀ line, exchange.OwnRefusal library line → exchange.applied = false) ∧
      ∀ failure, exchange.result library = .error failure → failure.rejected = true →
        exchange.applied = false
  | sendRaw .., served => served.refused (·.kind == .permanent) = true → served.applied = false
  | post .., served => ∀ reply, served.reply = .ok reply →
      refusedWith [400, 401, 403, 404, 413, 422] reply = true → served.applied = false

/-- What a refusal is to be relied on for besides: no line of an append that was applied passes for
a refusal of it, and a transient negative reply or one that speaks of a limit means that nothing
was applied. -/
def Reliable (library : ImapLibrary) : (request : WireCall) → request.Reply → Prop
  | append observed .., exchange =>
    observed = true → exchange.applied = true → ¬ exchange.StrayRefusal library
  | sendRaw .., served => served.refused (·.kind == .transient) = true → served.applied = false
  | post .., served => ∀ reply, served.reply = .ok reply → refusedWith [429] reply = true →
      served.applied = false
  | _, _ => True

/-- The server refused to move or to copy. -/
def refusedMove : (request : WireCall) → request.Reply → Bool
  | uidMove .., served => served.refused (·.rejected)
  | uidCopy .., served => served.refused (·.rejected)
  | _, _ => false

def storesFlags : WireCall → Bool
  | uidStore .. => true
  | _ => false

end WireCall

namespace WireEvent

/-- A property of what a request was answered. -/
def Of (P : (request : WireCall) → request.Reply → Prop) (event : WireEvent) : Prop :=
  ∀ value, event.reply = some (.ok value) → P event.request value

def Applied (event : WireEvent) : Prop :=
  ∃ value, event.reply = some (.ok value) ∧ event.request.applied value = true

def RefusedMove (event : WireEvent) : Prop :=
  ∃ value, event.reply = some (.ok value) ∧ event.request.refusedMove value = true

end WireEvent

/-- The servers answered, and their refusals mean what they say. -/
structure HonestReplies (library : ImapLibrary) (events : List WireEvent) : Prop where
  answered : ∀ event ∈ events, event.Answered
  honest : ∀ event ∈ events, WireEvent.Of (WireCall.Honest library) event

/-- The condition for the tags of an error to be right: every refusal is to be relied on, and where
the server refused to move a message it had not stored flags of the message before. -/
structure ReliableReplies (library : ImapLibrary) (events : List WireEvent) : Prop where
  refusals : ∀ event ∈ events, WireEvent.Of (WireCall.Reliable library) event
  unmarked : (∃ event ∈ events, WireEvent.RefusedMove event) →
    ∀ event ∈ events, event.request.storesFlags = true → ¬ WireEvent.Applied event

/-- An error that says that nothing was applied is right. -/
def TagsSound (error : AppError) (events : List WireEvent) : Prop :=
  remoteEffectNotApplied error = true → ∀ event ∈ events, ¬ WireEvent.Applied event

/-- The operations of the transports. -/
inductive TransportOperation (library : ImapLibrary) : {α : Type} → Wire α → Prop
  | append (folder : String) (raw : Bytes) (draft : Bool) :
      TransportOperation library (appendMessage library folder raw draft)
  | appendDraft (now folder : String) (raw : Bytes) (rfc822MessageId : String) :
      TransportOperation library (appendDraftAndFindUid library now folder raw rfc822MessageId)
  | move (sourceFolder : String) (uid : Nat) (targetFolder : String) :
      TransportOperation library (uidMove library sourceFolder uid targetFolder)
  | markAndMove (now sourceFolder : String) (expectedUidValidity : Option Nat) (uid : Nat)
      (targetFolder : String) (rfc822MessageId : Option String) (flagUpdates : MoveFlagUpdates) :
      TransportOperation library (uidMarkAndMove library now sourceFolder expectedUidValidity uid
        targetFolder rfc822MessageId flagUpdates)
  | copyDeleteExpunge (uid : Nat) (targetFolder : String) :
      TransportOperation library (uidCopyDeleteExpunge library uid targetFolder)
  | storeFlags (sourceFolder : String) (expectedUidValidity : Option Nat) (uid : Nat)
      (flags : List String) (add : Bool) :
      TransportOperation library (uidStoreFlags sourceFolder expectedUidValidity uid flags add)
  | smtp (host : Host) (buildTransport : SmtpSection → Result Unit) (envelopeFrom : String)
      (envelopeTo : List String) (raw : Bytes) :
      TransportOperation library
        (smtpSendRawMessage host buildTransport envelopeFrom envelopeTo raw)
  | cloudflare (host : CloudflareHost) (prepared : PreparedOutbound) :
      TransportOperation library (cloudflareSendRawMessage host prepared)

end AgentFirstMail
