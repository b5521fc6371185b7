import AgentFirstMail.Data.Indexing
import AgentFirstMail.Store.Relocation

namespace AgentFirstMail
open Indexing

/-- A message that the server keeps under one name for as long as the epoch lasts. -/
structure ImapKey where
  mailbox : String
  uidValidity : Nat
  uid : Nat
deriving DecidableEq

namespace ImapKey

instance : Ord ImapKey where
  compare := compareLex (compareOn (·.mailbox))
    (compareLex (compareOn (·.uidValidity)) (compareOn (·.uid)))

instance : Std.TransOrd ImapKey :=
  inferInstanceAs (Std.TransCmp (compareLex (compareOn ImapKey.mailbox)
    (compareLex (compareOn ImapKey.uidValidity) (compareOn ImapKey.uid))))

instance : Std.LawfulEqOrd ImapKey where
  eq_of_compare := by
    rintro ⟨mailbox, uidValidity, uid⟩ ⟨mailbox', uidValidity', uid'⟩ heq
    obtain ⟨hmailbox, hrest⟩ := Ordering.then_eq_eq.mp heq
    obtain ⟨hvalidity, huid⟩ := Ordering.then_eq_eq.mp hrest
    have hname : compare mailbox mailbox' = .eq := hmailbox
    have hepoch : compare uidValidity uidValidity' = .eq := hvalidity
    have hnumber : compare uid uid' = .eq := huid
    rw [Std.LawfulEqCmp.eq_of_compare hname, Std.LawfulEqCmp.eq_of_compare hepoch,
      Std.LawfulEqCmp.eq_of_compare hnumber]

end ImapKey

/-- The key of a location whose epoch and UID are known. -/
def RemoteLocation.imapKey? (location : RemoteLocation) : Option ImapKey :=
  match location.uidValidity, location.uid with
  | some uidValidity, some uid => some ⟨location.mailboxName, uidValidity, uid⟩
  | _, _ => none

/-- What a message says about itself and about the messages it answers. -/
structure MailHeaders where
  messageId : Option String := none
  inReplyTo : List String := []
  references : List String := []

/-- What ingestion uses of code outside the model: the mail parser, the date it finds in a
message as the day in a time zone, the digest, and the parser of timestamps. -/
structure MailParser where
  parse : Bytes → Option MailHeaders
  parseHeaders : Bytes → Option MailHeaders
  dayOf : Bytes → Int → Option String
  sha256 : Bytes → Bytes
  parseRfc3339 : String → Option Int

def normalizeMessageId (value : List Char) : String :=
  let enclosing (c : Char) : Bool := c == '<' || c == '>' || c == ',' || c == ';'
  String.ofList ((Text.trim (Text.trimMatches enclosing (Text.trim value))).map Char.toLower)

/-- The stretches between an opening bracket and the next closing one; `open_` is the stretch
read so far. -/
def bracketed : List Char → Option (List Char) → List (List Char)
  | [], _ => []
  | c :: rest, none => bracketed rest (if c = '<' then some [] else none)
  | c :: rest, some open_ =>
    if c = '>' then open_ :: bracketed rest none else bracketed rest (some (open_ ++ [c]))

def sortedDedup (ids : List String) : List String := dedupAdjacent (ids.insertionSort (· ≤ ·))

/-- The message ids of a header: those in brackets, or its words when there are none. -/
def extractMessageIds (text : String) : List String :=
  let ids := ((bracketed text.toList none).map normalizeMessageId).filter (· != "")
  sortedDedup (if ids.isEmpty then
    ((Text.splitWhitespace text.toList).map normalizeMessageId).filter (· != "")
  else ids)

namespace MailParser
variable (parser : MailParser)

def replyHeaderMessageIds (raw : Bytes) : List String :=
  match parser.parseHeaders raw with
  | none => []
  | some headers => sortedDedup ((headers.inReplyTo ++ headers.references).flatMap extractMessageIds)

def messageContentKey (raw : Bytes) : String := String.ofList (Text.hex (parser.sha256 raw))

/-- The id of a message, from its bytes and the day it was sent. -/
def stableMessageId (raw : Bytes) (offset : Int) : String :=
  let contentId := String.ofList ((parser.messageContentKey raw).toList.take 32)
  match parser.dayOf raw offset with
  | some day => s!"message_{day}_{contentId}"
  | none => s!"message_{contentId}"

end MailParser

/-- What a session knows of the messages that are stored. -/
@[ext] structure ExistingIndex where
  imapKeys : Std.ExtTreeSet ImapKey := ∅
  imapLocations : Std.ExtTreeMap ImapKey String := ∅
  rfc822Cases : Multimap String String := ∅
  rfc822Messages : Multimap String String := ∅
  contentIds : Std.ExtTreeMap String String := ∅
deriving DecidableEq

namespace ExistingIndex
variable (index : ExistingIndex)

/-- The cases that hold a message which the reply headers name. -/
def suggestCase (parser : MailParser) (raw : Bytes) : Option (List String) :=
  let caseUids := (parser.replyHeaderMessageIds raw).foldl
    (fun uids messageId => uids.insertMany (index.rfc822Cases.at_ messageId).toList)
    (∅ : Std.ExtTreeSet String)
  if caseUids.isEmpty then none else some caseUids.toList

/-- A known location stays with the message that was found there first. -/
def addLocation (messageId : String) (location : RemoteLocation) : ExistingIndex :=
  match location.imapKey? with
  | some key =>
    if location.isActive then
      { index with
        imapKeys := index.imapKeys.insert key
        imapLocations := index.imapLocations.insertIfNew key messageId }
    else index
  | none => index

/-- Enters a message under its normalized id, and the cases it is in. -/
def addRfc822 (caseRefs : Multimap String String) (messageId : String) :
    Option String → ExistingIndex
  | none => index
  | some rfc822Id =>
    let key := normalizeMessageId rfc822Id.toList
    { index with
      rfc822Messages :=
        if key = "" then index.rfc822Messages else index.rfc822Messages.add key messageId
      rfc822Cases :=
        match caseRefs[messageId]? with
        | some caseUids => index.rfc822Cases.addAll key caseUids.toList
        | none => index.rfc822Cases }

def addContent (contentKey messageId : String) : ExistingIndex :=
  { index with contentIds := index.contentIds.insertIfNew contentKey messageId }

def addLocations (messageId : String) (locations : List RemoteLocation) : ExistingIndex :=
  locations.foldl (fun index location => index.addLocation messageId location) index

/-- Enters one stored message. -/
def addMessage (parser : MailParser) (caseRefs : Multimap String String) (raw : Bytes)
    (message : Message) : ExistingIndex :=
  ((index.addContent (parser.messageContentKey raw) message.messageId).addRfc822 caseRefs
    message.messageId message.rfc822MessageId).addLocations message.messageId
    (message.remote.getD [])

end ExistingIndex

namespace Workspace
variable (w : Workspace)

/-- Mail evidence in the order of its file names. -/
def emlPaths : List (String × Bytes) :=
  (w.messages.toList.filterMap fun entry => entry.2.eml.map (entry.1, ·)).insertionSort
    fun a b => s!"{a.1}.eml" ≤ s!"{b.1}.eml"

/-- The cases that hold each message. -/
def loadCaseRefsByMessageId : Multimap String String :=
  (w.caseEntries.flatMap fun entry => entry.2.members.messageIds.map (·, entry.1)).foldl
    (fun out ref => out.add ref.1 ref.2) ∅

/-- Reads the index from the stored messages. -/
def loadExistingRemoteIndex (parser : MailParser) : Result ExistingIndex := do
  let caseRefs := w.loadCaseRefsByMessageId
  let overlays ← w.materializedOverlayIndex
  w.emlPaths.foldlM (fun index entry => do
    let message ← w.readMessageUnder overlays entry.1
    return index.addMessage parser caseRefs entry.2 message) {}

end Workspace
end AgentFirstMail
