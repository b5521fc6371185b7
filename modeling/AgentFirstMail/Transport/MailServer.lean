import AgentFirstMail.Effect.Environment
import AgentFirstMail.Transport.Imap

namespace AgentFirstMail
open Effect

/-- A mailbox of a server: its messages under their UIDs. -/
structure ServerMailbox (μ : Type) where
  uidValidity : Nat
  messages : Nat → Option μ

/-- What a server keeps, and the mailbox that its client has selected. -/
structure MailServer (μ : Type) where
  mailboxes : String → ServerMailbox μ
  selected : Option String

def ServerMailbox.put (mailbox : ServerMailbox μ) (uid : Nat) (message : Option μ) :
    ServerMailbox μ :=
  { mailbox with messages := fun other => if other = uid then message else mailbox.messages other }

namespace MailServer

def select (server : MailServer μ) (folder : String) : MailServer μ :=
  { server with selected := some folder }

/-- Puts a message, or none, under a UID of a mailbox. -/
def put (server : MailServer μ) (folder : String) (uid : Nat) (message : Option μ) :
    MailServer μ :=
  { server with mailboxes := fun name =>
      if name = folder then (server.mailboxes name).put uid message else server.mailboxes name }

theorem put_mailboxes_self (server : MailServer μ) (folder : String) (uid : Nat)
    (message : Option μ) :
    (server.put folder uid message).mailboxes folder = (server.mailboxes folder).put uid message :=
  if_pos rfl

theorem put_mailboxes_of_ne (server : MailServer μ) {folder name : String} (uid : Nat)
    (message : Option μ) (h : name ≠ folder) :
    (server.put folder uid message).mailboxes name = server.mailboxes name :=
  if_neg h

end MailServer

/-- What a quoted string says behind its opening quote; it holds no line break. -/
def unquoteFrom : List Char → Option (List Char)
  | [] => none
  | '\\' :: c :: rest => if c = '\\' ∨ c = '"' then (c :: ·) <$> unquoteFrom rest else none
  | c :: rest =>
    if c = '"' then if rest = [] then some [] else none
    else if c = '\r' ∨ c = '\n' then none
    else (c :: ·) <$> unquoteFrom rest

def unquote (text : String) : Option String :=
  match text.toList with
  | '"' :: rest => String.ofList <$> unquoteFrom rest
  | _ => none

/-- The UIDs of a member of a UID set; a range may be written from either end. -/
def UidSetMember.uids : UidSetMember → List Nat
  | uid value => [value]
  | uidRange first last => List.range' (min first last) (max first last + 1 - min first last)

def uidsOf (members : List UidSetMember) : List Nat := members.flatMap (·.uids)

/-- The first `COPYUID` that a client finds in a response. -/
def findCopyUid (library : ImapLibrary) (response : Bytes) : Option CopyUidCode :=
  if response.isEmpty then none
  else match library.parse response with
    | none => none
    | some (remaining, parsed) =>
      match parsed.copyUid with
      | some code => some code
      | none =>
        if remaining.length < response.length then findCopyUid library remaining else none
termination_by response.length

/-- A `COPYUID` in the response says nothing else of a message than where it was put; sets of
different lengths say nothing. -/
def TellsPlace (library : ImapLibrary) (response : Bytes) (uid : Nat)
    (place : Option (Nat × Nat)) : Prop :=
  ∀ code, findCopyUid library response = some code →
    (uidsOf code.sources).length = (uidsOf code.targets).length →
    ∀ target, (uid, target) ∈ (uidsOf code.sources).zip (uidsOf code.targets) →
      place = some (code.uidValidity, target)

/-- A server as the RFCs describe it, but for flags. A command about a UID that does not exist is
answered like one that was carried out. Whatever was refused may have had an effect. -/
inductive RfcServer (library : ImapLibrary) (satisfies : μ → String → Prop) :
    Environment (MailServer μ) WireCall WireCall.Reply
  | select (server : MailServer μ) (folder : String) :
      RfcServer library satisfies (.select folder) server
        (.ok (some (server.mailboxes folder).uidValidity)) (server.select folder)
  | selectRefused (failure : ImapFailure) :
      RfcServer library satisfies (.select folder) server (.error failure) server'
  | examine (server : MailServer μ) (folder : String) :
      RfcServer library satisfies (.examine folder) server
        (.ok (some (server.mailboxes folder).uidValidity)) (server.select folder)
  | examineRefused (failure : ImapFailure) :
      RfcServer library satisfies (.examine folder) server (.error failure) server'
  | capabilities (reply : Except ImapFailure (List String)) :
      RfcServer library satisfies .capabilities server reply server
  | uidSearch (hselected : server.selected = some folder)
      (hfound : ∀ uid, uid ∈ uids ↔ ∃ message,
        (server.mailboxes folder).messages uid = some message ∧ satisfies message query) :
      RfcServer library satisfies (.uidSearch query) server (.ok uids) server
  | uidSearchRefused (failure : ImapFailure) :
      RfcServer library satisfies (.uidSearch query) server (.error failure) server'
  | uidStore (served : Served ImapFailure Unit) :
      RfcServer library satisfies (.uidStore uidSet query) server served server
  | uidExpunge (uid : Nat) (hselected : server.selected = some folder)
      (hmessage : message = none ∨ message = (server.mailboxes folder).messages uid)
      (served : Served ImapFailure Unit) :
      RfcServer library satisfies (.uidExpunge (toString uid)) server served
        (server.put folder uid message)
  | uidMove (hselected : server.selected = some source) (htarget : unquote quoted = some target)
      (hexists : (server.mailboxes source).messages uid = some message)
      (hfresh : (server.mailboxes target).messages fresh = none)
      (htells : TellsPlace library response uid
        (some ((server.mailboxes target).uidValidity, fresh))) (applied : Bool) :
      RfcServer library satisfies (.uidMove uid quoted) server ⟨.ok response, applied⟩
        ((server.put source uid none).put target fresh (some message))
  | uidMoveNothing (hselected : server.selected = some source)
      (hmissing : (server.mailboxes source).messages uid = none)
      (htells : TellsPlace library response uid none) (applied : Bool) :
      RfcServer library satisfies (.uidMove uid quoted) server ⟨.ok response, applied⟩ server
  | uidMoveRefused (failure : ImapFailure) (applied : Bool) :
      RfcServer library satisfies (.uidMove uid quoted) server ⟨.error failure, applied⟩ server'
  | uidCopy (hselected : server.selected = some source) (htarget : unquote quoted = some target)
      (hexists : (server.mailboxes source).messages uid = some message)
      (hfresh : (server.mailboxes target).messages fresh = none)
      (htells : TellsPlace library response uid
        (some ((server.mailboxes target).uidValidity, fresh))) (applied : Bool) :
      RfcServer library satisfies (.uidCopy (toString uid) quoted) server ⟨.ok response, applied⟩
        (server.put target fresh (some message))
  | uidCopyNothing (hselected : server.selected = some source)
      (hmissing : (server.mailboxes source).messages uid = none)
      (htells : TellsPlace library response uid none) (applied : Bool) :
      RfcServer library satisfies (.uidCopy (toString uid) quoted) server ⟨.ok response, applied⟩
        server
  | uidCopyRefused (failure : ImapFailure) (applied : Bool) :
      RfcServer library satisfies (.uidCopy uidSet quoted) server ⟨.error failure, applied⟩ server'

end AgentFirstMail
