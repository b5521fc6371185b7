import AgentFirstMail.Mime.Fields
import AgentFirstMail.Store.TextFiles

/-! What is used of the library that builds mails: its headers, the builder of messages, and the
bytes of a message. -/

namespace AgentFirstMail

structure Address where
  text : String

structure Mailbox where
  name : Option String
  email : Address

inductive HeaderName where
  | from_ | messageId | subject | date | to_ | cc | bcc | inReplyTo | references
  | contentType | contentTransferEncoding | mimeVersion
deriving DecidableEq

namespace HeaderName

def text : HeaderName → String
  | from_ => "From"
  | messageId => "Message-ID"
  | subject => "Subject"
  | date => "Date"
  | to_ => "To"
  | cc => "Cc"
  | bcc => "Bcc"
  | inReplyTo => "In-Reply-To"
  | references => "References"
  | contentType => "Content-Type"
  | contentTransferEncoding => "Content-Transfer-Encoding"
  | mimeVersion => "MIME-Version"

def fieldName (name : HeaderName) : Mime.FieldName where
  text := textBytes name.text.toList
  valid := by cases name <;> decide +kernel

theorem eq_bcc {name : HeaderName} (h : name.fieldName.text.map Mime.lowerAscii =
    bcc.fieldName.text.map Mime.lowerAscii) : name = bcc := by
  revert h
  cases name <;> decide +kernel

end HeaderName

inductive HeaderValue where
  | mailboxes (mailboxes : List Mailbox)
  | text (text : String)
  | date (seconds : Int)

structure MailHeader where
  name : HeaderName
  value : HeaderValue

def MailHeader.mailboxes (header : MailHeader) : List Mailbox :=
  match header.value with
  | .mailboxes mailboxes => mailboxes
  | _ => []

/-- Headers in the order in which they were first set, one of each name. -/
@[ext] structure Headers where
  fields : List MailHeader
  distinct : (fields.map (·.name)).Nodup

namespace Headers
variable {headers : Headers} {name other : HeaderName} {header : MailHeader}

def empty : Headers := ⟨[], List.nodup_nil⟩

def get? (headers : Headers) (name : HeaderName) : Option MailHeader :=
  headers.fields.find? (·.name = name)

/-- The mailboxes that a header names. -/
def mailboxes (headers : Headers) (name : HeaderName) : List Mailbox :=
  (headers.get? name).elim [] MailHeader.mailboxes

/-- Puts a header in the place of the one of its name, or behind all others. -/
def setFields (header : MailHeader) : List MailHeader → List MailHeader
  | [] => [header]
  | first :: rest =>
    if first.name = header.name then header :: rest else first :: setFields header rest

theorem map_name_setFields (header : MailHeader) (fields : List MailHeader) :
    (setFields header fields).map (·.name) =
      if header.name ∈ fields.map (·.name) then fields.map (·.name)
      else fields.map (·.name) ++ [header.name] := by
  induction fields with
  | nil => rfl
  | cons first rest ih =>
    rw [setFields]
    by_cases heq : first.name = header.name
    · rw [if_pos heq, if_pos (by simp [heq])]
      simp [heq]
    · rw [if_neg heq, List.map_cons, ih, List.map_cons]
      by_cases hmem : header.name ∈ rest.map (·.name)
      · rw [if_pos hmem, if_pos (List.mem_cons_of_mem _ hmem)]
      · have hcons : header.name ∉ first.name :: rest.map (·.name) := by
          rw [List.mem_cons, not_or]
          exact ⟨Ne.symm heq, hmem⟩
        rw [if_neg hmem, if_neg hcons]
        rfl

def set (header : MailHeader) (headers : Headers) : Headers where
  fields := setFields header headers.fields
  distinct := by
    rw [map_name_setFields]
    split
    · exact headers.distinct
    · rename_i hnew
      refine List.nodup_append.mpr ⟨headers.distinct, List.nodup_singleton _, ?_⟩
      rintro name hname _ hself rfl
      rw [List.mem_singleton.mp hself] at hname
      exact hnew hname

def remove (name : HeaderName) (headers : Headers) : Headers where
  fields := headers.fields.filter (·.name ≠ name)
  distinct := headers.distinct.sublist (List.filter_sublist.map _)

theorem find?_setFields (header : MailHeader) (fields : List MailHeader) :
    (setFields header fields).find? (·.name = name) =
      if name = header.name then some header else fields.find? (·.name = name) := by
  induction fields with
  | nil =>
    rw [setFields, List.find?_cons, List.find?_nil]
    by_cases heq : name = header.name
    · simp [heq]
    · simp [heq, Ne.symm heq]
  | cons first rest ih =>
    rw [setFields]
    by_cases hfirst : first.name = header.name
    · rw [if_pos hfirst, List.find?_cons]
      by_cases heq : name = header.name
      · simp [heq]
      · simp [heq, Ne.symm heq, hfirst]
    · rw [if_neg hfirst, List.find?_cons, ih, List.find?_cons]
      by_cases heq : name = header.name
      · simp [heq, hfirst]
      · simp [heq]

theorem get?_set : (headers.set header).get? name =
    if name = header.name then some header else headers.get? name :=
  find?_setFields header headers.fields

theorem get?_set_ne (h : name ≠ header.name) : (headers.set header).get? name = headers.get? name := by
  rw [get?_set, if_neg h]

theorem not_mem_remove (headers : Headers) (name : HeaderName) :
    ∀ field ∈ (headers.remove name).fields, field.name ≠ name := by
  intro field hmem
  simpa using (List.mem_filter.mp hmem).2

theorem filter_setFields_self {fields : List MailHeader} (hname : header.name = name) :
    (setFields header fields).filter (·.name ≠ name) = fields.filter (·.name ≠ name) := by
  induction fields with
  | nil => simp [setFields, hname]
  | cons first rest ih =>
    rw [setFields]
    by_cases hfirst : first.name = header.name
    · simp [hfirst, hname]
    · rw [if_neg hfirst, List.filter_cons, List.filter_cons, ih]

theorem filter_setFields_ne {fields : List MailHeader} (hname : header.name ≠ name) :
    (setFields header fields).filter (·.name ≠ name) =
      setFields header (fields.filter (·.name ≠ name)) := by
  induction fields with
  | nil => simp [setFields, hname]
  | cons first rest ih =>
    rw [setFields]
    by_cases hfirst : first.name = header.name
    · have hkept : first.name ≠ name := hfirst ▸ hname
      simp [setFields, hfirst, hname]
    · rw [if_neg hfirst, List.filter_cons, List.filter_cons, ih]
      by_cases hdropped : first.name = name
      · simp [hdropped]
      · simp [hdropped, setFields, hfirst]

theorem remove_set_self (hname : header.name = name) :
    (headers.set header).remove name = headers.remove name :=
  Headers.ext (filter_setFields_self hname)

theorem remove_set (hname : header.name ≠ name) :
    (headers.set header).remove name = (headers.remove name).set header :=
  Headers.ext (filter_setFields_ne hname)

end Headers

/-- What a message is delivered by. -/
structure Envelope where
  from_ : Option Address
  to_ : List Address

inductive SinglePart where
  | plain (body : String)
  | attachment (filename : String) (data : Bytes) (contentType : String)

structure MultiPart where
  boundary : String
  parts : List SinglePart

inductive MessageBody where
  | raw (content : Bytes)
  | mime (part : MultiPart)

structure MailMessage where
  headers : Headers
  body : MessageBody
  envelope : Envelope

structure MessageBuilder where
  headers : Headers := .empty
  dropBcc : Bool := true

namespace MessageBuilder

def header (builder : MessageBuilder) (name : HeaderName) (value : HeaderValue) : MessageBuilder :=
  { builder with headers := builder.headers.set ⟨name, value⟩ }

/-- Adds a mailbox to those that a header names. -/
def mailbox (builder : MessageBuilder) (name : HeaderName) (mailbox : Mailbox) : MessageBuilder :=
  builder.header name (.mailboxes (builder.headers.mailboxes name ++ [mailbox]))

def keepBcc (builder : MessageBuilder) : MessageBuilder := { builder with dropBcc := false }

def dateNow (now : Int) (builder : MessageBuilder) : MessageBuilder :=
  if (builder.headers.get? .date).isSome then builder else builder.header .date (.date now)

/-- A message that is built: it is dated, hides who it hides unless told not to, and goes from the
one mailbox it is from to those of its three lists. -/
structure Built (now : Int) (builder : MessageBuilder) (body : MessageBody) (message : MailMessage) :
    Prop where
  headers : message.headers = if builder.dropBcc then (builder.dateNow now).headers.remove .bcc
    else (builder.dateNow now).headers
  body : message.body = body
  envelope : ∃ sender, builder.headers.mailboxes .from_ = [sender] ∧ message.envelope =
    { from_ := some sender.email
      to_ := (builder.headers.mailboxes .to_ ++ builder.headers.mailboxes .cc ++
        builder.headers.mailboxes .bcc).map (·.email) }

end MessageBuilder

def MailHeader.field (encode : MailHeader → Mime.FieldBody) (header : MailHeader) : Mime.Field :=
  ⟨header.name.fieldName, encode header⟩

/-- The library: its parsers with the texts of their errors, how it writes headers and plain texts,
builds messages and formats them. What is assumed of it: a message is built as the builder says,
and its bytes are its headers, those of its outermost part and what follows them. -/
structure Lettre where
  now : Int
  parseAddress : String → Except String Address
  parseMailbox : String → Except String Mailbox
  parseContentType : String → Except String String
  encode : MailHeader → Mime.FieldBody
  encodeText : String → String × Bytes
  build : MessageBuilder → MessageBody → Except String MailMessage
  format : Headers → MessageBody → Bytes
  built {builder : MessageBuilder} {body : MessageBody} {message : MailMessage} :
    build builder body = .ok message → builder.Built now body message
  formatted (headers : Headers) (body : MessageBody) : ∃ part content,
    (∀ header ∈ part, header.name = .contentType) ∧ format headers body =
      Mime.renderMessage ((headers.fields ++ part).map (MailHeader.field encode)) content

section Building
variable (lettre : Lettre)

def MailMessage.formatted (message : MailMessage) : Bytes := lettre.format message.headers message.body

/-- The text is written in an encoding that suits it. -/
def MessageBuilder.body (builder : MessageBuilder) (text : String) : Except String MailMessage :=
  let (encoding, content) := lettre.encodeText text
  lettre.build (builder.header .contentTransferEncoding (.text encoding)) (.raw content)

def MessageBuilder.multipart (builder : MessageBuilder) (part : MultiPart) :
    Except String MailMessage :=
  lettre.build (builder.header .mimeVersion (.text "1.0")) (.mime part)

end Building
end AgentFirstMail
