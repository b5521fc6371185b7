import AgentFirstMail.Outbound.BccRules
import AgentFirstMail.PushQueue.RenderedSends
import AgentFirstMail.Transport.Senders

namespace AgentFirstMail
open Effect Mime

/-- A host that renders the emails of a workspace of their drafts. -/
def Host.renderingMails (host : Host) (mail : Workspace → OutboundHost) : Host :=
  { host with
    buildDraftMessage := fun w draft messageId date => do
      let file ← w.readDraft draft.caseUid draft.draftName
      prepareEmail (mail w) draft.caseUid file.text messageId (some date) }

/-- The draft that the bytes of its file are read as. -/
def ReadsAs (host : OutboundHost) (bytes : Bytes) (draft : DraftHeader) (rawBody : List Char) : Prop :=
  ∃ text, readToString "read draft" bytes = .ok text ∧ readDoc host.format text = .ok (draft, rawBody)

/-- The bytes of mails that a request hands to the outside; publishing is for file channels, and
would hand over what is kept of a mail. -/
def Request.mails (cloudflare : CloudflareHost) : Request → List Bytes
  | sendRawMessage _ _ _ raw => [raw]
  | sendCloudflareRawMessage _ prepared =>
    match requestBody cloudflare prepared with
    | .ok submission => [textBytes submission.mimeMessage.toList]
    | .error _ => []
  | publish _ prepared =>
    match prepared.delivery with
    | .email _ => [prepared.raw]
    | .file _ => []
  | appendMessage _ _ raw _ => [raw]
  | _ => []

section Preparing
variable {host : OutboundHost} {caseUid messageId : String} {bytes bytes' raw raw' : Bytes}
  {date : Option String} {email email' : PreparedEmail} {draft : DraftHeader} {rawBody : List Char}

theorem prepareEmail_eq_ok (h : prepareEmail host caseUid bytes messageId date = .ok (raw, email)) :
    ∃ draft rawBody, ReadsAs host bytes draft rawBody ∧
      prepareDraft host caseUid draft rawBody messageId date = .ok (raw, email) := by
  obtain ⟨text, htext, h⟩ := Result.bind_ok h
  obtain ⟨⟨draft, rawBody⟩, hdoc, h⟩ := Result.bind_ok h
  exact ⟨draft, rawBody, ⟨text, htext, hdoc⟩, h⟩

theorem ReadsAs.unique {draft' : DraftHeader} {rawBody' : List Char}
    (h : ReadsAs host bytes draft rawBody) (h' : ReadsAs host bytes draft' rawBody') :
    draft = draft' ∧ rawBody = rawBody' := by
  obtain ⟨text, htext, hdoc⟩ := h
  obtain ⟨text', htext', hdoc'⟩ := h'
  cases htext.symm.trans htext'
  cases hdoc.symm.trans hdoc'
  exact ⟨rfl, rfl⟩

theorem prepareEmail_sameDelivery {bcc : List String} (hread : ReadsAs host bytes draft rawBody)
    (hread' : ReadsAs host bytes' { draft with bcc } rawBody)
    (h : prepareEmail host caseUid bytes messageId date = .ok (raw, email))
    (h' : prepareEmail host caseUid bytes' messageId date = .ok (raw', email')) :
    email.deliveryRaw = email'.deliveryRaw := by
  obtain ⟨_, _, hfound, hprepared⟩ := prepareEmail_eq_ok h
  obtain ⟨_, _, hfound', hprepared'⟩ := prepareEmail_eq_ok h'
  obtain ⟨rfl, rfl⟩ := hread.unique hfound
  obtain ⟨rfl, rfl⟩ := hread'.unique hfound'
  exact prepareDraft_sameDelivery hprepared hprepared'

end Preparing

section Sending
variable {host : Host} {mail : Workspace → OutboundHost} {prepared : PreparedOutbound}
  {email : PreparedEmail}

theorem PreparedOutbound.email_eq_ok (h : prepared.email = .ok email) :
    prepared.delivery = .email email := by
  rw [PreparedOutbound.email] at h
  split at h
  · rename_i found hfound
    rw [hfound, Except.ok.inj h]
  · cases h

theorem PreparedOutbound.Rendered.hidden (h : prepared.Rendered (host.renderingMails mail))
    (hemail : prepared.email = .ok email) :
    holdsField HeaderName.bcc.fieldName email.deliveryRaw = false := by
  obtain ⟨w, draft, messageId, date, hprepared⟩ := h
  obtain ⟨frontmatter?, _, hprepared⟩ := Result.bind_ok hprepared
  have hdelivery := PreparedOutbound.email_eq_ok hemail
  cases frontmatter? with
  | none => cases hprepared
  | some frontmatter =>
    dsimp only at hprepared
    split at hprepared
    · obtain ⟨raw, _, hprepared⟩ := Result.bind_ok hprepared
      cases hprepared
      cases hdelivery
    · obtain ⟨⟨raw, found⟩, hrendered, hprepared⟩ := Result.bind_ok hprepared
      cases hprepared
      cases hdelivery
      obtain ⟨file, _, hrendered⟩ := Result.bind_ok hrendered
      obtain ⟨header, rawBody, _, hdraft⟩ := prepareEmail_eq_ok hrendered
      exact (prepareDraft_delivers hdraft).hidden

theorem requestBody_mimeMessage {cloudflare : CloudflareHost} {submission : RawSubmission}
    (h : requestBody cloudflare prepared = .ok submission) :
    ∃ email, prepared.email = .ok email ∧
      textBytes submission.mimeMessage.toList = email.deliveryRaw := by
  obtain ⟨email, hemail, h⟩ := Result.bind_ok h
  obtain ⟨_, h⟩ := Result.seq_ok h
  obtain ⟨_, h⟩ := Result.seq_ok h
  obtain ⟨_, h⟩ := Result.seq_ok h
  refine ⟨email, hemail, ?_⟩
  split at h
  · rename_i raw hraw
    cases h
    exact textBytes_toList hraw
  · cases h

/-- Of a push that renders its mails, only what is appended to a mailbox tells of hidden
recipients. -/
theorem Request.SendsRendered.appends {request : Request} {cloudflare : CloudflareHost}
    {bytes : Bytes} (h : request.SendsRendered (host.renderingMails mail))
    (hmem : bytes ∈ request.mails cloudflare)
    (htells : holdsField HeaderName.bcc.fieldName bytes = true) :
    ∃ site folder isDraft, request = .appendMessage site folder bytes isDraft := by
  cases request with
  | sendRawMessage site sender recipients raw =>
    obtain ⟨prepared, email, hrendered, hemail, rfl⟩ := h
    rw [List.mem_singleton.mp hmem, hrendered.hidden hemail] at htells
    cases htells
  | sendCloudflareRawMessage site prepared =>
    rw [Request.mails] at hmem
    split at hmem
    · rename_i submission hsubmission
      obtain ⟨email, hemail, hbytes⟩ := requestBody_mimeMessage hsubmission
      rw [List.mem_singleton.mp hmem, hbytes, PreparedOutbound.Rendered.hidden h hemail] at htells
      cases htells
    · cases hmem
  | publish site prepared =>
    rw [Request.mails] at hmem
    have hfile := h.2
    rw [PreparedOutbound.isFile] at hfile
    split at hmem
    · rename_i hemail
      rw [hemail] at hfile
      cases hfile
    · cases hmem
  | appendMessage site folder raw isDraft =>
    rw [List.mem_singleton.mp hmem]
    exact ⟨site, folder, isDraft, rfl⟩
  | _ => cases hmem

end Sending

/-- A mail goes to those it names, each once, and tells nothing of those it hides: neither in what
is delivered nor by it, and in no run of a push to anything but a mailbox. -/
structure HidesBcc (mail : Workspace → OutboundHost) (cloudflare : CloudflareHost) : Prop where
  delivery {w : Workspace} {caseUid messageId : String} {bytes raw : Bytes} {date : Option String}
    {email : PreparedEmail} :
    prepareEmail (mail w) caseUid bytes messageId date = .ok (raw, email) →
      ∃ draft rawBody, ReadsAs (mail w) bytes draft rawBody ∧ MailDelivery (mail w) draft raw email
  sameDelivery {w : Workspace} {caseUid messageId : String} {bytes bytes' raw raw' : Bytes}
    {date : Option String} {email email' : PreparedEmail} {draft : DraftHeader}
    {rawBody : List Char} {bcc : List String} :
    ReadsAs (mail w) bytes draft rawBody → ReadsAs (mail w) bytes' { draft with bcc } rawBody →
      prepareEmail (mail w) caseUid bytes messageId date = .ok (raw, email) →
      prepareEmail (mail w) caseUid bytes' messageId date = .ok (raw', email') →
      email.deliveryRaw = email'.deliveryRaw
  sent {w : Workspace} {confirmed : PushPlanDigest} {events : List RemoteEvent}
    {outcome : Outcome AppError PushSummary} {process : Process} :
    Exec (pushConfirmed (cloudflare.toHost.renderingMails mail) confirmed) (.start w) events outcome
      process → ∀ event ∈ events, ∀ bytes ∈ event.request.mails cloudflare,
        holdsField HeaderName.bcc.fieldName bytes = true →
          ∃ site folder isDraft, event.request = .appendMessage site folder bytes isDraft

theorem hidesBcc (mail : Workspace → OutboundHost) (cloudflare : CloudflareHost) :
    HidesBcc mail cloudflare where
  delivery h := by
    obtain ⟨draft, rawBody, hread, hprepared⟩ := prepareEmail_eq_ok h
    exact ⟨draft, rawBody, hread, prepareDraft_delivers hprepared⟩
  sameDelivery hread hread' h h' := prepareEmail_sameDelivery hread hread' h h'
  sent h event hmem bytes hbytes htells :=
    (pushConfirmed_sendsRendered h event hmem).appends hbytes htells

section Note

def noteHeader : DraftHeader where
  caseUid := "c1"
  subject := some "Note"
  to_ := ["ann@example.com"]
  cc := ["Ann@example.com"]
  bcc := ["bob@example.com"]

/-- A line that a header is written in. -/
def noteLine (text : String) : FieldBody where
  first := (textBytes text.toList).filter (· ≠ 10)
  unbroken := by simp
  folded := List.forall_mem_nil _

def noteMailbox (mailbox : Mailbox) : String :=
  match mailbox.name with
  | none => mailbox.email.text
  | some name => s!"{name} <{mailbox.email.text}>"

def noteEncode (header : MailHeader) : FieldBody :=
  noteLine <| match header.value with
    | .text text => text
    | .mailboxes mailboxes => ", ".intercalate (mailboxes.map noteMailbox)
    | .date _ => "Thu, 01 Jan 2026 00:00:00 +0000"

def noteBuild (builder : MessageBuilder) (body : MessageBody) : Except String MailMessage :=
  let named := builder.headers.mailboxes
  match named .from_ with
  | [] => .error "missing source address, invalid envelope"
  | [sender] =>
    let to_ := (named .to_ ++ named .cc ++ named .bcc).map (·.email)
    let headers := (builder.dateNow 0).headers
    if to_.isEmpty then .error "missing destination address, invalid envelope"
    else .ok { headers := if builder.dropBcc then headers.remove .bcc else headers
               body, envelope := { from_ := some sender.email, to_ } }
  | _ => .error "there can only be one source address"

/-- Takes plain addresses, and writes short headers in one line each; parts are not written. -/
def noteLettre : Lettre where
  now := 0
  parseAddress text := if text.toList.contains '@' then .ok ⟨text⟩ else .error "missing @"
  parseMailbox text :=
    if text.toList.contains '@' && !text.toList.contains '<' then .ok ⟨none, ⟨text⟩⟩ else .error "invalid input"
  parseContentType := .ok
  encode := noteEncode
  encodeText text := ("7bit", textBytes text.toList)
  build := noteBuild
  format headers body := Mime.renderMessage (headers.fields.map (MailHeader.field noteEncode)) <|
    match body with
    | .raw content => content
    | .mime _ => []
  built {_ _ _} h := by
    unfold noteBuild at h
    dsimp only at h
    split at h
    · cases h
    · rename_i sender hsender
      split at h
      · cases h
      · cases h
        exact ⟨rfl, rfl, sender, hsender, rfl⟩
    · cases h
  formatted _ _ := ⟨[], _, List.forall_mem_nil _, by rw [List.append_nil]⟩

def noteHost : OutboundHost where
  lettre := noteLettre
  format :=
    { fromStr yaml :=
        if yaml = "bcc: bob\n".toList then .ok noteHeader
        else if yaml = "bcc: cyn\n".toList then .ok { noteHeader with bcc := ["cyn@example.com"] }
        else .error "not a note"
      yamlToString _ := .error "not written"
      editDocument _ _ := .ok none }
  parseRfc3339 _ := .ok 1767225600
  resolveIdentity _ := .ok { identity := "me", name := "Me", email := "me@example.com" }
  readMessageById id := .error (replyToUnidentified id)
  readAttachment _ := .error (draftInvalid "no attachments")
  sanitize := id
  mimeGuess _ := none
  toLowercase text := String.ofList (text.toList.map Char.toLower)

def noteBytes (bcc : String) : Bytes :=
  textBytes ("---\nbcc: " ++ bcc ++
    "\n---\n<!-- afmail:compose:start -->\nHello\n<!-- afmail:compose:end -->\n").toList

def noteBody : List Char :=
  "<!-- afmail:compose:start -->\nHello\n<!-- afmail:compose:end -->\n".toList

def noteMail (bcc : String) : Result (Bytes × PreparedEmail) :=
  prepareEmail noteHost "c1" (noteBytes bcc) "message_sent_1" (some "2026-01-01T00:00:00Z")

theorem readsAs_note (bcc : String) {draft : DraftHeader}
    (h : readDoc noteHost.format ("---\nbcc: " ++ bcc ++
      "\n---\n<!-- afmail:compose:start -->\nHello\n<!-- afmail:compose:end -->\n").toList =
        .ok (draft, noteBody)) : ReadsAs noteHost (noteBytes bcc) draft noteBody :=
  ⟨_, readToString_textBytes _ _, h⟩

theorem Result.exists_of_isOk {x : Result α} (h : x.isOk = true) : ∃ value, x = .ok value := by
  cases x with
  | ok value => exact ⟨value, rfl⟩
  | error error => cases h

/-- Bob is written to, and his note reads as the one that Cyn would have been hidden in. -/
theorem hidesBcc_note : ∃ raw email raw' email', noteMail "bob" = .ok (raw, email) ∧
    noteMail "cyn" = .ok (raw', email') ∧ MailDelivery noteHost noteHeader raw email ∧
    email.deliveryRaw = email'.deliveryRaw := by
  have hbob : (noteMail "bob").isOk = true := by decide +kernel
  have hcyn : (noteMail "cyn").isOk = true := by decide +kernel
  have hread : ReadsAs noteHost (noteBytes "bob") noteHeader noteBody :=
    readsAs_note "bob" (by decide +kernel)
  have hread' : ReadsAs noteHost (noteBytes "cyn") { noteHeader with bcc := ["cyn@example.com"] }
      noteBody := readsAs_note "cyn" (by decide +kernel)
  have hides := hidesBcc (fun _ => noteHost)
    { plainHost with cloudflare := ⟨none, .error fileSendNotApplicable⟩, recipientKey := id }
  obtain ⟨⟨raw, email⟩, hmail⟩ := Result.exists_of_isOk hbob
  obtain ⟨⟨raw', email'⟩, hmail'⟩ := Result.exists_of_isOk hcyn
  obtain ⟨draft, rawBody, hfound, hdelivery⟩ := hides.delivery (w := { config := .default }) hmail
  obtain ⟨rfl, rfl⟩ := hread.unique hfound
  exact ⟨raw, email, raw', email', hmail, hmail', hdelivery,
    hides.sameDelivery (w := { config := .default }) hread hread' hmail hmail'⟩

end Note
end AgentFirstMail
