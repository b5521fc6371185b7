import AgentFirstMail.Outbound.Message

namespace AgentFirstMail
open Mime

section Headers
variable {headers headers' : Headers} {name other : HeaderName} {header : MailHeader}

theorem Headers.get?_remove_ne (h : other ≠ name) :
    (headers.remove name).get? other = headers.get? other := by
  rw [get?, get?, remove, List.find?_filter]
  congr 1
  funext field
  by_cases hother : field.name = other
  · simp [hother, h]
  · simp [hother]

theorem Headers.mailboxes_congr (h : headers.get? name = headers'.get? name) :
    headers.mailboxes name = headers'.mailboxes name := by
  rw [mailboxes, mailboxes, h]

/-- Headers that are the same but for those of one name. -/
def Headers.SameBut (name : HeaderName) (headers headers' : Headers) : Prop :=
  headers.remove name = headers'.remove name

namespace Headers.SameBut

theorem get? (h : SameBut name headers headers') (hother : other ≠ name) :
    headers.get? other = headers'.get? other := by
  rw [← get?_remove_ne hother, h, get?_remove_ne hother]

theorem set (h : SameBut name headers headers') (hheader : header.name ≠ name) :
    SameBut name (headers.set header) (headers'.set header) := by
  rw [SameBut, remove_set hheader, remove_set hheader, h]

theorem symm (h : SameBut name headers headers') : SameBut name headers' headers := Eq.symm h

theorem remove_self : SameBut name (headers.remove name) headers := by
  refine Headers.ext ?_
  rw [remove, remove]
  simp

theorem trans {last : Headers} (h : SameBut name headers headers') (h' : SameBut name headers' last) :
    SameBut name headers last := Eq.trans h h'

end Headers.SameBut
end Headers

namespace MessageBuilder
variable {builder : MessageBuilder} {name other : HeaderName} {value : HeaderValue}
  {mailbox : Mailbox} {mailboxes : List Mailbox}

theorem get?_header : (builder.header name value).headers.get? other =
    if other = name then some ⟨name, value⟩ else builder.headers.get? other := Headers.get?_set

@[simp] theorem mailboxes_header_ne (h : other ≠ name) :
    (builder.header name value).headers.mailboxes other = builder.headers.mailboxes other :=
  Headers.mailboxes_congr (Headers.get?_set_ne h)

theorem mailboxes_mailbox : (builder.mailbox name mailbox).headers.mailboxes name =
    builder.headers.mailboxes name ++ [mailbox] := by
  rw [MessageBuilder.mailbox, header, Headers.mailboxes, Headers.get?_set, if_pos rfl]
  rfl

/-- Adds mailboxes one after the other. -/
def addAll (name : HeaderName) (mailboxes : List Mailbox) (builder : MessageBuilder) : MessageBuilder :=
  mailboxes.foldl (·.mailbox name) builder

theorem mailboxes_addAll : (builder.addAll name mailboxes).headers.mailboxes name =
    builder.headers.mailboxes name ++ mailboxes := by
  induction mailboxes generalizing builder with
  | nil => exact (List.append_nil _).symm
  | cons first rest ih =>
    refine ih.trans ?_
    rw [mailboxes_mailbox, List.append_assoc]
    rfl

theorem mailboxes_addAll_ne (h : other ≠ name) :
    (builder.addAll name mailboxes).headers.mailboxes other = builder.headers.mailboxes other := by
  induction mailboxes generalizing builder with
  | nil => rfl
  | cons first rest ih => exact ih.trans (mailboxes_header_ne h)

theorem sameBut_addAll : Headers.SameBut name (builder.addAll name mailboxes).headers builder.headers := by
  induction mailboxes generalizing builder with
  | nil => rfl
  | cons first rest ih => exact ih.trans (Headers.remove_set_self rfl)

/-- Sets headers one after the other. -/
def setAll (settings : List MailHeader) (builder : MessageBuilder) : MessageBuilder :=
  settings.foldl (fun builder setting => builder.header setting.name setting.value) builder

variable {builder' : MessageBuilder} {settings : List MailHeader}

theorem get?_setAll (h : ∀ setting ∈ settings, other ≠ setting.name) :
    (builder.setAll settings).headers.get? other = builder.headers.get? other := by
  induction settings generalizing builder with
  | nil => rfl
  | cons first rest ih =>
    obtain ⟨hfirst, hrest⟩ := List.forall_mem_cons.mp h
    exact (ih hrest).trans (Headers.get?_set_ne hfirst)

theorem mailboxes_setAll (h : ∀ setting ∈ settings, other ≠ setting.name) :
    (builder.setAll settings).headers.mailboxes other = builder.headers.mailboxes other :=
  Headers.mailboxes_congr (get?_setAll h)

theorem dropBcc_setAll : (builder.setAll settings).dropBcc = builder.dropBcc := by
  induction settings generalizing builder with
  | nil => rfl
  | cons first rest ih => exact ih

theorem sameBut_setAll (h : Headers.SameBut name builder.headers builder'.headers)
    (hsettings : ∀ setting ∈ settings, setting.name ≠ name) :
    Headers.SameBut name (builder.setAll settings).headers (builder'.setAll settings).headers := by
  induction settings generalizing builder builder' with
  | nil => exact h
  | cons first rest ih =>
    obtain ⟨hfirst, hrest⟩ := List.forall_mem_cons.mp hsettings
    exact ih (h.set hfirst) hrest

section Building
variable {now : Int} {lettre : Lettre} {body : MessageBody} {message message' : MailMessage}

theorem dateNow_eq (now : Int) (builder : MessageBuilder) :
    ∃ settings, (∀ setting ∈ settings, setting.name = .date) ∧
      builder.dateNow now = builder.setAll settings := by
  rw [dateNow]
  split
  · exact ⟨[], List.forall_mem_nil _, rfl⟩
  · exact ⟨[⟨.date, .date now⟩], List.forall_mem_singleton.mpr rfl, rfl⟩

theorem get?_dateNow (h : other ≠ .date) :
    (builder.dateNow now).headers.get? other = builder.headers.get? other := by
  obtain ⟨settings, hnames, heq⟩ := dateNow_eq now builder
  rw [heq, get?_setAll]
  exact fun setting hmem => hnames setting hmem ▸ h

theorem mailboxes_dateNow (h : other ≠ .date) :
    (builder.dateNow now).headers.mailboxes other = builder.headers.mailboxes other :=
  Headers.mailboxes_congr (get?_dateNow h)

theorem Built.get? (h : builder.Built now body message) (hdate : other ≠ .date)
    (hbcc : other ≠ .bcc) : message.headers.get? other = builder.headers.get? other := by
  rw [h.headers]
  split
  · rw [Headers.get?_remove_ne hbcc, get?_dateNow hdate]
  · rw [get?_dateNow hdate]

theorem Built.sameBut (hbuilt : builder.Built now body message)
    (hbuilt' : builder'.Built now body message')
    (h : Headers.SameBut .bcc builder.headers builder'.headers) :
    Headers.SameBut .bcc message.headers message'.headers := by
  have hdate : Headers.SameBut .bcc (builder.dateNow now).headers
      (builder'.dateNow now).headers := by
    rw [dateNow, dateNow, h.get? (by decide)]
    split
    · exact h
    · exact h.set (fun heq => nomatch heq)
  have hkept (headers : Headers) (drop : Bool) :
      Headers.SameBut .bcc (if drop then headers.remove .bcc else headers) headers := by
    split
    · exact .remove_self
    · rfl
  rw [hbuilt.headers, hbuilt'.headers]
  exact ((hkept _ _).trans hdate).trans (hkept _ _).symm

end Building
end MessageBuilder

section Steps
variable {host : OutboundHost} {builder built : MessageBuilder} {draft : DraftHeader}
  {message message' : MailMessage}

/-- A value of a recipient list stands for a mailbox. -/
def Parses (lettre : Lettre) (value : String) (mailbox : Mailbox) : Prop :=
  ∃ field, parseMailbox lettre value field = .ok mailbox

theorem Parses.of_mapM {lettre : Lettre} {values : List String} {field : String}
    {mailboxes : List Mailbox} (h : values.mapM (parseMailbox lettre · field) = .ok mailboxes) :
    List.Forall₂ (Parses lettre) values mailboxes :=
  (Result.mapM_eq_ok_iff.mp h).imp fun _ _ hparse => ⟨field, hparse⟩

theorem addMailboxes_eq_ok {name : HeaderName} {field : String} {values : List String}
    (h : addMailboxes host name field values builder = .ok built) :
    ∃ mailboxes, values.mapM (parseMailbox host.lettre · field) = .ok mailboxes ∧
      built = builder.addAll name mailboxes := by
  induction values generalizing builder with
  | nil =>
    cases h
    exact ⟨[], rfl, rfl⟩
  | cons value rest ih =>
    rw [addMailboxes, List.foldlM_cons] at h
    obtain ⟨next, hnext, h⟩ := Result.bind_ok h
    obtain ⟨mailbox, hparse, hnext⟩ := Result.bind_ok hnext
    cases hnext
    obtain ⟨mailboxes, hrest, rfl⟩ := ih h
    refine ⟨mailbox :: mailboxes, ?_, rfl⟩
    rw [List.mapM_cons]
    exact Result.bind_eq_ok_iff.mpr ⟨_, hparse, Result.bind_eq_ok_iff.mpr ⟨_, hrest, rfl⟩⟩

/-- The names of headers that say who a message is from and to. -/
def HeaderName.addresses : List HeaderName := [from_, to_, cc, bcc]

/-- A step that sets the same headers whatever the builder holds, and none with addresses. -/
def SetsOnly (step : MessageBuilder → Result MessageBuilder) : Prop :=
  ∃ settings : List MailHeader, (∀ setting ∈ settings, setting.name ∉ HeaderName.addresses) ∧
    ∀ builder, step builder = .ok (builder.setAll settings)

theorem setsOnly_addDate {date : Option String} (h : addDate host date builder = .ok built) :
    SetsOnly (addDate host date) := by
  cases date with
  | none => exact ⟨[], List.forall_mem_nil _, fun _ => rfl⟩
  | some value =>
    obtain ⟨seconds, hseconds, _⟩ := Result.bind_ok h
    refine ⟨[⟨.date, .date seconds⟩], by simp [HeaderName.addresses], fun builder => ?_⟩
    exact Result.bind_eq_ok_iff.mpr ⟨_, hseconds, rfl⟩

theorem setsOnly_addReplyHeaders {replyTo : Option String}
    (h : addReplyHeaders host replyTo builder = .ok built) :
    SetsOnly (addReplyHeaders host replyTo) := by
  cases replyTo with
  | none => exact ⟨[], List.forall_mem_nil _, fun _ => rfl⟩
  | some replyId =>
    obtain ⟨message, hmessage, h⟩ := Result.bind_ok h
    obtain ⟨headers, hheaders, _⟩ := Result.bind_ok h
    refine ⟨[⟨.inReplyTo, .text headers.inReplyTo⟩, ⟨.references, .text headers.references⟩], ?_,
      fun builder => ?_⟩
    · simp [HeaderName.addresses]
    · exact Result.bind_eq_ok_iff.mpr ⟨_, hmessage, Result.bind_eq_ok_iff.mpr ⟨_, hheaders, rfl⟩⟩

/-- The names of headers that say how a message is written. -/
def HeaderName.format : List HeaderName := [contentType, contentTransferEncoding, mimeVersion]

theorem HeaderName.not_address_of_format {name : HeaderName} (h : name ∈ HeaderName.format) :
    name ∉ HeaderName.addresses := by
  revert h
  cases name <;> decide

theorem finishMessage_eq_ok {attachments : List String} {messageId body : String}
    (h : finishMessage host attachments messageId body builder = .ok message) :
    ∃ (settings : List MailHeader) (content : MessageBody),
      (∀ setting ∈ settings, setting.name ∈ HeaderName.format) ∧
      ∀ builder, finishMessage host attachments messageId body builder =
        (host.lettre.build (builder.setAll settings) content).mapError draftInvalid := by
  rw [finishMessage] at h
  split at h
  · rename_i hempty
    refine ⟨[⟨.contentType, .text "text/plain; charset=utf-8"⟩,
      ⟨.contentTransferEncoding, .text (host.lettre.encodeText body).1⟩],
      .raw (host.lettre.encodeText body).2, by simp [HeaderName.format], fun builder => ?_⟩
    rw [finishMessage, if_pos hempty]
    rfl
  · rename_i hsome
    obtain ⟨parts, hparts, _⟩ := Result.bind_ok h
    refine ⟨[⟨.mimeVersion, .text "1.0"⟩], .mime
      { boundary := s!"afmail-{messageId}-mixed", parts := .plain body :: parts },
      by simp [HeaderName.format], fun builder => ?_⟩
    rw [finishMessage, if_neg hsome, hparts]
    rfl

variable {caseUid body : String} {identity : ResolvedIdentity} {stable : StableMessageHeaders}

theorem startMessage_mailboxes (h : startMessage host caseUid draft identity stable = .ok builder)
    (hname : other ∈ HeaderName.addresses.tail) : builder.headers.mailboxes other = [] := by
  obtain ⟨_, h⟩ := Result.seq_ok h
  obtain ⟨sender, _, h⟩ := Result.bind_ok h
  split at h
  · cases h
  · obtain ⟨settings, hsettings, hstep⟩ := setsOnly_addDate h
    rw [hstep, Except.ok.injEq] at h
    have hother (setting : MailHeader) (hmem : setting ∈ settings) : other ≠ setting.name :=
      fun heq => hsettings setting hmem (List.mem_of_mem_tail (heq ▸ hname))
    rw [← h, MessageBuilder.mailboxes_setAll hother]
    simp only [HeaderName.addresses, List.tail_cons, List.mem_cons, List.not_mem_nil, or_false] at hname
    obtain rfl | rfl | rfl := hname <;> rfl

theorem buildMessage_eq_ok (h : buildMessage host caseUid draft body identity stable = .ok message) :
    ∃ builder tos ccs bccs, startMessage host caseUid draft identity stable = .ok builder ∧
      draft.to_.mapM (parseMailbox host.lettre · "to") = .ok tos ∧
      draft.cc.mapM (parseMailbox host.lettre · "cc") = .ok ccs ∧
      draft.bcc.mapM (parseMailbox host.lettre · "bcc") = .ok bccs ∧
      ∃ built, addReplyHeaders host draft.replyToMessageId
          (((builder.addAll .to_ tos).addAll .cc ccs).addAll .bcc bccs).keepBcc = .ok built ∧
        finishMessage host draft.attachments stable.messageId body built = .ok message := by
  obtain ⟨builder, hstart, h⟩ := Result.bind_ok h
  obtain ⟨_, hto, h⟩ := Result.bind_ok h
  obtain ⟨tos, htos, rfl⟩ := addMailboxes_eq_ok hto
  obtain ⟨_, hcc, h⟩ := Result.bind_ok h
  obtain ⟨ccs, hccs, rfl⟩ := addMailboxes_eq_ok hcc
  obtain ⟨_, hbcc, h⟩ := Result.bind_ok h
  obtain ⟨bccs, hbccs, rfl⟩ := addMailboxes_eq_ok hbcc
  obtain ⟨built, hreply, h⟩ := Result.bind_ok h
  exact ⟨builder, tos, ccs, bccs, hstart, htos, hccs, hbccs, built, hreply, h⟩

theorem mailboxes_recipients (hto : builder.headers.mailboxes .to_ = [])
    (hcc : builder.headers.mailboxes .cc = []) (hbcc : builder.headers.mailboxes .bcc = [])
    (tos ccs bccs : List Mailbox) :
    let headers := (((builder.addAll .to_ tos).addAll .cc ccs).addAll .bcc bccs).headers
    headers.mailboxes .to_ = tos ∧ headers.mailboxes .cc = ccs ∧ headers.mailboxes .bcc = bccs := by
  refine ⟨?_, ?_, ?_⟩
  · rw [MessageBuilder.mailboxes_addAll_ne (by decide), MessageBuilder.mailboxes_addAll_ne (by decide),
      MessageBuilder.mailboxes_addAll, hto, List.nil_append]
  · rw [MessageBuilder.mailboxes_addAll_ne (by decide), MessageBuilder.mailboxes_addAll,
      MessageBuilder.mailboxes_addAll_ne (by decide), hcc, List.nil_append]
  · rw [MessageBuilder.mailboxes_addAll, MessageBuilder.mailboxes_addAll_ne (by decide),
      MessageBuilder.mailboxes_addAll_ne (by decide), hbcc, List.nil_append]

/-- A message is built of a builder that keeps its hidden recipients, with the mailboxes of the
draft's lists. -/
theorem buildMessage_lists
    (h : buildMessage host caseUid draft body identity stable = .ok message) :
    ∃ tos ccs bccs, List.Forall₂ (Parses host.lettre) draft.to_ tos ∧
      List.Forall₂ (Parses host.lettre) draft.cc ccs ∧
      List.Forall₂ (Parses host.lettre) draft.bcc bccs ∧
      ∃ (built : MessageBuilder) (content : MessageBody), built.dropBcc = false ∧
        built.headers.mailboxes .to_ = tos ∧ built.headers.mailboxes .cc = ccs ∧
        built.headers.mailboxes .bcc = bccs ∧ built.Built host.lettre.now content message := by
  obtain ⟨builder, tos, ccs, bccs, hstart, htos, hccs, hbccs, built, hreply, h⟩ :=
    buildMessage_eq_ok h
  obtain ⟨replies, hreplies, hset⟩ := setsOnly_addReplyHeaders hreply
  rw [hset, Except.ok.injEq] at hreply
  obtain ⟨settings, content, hformat, hfinish⟩ := finishMessage_eq_ok h
  have hsettings : ∀ setting ∈ settings, setting.name ∉ HeaderName.addresses :=
    fun setting hmem => HeaderName.not_address_of_format (hformat setting hmem)
  rw [hfinish, ← hreply] at h
  have hrest (name : HeaderName) (hname : name ∈ HeaderName.addresses) (builder : MessageBuilder) :
      ((builder.keepBcc.setAll replies).setAll settings).headers.mailboxes name =
        builder.headers.mailboxes name := by
    have hother {list : List MailHeader}
        (hlist : ∀ setting ∈ list, setting.name ∉ HeaderName.addresses) :
        ∀ setting ∈ list, name ≠ setting.name :=
      fun setting hmem heq => hlist setting hmem (heq ▸ hname)
    rw [MessageBuilder.mailboxes_setAll (hother hsettings),
      MessageBuilder.mailboxes_setAll (hother hreplies)]
    rfl
  have hstarted (name : HeaderName) (hname : name ∈ HeaderName.addresses.tail) :=
    startMessage_mailboxes hstart hname
  obtain ⟨hto, hcc, hbcc⟩ := mailboxes_recipients (hstarted .to_ (by decide)) (hstarted .cc (by decide))
    (hstarted .bcc (by decide)) tos ccs bccs
  refine ⟨tos, ccs, bccs, Parses.of_mapM htos, Parses.of_mapM hccs, Parses.of_mapM hbccs, _, content,
    ?_, ?_, ?_, ?_, host.lettre.built (mapError_eq_ok_iff.mp h)⟩
  · rw [MessageBuilder.dropBcc_setAll, MessageBuilder.dropBcc_setAll]
    rfl
  · rw [hrest _ (by decide), hto]
  · rw [hrest _ (by decide), hcc]
  · rw [hrest _ (by decide), hbcc]

theorem buildMessage_envelope
    (h : buildMessage host caseUid draft body identity stable = .ok message) :
    ∃ mailboxes, List.Forall₂ (Parses host.lettre) (draft.to_ ++ draft.cc ++ draft.bcc) mailboxes ∧
      message.envelope.to_ = mailboxes.map (·.email) := by
  obtain ⟨tos, ccs, bccs, htos, hccs, hbccs, built, content, _, hto, hcc, hbcc, hbuilt⟩ :=
    buildMessage_lists h
  obtain ⟨sender, _, henvelope⟩ := hbuilt.envelope
  refine ⟨tos ++ ccs ++ bccs, List.rel_append (List.rel_append htos hccs) hbccs, ?_⟩
  rw [henvelope, hto, hcc, hbcc]

theorem buildMessage_bcc (h : buildMessage host caseUid draft body identity stable = .ok message)
    (hbcc : draft.bcc ≠ []) : ∃ header ∈ message.headers.fields, header.name = .bcc := by
  obtain ⟨tos, ccs, bccs, _, _, hbccs, built, content, hkept, _, _, hlist, hbuilt⟩ :=
    buildMessage_lists h
  have hheaders := hbuilt.headers
  rw [hkept, if_neg Bool.false_ne_true] at hheaders
  have hnonempty : message.headers.mailboxes .bcc ≠ [] := by
    rw [hheaders, MessageBuilder.mailboxes_dateNow (by decide), hlist]
    intro hnil
    rw [hnil] at hbccs
    exact hbcc (List.forall₂_nil_right_iff.mp hbccs)
  rw [Headers.mailboxes] at hnonempty
  cases hfound : message.headers.get? .bcc with
  | none =>
    rw [hfound] at hnonempty
    exact absurd rfl hnonempty
  | some header =>
    exact ⟨header, List.mem_of_find?_eq_some hfound, by simpa using List.find?_some hfound⟩

/-- Two drafts that differ in their hidden recipients become messages that differ in one header. -/
theorem sameBut_buildMessage {bcc : List String}
    (h : buildMessage host caseUid draft body identity stable = .ok message)
    (h' : buildMessage host caseUid { draft with bcc } body identity stable = .ok message') :
    Headers.SameBut .bcc message.headers message'.headers ∧ message.body = message'.body := by
  obtain ⟨builder, tos, ccs, bccs, hstart, htos, hccs, _, built, hreply, h⟩ := buildMessage_eq_ok h
  obtain ⟨builder', tos', ccs', bccs', hstart', htos', hccs', _, built', hreply', h'⟩ :=
    buildMessage_eq_ok h'
  cases hstart.symm.trans hstart'
  cases htos.symm.trans htos'
  cases hccs.symm.trans hccs'
  obtain ⟨replies, hreplies, hset⟩ := setsOnly_addReplyHeaders hreply
  rw [hset, Except.ok.injEq] at hreply hreply'
  obtain ⟨settings, content, hformat, hfinish⟩ := finishMessage_eq_ok h
  have hsettings : ∀ setting ∈ settings, setting.name ∉ HeaderName.addresses :=
    fun setting hmem => HeaderName.not_address_of_format (hformat setting hmem)
  rw [hfinish, ← hreply] at h
  rw [hfinish, ← hreply'] at h'
  have hbuilt := host.lettre.built (mapError_eq_ok_iff.mp h)
  have hbuilt' := host.lettre.built (mapError_eq_ok_iff.mp h')
  have hother {list : List MailHeader}
      (hlist : ∀ setting ∈ list, setting.name ∉ HeaderName.addresses) :
      ∀ setting ∈ list, setting.name ≠ .bcc :=
    fun setting hmem heq => hlist setting hmem (heq ▸ by decide)
  have hlisted : Headers.SameBut .bcc
      (((builder.addAll .to_ tos).addAll .cc ccs).addAll .bcc bccs).keepBcc.headers
      (((builder.addAll .to_ tos).addAll .cc ccs).addAll .bcc bccs').keepBcc.headers :=
    MessageBuilder.sameBut_addAll.trans MessageBuilder.sameBut_addAll.symm
  have hsettled := MessageBuilder.sameBut_setAll
    (MessageBuilder.sameBut_setAll hlisted (hother hreplies)) (hother hsettings)
  exact ⟨hbuilt.sameBut hbuilt' hsettled, hbuilt.body.trans hbuilt'.body.symm⟩

end Steps

section Delivering
variable {host : OutboundHost} {caseUid messageId : String} {draft : DraftHeader}
  {rawBody : List Char} {date : Option String} {raw raw' : Bytes} {email email' : PreparedEmail}
  {message : MailMessage}

theorem mem_uniqueAddresses {toLowercase : String → String} {seen : Std.ExtTreeSet String}
    {addresses : List String} {address : String}
    (h : address ∈ uniqueAddresses toLowercase seen addresses) :
    address ∈ addresses ∧ toLowercase address ∉ seen := by
  induction addresses generalizing seen with
  | nil => cases h
  | cons first rest ih =>
    rw [uniqueAddresses] at h
    split at h
    · obtain ⟨hmem, hnew⟩ := ih h
      exact ⟨List.mem_cons_of_mem _ hmem, hnew⟩
    · rename_i hfirst
      obtain rfl | hlater := List.mem_cons.mp h
      · exact ⟨List.mem_cons_self, fun hmem => hfirst (Std.ExtTreeSet.contains_iff_mem.mpr hmem)⟩
      · obtain ⟨hmem, hnew⟩ := ih hlater
        exact ⟨List.mem_cons_of_mem _ hmem, fun hseen =>
          hnew (Std.ExtTreeSet.mem_insert.mpr (.inr hseen))⟩

theorem nodup_uniqueAddresses (toLowercase : String → String) (seen : Std.ExtTreeSet String)
    (addresses : List String) :
    ((uniqueAddresses toLowercase seen addresses).map toLowercase).Nodup := by
  induction addresses generalizing seen with
  | nil => exact List.nodup_nil
  | cons first rest ih =>
    rw [uniqueAddresses]
    split
    · exact ih seen
    · refine List.nodup_cons.mpr ⟨fun hmem => ?_, ih _⟩
      obtain ⟨other, hother, heq⟩ := List.mem_map.mp hmem
      exact (mem_uniqueAddresses hother).2 (heq ▸ Std.ExtTreeSet.mem_insert_self)

theorem exists_uniqueAddresses {toLowercase : String → String} {seen : Std.ExtTreeSet String}
    {addresses : List String} {address : String} (h : address ∈ addresses) :
    toLowercase address ∈ seen ∨
      toLowercase address ∈ (uniqueAddresses toLowercase seen addresses).map toLowercase := by
  induction addresses generalizing seen with
  | nil => cases h
  | cons first rest ih =>
    rw [uniqueAddresses]
    split
    · rename_i hfirst
      obtain rfl | hlater := List.mem_cons.mp h
      · exact .inl (Std.ExtTreeSet.contains_iff_mem.mp hfirst)
      · exact ih hlater
    · rw [List.map_cons, List.mem_cons]
      obtain rfl | hlater := List.mem_cons.mp h
      · exact .inr (.inl rfl)
      · obtain hseen | hlisted := ih hlater
        · obtain heq | hbefore := Std.ExtTreeSet.mem_insert.mp hseen
          · exact .inr (.inl (Std.LawfulEqCmp.compare_eq_iff_eq.mp heq).symm)
          · exact .inl hbefore
        · exact .inr (.inr hlisted)

theorem holdsField_delivered (lettre : Lettre) (message : MailMessage) :
    holdsField HeaderName.bcc.fieldName
      ({ message with headers := message.headers.remove .bcc }.formatted lettre) = false := by
  obtain ⟨part, content, hpart, heq⟩ := lettre.formatted (message.headers.remove .bcc) message.body
  rw [Bool.eq_false_iff, ne_eq, MailMessage.formatted, heq, holdsField_renderMessage]
  intro ⟨field, hmem, hname⟩
  obtain ⟨header, hheader, rfl⟩ := List.mem_map.mp hmem
  have hbcc : header.name = .bcc := HeaderName.eq_bcc hname
  obtain hkept | hother := List.mem_append.mp hheader
  · exact message.headers.not_mem_remove .bcc header hkept hbcc
  · cases hbcc.symm.trans (hpart header hother)

theorem holdsField_formatted (lettre : Lettre) {message : MailMessage}
    (h : ∃ header ∈ message.headers.fields, header.name = .bcc) :
    holdsField HeaderName.bcc.fieldName (message.formatted lettre) = true := by
  obtain ⟨header, hmem, hname⟩ := h
  obtain ⟨part, content, _, heq⟩ := lettre.formatted message.headers message.body
  rw [MailMessage.formatted, heq, holdsField_renderMessage]
  exact ⟨header.field lettre.encode, List.mem_map_of_mem (List.mem_append_left _ hmem),
    by rw [MailHeader.field, hname]⟩

/-- Who a mail is delivered to, and what only the bytes that are kept of it tell. -/
structure MailDelivery (host : OutboundHost) (draft : DraftHeader) (raw : Bytes)
    (email : PreparedEmail) : Prop where
  once : (email.envelopeTo.map host.toLowercase).Nodup
  named : ∀ value ∈ draft.to_ ++ draft.cc ++ draft.bcc, ∃ mailbox,
    Parses host.lettre value mailbox ∧
      host.toLowercase mailbox.email.text ∈ email.envelopeTo.map host.toLowercase
  only : ∀ address ∈ email.envelopeTo, ∃ value ∈ draft.to_ ++ draft.cc ++ draft.bcc, ∃ mailbox,
    Parses host.lettre value mailbox ∧ mailbox.email.text = address
  hidden : holdsField HeaderName.bcc.fieldName email.deliveryRaw = false
  kept : draft.bcc ≠ [] → holdsField HeaderName.bcc.fieldName raw = true

theorem deliver_eq_ok (h : deliver host message = .ok (raw, email)) :
    raw = message.formatted host.lettre ∧
      email.deliveryRaw =
        { message with headers := message.headers.remove .bcc }.formatted host.lettre ∧
      email.envelopeTo =
        uniqueAddresses host.toLowercase ∅ (message.envelope.to_.map (·.text)) := by
  rw [deliver] at h
  split at h
  · cases h
  · cases h
    exact ⟨rfl, rfl, rfl⟩

theorem prepareDraft_eq_ok
    (h : prepareDraft host caseUid draft rawBody messageId date = .ok (raw, email)) :
    ∃ body identity message,
      (outboundBody rawBody).mapError draftContentError = .ok body ∧
      (host.resolveIdentity draft.identity).mapError identityDraftError = .ok identity ∧
      buildMessage host caseUid draft (String.ofList body) identity
        ⟨s!"<{messageId}@afmail.local>", messageId, date⟩ = .ok message ∧
      deliver host message = .ok (raw, email) := by
  obtain ⟨message, hbuilt, hdeliver⟩ := Result.bind_ok h
  obtain ⟨body, hbody, hbuilt⟩ := Result.bind_ok hbuilt
  obtain ⟨identity, hidentity, hbuilt⟩ := Result.bind_ok hbuilt
  exact ⟨body, identity, message, hbody, hidentity, hbuilt, hdeliver⟩

theorem prepareDraft_delivers
    (h : prepareDraft host caseUid draft rawBody messageId date = .ok (raw, email)) :
    MailDelivery host draft raw email := by
  obtain ⟨body, identity, message, _, _, hbuilt, hdeliver⟩ := prepareDraft_eq_ok h
  obtain ⟨mailboxes, hparsed, henvelope⟩ := buildMessage_envelope hbuilt
  obtain ⟨hraw, hdelivery, hto⟩ := deliver_eq_ok hdeliver
  have htexts : message.envelope.to_.map (·.text) = mailboxes.map (·.email.text) := by
    rw [henvelope, List.map_map]
    rfl
  rw [htexts] at hto
  refine ⟨?_, ?_, ?_, ?_, ?_⟩
  · rw [hto]
    exact nodup_uniqueAddresses ..
  · intro value hvalue
    obtain ⟨mailbox, hmailbox, hparse⟩ := Lists.exists_of_forall₂ hparsed.flip hvalue
    refine ⟨mailbox, hparse, ?_⟩
    rw [hto]
    have hmem : mailbox.email.text ∈ mailboxes.map (·.email.text) := List.mem_map_of_mem hmailbox
    obtain hseen | hlisted := exists_uniqueAddresses hmem
    · exact (Std.ExtTreeSet.not_mem_empty hseen).elim
    · exact hlisted
  · intro address haddress
    rw [hto] at haddress
    obtain ⟨mailbox, hmailbox, heq⟩ := List.mem_map.mp (mem_uniqueAddresses haddress).1
    obtain ⟨value, hvalue, hparse⟩ := Lists.exists_of_forall₂ hparsed hmailbox
    exact ⟨value, hvalue, mailbox, hparse, heq⟩
  · rw [hdelivery]
    exact holdsField_delivered ..
  · intro hbcc
    rw [hraw]
    exact holdsField_formatted _ (buildMessage_bcc hbuilt hbcc)

theorem prepareDraft_sameDelivery {bcc : List String}
    (h : prepareDraft host caseUid draft rawBody messageId date = .ok (raw, email))
    (h' : prepareDraft host caseUid { draft with bcc } rawBody messageId date = .ok (raw', email')) :
    email.deliveryRaw = email'.deliveryRaw := by
  obtain ⟨body, identity, message, hbody, hidentity, hbuilt, hdeliver⟩ := prepareDraft_eq_ok h
  obtain ⟨_, _, message', hbody', hidentity', hbuilt', hdeliver'⟩ := prepareDraft_eq_ok h'
  cases hbody.symm.trans hbody'
  cases hidentity.symm.trans hidentity'
  obtain ⟨hheaders, hbodies⟩ := sameBut_buildMessage hbuilt hbuilt'
  rw [(deliver_eq_ok hdeliver).2.1, (deliver_eq_ok hdeliver').2.1, MailMessage.formatted,
    MailMessage.formatted, hheaders, hbodies]

end Delivering
end AgentFirstMail
