import AgentFirstMail.Outbound.BccPrivacy
import AgentFirstMail.Projection.RelationIndex

namespace AgentFirstMail
open Text

/-- A message id without brackets: neither empty nor with whitespace or a bracket in it. -/
structure IsToken (token : List Char) : Prop where
  nonempty : token ≠ []
  plain : ∀ c ∈ token, isWhitespace c = false ∧ c ≠ '<' ∧ c ≠ '>'

/-- What a stored message id is without the brackets that it has. -/
def idToken (id : String) : List Char :=
  let text := trim id.toList
  if ['<'].isPrefixOf text && ['>'].isSuffixOf text then text.tail.dropLast else text

def tokenText (id : String) : String := String.ofList (idToken id)

def inBrackets (token : List Char) : List Char := '<' :: token ++ ['>']

/-- The ids of the messages that a header names. -/
def Headers.idsIn (headers : Headers) (name : HeaderName) : List String :=
  match headers.get? name with
  | some ⟨_, .text text⟩ => (bracketed text.toList none).map String.ofList
  | _ => []

/-- The mails that are built and the parser of mails agree on the ids in brackets: those that a
message names in its headers are those that are found in its bytes. -/
def CarriesIds (lettre : Lettre) (parser : MailParser) (message : MailMessage) : Prop :=
  ∃ headers, parser.parse (message.formatted lettre) = some headers ∧
    headers.inReplyTo = message.headers.idsIn .inReplyTo ∧
    headers.references = message.headers.idsIn .references

def headerIdList (value : List String) : List String := value.map trimmed

/-- A message as it is stored of the bytes that were sent: what is read of its headers, and that it
comes from no file source. -/
structure ParsedBack (parser : MailParser) (raw : Bytes) (sent : MessageBase) : Prop where
  native : sent.origin = none
  headers : ∃ headers, parser.parse raw = some headers ∧
    sent.content.inReplyTo = (headerIdList headers.inReplyTo).getLast? ∧
    sent.content.references = headerIdList headers.references

/-- The references of an answer: those of the mail that is answered, and its id unless it is one
of them as it stands. -/
def referencesWith (answered : MessageBase) (own : String) : List String :=
  if own ∈ answered.content.references then answered.content.references
  else answered.content.references ++ [own]

/-- The id of a message and those of its references are message ids. -/
structure HasTokens (message : MessageBase) (own : String) : Prop where
  own : IsToken (idToken own)
  references : ∀ id ∈ message.content.references, IsToken (idToken id)

theorem HasTokens.referencesWith {message : MessageBase} {own : String} (h : HasTokens message own) :
    ∀ id ∈ referencesWith message own, IsToken (idToken id) := by
  rw [AgentFirstMail.referencesWith]
  split
  · exact h.references
  · exact List.forall_mem_append.mpr ⟨h.references, List.forall_mem_singleton.mpr h.own⟩

section Brackets
variable {token : List Char} {tokens : List (List Char)} {id : String}

theorem IsToken.not_mem (h : IsToken token) : '<' ∉ token ∧ '>' ∉ token :=
  ⟨fun hmem => (h.plain _ hmem).2.1 rfl, fun hmem => (h.plain _ hmem).2.2 rfl⟩

theorem isToken_of_all (h : (!token.isEmpty && token.all fun c =>
    !isWhitespace c && c != '<' && c != '>') = true) : IsToken token := by
  rw [Bool.and_eq_true, Bool.not_eq_true', List.isEmpty_eq_false_iff, List.all_eq_true] at h
  refine ⟨h.1, fun c hmem => ?_⟩
  have hplain := h.2 c hmem
  simp only [Bool.and_eq_true, Bool.not_eq_true', bne_iff_ne, and_assoc] at hplain
  exact hplain

theorem inBrackets_of_brackets {text : List Char} (hopen : ['<'].isPrefixOf text = true)
    (hclose : ['>'].isSuffixOf text = true) (h : text.tail.dropLast ≠ []) :
    inBrackets text.tail.dropLast = text := by
  obtain ⟨rest, rfl⟩ := List.isPrefixOf_iff_prefix.mp hopen
  rw [List.singleton_append, List.tail_cons] at h ⊢
  have hne : rest ≠ [] := fun hnil => h (by rw [hnil, List.dropLast_nil])
  obtain ⟨front, hfront⟩ := List.isSuffixOf_iff_suffix.mp hclose
  have hlast : rest.getLast hne = '>' := by
    have hends := congrArg List.getLast? hfront
    rw [List.getLast?_append_of_ne_nil _ (List.cons_ne_nil _ _), List.singleton_append,
      List.getLast?_cons_of_ne_nil hne, List.getLast?_eq_some_getLast hne] at hends
    exact (Option.some.inj hends).symm
  have hsplit := List.dropLast_append_getLast hne
  rw [hlast] at hsplit
  rw [inBrackets, List.cons_append, hsplit]

theorem trim_id (h : IsToken (idToken id)) :
    trim id.toList = inBrackets (idToken id) ∨
      trim id.toList = idToken id ∧ ensureBrackets id = String.ofList (inBrackets (idToken id)) := by
  have hne := h.nonempty
  rw [idToken] at hne ⊢
  split
  · rename_i hbrackets
    rw [if_pos hbrackets] at hne
    obtain ⟨hopen, hclose⟩ := Bool.and_eq_true_iff.mp hbrackets
    exact .inl (inBrackets_of_brackets hopen hclose hne).symm
  · rename_i hbare
    refine .inr ⟨rfl, ?_⟩
    rw [ensureBrackets, if_neg hbare]
    rfl

theorem ensureBrackets_eq (h : IsToken (idToken id)) :
    ensureBrackets id = String.ofList (inBrackets (idToken id)) := by
  obtain htrim | ⟨_, hbare⟩ := trim_id h
  · have hopen : ['<'].isPrefixOf (trim id.toList) = true := by
      rw [htrim, List.isPrefixOf_iff_prefix]
      exact List.prefix_append ['<'] _
    have hclose : ['>'].isSuffixOf (trim id.toList) = true := by
      rw [htrim, List.isSuffixOf_iff_suffix]
      exact List.suffix_append _ ['>']
    rw [ensureBrackets, hopen, hclose, htrim]
    rfl
  · exact hbare

theorem bracketed_open (h : '>' ∉ token) (begun rest : List Char) :
    bracketed (token ++ '>' :: rest) (some begun) = (begun ++ token) :: bracketed rest none := by
  induction token generalizing begun with
  | nil =>
    rw [List.nil_append, bracketed, if_pos rfl, List.append_nil]
  | cons c token ih =>
    rw [List.mem_cons, not_or] at h
    rw [List.cons_append, bracketed, if_neg (Ne.symm h.1), ih h.2, List.append_assoc]
    rfl

theorem bracketed_inBrackets (h : '>' ∉ token) (rest : List Char) :
    bracketed (inBrackets token ++ rest) none = token :: bracketed rest none := by
  have hopen := bracketed_open h [] rest
  rw [inBrackets, List.cons_append, List.cons_append, bracketed, if_pos rfl, List.append_assoc]
  exact hopen

theorem bracketed_intercalate (h : ∀ token ∈ tokens, '>' ∉ token) :
    bracketed (List.intercalate [' '] (tokens.map inBrackets)) none = tokens := by
  induction tokens with
  | nil => rfl
  | cons token tokens ih =>
    obtain ⟨hfirst, hrest⟩ := List.forall_mem_cons.mp h
    cases tokens with
    | nil =>
      have hsingle := bracketed_inBrackets hfirst []
      rw [List.append_nil] at hsingle
      rw [List.map_singleton, List.intercalate_singleton]
      exact hsingle
    | cons next tokens =>
      rw [List.map_cons, List.map_cons, List.intercalate_cons_cons, List.append_assoc,
        bracketed_inBrackets hfirst, List.singleton_append, bracketed, if_neg (by decide),
        ← List.map_cons, ih hrest]

theorem trim_of_plain (h : ∀ c ∈ token, isWhitespace c = false) : trim token = token := by
  have hfirst : ∀ c ∈ token.head?, isWhitespace c = false :=
    fun c hmem => h c (List.mem_of_mem_head? hmem)
  have hlast : ∀ c ∈ token.getLast?, isWhitespace c = false :=
    fun c hmem => h c (List.mem_of_mem_getLast? hmem)
  rw [trim, trimMatches_eq, dropWhile_of_first hfirst, rdropWhile_of_last hlast]

theorem trimmed_ofList (h : IsToken token) : trimmed (String.ofList token) = String.ofList token := by
  rw [trimmed, String.toList_ofList, trim_of_plain fun c hmem => (h.plain c hmem).1]

end Brackets

theorem headerIdList_tokenText {ids : List String} (h : ∀ id ∈ ids, IsToken (idToken id)) :
    headerIdList (ids.map tokenText) = ids.map tokenText := by
  rw [headerIdList, List.map_map]
  exact List.map_congr_left fun id hmem => trimmed_ofList (h id hmem)

theorem Headers.idsIn_ensured {headers : Headers} {name : HeaderName} {text : String}
    {ids : List String} (hget : headers.get? name = some ⟨name, .text text⟩)
    (h : ∀ id ∈ ids, IsToken (idToken id)) (htext : text = " ".intercalate (ids.map ensureBrackets)) :
    headers.idsIn name = ids.map tokenText := by
  have hclosed : ∀ token ∈ ids.map idToken, '>' ∉ token := by
    intro token hmem
    obtain ⟨id, hid, rfl⟩ := List.mem_map.mp hmem
    exact (h id hid).not_mem.2
  have hpieces : (ids.map ensureBrackets).map String.toList = (ids.map idToken).map inBrackets := by
    rw [List.map_map, List.map_map]
    refine List.map_congr_left fun id hmem => ?_
    rw [Function.comp_apply, ensureBrackets_eq (h id hmem), String.toList_ofList]
    rfl
  rw [idsIn, hget]
  dsimp only
  rw [htext, String.toList_intercalate, hpieces]
  change List.map _ (bracketed (List.intercalate [' '] _) none) = _
  rw [bracketed_intercalate hclosed, List.map_map]
  rfl

section Answering
variable {host : OutboundHost} {caseUid body replyId : String} {draft : DraftHeader}
  {identity : ResolvedIdentity} {stable : StableMessageHeaders} {message : MailMessage}
  {answered : MessageBase}

/-- A mail that answers another one has the headers of the answer. -/
theorem buildMessage_replyHeaders
    (h : buildMessage host caseUid draft body identity stable = .ok message)
    (hreply : draft.replyToMessageId = some replyId)
    (hread : host.readMessageById replyId = .ok answered) :
    ∃ headers, replyHeaders answered replyId = .ok headers ∧
      message.headers.get? .inReplyTo = some ⟨.inReplyTo, .text headers.inReplyTo⟩ ∧
      message.headers.get? .references = some ⟨.references, .text headers.references⟩ := by
  obtain ⟨builder, tos, ccs, bccs, _, _, _, _, built, hadded, h⟩ := buildMessage_eq_ok h
  rw [hreply] at hadded
  obtain ⟨found, hfound, hadded⟩ := Result.bind_ok hadded
  cases hread.symm.trans hfound
  obtain ⟨headers, hheaders, hadded⟩ := Result.bind_ok hadded
  cases hadded
  obtain ⟨settings, content, hformat, hfinish⟩ := finishMessage_eq_ok h
  rw [hfinish] at h
  have hbuilt := host.lettre.built (mapError_eq_ok_iff.mp h)
  have hother (name : HeaderName) (hname : name ∉ HeaderName.format) :
      ∀ setting ∈ settings, name ≠ setting.name :=
    fun setting hmem heq => hname (heq ▸ hformat setting hmem)
  refine ⟨headers, hheaders, ?_, ?_⟩
  · rw [hbuilt.get? (by decide) (by decide),
      MessageBuilder.get?_setAll (hother _ (by decide)), MessageBuilder.get?_header,
      if_neg (by decide), MessageBuilder.get?_header, if_pos rfl]
  · rw [hbuilt.get? (by decide) (by decide),
      MessageBuilder.get?_setAll (hother _ (by decide)), MessageBuilder.get?_header,
      if_pos rfl]

theorem replyHeaders_eq {own : String} (h : answered.content.rfc822MessageId = some own)
    (replyId : String) : replyHeaders answered replyId = .ok
      { inReplyTo := ensureBrackets own
        references := " ".intercalate ((referencesWith answered own).map ensureBrackets) } := by
  rw [replyHeaders, h, referencesWith]
  simp only [List.contains_iff_mem]

theorem ParsedBack.content {parser : MailParser} {sent : MessageBase} {own : String}
    (hback : ParsedBack parser (message.formatted host.lettre) sent)
    (hcarries : CarriesIds host.lettre parser message)
    (h : buildMessage host caseUid draft body identity stable = .ok message)
    (hreply : draft.replyToMessageId = some replyId)
    (hread : host.readMessageById replyId = .ok answered)
    (hown : answered.content.rfc822MessageId = some own) (hids : HasTokens answered own) :
    sent.content.inReplyTo = some (tokenText own) ∧
      sent.content.references = (referencesWith answered own).map tokenText := by
  obtain ⟨headers, hheaders, hinReplyTo, hreferences⟩ := buildMessage_replyHeaders h hreply hread
  cases (replyHeaders_eq hown replyId).symm.trans hheaders
  obtain ⟨parsed, hparsed, hparent, hchain⟩ := hcarries
  obtain ⟨found, hfound, hsentParent, hsentChain⟩ := hback.headers
  cases hparsed.symm.trans hfound
  have hwith : ∀ id ∈ referencesWith answered own, IsToken (idToken id) := hids.referencesWith
  have hone : ∀ id ∈ [own], IsToken (idToken id) := List.forall_mem_singleton.mpr hids.own
  constructor
  · rw [hsentParent, hparent, Headers.idsIn_ensured hinReplyTo hone String.intercalate_singleton.symm,
      headerIdList_tokenText hone]
    rfl
  · rw [hsentChain, hchain, Headers.idsIn_ensured hreferences hwith rfl, headerIdList_tokenText hwith]

end Answering

section Relating
variable {answered sent : MessageBase} {own : String} {messages : List MessageBase}

theorem normalizeMessageId_idToken (h : IsToken (idToken own)) :
    normalizeMessageId (idToken own) = normalizeMessageId own.toList := by
  have hplain := trim_of_plain fun c hmem => (h.plain c hmem).1
  obtain htrim | ⟨htrim, _⟩ := trim_id h
  · have haround := @trimMatches_append (fun c => c == '<' || c == '>' || c == ',' || c == ';')
      ['<'] ['>'] (by simp) (by simp) (idToken own)
    rw [normalizeMessageId, normalizeMessageId, hplain, htrim]
    exact congrArg (fun text => String.ofList ((trim text).map Char.toLower)) haround.symm
  · rw [normalizeMessageId, normalizeMessageId, hplain, htrim]

theorem bracketed_of_bare {text : List Char} (h : '<' ∉ text) : bracketed text none = [] := by
  induction text with
  | nil => rfl
  | cons c rest ih =>
    rw [List.mem_cons, not_or] at h
    rw [bracketed, if_neg (Ne.symm h.1)]
    exact ih h.2

theorem rfc822MessageIdCandidates_tokenText (h : IsToken (idToken own)) :
    rfc822MessageIdCandidates (tokenText own) = (normalizeRfc822MessageId own).toList := by
  have hwords : splitWhitespace (idToken own) = [idToken own] := by
    have hsome : (!(idToken own).isEmpty) = true := by
      rw [Bool.not_eq_true', List.isEmpty_eq_false_iff]
      exact h.nonempty
    rw [splitWhitespace, List.splitOnP_eq_singleton fun c hmem => (h.plain c hmem).1,
      List.filter_cons, if_pos hsome, List.filter_nil]
  have hsame : normalizeRfc822MessageId (String.ofList (idToken own)) =
      normalizeRfc822MessageId own := by
    rw [normalizeRfc822MessageId, normalizeRfc822MessageId, String.toList_ofList,
      normalizeMessageId_idToken h]
  rw [rfc822MessageIdCandidates, tokenText, String.toList_ofList, bracketed_of_bare h.not_mem.1, hwords,
    List.filterMap_nil, List.isEmpty_nil, if_pos rfl, List.filterMap_cons, Function.comp_apply, hsame]
  cases normalizeRfc822MessageId own with
  | none => rfl
  | some id => rfl

theorem names_iff (hids : HasTokens answered own)
    (hown : answered.content.rfc822MessageId = some own)
    (hinReplyTo : sent.content.inReplyTo = some (tokenText own)) :
    sent.Names answered ↔ answered.rfc822Id.isSome := by
  have hid : answered.rfc822Id = normalizeRfc822MessageId own := by
    rw [MessageBase.rfc822Id, hown, Option.bind_some]
  constructor
  · intro ⟨_, _, id, _, hfound⟩
    exact Option.isSome_iff_exists.mpr ⟨id, hfound⟩
  · intro hsome
    obtain ⟨id, hfound⟩ := Option.isSome_iff_exists.mp hsome
    refine ⟨tokenText own, ?_, id, ?_, hfound⟩
    · rw [hinReplyTo]
      exact List.mem_append_left _ (List.mem_singleton_self _)
    · rw [rfc822MessageIdCandidates_tokenText hids.own, ← hid, hfound]
      exact List.mem_singleton_self _

theorem relates_iff (hnative : sent.origin = none) (hne : sent.messageId ≠ answered.messageId) :
    Relates messages sent answered ↔ sent.Names answered ∨ answered.Names sent := by
  have hsent : ¬ sent.NamesNative messages answered := by
    intro ⟨native, hkey, _⟩
    rw [MessageBase.nativeParentKey, hnative] at hkey
    cases hkey
  have hanswered : ¬ answered.NamesNative messages sent := by
    intro ⟨native, _, hfind⟩
    have hkey : sent.nativeKey = some native := by simpa using List.find?_some hfind
    rw [MessageBase.nativeKey, hnative] at hkey
    cases hkey
  simp only [Relates, hne, hsent, hanswered, ne_eq, not_false_eq_true, true_and, or_false]

end Relating

section Chain
variable [DecidableEq α] {list : List α} {last : α}

/-- A list ends in its one occurrence of a value. -/
def EndsOnce (last : α) (list : List α) : Prop := ∃ front, list = front ++ [last] ∧ last ∉ front

theorem eq_filter_append_iff : list = list.filter (· ≠ last) ++ [last] ↔ EndsOnce last list := by
  constructor
  · intro h
    exact ⟨_, h, by simp⟩
  · intro ⟨front, hlist, hnew⟩
    have hfront : front.filter (· ≠ last) = front := by
      rw [List.filter_eq_self]
      exact fun value hmem => decide_eq_true fun heq => hnew (heq ▸ hmem)
    rw [hlist, List.filter_append, hfront]
    simp

theorem append_eq_filter_append_iff : list ++ [last] = list.filter (· ≠ last) ++ [last] ↔
    last ∉ list := by
  rw [List.append_left_inj, eq_comm, List.filter_eq_self]
  simp only [decide_eq_true_eq]
  constructor
  · exact fun h hmem => h last hmem rfl
  · exact fun h value hmem heq => h (heq ▸ hmem)

end Chain

/-- An answer that is parsed back names the mail that it answers, and its references in their order
before it, and is related to it. -/
structure Threads (messages : List MessageBase) (answered sent : MessageBase) (own : String) :
    Prop where
  inReplyTo : sent.content.inReplyTo = some (tokenText own)
  references : sent.content.references =
    (answered.content.references.map tokenText).filter (· ≠ tokenText own) ++ [tokenText own]
  related : answered.messageId ∈ (fromMessages messages).get sent.messageId

/-- The mail is not among its own references, or is, as it is written, the last of them alone; and
it has an id to be related by. -/
structure ThreadsWhen (answered sent : MessageBase) (own : String) : Prop where
  chain : if own ∈ answered.content.references
    then EndsOnce (tokenText own) (answered.content.references.map tokenText)
    else tokenText own ∉ answered.content.references.map tokenText
  related : answered.rfc822Id.isSome ∨ answered.Names sent

theorem chain_iff {answered : MessageBase} {own : String} :
    (referencesWith answered own).map tokenText =
        (answered.content.references.map tokenText).filter (· ≠ tokenText own) ++ [tokenText own] ↔
      if own ∈ answered.content.references
        then EndsOnce (tokenText own) (answered.content.references.map tokenText)
        else tokenText own ∉ answered.content.references.map tokenText := by
  rw [referencesWith]
  split
  · exact eq_filter_append_iff
  · rw [List.map_append, List.map_singleton]
    exact append_eq_filter_append_iff

theorem threads_iff {host : OutboundHost} {parser : MailParser} {caseUid messageId replyId own : String}
    {draft : DraftHeader} {rawBody : List Char} {date : Option String} {message : MailMessage}
    {answered sent : MessageBase} {messages : List MessageBase}
    (hbuilt : buildDraftMessage host caseUid draft rawBody messageId date = .ok message)
    (hreply : draft.replyToMessageId = some replyId)
    (hread : host.readMessageById replyId = .ok answered)
    (hown : answered.content.rfc822MessageId = some own) (hids : HasTokens answered own)
    (hcarries : CarriesIds host.lettre parser message)
    (hback : ParsedBack parser (message.formatted host.lettre) sent)
    (hdistinct : (messages.map (·.messageId)).Nodup) (hanswered : answered ∈ messages)
    (hsent : sent ∈ messages) (hne : sent.messageId ≠ answered.messageId) :
    Threads messages answered sent own ↔ ThreadsWhen answered sent own := by
  obtain ⟨body, _, hbuilt⟩ := Result.bind_ok hbuilt
  obtain ⟨identity, _, hbuilt⟩ := Result.bind_ok hbuilt
  obtain ⟨hparent, hchain⟩ := hback.content hcarries hbuilt hreply hread hown hids
  have hrelated : answered.messageId ∈ (fromMessages messages).get sent.messageId ↔
      answered.rfc822Id.isSome ∨ answered.Names sent := by
    rw [mem_fromMessages_of_mem hdistinct hsent hanswered,
      relates_iff hback.native hne, names_iff hids hown hparent]
  constructor
  · intro h
    exact ⟨chain_iff.mp (hchain.symm.trans h.references), hrelated.mp h.related⟩
  · intro h
    exact ⟨hparent, hchain.trans (chain_iff.mpr h.chain), hrelated.mpr h.related⟩

section Note

/-- The ids in brackets in a field of a mail. -/
def noteIds (name : HeaderName) (raw : Bytes) : List String :=
  let lines := (Mime.headerLines raw).filter (Mime.startsField name.fieldName.text)
  lines.flatMap fun line =>
    (bracketed (line.map fun byte => Char.ofNat byte.toNat) none).map String.ofList

def noteParser : MailParser where
  parse raw := some { inReplyTo := noteIds .inReplyTo raw, references := noteIds .references raw }
  parseHeaders _ := none
  dayOf _ _ := none
  sha256 := id
  parseRfc3339 _ := none

def noteReplyHost (answered : MessageBase) : OutboundHost :=
  { noteHost with readMessageById := fun _ => .ok answered }

def noteReply (answered : MessageBase) : Result MailMessage :=
  buildDraftMessage (noteReplyHost answered) "c1" { noteHeader with replyToMessageId := some "m1" }
    noteBody "message_sent_1" (some "2026-01-01T00:00:00Z")

/-- A mail that answers with its references. -/
def noteAnswered (references : List String) : MessageBase where
  messageId := "m1"
  content := { rfc822MessageId := some "Note@example.com", references }

def noteSent (references : List String) : MessageBase where
  messageId := "m2"
  content := { inReplyTo := some "Note@example.com", references }

/-- What is to be seen of an answer as it is built. -/
def noteCarries (sent : MessageBase) (message : MailMessage) : Bool :=
  let raw := message.formatted noteLettre
  noteIds .inReplyTo raw == message.headers.idsIn .inReplyTo &&
    noteIds .references raw == message.headers.idsIn .references &&
    headerIdList (noteIds .references raw) == sent.content.references &&
    sent.content.inReplyTo == (headerIdList (noteIds .inReplyTo raw)).getLast? &&
    sent.origin == none

theorem noteReply_carries {answered sent : MessageBase}
    (h : (do let message ← noteReply answered; return noteCarries sent message) = .ok true) :
    ∃ message, noteReply answered = .ok message ∧ CarriesIds noteLettre noteParser message ∧
      ParsedBack noteParser (message.formatted noteLettre) sent := by
  obtain ⟨message, hmessage, hcarries⟩ := Result.bind_ok h
  have hcarries := Except.ok.inj hcarries
  simp only [noteCarries, Bool.and_eq_true, beq_iff_eq] at hcarries
  obtain ⟨⟨⟨⟨hparent, hchain⟩, hreferences⟩, hinReplyTo⟩, hnative⟩ := hcarries
  exact ⟨message, hmessage, ⟨_, rfl, hparent, hchain⟩, hnative,
    _, rfl, hinReplyTo, hreferences.symm⟩

theorem threads_note : Threads
    [noteAnswered ["r@example.com"], noteSent ["r@example.com", "Note@example.com"]]
    (noteAnswered ["r@example.com"]) (noteSent ["r@example.com", "Note@example.com"])
    "Note@example.com" := by
  obtain ⟨message, hbuilt, hcarries, hback⟩ := @noteReply_carries (noteAnswered ["r@example.com"])
    (noteSent ["r@example.com", "Note@example.com"]) (by decide +kernel)
  have hown : IsToken (idToken "Note@example.com") := isToken_of_all (by decide +kernel)
  have hreference : IsToken (idToken "r@example.com") := isToken_of_all (by decide +kernel)
  have hids : HasTokens (noteAnswered ["r@example.com"]) "Note@example.com" :=
    ⟨hown, List.forall_mem_singleton.mpr hreference⟩
  refine (threads_iff hbuilt rfl rfl rfl hids hcarries hback (by decide) (by simp) (by simp)
    (by decide)).mpr ⟨?_, ?_⟩
  · rw [if_neg (by decide +kernel)]
    decide +kernel
  · exact .inl (by decide +kernel)

/-- A mail that stands first among its own references stays there when it is answered. -/
theorem threads_keepsChain : ∃ message,
    noteReply (noteAnswered ["Note@example.com", "r@example.com"]) = .ok message ∧
      CarriesIds noteLettre noteParser message ∧
      ParsedBack noteParser (message.formatted noteLettre)
        (noteSent ["Note@example.com", "r@example.com"]) ∧
      ¬ Threads [noteAnswered ["Note@example.com", "r@example.com"],
          noteSent ["Note@example.com", "r@example.com"]]
        (noteAnswered ["Note@example.com", "r@example.com"])
        (noteSent ["Note@example.com", "r@example.com"]) "Note@example.com" := by
  obtain ⟨message, hbuilt, hcarries, hback⟩ :=
    @noteReply_carries (noteAnswered ["Note@example.com", "r@example.com"])
      (noteSent ["Note@example.com", "r@example.com"]) (by decide +kernel)
  refine ⟨message, hbuilt, hcarries, hback, fun h => ?_⟩
  have hchain := h.references
  revert hchain
  decide +kernel

end Note
end AgentFirstMail
