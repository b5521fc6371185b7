import Mathlib.Data.List.Pairwise
import AgentFirstMail.Projection.Relations

namespace AgentFirstMail
open Indexing

/-- The message ids that a reply header names: those in brackets, or its words. -/
def rfc822MessageIdCandidates (value : String) : List String :=
  let ids := (bracketed value.toList none).filterMap (normalizeRfc822MessageId ∘ String.ofList)
  sortedDedup (if ids.isEmpty then
    (Text.splitWhitespace value.toList).filterMap (normalizeRfc822MessageId ∘ String.ofList)
  else ids)

def messageReplyHeaderIds (message : MessageBase) : List String :=
  sortedDedup (message.content.inReplyTo.toList.flatMap rfc822MessageIdCandidates ++
    message.content.references.flatMap rfc822MessageIdCandidates)

/-- Lists of message ids by a key. -/
abbrev MessageIdLists := Std.ExtTreeMap String (List String)

namespace MessageIdLists

def get (lists : MessageIdLists) (key : String) : List String := lists[key]?.getD []

def push (lists : MessageIdLists) (key messageId : String) : MessageIdLists :=
  lists.alter key fun ids => some (ids.getD [] ++ [messageId])

end MessageIdLists

/-- The headers of the messages that are gone through: who goes by an id, who names it, and what
each message names. -/
structure HeaderTables where
  rfc822Ids : MessageIdLists := ∅
  repliesByParent : Multimap String String := ∅
  replyHeaders : MessageIdLists := ∅

namespace HeaderTables

def enter (tables : HeaderTables) (message : MessageBase) : HeaderTables :=
  let headers := messageReplyHeaderIds message
  { rfc822Ids :=
      match message.rfc822Id with
      | some normalized => tables.rfc822Ids.push normalized message.messageId
      | none => tables.rfc822Ids
    repliesByParent := headers.foldl (fun replies headerId =>
      replies.add headerId message.messageId) tables.repliesByParent
    replyHeaders := tables.replyHeaders.insert message.messageId headers }

/-- The messages that a message answers, and those that answer it. -/
def related (tables : HeaderTables) (message : MessageBase) : Std.ExtTreeSet String :=
  let headers := tables.replyHeaders.get message.messageId
  let parents := headers.reverse.flatMap fun headerId =>
    (tables.rfc822Ids.get headerId).filter (· != message.messageId)
  let replies :=
    match message.rfc822Id with
    | some current =>
      (tables.repliesByParent.at_ current).toList.filter (· != message.messageId)
    | none => []
  ((∅ : Std.ExtTreeSet String).insertMany parents).insertMany replies

end HeaderTables

/-- Who goes by a name in the conversation of a file source; the last one entered is found. -/
abbrev NativeIds := List ((ReplyRoute × String) × String)

def NativeIds.enter (ids : NativeIds) (message : MessageBase) : NativeIds :=
  match message.nativeKey with
  | some key => (key, message.messageId) :: ids
  | none => ids

/-- The message of a conversation that another one answers. -/
def NativeIds.parent (ids : NativeIds) (message : MessageBase) : Option String := do
  let key ← message.nativeParentKey
  let parentId ← ids.lookup key
  if parentId = message.messageId then none else some parentId

/-- Relates a message of a file source and the one it answers. -/
def linkNative (ids : NativeIds) (lists : MessageIdLists) (message : MessageBase) :
    MessageIdLists :=
  match ids.parent message with
  | some parentId =>
    (lists.push message.messageId parentId).push parentId message.messageId
  | none => lists

/-- The messages that each message is related to. -/
def fromMessages (messages : List MessageBase) : MessageIdLists :=
  let tables := messages.foldl HeaderTables.enter {}
  let byHeaders := messages.foldl (fun lists message =>
    lists.insert message.messageId (tables.related message).toList) (∅ : MessageIdLists)
  let nativeIds := messages.foldl NativeIds.enter []
  (messages.foldl (linkNative nativeIds) byHeaders).map fun _ related => sortedDedup related

theorem normalizedIds_eq (pieces : List (List Char)) :
    pieces.filterMap (normalizeRfc822MessageId ∘ String.ofList) =
      (pieces.map normalizeMessageId).filter (· != "") := by
  induction pieces with
  | nil => rfl
  | cons piece rest ih =>
    have hpiece : (normalizeRfc822MessageId ∘ String.ofList) piece =
        if normalizeMessageId piece = "" then none else some (normalizeMessageId piece) := by
      simp [normalizeRfc822MessageId]
    rw [List.filterMap_cons, hpiece, List.map_cons, List.filter_cons, ih]
    by_cases hempty : normalizeMessageId piece = ""
    · simp [hempty]
    · simp [hempty]

theorem rfc822MessageIdCandidates_eq (value : String) :
    rfc822MessageIdCandidates value = extractMessageIds value := by
  rw [rfc822MessageIdCandidates, extractMessageIds, normalizedIds_eq, normalizedIds_eq]

theorem messageReplyHeaderIds_eq (message : MessageBase) :
    messageReplyHeaderIds message = message.replyHeaderIds := by
  have hcandidates : rfc822MessageIdCandidates = extractMessageIds :=
    funext rfc822MessageIdCandidates_eq
  rw [messageReplyHeaderIds, MessageBase.replyHeaderIds, List.flatMap_append, hcandidates]

namespace MessageIdLists
variable {lists : MessageIdLists} {key other messageId : String}

theorem get_push : (lists.push key messageId).get other =
    if other = key then lists.get key ++ [messageId] else lists.get other := by
  rw [get, push, Std.ExtTreeMap.getElem?_alter]
  by_cases heq : key = other
  · subst heq
    rw [if_pos Std.ReflCmp.compare_self, if_pos rfl]
    rfl
  · rw [if_neg (fun h => heq (Std.LawfulEqCmp.compare_eq_iff_eq.mp h)), if_neg (Ne.symm heq)]
    rfl

theorem mem_get_push {value : String} : value ∈ (lists.push key messageId).get other ↔
    value ∈ lists.get other ∨ other = key ∧ value = messageId := by
  rw [get_push]
  by_cases heq : other = key
  · simp [heq]
  · simp [heq]

theorem get_insert {values : List String} : MessageIdLists.get (lists.insert key values) other =
    if other = key then values else lists.get other := by
  rw [get, Std.ExtTreeMap.getElem?_insert]
  by_cases heq : key = other
  · subst heq
    rw [if_pos Std.ReflCmp.compare_self, if_pos rfl]
    rfl
  · rw [if_neg (fun h => heq (Std.LawfulEqCmp.compare_eq_iff_eq.mp h)), if_neg (Ne.symm heq)]
    rfl

variable {messages : List MessageBase} {message : MessageBase}
  {values : MessageBase → List String}

theorem get_foldl_insert_of_not_mem (h : ∀ message ∈ messages, message.messageId ≠ key) :
    get (messages.foldl (fun lists message => lists.insert message.messageId (values message))
      lists) key = lists.get key := by
  induction messages generalizing lists with
  | nil => rfl
  | cons first rest ih =>
    obtain ⟨hfirst, hrest⟩ := List.forall_mem_cons.mp h
    rw [List.foldl_cons, ih hrest, get_insert, if_neg (Ne.symm hfirst)]

theorem get_foldl_insert (hdistinct : (messages.map (·.messageId)).Nodup)
    (hmem : message ∈ messages) :
    get (messages.foldl (fun lists message => lists.insert message.messageId (values message))
      lists) message.messageId = values message := by
  induction messages generalizing lists with
  | nil => cases hmem
  | cons first rest ih =>
    obtain ⟨hnew, hrest⟩ := List.nodup_cons.mp hdistinct
    rw [List.foldl_cons]
    rcases List.mem_cons.mp hmem with rfl | hlater
    · rw [get_foldl_insert_of_not_mem, get_insert, if_pos rfl]
      exact fun other hother heq => hnew (List.mem_map.mpr ⟨other, hother, heq⟩)
    · exact ih hrest hlater

end MessageIdLists

variable {messages : List MessageBase} {message : MessageBase} {key messageId : String}

namespace HeaderTables
variable {tables : HeaderTables}

theorem mem_rfc822Ids : messageId ∈ (messages.foldl enter tables).rfc822Ids.get key ↔
    messageId ∈ tables.rfc822Ids.get key ∨
      ∃ message ∈ messages, message.rfc822Id = some key ∧ message.messageId = messageId := by
  induction messages generalizing tables with
  | nil => simp
  | cons first rest ih =>
    have hfirst : messageId ∈ (tables.enter first).rfc822Ids.get key ↔
        messageId ∈ tables.rfc822Ids.get key ∨
          first.rfc822Id = some key ∧ first.messageId = messageId := by
      rw [enter]
      cases first.rfc822Id with
      | none => simp
      | some normalized =>
        simp only [MessageIdLists.mem_get_push, Option.some.injEq, eq_comm]
    rw [List.foldl_cons, ih, hfirst, or_assoc]
    simp only [List.mem_cons, exists_eq_or_imp]

theorem mem_foldl_add {headers : List String} {replies : Multimap String String} :
    messageId ∈ (headers.foldl (fun replies headerId =>
      replies.add headerId message.messageId) replies).at_ key ↔
      messageId ∈ replies.at_ key ∨ key ∈ headers ∧ message.messageId = messageId := by
  induction headers generalizing replies with
  | nil => simp
  | cons first rest ih =>
    rw [List.foldl_cons, ih, Multimap.mem_at_add, or_assoc, List.mem_cons, or_and_right,
      eq_comm (a := messageId)]

theorem mem_repliesByParent : messageId ∈ (messages.foldl enter tables).repliesByParent.at_ key ↔
    messageId ∈ tables.repliesByParent.at_ key ∨
      ∃ message ∈ messages, key ∈ message.replyHeaderIds ∧ message.messageId = messageId := by
  induction messages generalizing tables with
  | nil => simp
  | cons first rest ih =>
    rw [List.foldl_cons, ih, enter, mem_foldl_add, messageReplyHeaderIds_eq, or_assoc]
    simp only [List.mem_cons, exists_eq_or_imp]

theorem replyHeaders_eq : (messages.foldl enter tables).replyHeaders =
    messages.foldl (fun lists message => lists.insert message.messageId message.replyHeaderIds)
      tables.replyHeaders := by
  induction messages generalizing tables with
  | nil => rfl
  | cons first rest ih => rw [List.foldl_cons, ih, List.foldl_cons, enter, messageReplyHeaderIds_eq]

theorem mem_flatMap_filter_ne {headers : List String} {lists : String → List String}
    {own : String} :
    messageId ∈ headers.reverse.flatMap (fun headerId => (lists headerId).filter (· != own)) ↔
      messageId ≠ own ∧ ∃ headerId ∈ headers, messageId ∈ lists headerId := by
  simp only [List.mem_flatMap, List.mem_reverse, List.mem_filter, bne_iff_ne]
  constructor
  · intro ⟨headerId, hheader, hmem, hne⟩
    exact ⟨hne, headerId, hheader, hmem⟩
  · intro ⟨hne, headerId, hheader, hmem⟩
    exact ⟨headerId, hheader, hmem, hne⟩

theorem mem_toList_related {tables : HeaderTables} : messageId ∈ (tables.related message).toList ↔
    messageId ≠ message.messageId ∧
      ((∃ headerId ∈ tables.replyHeaders.get message.messageId,
          messageId ∈ tables.rfc822Ids.get headerId) ∨
        ∃ current, message.rfc822Id = some current ∧
          messageId ∈ tables.repliesByParent.at_ current) := by
  rw [related, Std.ExtTreeSet.mem_toList, Std.ExtTreeSet.mem_insertMany_list,
    Std.ExtTreeSet.mem_insertMany_list, List.contains_iff_mem, List.contains_iff_mem,
    mem_flatMap_filter_ne]
  cases message.rfc822Id with
  | none => simp
  | some current => simp [and_comm, and_or_left]

/-- A message is related to those it answers and those that answer it. -/
theorem mem_related (hdistinct : (messages.map (·.messageId)).Nodup) (hmem : message ∈ messages) :
    messageId ∈ ((messages.foldl enter {}).related message).toList ↔
      messageId ≠ message.messageId ∧ ∃ other ∈ messages, other.messageId = messageId ∧
        message.answers other = true := by
  have hrfc822 (headerId : String) :
      messageId ∈ (messages.foldl enter {}).rfc822Ids.get headerId ↔
        ∃ other ∈ messages, other.rfc822Id = some headerId ∧ other.messageId = messageId := by
    rw [mem_rfc822Ids]
    simp [MessageIdLists.get]
  have hreplies (current : String) :
      messageId ∈ (messages.foldl enter {}).repliesByParent.at_ current ↔
        ∃ other ∈ messages, current ∈ other.replyHeaderIds ∧ other.messageId = messageId := by
    rw [mem_repliesByParent]
    simp [Multimap.at_]
  have hanswers (other : MessageBase) : message.answers other = true ↔
      (∃ headerId ∈ message.replyHeaderIds, other.rfc822Id = some headerId) ∨
        ∃ current, message.rfc822Id = some current ∧ current ∈ other.replyHeaderIds := by
    simp only [MessageBase.answers, Bool.or_eq_true, Option.any_eq_true, decide_eq_true_eq,
      and_comm]
  rw [mem_toList_related, replyHeaders_eq, MessageIdLists.get_foldl_insert hdistinct hmem]
  refine and_congr_right fun _ => ?_
  simp only [hrfc822, hreplies, hanswers]
  constructor
  · rintro (⟨headerId, hheader, other, hother, hid, heq⟩ | ⟨current, hid, other, hother, hheader, heq⟩)
    · exact ⟨other, hother, heq, .inl ⟨headerId, hheader, hid⟩⟩
    · exact ⟨other, hother, heq, .inr ⟨current, hid, hheader⟩⟩
  · rintro ⟨other, hother, heq, ⟨headerId, hheader, hid⟩ | ⟨current, hid, hheader⟩⟩
    · exact .inl ⟨headerId, hheader, other, hother, hid, heq⟩
    · exact .inr ⟨current, hid, other, hother, hheader, heq⟩

end HeaderTables

theorem NativeIds.lookup_foldl_enter {ids : NativeIds} {native : ReplyRoute × String} :
    (messages.foldl NativeIds.enter ids).lookup native =
      ((messages.reverse.find? (·.nativeKey = some native)).map (·.messageId)).or
        (ids.lookup native) := by
  induction messages generalizing ids with
  | nil => rfl
  | cons first rest ih =>
    have hfirst : (ids.enter first).lookup native =
        (if first.nativeKey = some native then some first.messageId else none).or
          (ids.lookup native) := by
      rw [enter]
      cases hkey : first.nativeKey with
      | none => rfl
      | some own =>
        by_cases heq : own = native
        · simp [heq]
        · have hne : (native == own) = false := beq_eq_false_iff_ne.mpr (Ne.symm heq)
          simp [List.lookup_cons, hne, heq]
    rw [List.foldl_cons, ih, hfirst, List.reverse_cons, List.find?_append, ← Option.or_assoc]
    congr 1
    cases rest.reverse.find? (·.nativeKey = some native) with
    | some later => rfl
    | none =>
      by_cases heq : first.nativeKey = some native
      · simp [heq]
      · simp [heq]

/-- The relations as they are asked for one message at a time. -/
abbrev queried (messages : List MessageBase) : MessageRelationIndex := { messages }

theorem NativeIds.parent_eq (messages : List MessageBase) (message : MessageBase) :
    NativeIds.parent (messages.foldl NativeIds.enter []) message =
      (queried messages).nativeParent message := by
  rw [parent, MessageRelationIndex.nativeParent]
  cases message.nativeParentKey with
  | none => rfl
  | some native =>
    change (List.lookup native _).bind _ = (List.find? _ messages.reverse).bind _
    rw [lookup_foldl_enter, List.lookup_nil, Option.or_none]
    cases messages.reverse.find? (·.nativeKey = some native) with
    | none => rfl
    | some parent => rfl

theorem mem_foldl_linkNative {ids : NativeIds} {lists : MessageIdLists} :
    messageId ∈ (messages.foldl (linkNative ids) lists).get key ↔
      messageId ∈ lists.get key ∨ ∃ message ∈ messages, ∃ parentId,
        ids.parent message = some parentId ∧
          (key = message.messageId ∧ messageId = parentId ∨
            key = parentId ∧ messageId = message.messageId) := by
  induction messages generalizing lists with
  | nil => simp
  | cons first rest ih =>
    have hfirst : messageId ∈ (linkNative ids lists first).get key ↔
        messageId ∈ lists.get key ∨ ∃ parentId, ids.parent first = some parentId ∧
          (key = first.messageId ∧ messageId = parentId ∨
            key = parentId ∧ messageId = first.messageId) := by
      rw [linkNative]
      cases ids.parent first with
      | none => simp
      | some parentId =>
        simp only [MessageIdLists.mem_get_push, or_assoc, Option.some.injEq, exists_eq_left']
    rw [List.foldl_cons, ih, hfirst, or_assoc]
    simp only [List.mem_cons, exists_eq_or_imp]

/-- A message names another one as one that it answers. -/
def MessageBase.Names (message other : MessageBase) : Prop :=
  ∃ header ∈ message.content.inReplyTo.toList ++ message.content.references,
    ∃ id ∈ rfc822MessageIdCandidates header, other.rfc822Id = some id

/-- A message of a file source names another one of its conversation, the last one that goes by
the name. -/
def MessageBase.NamesNative (messages : List MessageBase) (message other : MessageBase) : Prop :=
  ∃ native, message.nativeParentKey = some native ∧
    messages.reverse.find? (·.nativeKey = some native) = some other

/-- Two messages one of which answers the other. -/
def Relates (messages : List MessageBase) (message other : MessageBase) : Prop :=
  message.messageId ≠ other.messageId ∧
    ((message.Names other ∨ other.Names message) ∨
      message.NamesNative messages other ∨ other.NamesNative messages message)

/-- What holds of the relations of messages. -/
structure RelationRules (messages : List MessageBase) : Prop where
  sorted : ∀ messageId, StrictlySorted ((fromMessages messages).get messageId)
  symmetric : ∀ messageId otherId, otherId ∈ (fromMessages messages).get messageId ↔
    messageId ∈ (fromMessages messages).get otherId
  irreflexive : ∀ messageId, messageId ∉ (fromMessages messages).get messageId
  related : ∀ message ∈ messages, ∀ other ∈ messages,
    other.messageId ∈ (fromMessages messages).get message.messageId ↔
      Relates messages message other
  stored : ∀ messageId otherId, otherId ∈ (fromMessages messages).get messageId →
    ∃ message ∈ messages, ∃ other ∈ messages,
      message.messageId = messageId ∧ other.messageId = otherId
  anyOrder : (messages.filterMap (·.nativeKey)).Nodup → ∀ permuted, permuted.Perm messages →
    ∀ messageId, (fromMessages permuted).get messageId = (fromMessages messages).get messageId

variable {other : MessageBase}

theorem answers_iff : message.answers other = true ↔ message.Names other ∨ other.Names message := by
  have hnames (first second : MessageBase) :
      second.rfc822Id.any (· ∈ first.replyHeaderIds) = true ↔ first.Names second := by
    simp only [MessageBase.Names, MessageBase.replyHeaderIds, sortedDedup, mem_sortedSet,
      rfc822MessageIdCandidates_eq, Option.any_eq_true, decide_eq_true_eq, List.mem_flatMap]
    constructor
    · intro ⟨id, hid, header, hheader, hmem⟩
      exact ⟨header, hheader, id, hmem, hid⟩
    · intro ⟨header, hheader, id, hmem, hid⟩
      exact ⟨id, hid, header, hheader, hmem⟩
  rw [MessageBase.answers, Bool.or_eq_true, hnames, hnames]

theorem nativeParent_eq_some_iff : (queried messages).nativeParent message = some messageId ↔
    messageId ≠ message.messageId ∧
      ∃ other, message.NamesNative messages other ∧ other.messageId = messageId := by
  simp only [MessageRelationIndex.nativeParent, MessageBase.NamesNative, Option.bind_eq_bind,
    Option.bind_eq_some_iff]
  constructor
  · intro ⟨native, hnative, parent, hparent, h⟩
    by_cases heq : parent.messageId = message.messageId
    · rw [if_pos heq] at h
      cases h
    · rw [if_neg heq, Option.some.injEq] at h
      exact ⟨h ▸ heq, parent, ⟨native, hnative, hparent⟩, h⟩
  · intro ⟨hne, parent, ⟨native, hnative, hparent⟩, heq⟩
    refine ⟨native, hnative, parent, hparent, ?_⟩
    rw [heq, if_neg hne]

theorem get_fromMessages (messages : List MessageBase) (messageId : String) :
    (fromMessages messages).get messageId = sortedDedup
      ((messages.foldl (linkNative (messages.foldl NativeIds.enter []))
        (messages.foldl (fun lists message => lists.insert message.messageId
          ((messages.foldl HeaderTables.enter {}).related message).toList)
          (∅ : MessageIdLists))).get messageId) := by
  rw [fromMessages, MessageIdLists.get, MessageIdLists.get, Std.ExtTreeMap.getElem?_map]
  cases (List.foldl (linkNative _) _ messages)[messageId]? with
  | none => rfl
  | some related => rfl

variable {otherId : String}

theorem mem_byHeaders (hdistinct : (messages.map (·.messageId)).Nodup) :
    otherId ∈ (messages.foldl (fun lists message => lists.insert message.messageId
        ((messages.foldl HeaderTables.enter {}).related message).toList)
        (∅ : MessageIdLists)).get messageId ↔
      ∃ message ∈ messages, ∃ other ∈ messages,
        message.messageId = messageId ∧ other.messageId = otherId ∧
          message.messageId ≠ other.messageId ∧ (message.Names other ∨ other.Names message) := by
  by_cases hmem : ∃ message ∈ messages, message.messageId = messageId
  · obtain ⟨message, hmem, rfl⟩ := hmem
    rw [MessageIdLists.get_foldl_insert hdistinct hmem, HeaderTables.mem_related hdistinct hmem]
    simp only [answers_iff]
    constructor
    · intro ⟨hne, other, hother, heq, hnames⟩
      exact ⟨message, hmem, other, hother, rfl, heq, fun hsame => hne (heq ▸ hsame.symm), hnames⟩
    · intro ⟨first, hfirst, other, hother, hid, heq, hne, hnames⟩
      cases List.inj_on_of_nodup_map hdistinct hfirst hmem hid
      exact ⟨fun hsame => hne (hsame ▸ heq.symm), other, hother, heq, hnames⟩
  · have hnone : ∀ message ∈ messages, message.messageId ≠ messageId :=
      fun message hmessage heq => hmem ⟨message, hmessage, heq⟩
    rw [MessageIdLists.get_foldl_insert_of_not_mem hnone]
    constructor
    · intro h
      simp [MessageIdLists.get] at h
    · intro ⟨message, hmessage, _, _, hid, _⟩
      exact (hnone message hmessage hid).elim

theorem MessageBase.NamesNative.mem (h : message.NamesNative messages other) : other ∈ messages := by
  obtain ⟨native, _, hfind⟩ := h
  exact List.mem_reverse.mp (List.mem_of_find?_eq_some hfind)

theorem exists_parent_iff : (∃ message ∈ messages, ∃ parentId,
      (queried messages).nativeParent message = some parentId ∧
        (messageId = message.messageId ∧ otherId = parentId ∨
          messageId = parentId ∧ otherId = message.messageId)) ↔
    ∃ message ∈ messages, ∃ other ∈ messages,
      message.messageId = messageId ∧ other.messageId = otherId ∧
        message.messageId ≠ other.messageId ∧
          (message.NamesNative messages other ∨ other.NamesNative messages message) := by
  simp only [nativeParent_eq_some_iff]
  constructor
  · rintro ⟨reply, hreply, parentId, ⟨hne, parent, hnames, rfl⟩, ⟨rfl, rfl⟩ | ⟨rfl, rfl⟩⟩
    · exact ⟨reply, hreply, parent, hnames.mem, rfl, rfl, hne.symm, .inl hnames⟩
    · exact ⟨parent, hnames.mem, reply, hreply, rfl, rfl, hne, .inr hnames⟩
  · rintro ⟨message, hmem, other, hother, rfl, rfl, hne, hnames | hnames⟩
    · exact ⟨message, hmem, other.messageId, ⟨hne.symm, other, hnames, rfl⟩, .inl ⟨rfl, rfl⟩⟩
    · exact ⟨other, hother, message.messageId, ⟨hne, message, hnames, rfl⟩, .inr ⟨rfl, rfl⟩⟩

theorem mem_fromMessages (hdistinct : (messages.map (·.messageId)).Nodup) :
    otherId ∈ (fromMessages messages).get messageId ↔
      ∃ message ∈ messages, ∃ other ∈ messages,
        message.messageId = messageId ∧ other.messageId = otherId ∧
          Relates messages message other := by
  rw [get_fromMessages, sortedDedup, mem_sortedSet, mem_foldl_linkNative, mem_byHeaders hdistinct]
  simp only [NativeIds.parent_eq]
  rw [exists_parent_iff]
  simp only [Relates, and_or_left, exists_or]

theorem mem_fromMessages_of_mem (hdistinct : (messages.map (·.messageId)).Nodup)
    (hmem : message ∈ messages) (hother : other ∈ messages) :
    other.messageId ∈ (fromMessages messages).get message.messageId ↔
      Relates messages message other := by
  rw [mem_fromMessages hdistinct]
  constructor
  · intro ⟨first, hfirst, second, hsecond, hid, heq, hrelates⟩
    cases List.inj_on_of_nodup_map hdistinct hfirst hmem hid
    cases List.inj_on_of_nodup_map hdistinct hsecond hother heq
    exact hrelates
  · exact fun hrelates => ⟨message, hmem, other, hother, rfl, rfl, hrelates⟩

theorem Relates.symm (h : Relates messages message other) : Relates messages other message :=
  ⟨h.1.symm, h.2.imp Or.symm Or.symm⟩

/-- Where names are apart, it does not matter in which order messages come. -/
theorem namesNative_iff (hnames : (messages.filterMap (·.nativeKey)).Nodup) :
    message.NamesNative messages other ↔
      other ∈ messages ∧ ∃ native, message.nativeParentKey = some native ∧
        other.nativeKey = some native := by
  have hunique : ∀ first ∈ messages, ∀ second ∈ messages, ∀ native,
      first.nativeKey = some native → second.nativeKey = some native → first = second := by
    intro first hfirst second hsecond native hkey hkey'
    by_contra hne
    have hapart := List.pairwise_filterMap.mp hnames
    have : Std.Symm fun a b : MessageBase => ∀ key, a.nativeKey = some key →
        ∀ key', b.nativeKey = some key' → key ≠ key' :=
      ⟨fun a b h key hkey key' hkey' heq => h key' hkey' key hkey heq.symm⟩
    exact hapart.forall hfirst hsecond hne native hkey native hkey' rfl
  constructor
  · intro h
    have hmem := h.mem
    obtain ⟨native, hnative, hfind⟩ := h
    exact ⟨hmem, native, hnative, by simpa using List.find?_some hfind⟩
  · intro ⟨hother, native, hnative, hkey⟩
    refine ⟨native, hnative, ?_⟩
    cases hfind : messages.reverse.find? (·.nativeKey = some native) with
    | none =>
      have hnone := List.find?_eq_none.mp hfind other (List.mem_reverse.mpr hother)
      exact (hnone (decide_eq_true hkey)).elim
    | some found =>
      have hfound : found.nativeKey = some native := by simpa using List.find?_some hfind
      rw [hunique found (List.mem_reverse.mp (List.mem_of_find?_eq_some hfind)) other hother native
        hfound hkey]

theorem strictlySorted_fromMessages (messages : List MessageBase) (messageId : String) :
    StrictlySorted ((fromMessages messages).get messageId) := by
  rw [get_fromMessages]
  exact strictlySorted_sortedSet _

/-- The relations are symmetric, and do not depend on the order of the messages. -/
theorem relationRules_of_distinct (messages : List MessageBase)
    (hdistinct : (messages.map (·.messageId)).Nodup) : RelationRules messages where
  sorted := strictlySorted_fromMessages messages
  symmetric messageId otherId := by
    rw [mem_fromMessages hdistinct, mem_fromMessages hdistinct]
    constructor
    · intro ⟨message, hmem, other, hother, hid, heq, hrelates⟩
      exact ⟨other, hother, message, hmem, heq, hid, hrelates.symm⟩
    · intro ⟨message, hmem, other, hother, hid, heq, hrelates⟩
      exact ⟨other, hother, message, hmem, heq, hid, hrelates.symm⟩
  irreflexive messageId hmem := by
    obtain ⟨message, _, other, _, hid, heq, hne, _⟩ := (mem_fromMessages hdistinct).mp hmem
    exact hne (hid.trans heq.symm)
  related _ hmem _ hother := mem_fromMessages_of_mem hdistinct hmem hother
  stored messageId otherId hmem := by
    obtain ⟨message, hmessage, other, hother, hid, heq, _⟩ := (mem_fromMessages hdistinct).mp hmem
    exact ⟨message, hmessage, other, hother, hid, heq⟩
  anyOrder hnames permuted hperm messageId := by
    have hdistinct' := (hperm.map (·.messageId)).nodup_iff.mpr hdistinct
    have hnames' := (hperm.filterMap (·.nativeKey)).nodup_iff.mpr hnames
    refine (strictlySorted_fromMessages permuted messageId).eq_of_mem_iff
      (strictlySorted_fromMessages messages messageId) fun otherId => ?_
    rw [mem_fromMessages hdistinct, mem_fromMessages hdistinct']
    simp only [Relates, namesNative_iff hnames, namesNative_iff hnames', hperm.mem_iff]

/-- Mails that answer each other by their headers, and two messages of a file source. -/
def conversation : List MessageBase := [
  { messageId := "m1", content := { rfc822MessageId := some "Parent@Example.net" } },
  { messageId := "m2", content := { references := ["<root@example.net> <parent@example.NET>"] } },
  { messageId := "m3"
    origin := some { replyRoute := ⟨"file", "inquiries", "inquiry/1"⟩, externalMessageId := "one" } },
  { messageId := "m4"
    origin := some { replyRoute := ⟨"file", "inquiries", "inquiry/1"⟩, externalMessageId := "two"
                     replyToExternalMessageId := some "one" } }]

theorem relationRules_conversation :
    (fromMessages conversation).get "m1" = ["m2"] ∧
    (fromMessages conversation).get "m3" = ["m4"] ∧ RelationRules conversation :=
  ⟨by decide +kernel, by decide +kernel, relationRules_of_distinct conversation (by decide)⟩

/-- Two answers to a mail that is not stored name a common id and are not related. -/
theorem fromMessages_siblings : ∃ first second : MessageBase,
    (∃ id ∈ first.replyHeaderIds, id ∈ second.replyHeaderIds) ∧
      first.messageId ≠ second.messageId ∧
      second.messageId ∉ (fromMessages [first, second]).get first.messageId :=
  ⟨{ messageId := "m1", content := { inReplyTo := some "<parent@example.net>" } },
    { messageId := "m2", content := { inReplyTo := some "<parent@example.net>" } },
    by decide +kernel⟩

end AgentFirstMail
