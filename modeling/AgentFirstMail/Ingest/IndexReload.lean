import AgentFirstMail.Ingest.Message

namespace AgentFirstMail
open Effect Indexing

/-- A message with its evidence, as a reload of the index meets it. -/
structure StoredMessage where
  raw : Bytes
  rfc822MessageId : Option String
  locations : List RemoteLocation

namespace StoredMessage

/-- The normalized id that a message gives itself. -/
def name? (message : StoredMessage) : Option String :=
  (message.rfc822MessageId.map fun id => normalizeMessageId id.toList).filter (· != "")

def keys (message : StoredMessage) : List ImapKey := message.locations.filterMap (·.imapKey?)

/-- The keys of the locations that were not found missing. -/
def activeKeys (message : StoredMessage) : List ImapKey :=
  (message.locations.filter (·.isActive)).filterMap (·.imapKey?)

end StoredMessage

/-- A message as it was read, with its evidence. -/
def Message.asStored (message : Message) (raw : Bytes) : StoredMessage :=
  ⟨raw, message.rfc822MessageId, message.remote.getD []⟩

def MessageRecord.stored? (record : MessageRecord) : Option StoredMessage :=
  match record.eml, record.metadata with
  | some raw, some metadata => some ⟨raw, record.rfc822MessageId, metadata.remote.getD []⟩
  | _, _ => none

def Workspace.stored? (w : Workspace) (messageId : String) : Option StoredMessage :=
  (w.record messageId).stored?

def Workspace.Stores (w : Workspace) (messageId : String) (message : StoredMessage) : Prop :=
  w.stored? messageId = some message

/-- An index shows a collection of messages, of which it knows the locations under `keys`. -/
structure ExistingIndex.Shows (parser : MailParser) (keys : StoredMessage → List ImapKey)
    (stored : String → StoredMessage → Prop) (index : ExistingIndex) : Prop where
  contentIds : Maps index.contentIds fun key messageId =>
    ∃ message, stored messageId message ∧ parser.messageContentKey message.raw = key
  rfc822Messages : Groups index.rfc822Messages fun name messageId =>
    ∃ message, stored messageId message ∧ message.name? = some name
  rfc822Cases : index.rfc822Cases = ∅
  imapKeys : Holds index.imapKeys fun key => ∃ messageId message, stored messageId message ∧
    key ∈ keys message

/-- An index tells of each location which message is there. -/
def ExistingIndex.Locates (keys : StoredMessage → List ImapKey)
    (stored : String → StoredMessage → Prop) (index : ExistingIndex) : Prop :=
  Maps index.imapLocations fun key messageId =>
    ∃ message, stored messageId message ∧ key ∈ keys message

/-- No location is that of two messages. -/
def Apart (keys : StoredMessage → List ImapKey) (stored : String → StoredMessage → Prop) : Prop :=
  ∀ key messageId other message message', stored messageId message → stored other message' →
    key ∈ keys message → key ∈ keys message' → messageId = other

/-- No bytes are stored twice. -/
def Distinct (parser : MailParser) (stored : String → StoredMessage → Prop) : Prop :=
  ∀ messageId other message message', stored messageId message → stored other message' →
    parser.messageContentKey message.raw = parser.messageContentKey message'.raw →
    messageId = other

variable {parser : MailParser} {index : ExistingIndex} {w : Workspace}
  {keys : StoredMessage → List ImapKey} {stored stored' : String → StoredMessage → Prop}

namespace ExistingIndex

theorem Shows.congr (h : index.Shows parser keys stored)
    (hiff : ∀ messageId message, stored messageId message ↔ stored' messageId message) :
    index.Shows parser keys stored' := by
  have heq : stored = stored' := funext fun messageId => funext fun message =>
    propext (hiff messageId message)
  rw [← heq]
  exact h

theorem Locates.congr (h : index.Locates keys stored)
    (hiff : ∀ messageId message, stored messageId message ↔ stored' messageId message) :
    index.Locates keys stored' := by
  have heq : stored = stored' := funext fun messageId => funext fun message =>
    propext (hiff messageId message)
  rw [← heq]
  exact h

theorem addLocations_frame (messageId : String) (locations : List RemoteLocation) :
    (index.addLocations messageId locations).contentIds = index.contentIds ∧
      (index.addLocations messageId locations).rfc822Messages = index.rfc822Messages ∧
      (index.addLocations messageId locations).rfc822Cases = index.rfc822Cases := by
  induction locations generalizing index with
  | nil => exact ⟨rfl, rfl, rfl⟩
  | cons location rest ih =>
    have hstep : (index.addLocation messageId location).contentIds = index.contentIds ∧
        (index.addLocation messageId location).rfc822Messages = index.rfc822Messages ∧
        (index.addLocation messageId location).rfc822Cases = index.rfc822Cases := by
      unfold addLocation
      split
      · split
        · exact ⟨rfl, rfl, rfl⟩
        · exact ⟨rfl, rfl, rfl⟩
      · exact ⟨rfl, rfl, rfl⟩
    obtain ⟨hcontent, hnames, hcases⟩ := @ih (index.addLocation messageId location)
    exact ⟨hcontent.trans hstep.1, hnames.trans hstep.2.1, hcases.trans hstep.2.2⟩

theorem mem_activeKeys_cons {location : RemoteLocation} {rest : List RemoteLocation} {key : ImapKey} :
    key ∈ ((location :: rest).filter (·.isActive)).filterMap (·.imapKey?) ↔
      (location.isActive = true ∧ location.imapKey? = some key) ∨
        key ∈ (rest.filter (·.isActive)).filterMap (·.imapKey?) := by
  by_cases hactive : location.isActive
  · rw [List.filter_cons_of_pos hactive]
    simp only [List.mem_filterMap, List.mem_cons, exists_eq_or_imp, hactive, true_and]
  · rw [List.filter_cons_of_neg hactive]
    simp only [hactive, Bool.false_eq_true, false_and, false_or]

theorem addLocations_imapKeys {member : ImapKey → Prop} (messageId : String)
    (locations : List RemoteLocation) (h : Holds index.imapKeys member) :
    Holds (index.addLocations messageId locations).imapKeys fun key => member key ∨
      key ∈ (locations.filter (·.isActive)).filterMap (·.imapKey?) := by
  induction locations generalizing index member with
  | nil => exact h.congr fun key => ⟨.inl, fun h => h.resolve_right List.not_mem_nil⟩
  | cons location rest ih =>
    have hstep : Holds (index.addLocation messageId location).imapKeys fun key =>
        member key ∨ location.isActive = true ∧ location.imapKey? = some key := by
      unfold addLocation
      split
      · rename_i key hkey
        split
        · rename_i hactive
          exact h.insert.congr fun other => by
            simp only [hactive, hkey, true_and, Option.some.injEq, eq_comm]
        · rename_i hactive
          exact h.congr fun other => by simp [hactive]
      · rename_i hkey
        exact h.congr fun other => by simp [hkey]
    exact (ih hstep).congr fun key => by rw [mem_activeKeys_cons, or_assoc]

theorem addLocations_imapLocations {pairs : ImapKey → String → Prop} (messageId : String)
    (locations : List RemoteLocation) (h : Maps index.imapLocations pairs)
    (hone : ∀ key ∈ (locations.filter (·.isActive)).filterMap (·.imapKey?), ∀ other,
      pairs key other → other = messageId) :
    Maps (index.addLocations messageId locations).imapLocations fun key other => pairs key other ∨
      key ∈ (locations.filter (·.isActive)).filterMap (·.imapKey?) ∧ other = messageId := by
  induction locations generalizing index pairs with
  | nil => exact h.congr fun key other => ⟨.inl, fun h => h.resolve_right fun h =>
      List.not_mem_nil h.1⟩
  | cons location rest ih =>
    have hstep : Maps (index.addLocation messageId location).imapLocations fun key other =>
        pairs key other ∨
          (location.isActive = true ∧ location.imapKey? = some key) ∧ other = messageId := by
      unfold addLocation
      split
      · rename_i key hkey
        split
        · rename_i hactive
          have hmem : key ∈ ((location :: rest).filter (·.isActive)).filterMap (·.imapKey?) :=
            mem_activeKeys_cons.mpr (.inl ⟨hactive, hkey⟩)
          exact (h.insertIfNew (hone key hmem)).congr fun other id => by
            simp only [hactive, hkey, true_and, Option.some.injEq, eq_comm]
        · rename_i hactive
          exact h.congr fun other id => by simp [hactive]
      · rename_i hkey
        exact h.congr fun other id => by simp [hkey]
    have hrest := ih hstep (by
      intro key hkey other hpair
      rcases hpair with hpair | ⟨_, rfl⟩
      · exact hone key (mem_activeKeys_cons.mpr (.inr hkey)) other hpair
      · rfl)
    exact hrest.congr fun key other => by rw [mem_activeKeys_cons, or_and_right, or_assoc]

theorem addRfc822_rfc822Messages (messageId : String) (rfc822Id : Option String) :
    (index.addRfc822 ∅ messageId rfc822Id).rfc822Messages =
      match (rfc822Id.map fun id => normalizeMessageId id.toList).filter (· != "") with
      | some name => index.rfc822Messages.add name messageId
      | none => index.rfc822Messages := by
  cases rfc822Id with
  | none => rfl
  | some id =>
    by_cases hname : normalizeMessageId id.toList = ""
    · have hdropped : (some (normalizeMessageId id.toList)).filter (· != "") = none := by
        rw [hname]
        rfl
      simp only [addRfc822, Option.map_some, hdropped, if_pos hname]
    · have hkept : (some (normalizeMessageId id.toList)).filter (· != "") =
          some (normalizeMessageId id.toList) := Option.filter_some_pos (bne_iff_ne.mpr hname)
      simp only [addRfc822, Option.map_some, hkept, if_neg hname]

theorem addRfc822_rfc822Cases (messageId : String) (rfc822Id : Option String) :
    (index.addRfc822 ∅ messageId rfc822Id).rfc822Cases = index.rfc822Cases := by
  cases rfc822Id with
  | none => rfl
  | some id =>
    rw [addRfc822, Std.ExtTreeMap.getElem?_empty]

theorem addRfc822_frame (messageId : String) (rfc822Id : Option String) :
    (index.addRfc822 ∅ messageId rfc822Id).contentIds = index.contentIds ∧
      (index.addRfc822 ∅ messageId rfc822Id).imapKeys = index.imapKeys ∧
      (index.addRfc822 ∅ messageId rfc822Id).imapLocations = index.imapLocations := by
  cases rfc822Id with
  | none => exact ⟨rfl, rfl, rfl⟩
  | some id => simp only [addRfc822, and_self]

/-- Entering a message of new bytes adds it to what the index shows. -/
theorem Shows.addMessage {raw : Bytes} {message : Message}
    (h : index.Shows parser (·.activeKeys) stored)
    (hone : ∀ other message', stored other message' →
      parser.messageContentKey message'.raw = parser.messageContentKey raw →
      other = message.messageId) :
    (index.addMessage parser ∅ raw message).Shows parser (·.activeKeys)
      fun messageId stored' => stored messageId stored' ∨
        messageId = message.messageId ∧ stored' = message.asStored raw := by
  let content := index.addContent (parser.messageContentKey raw) message.messageId
  obtain ⟨hcontent, hkeys, _⟩ :=
    @addRfc822_frame content message.messageId message.rfc822MessageId
  unfold ExistingIndex.addMessage
  obtain ⟨hcontent', hnames', hcases'⟩ :=
    @addLocations_frame (content.addRfc822 ∅ message.messageId message.rfc822MessageId)
      message.messageId (message.remote.getD [])
  constructor
  · rw [hcontent', hcontent]
    have hadded := h.contentIds.insertIfNew fun other ⟨message', hstored, hkey⟩ =>
      hone other message' hstored hkey
    apply hadded.congr
    intro key messageId
    constructor
    · rintro (⟨message', hstored, hkey⟩ | ⟨rfl, rfl⟩)
      · exact ⟨message', .inl hstored, hkey⟩
      · exact ⟨_, .inr ⟨rfl, rfl⟩, rfl⟩
    · rintro ⟨message', hstored | ⟨rfl, rfl⟩, rfl⟩
      · exact .inl ⟨message', hstored, rfl⟩
      · exact .inr ⟨rfl, rfl⟩
  · rw [hnames', addRfc822_rfc822Messages]
    change Groups (match (message.asStored raw).name? with
      | some name => content.rfc822Messages.add name message.messageId
      | none => content.rfc822Messages) _
    cases hname : (message.asStored raw).name? with
    | none =>
      apply h.rfc822Messages.congr
      intro name messageId
      constructor
      · rintro ⟨message', hstored, hsome⟩
        exact ⟨message', .inl hstored, hsome⟩
      · rintro ⟨message', hstored | ⟨rfl, rfl⟩, hsome⟩
        · exact ⟨message', hstored, hsome⟩
        · cases hname.symm.trans hsome
    | some name =>
      apply h.rfc822Messages.add.congr
      intro other messageId
      constructor
      · rintro (⟨message', hstored, hsome⟩ | ⟨rfl, rfl⟩)
        · exact ⟨message', .inl hstored, hsome⟩
        · exact ⟨_, .inr ⟨rfl, rfl⟩, hname⟩
      · rintro ⟨message', hstored | ⟨rfl, rfl⟩, hsome⟩
        · exact .inl ⟨message', hstored, hsome⟩
        · exact .inr ⟨Option.some.inj (hsome.symm.trans hname), rfl⟩
  · rw [hcases', addRfc822_rfc822Cases]
    exact h.rfc822Cases
  · have hbefore : Holds (content.addRfc822 ∅ message.messageId message.rfc822MessageId).imapKeys
        fun key => ∃ messageId message, stored messageId message ∧ key ∈ message.activeKeys := by
      rw [hkeys]
      exact h.imapKeys
    apply (addLocations_imapKeys message.messageId (message.remote.getD []) hbefore).congr
    intro key
    constructor
    · rintro (⟨messageId, message', hstored, hkey⟩ | hkey)
      · exact ⟨messageId, message', .inl hstored, hkey⟩
      · exact ⟨_, _, .inr ⟨rfl, rfl⟩, hkey⟩
    · rintro ⟨messageId, message', hstored | ⟨rfl, rfl⟩, hkey⟩
      · exact .inl ⟨messageId, message', hstored, hkey⟩
      · exact .inr hkey

theorem Locates.addMessage {raw : Bytes} {message : Message}
    (h : index.Locates (·.activeKeys) stored)
    (hone : ∀ key ∈ (message.asStored raw).activeKeys, ∀ other message', stored other message' →
      key ∈ message'.activeKeys → other = message.messageId) :
    (index.addMessage parser ∅ raw message).Locates (·.activeKeys)
      fun messageId stored' => stored messageId stored' ∨
        messageId = message.messageId ∧ stored' = message.asStored raw := by
  let content := index.addContent (parser.messageContentKey raw) message.messageId
  obtain ⟨_, _, hlocations⟩ := @addRfc822_frame content message.messageId message.rfc822MessageId
  have hbefore : Maps
      (content.addRfc822 ∅ message.messageId message.rfc822MessageId).imapLocations
      fun key messageId => ∃ message, stored messageId message ∧ key ∈ message.activeKeys := by
    rw [hlocations]
    exact h
  have hentered := addLocations_imapLocations message.messageId (message.remote.getD [])
    hbefore fun key hkey other ⟨message', hstored, hmem⟩ =>
      hone key hkey other message' hstored hmem
  apply hentered.congr
  intro key messageId
  constructor
  · rintro (⟨message', hstored, hkey⟩ | ⟨hkey, rfl⟩)
    · exact ⟨message', .inl hstored, hkey⟩
    · exact ⟨_, .inr ⟨rfl, rfl⟩, hkey⟩
  · rintro ⟨message', hstored | ⟨rfl, rfl⟩, hkey⟩
    · exact .inl ⟨message', hstored, hkey⟩
    · exact .inr ⟨hkey, rfl⟩

end ExistingIndex

/-- A workspace that sources alone have written to: its evidence comes with metadata, and no
message is disposed of in two ways. -/
structure Workspace.Ingested (w : Workspace) : Prop where
  notifications : w.notifications = ∅
  cases : w.cases = ∅
  disjoint : ∀ messageId kind kind', messageId ∈ w.disposition kind →
    messageId ∈ w.disposition kind' → kind = kind'
  evidence : ∀ messageId, (w.record messageId).eml.isSome → (w.record messageId).metadata.isSome

namespace Workspace

theorem foldlM_addDisposition {status : MessageStatus} {ids : List String}
    {out : Std.ExtTreeMap String MessageStatus} (hnodup : ids.Nodup)
    (hnew : ∀ messageId ∈ ids, messageId ∉ out) :
    ∃ out', ids.foldlM (addDisposition status) out = .ok out' ∧
      ∀ messageId, messageId ∈ out' ↔ messageId ∈ out ∨ messageId ∈ ids := by
  induction ids generalizing out with
  | nil => exact ⟨out, rfl, fun messageId => ⟨.inl, fun h => h.resolve_right List.not_mem_nil⟩⟩
  | cons first rest ih =>
    obtain ⟨hfirst, hrest⟩ := List.nodup_cons.mp hnodup
    have hadd : addDisposition status out first = .ok (out.insert first status) := by
      rw [addDisposition, Std.ExtTreeMap.getElem?_eq_none (hnew first List.mem_cons_self)]
    obtain ⟨out', heq, hmem⟩ := @ih (out.insert first status) hrest (by
      intro messageId hin hout
      rcases Std.ExtTreeMap.mem_insert.mp hout with hsame | hout
      · rw [Std.LawfulEqCmp.compare_eq_iff_eq] at hsame
        exact hfirst (hsame ▸ hin)
      · exact hnew messageId (List.mem_cons_of_mem _ hin) hout)
    refine ⟨out', ?_, ?_⟩
    · rw [List.foldlM_cons, hadd]
      exact heq
    · intro messageId
      rw [hmem, Std.ExtTreeMap.mem_insert, Std.LawfulEqCmp.compare_eq_iff_eq, List.mem_cons,
        eq_comm]
      exact ⟨by rintro ((rfl | h) | h) <;> simp [*], by rintro (h | rfl | h) <;> simp [*]⟩

/-- A message that is in one disposition at most has a state. -/
theorem dispositionStateByMessage_of_disjoint
    (h : ∀ messageId kind kind', messageId ∈ w.disposition kind →
      messageId ∈ w.disposition kind' → kind = kind') :
    ∃ out, w.dispositionStateByMessage = .ok out := by
  obtain ⟨spam, hspam, hinSpam⟩ := @foldlM_addDisposition .spam w.spam.messageIds ∅ w.spam.nodup
    fun _ _ => Std.ExtTreeMap.not_mem_empty
  obtain ⟨trashed, htrashed, hinTrashed⟩ :=
    @foldlM_addDisposition .trashed w.trashed.messageIds spam w.trashed.nodup (by
      intro messageId hmem hin
      have hboth := ((hinSpam messageId).mp hin).resolve_left Std.ExtTreeMap.not_mem_empty
      cases h messageId .trashed .spam hmem hboth)
  obtain ⟨deleted, hdeleted, _⟩ :=
    @foldlM_addDisposition .deletedRemote w.deletedRemote.messageIds trashed
      w.deletedRemote.nodup (by
        intro messageId hmem hin
        rcases (hinTrashed messageId).mp hin with hin | hin
        · have hboth := ((hinSpam messageId).mp hin).resolve_left Std.ExtTreeMap.not_mem_empty
          cases h messageId .deletedRemote .spam hmem hboth
        · cases h messageId .deletedRemote .trashed hmem hin)
  refine ⟨deleted, ?_⟩
  simp only [dispositionStateByMessage, Disposition.specs, List.foldlM_cons, List.foldlM_nil,
    disposition, Disposition.status, hspam, htrashed, hdeleted, bind, Except.bind, pure, Except.pure]

theorem Ingested.materializedOverlayIndex (h : w.Ingested) :
    ∃ overlays, w.materializedOverlayIndex = .ok overlays := by
  obtain ⟨dispositions, hdispositions⟩ := dispositionStateByMessage_of_disjoint h.disjoint
  have hnotifications : w.notificationStateByMessage = .ok ∅ := by
    rw [notificationStateByMessage, h.notifications]
    rfl
  have hcases : w.buildCaseIndex = .ok [] := by
    rw [buildCaseIndex, allCaseEntries, caseEntries, archivedCaseEntries, h.cases]
    rfl
  have hdisjoint : ensureDisjoint dispositions ∅ = .ok () := by
    rw [ensureDisjoint, Result.forM_eq_ok_iff]
    intro entry _
    rw [Std.ExtTreeMap.getElem?_empty]
  refine ⟨⟨[], dispositions, ∅, w.pendingPushes⟩, ?_⟩
  rw [Workspace.materializedOverlayIndex, hdispositions, hnotifications, hcases]
  simp only [bind, Except.bind, hdisjoint]
  rfl

theorem Ingested.loadCaseRefsByMessageId (h : w.Ingested) : w.loadCaseRefsByMessageId = ∅ := by
  rw [Workspace.loadCaseRefsByMessageId, caseEntries, h.cases]
  rfl

/-- A stored message is read as it is stored. -/
theorem readMessageUnder_of_stores {overlays : OverlayIndex} {message : StoredMessage}
    (h : w.Stores messageId message) : ∃ read, w.readMessageUnder overlays messageId = .ok read ∧
      read.messageId = messageId ∧ read.asStored message.raw = message := by
  cases hget : w.messages[messageId]? with
  | none =>
    rw [Stores, stored?, record, hget] at h
    cases h
  | some record =>
    rw [Stores, stored?, Workspace.record, hget, Option.getD_some, MessageRecord.stored?] at h
    cases heml : record.eml with
    | none =>
      rw [heml] at h
      cases h
    | some raw =>
      cases hmetadata : record.metadata with
      | none =>
        rw [heml, hmetadata] at h
        cases h
      | some metadata =>
        rw [heml, hmetadata] at h
        cases h
        let read : Message :=
          { messageId, rfc822MessageId := record.rfc822MessageId, direction := record.direction
            remote := metadata.remote, status := overlays.status messageId
            notificationUid := overlays.notificationUid messageId
            pending := overlays.pending messageId }
        refine ⟨read, ?_, rfl, rfl⟩
        simp only [readMessageUnder, hget, heml, hmetadata, Option.isSome_some, ensure, if_true]
        rfl

theorem mem_emlPaths : (messageId, raw) ∈ w.emlPaths ↔ (w.record messageId).eml = some raw := by
  rw [emlPaths, (List.perm_insertionSort _ _).mem_iff, List.mem_filterMap]
  constructor
  · rintro ⟨⟨id, record⟩, hmem, heq⟩
    obtain ⟨found, heml, hpair⟩ := Option.map_eq_some_iff.mp heq
    cases hpair
    rw [Workspace.record, Std.ExtTreeMap.mem_toList_iff_getElem?_eq_some.mp hmem]
    exact heml
  · intro heml
    cases hget : w.messages[messageId]? with
    | none =>
      rw [Workspace.record, hget] at heml
      cases heml
    | some record =>
      rw [Workspace.record, hget] at heml
      refine ⟨(messageId, record), Std.ExtTreeMap.mem_toList_iff_getElem?_eq_some.mpr hget, ?_⟩
      exact Option.map_eq_some_iff.mpr ⟨raw, heml, rfl⟩

theorem Ingested.stores_of_eml (h : w.Ingested) (heml : (w.record messageId).eml = some raw) :
    ∃ message, w.Stores messageId message ∧ message.raw = raw := by
  obtain ⟨metadata, hmetadata⟩ := Option.isSome_iff_exists.mp (h.evidence messageId (by rw [heml]; rfl))
  refine ⟨⟨raw, (w.record messageId).rfc822MessageId, metadata.remote.getD []⟩, ?_, rfl⟩
  rw [Stores, stored?, MessageRecord.stored?, heml, hmetadata]

theorem Stores.eml {message : StoredMessage} (h : w.Stores messageId message) :
    (w.record messageId).eml = some message.raw := by
  unfold Stores stored? MessageRecord.stored? at h
  split at h
  · rename_i heml _
    cases h
    exact heml
  · cases h

theorem Stores.rfc822MessageId {message : StoredMessage} (h : w.Stores messageId message) :
    (w.record messageId).rfc822MessageId = message.rfc822MessageId := by
  unfold Stores stored? MessageRecord.stored? at h
  split at h
  · cases h
    rfl
  · cases h

theorem Stores.remoteLocations {message : StoredMessage} (h : w.Stores messageId message) :
    w.remoteLocations messageId = message.locations := by
  unfold Stores stored? MessageRecord.stored? at h
  split at h
  · rename_i hmetadata
    cases h
    unfold Workspace.remoteLocations
    cases hget : w.messages[messageId]? with
    | none =>
      rw [record, hget] at hmetadata
      cases hmetadata
    | some found =>
      rw [record, hget, Option.getD_some] at hmetadata
      rw [Option.bind_some, hmetadata]
      rfl
  · cases h

/-- One message after another is entered, each once. -/
theorem foldlM_addMessage {overlays : OverlayIndex} {paths : List (String × Bytes)}
    {entered : String → StoredMessage → Prop} (hw : w.Ingested) (hdistinct : Distinct parser w.Stores)
    (hpaths : ∀ path ∈ paths, (w.record path.1).eml = some path.2)
    (hentered : ∀ messageId message, entered messageId message → w.Stores messageId message)
    (hshows : index.Shows parser (·.activeKeys) entered)
    (hlocates : Apart (·.activeKeys) w.Stores → index.Locates (·.activeKeys) entered) :
    ∃ out, paths.foldlM (fun index path => do
        let message ← w.readMessageUnder overlays path.1
        return index.addMessage parser ∅ path.2 message) index = .ok out ∧
      out.Shows parser (·.activeKeys) (fun messageId message => entered messageId message ∨
        w.Stores messageId message ∧ (messageId, message.raw) ∈ paths) ∧
      (Apart (·.activeKeys) w.Stores → out.Locates (·.activeKeys) (fun messageId message =>
        entered messageId message ∨
          w.Stores messageId message ∧ (messageId, message.raw) ∈ paths)) := by
  induction paths generalizing index entered with
  | nil =>
    refine ⟨index, rfl, hshows.congr ?_, fun hapart => (hlocates hapart).congr ?_⟩
    · exact fun _ _ => ⟨.inl, fun h => h.resolve_right fun h => List.not_mem_nil h.2⟩
    · exact fun _ _ => ⟨.inl, fun h => h.resolve_right fun h => List.not_mem_nil h.2⟩
  | cons path rest ih =>
    obtain ⟨messageId, raw⟩ := path
    obtain ⟨message, hstores, hraw⟩ := hw.stores_of_eml (hpaths _ List.mem_cons_self)
    change w.Stores messageId message at hstores
    change message.raw = raw at hraw
    subst hraw
    obtain ⟨read, hread, hid, hsame⟩ := @readMessageUnder_of_stores w messageId overlays _ hstores
    subst hid
    have hnext := hshows.addMessage fun other message' hother hkey =>
      hdistinct other _ message' message (hentered _ _ hother) hstores hkey
    have hnextLocates : Apart (·.activeKeys) w.Stores →
        (index.addMessage parser ∅ message.raw read).Locates (·.activeKeys)
          fun messageId stored => entered messageId stored ∨
            messageId = read.messageId ∧ stored = read.asStored message.raw := by
      intro hapart
      apply (hlocates hapart).addMessage
      intro key hkey other message' hother hmem
      rw [hsame] at hkey
      exact hapart key other _ message' message (hentered _ _ hother) hstores hmem hkey
    have hrest := fun path hmem => hpaths path (List.mem_cons_of_mem _ hmem)
    obtain ⟨out, hload, hout, houtLocates⟩ := ih hrest (by
      intro other message' hother
      rcases hother with hother | ⟨rfl, rfl⟩
      · exact hentered _ _ hother
      · rw [hsame]
        exact hstores) hnext hnextLocates
    have hiff : ∀ other message', ((entered other message' ∨
        other = read.messageId ∧ message' = read.asStored message.raw) ∨
        w.Stores other message' ∧ (other, message'.raw) ∈ rest) ↔
        entered other message' ∨ w.Stores other message' ∧
          (other, message'.raw) ∈ (read.messageId, message.raw) :: rest := by
      intro other message'
      rw [hsame, or_assoc]
      apply or_congr_right
      constructor
      · rintro (⟨rfl, rfl⟩ | ⟨hstored, hmem⟩)
        · exact ⟨hstores, List.mem_cons_self⟩
        · exact ⟨hstored, List.mem_cons_of_mem _ hmem⟩
      · rintro ⟨hstored, hmem⟩
        rcases List.mem_cons.mp hmem with heq | hmem
        · have hid := (Prod.mk.inj heq).1
          rw [hid] at hstored
          exact .inl ⟨hid, Option.some.inj (hstored.symm.trans hstores)⟩
        · exact .inr ⟨hstored, hmem⟩
    refine ⟨out, ?_, hout.congr hiff, fun hapart => (houtLocates hapart).congr hiff⟩
    rw [List.foldlM_cons, hread]
    exact hload

/-- What a reload of the index shows: every stored message. -/
theorem Ingested.loadExistingRemoteIndex (h : w.Ingested) (hdistinct : Distinct parser w.Stores) :
    ∃ index, w.loadExistingRemoteIndex parser = .ok index ∧
      index.Shows parser (·.activeKeys) w.Stores ∧
      (Apart (·.activeKeys) w.Stores → index.Locates (·.activeKeys) w.Stores) := by
  obtain ⟨overlays, hoverlays⟩ := h.materializedOverlayIndex
  have hnothing : ({} : ExistingIndex).Shows parser (·.activeKeys) fun _ _ => False := by
    constructor
    · exact Maps.empty.congr fun key messageId => by simp
    · exact Groups.empty.congr fun name messageId => by simp
    · rfl
    · exact Holds.empty.congr fun key => by simp
  obtain ⟨index, hload, hshows, hlocates⟩ := @foldlM_addMessage parser {} w overlays w.emlPaths
    (fun _ _ => False) h hdistinct (fun path hmem => mem_emlPaths.mp hmem)
    (fun _ _ hfalse => hfalse.elim) hnothing
    (fun _ => Maps.empty.congr fun key messageId => by simp)
  have hiff : ∀ messageId message, (False ∨ w.Stores messageId message ∧
      (messageId, message.raw) ∈ w.emlPaths) ↔ w.Stores messageId message := by
    intro messageId message
    rw [false_or]
    exact ⟨And.left, fun hstores => ⟨hstores, mem_emlPaths.mpr hstores.eml⟩⟩
  refine ⟨index, ?_, hshows.congr hiff, fun hapart => (hlocates hapart).congr hiff⟩
  rw [Workspace.loadExistingRemoteIndex, h.loadCaseRefsByMessageId, hoverlays]
  exact hload

end Workspace
end AgentFirstMail
