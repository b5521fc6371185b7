import AgentFirstMail.Config.Defaults
import AgentFirstMail.Ingest.IndexReload

namespace AgentFirstMail
open Effect Indexing Ingest

variable {α β : Type} {parser : MailParser} {w start : Workspace} {s : IngestState} {messageId : String}
  {keys : StoredMessage → List ImapKey}

/-- The locations of a message after one more was recorded. -/
def IngestMessage.located (input : IngestMessage) (locations : List RemoteLocation) :
    List RemoteLocation :=
  match input.remoteLocation with
  | none => locations
  | some location => (recordLocation location locations).1

/-- The index after a message was found at a location. -/
def ExistingIndex.located (index : ExistingIndex) (messageId : String) :
    Option RemoteLocation → ExistingIndex
  | none => index
  | some location => index.indexLocation location messageId

/-- The index after a message of new bytes was stored. -/
def ExistingIndex.extended (index : ExistingIndex) (parser : MailParser) (messageId : String)
    (input : IngestMessage) (name : Option String) : ExistingIndex :=
  { index.located messageId input.remoteLocation with
    contentIds := index.contentIds.insert (parser.messageContentKey input.rawEml) messageId
    rfc822Messages := match name with
      | some name => index.rfc822Messages.add name messageId
      | none => index.rfc822Messages }

/-- Every execution that returns ends in `post`. -/
def Ingest.Ends (p : Ingest α) (post : α → IngestState → Prop) (s : IngestState) : Prop :=
  p.wp (fun _ _ => True) (fun value _ => post value) (fun _ _ _ => True) [] s

namespace Ingest.Ends
variable {p : Ingest α} {f : α → Ingest β} {post : α → IngestState → Prop}
  {last : β → IngestState → Prop}

theorem of_exec (h : Ends p post s) (hexec : Exec p s events (.returned value) s') :
    post value s' := (Program.wp_sound hexec trivial h).2

theorem wp_any {post : α → Assertion IngestState Empty (fun _ => Unit) AppError}
    (p : Ingest α) (history : List (Event IngestState Empty (fun _ => Unit) AppError)) :
    p.wp (fun _ _ => True) post (fun _ _ _ => True) history s ↔
      p.wp (fun _ _ => True) (fun value _ => post value history) (fun _ _ _ => True) [] s := by
  induction p generalizing s with
  | ret value => exact .rfl
  | fail error => exact .rfl
  | load next ih => exact ih s
  | store change next ih => exact and_congr_right fun _ => ih
  | call request next ih => exact request.elim

theorem bind (hp : Ends p post s) (hf : ∀ value s, post value s → Ends (f value) last s) :
    Ends (p.bind f) last s := by
  apply wp_then
  apply Program.wp_mono hp
  · intro value history s' hpost
    exact (wp_any (f value) history).mpr (hf value s' hpost)
  · exact fun _ _ _ _ => trivial

theorem workspace_bind {f : Workspace → Ingest β} (h : Ends (f s.workspace) last s) :
    Ends (Ingest.workspace.bind f) last s := h

theorem read_bind {f : IngestState → Ingest β} (h : Ends (f s) last s) :
    Ends (Program.read.bind f) last s := h

theorem ofExcept_bind {result : Result α} (h : ∀ value, result = .ok value → Ends (f value) last s) :
    Ends ((Program.ofExcept result).bind f) last s := by
  cases result with
  | ok value => exact h value rfl
  | error error => trivial

theorem writeWorkspace_bind {f : Unit → Ingest β} {change : Workspace → Workspace}
    (h : Ends (f ()) last { s with workspace := change s.workspace }) :
    Ends ((Ingest.writeWorkspace change).bind f) last s := ⟨trivial, h⟩

theorem modifyIndex_bind {f : Unit → Ingest β} {change : ExistingIndex → ExistingIndex}
    (h : Ends (f ()) last { s with index := change s.index }) :
    Ends ((Ingest.modifyIndex change).bind f) last s := ⟨trivial, h⟩

theorem writeWorkspace {last : Unit → IngestState → Prop} {change : Workspace → Workspace}
    (h : last () { s with workspace := change s.workspace }) :
    Ends (Ingest.writeWorkspace change) last s := ⟨trivial, h⟩

theorem modifyIndex {last : Unit → IngestState → Prop} {change : ExistingIndex → ExistingIndex}
    (h : last () { s with index := change s.index }) :
    Ends (Ingest.modifyIndex change) last s := ⟨trivial, h⟩

end Ingest.Ends

namespace Workspace

/-- What an ingestion at work has left of a workspace: the record of its message so far, and
every other one as it was. -/
structure Touched (start : Workspace) (messageId : String) (eml : Option Bytes)
    (rfc822MessageId : Option String) (remote : Option (List RemoteLocation))
    (w : Workspace) : Prop where
  others : ∀ other, other ≠ messageId → w.record other = start.record other
  eml : (w.record messageId).eml = eml
  rfc822MessageId : (w.record messageId).rfc822MessageId = rfc822MessageId
  remote : ∃ metadata, (w.record messageId).metadata = some metadata ∧ metadata.remote = remote
  notifications : w.notifications = ∅
  cases : w.cases = ∅
  disjoint : ∀ messageId kind kind', messageId ∈ w.disposition kind →
    messageId ∈ w.disposition kind' → kind = kind'

namespace Touched
variable {eml : Option Bytes} {rfc822MessageId : Option String}
  {remote : Option (List RemoteLocation)}

theorem alter {change : MessageRecord → MessageRecord} {eml' : Option Bytes}
    {rfc822MessageId' : Option String} {remote' : Option (List RemoteLocation)}
    (h : Touched start messageId eml rfc822MessageId remote w)
    (heml : (change (w.record messageId)).eml = eml')
    (hrfc822 : (change (w.record messageId)).rfc822MessageId = rfc822MessageId')
    (hremote : ∃ metadata, (change (w.record messageId)).metadata = some metadata ∧
      metadata.remote = remote') :
    Touched start messageId eml' rfc822MessageId' remote' (w.alterMessage messageId change) := by
  have hself : (w.alterMessage messageId change).record messageId = change (w.record messageId) := by
    rw [record_alterMessage, if_pos rfl]
  refine ⟨?_, hself ▸ heml, hself ▸ hrfc822, hself ▸ hremote, h.notifications, h.cases, h.disjoint⟩
  intro other hne
  rw [record_alterMessage, if_neg hne, h.others other hne]

theorem persist (hw : w.Ingested) (remote : Option (List RemoteLocation))
    (caseUids : Option (List String)) :
    Touched w messageId (w.record messageId).eml (w.record messageId).rfc822MessageId remote
      (w.persistMessageMetadata messageId remote caseUids) := by
  unfold persistMessageMetadata writeMessageMetadataFile
  have hself : ∀ change, (w.alterMessage messageId change).record messageId =
      change (w.record messageId) := by
    intro change
    rw [record_alterMessage, if_pos rfl]
  refine ⟨?_, ?_, ?_, ?_, hw.notifications, hw.cases, hw.disjoint⟩
  · intro other hne
    rw [record_alterMessage, if_neg hne]
  · rw [hself]
  · rw [hself]
  · rw [hself]
    exact ⟨_, rfl, rfl⟩

theorem stored? (h : Touched start messageId (some raw) rfc822MessageId remote w) (other : String) :
    w.stored? other = if other = messageId then
      some ⟨raw, rfc822MessageId, remote.getD []⟩ else start.stored? other := by
  by_cases heq : other = messageId
  · subst heq
    obtain ⟨metadata, hmetadata, hremote⟩ := h.remote
    rw [if_pos rfl, Workspace.stored?, MessageRecord.stored?, h.eml, hmetadata, h.rfc822MessageId,
      ← hremote]
  · rw [if_neg heq, Workspace.stored?, h.others other heq, Workspace.stored?]

theorem ingested (h : Touched start messageId eml rfc822MessageId remote w)
    (hstart : start.Ingested) : w.Ingested := by
  refine ⟨h.notifications, h.cases, h.disjoint, ?_⟩
  intro other heml
  by_cases heq : other = messageId
  · subst heq
    obtain ⟨metadata, hmetadata, _⟩ := h.remote
    rw [hmetadata]
    rfl
  · rw [h.others other heq] at heml ⊢
    exact hstart.evidence other heml

theorem setDisposition (h : Touched start messageId eml rfc822MessageId remote w)
    {kind : Disposition} {members : Members}
    (hdisjoint : ∀ other kind' kind'', other ∈ (w.setDisposition kind members).disposition kind' →
      other ∈ (w.setDisposition kind members).disposition kind'' → kind' = kind'') :
    Touched start messageId eml rfc822MessageId remote (w.setDisposition kind members) := by
  cases kind with
  | spam => exact ⟨h.others, h.eml, h.rfc822MessageId, h.remote, h.notifications, h.cases, hdisjoint⟩
  | trashed =>
    exact ⟨h.others, h.eml, h.rfc822MessageId, h.remote, h.notifications, h.cases, hdisjoint⟩
  | deletedRemote =>
    exact ⟨h.others, h.eml, h.rfc822MessageId, h.remote, h.notifications, h.cases, hdisjoint⟩

end Touched

theorem Touched.clear {eml : Option Bytes} {rfc822MessageId : Option String}
    {remote : Option (List RemoteLocation)}
    (h : Touched start messageId eml rfc822MessageId remote w) (kind : Disposition) :
    Touched start messageId eml rfc822MessageId remote (w.clearDisposition messageId kind) := by
  have hdisjoint : ∀ other kind' kind'',
      other ∈ (w.clearDisposition messageId kind).disposition kind' →
      other ∈ (w.clearDisposition messageId kind).disposition kind'' → kind' = kind'' := by
    intro other kind' kind'' hmem hmem'
    exact h.disjoint other kind' kind'' (mem_clearDisposition.mp hmem).1
      (mem_clearDisposition.mp hmem').1
  unfold clearDisposition at hdisjoint ⊢
  split
  · rename_i hmem
    rw [if_pos hmem] at hdisjoint
    exact h.setDisposition hdisjoint
  · exact h

end Workspace

section Steps
variable {eml : Option Bytes} {rfc822MessageId : Option String}
  {remote : Option (List RemoteLocation)} {index : ExistingIndex}

/-- An ingestion at work that has not touched the index. -/
def TouchedWith (start : Workspace) (messageId : String) (eml : Option Bytes)
    (rfc822MessageId : Option String) (remote : Option (List RemoteLocation))
    (index : ExistingIndex) (s : IngestState) : Prop :=
  Workspace.Touched start messageId eml rfc822MessageId remote s.workspace ∧ s.index = index

theorem TouchedWith.alter {change : MessageRecord → MessageRecord} {eml' : Option Bytes}
    {rfc822MessageId' : Option String}
    (h : TouchedWith start messageId eml rfc822MessageId remote index s)
    (heml : ∀ record, record.eml = eml → (change record).eml = eml')
    (hrfc822 : ∀ record, record.rfc822MessageId = rfc822MessageId →
      (change record).rfc822MessageId = rfc822MessageId')
    (hremote : ∀ record metadata, record.metadata = some metadata → metadata.remote = remote →
      ∃ metadata', (change record).metadata = some metadata' ∧ metadata'.remote = remote) :
    TouchedWith start messageId eml' rfc822MessageId' remote index
      { s with workspace := s.workspace.alterMessage messageId change } := by
  obtain ⟨metadata, hmetadata, hsame⟩ := h.1.remote
  exact ⟨h.1.alter (heml _ h.1.eml) (hrfc822 _ h.1.rfc822MessageId)
    (hremote _ metadata hmetadata hsame), h.2⟩

/-- A message that is in no other disposition enters one. -/
theorem ends_enterDisposition (kind : Disposition) (now : String)
    (h : TouchedWith start messageId eml rfc822MessageId remote index s)
    (hothers : ∀ other, other ≠ kind → messageId ∉ s.workspace.disposition other) :
    Ends (writeWorkspace fun w =>
        w.setDisposition kind ((w.disposition kind).upsertItem messageId none now))
      (fun _ => TouchedWith start messageId eml rfc822MessageId remote index) s := by
  have hmem : ∀ other kind', other ∈ (s.workspace.setDisposition kind
      ((s.workspace.disposition kind).upsertItem messageId none now)).disposition kind' →
      other ∈ s.workspace.disposition kind' ∨ other = messageId ∧ kind' = kind := by
    intro other kind' hmem
    rw [Workspace.disposition_setDisposition] at hmem
    by_cases hkind : kind' = kind
    · subst hkind
      rw [if_pos rfl, Members.mem_upsertItem] at hmem
      rcases hmem with rfl | hmem
      · exact .inr ⟨rfl, rfl⟩
      · exact .inl hmem
    · rw [if_neg hkind] at hmem
      exact .inl hmem
  apply Ends.writeWorkspace
  refine ⟨h.1.setDisposition ?_, h.2⟩
  intro other kind' kind'' hin hin'
  rcases hmem other kind' hin with hold | ⟨rfl, rfl⟩
  · rcases hmem other kind'' hin' with hold' | ⟨rfl, rfl⟩
    · exact h.1.disjoint other kind' kind'' hold hold'
    · by_contra hne
      exact hothers kind' hne hold
  · rcases hmem other kind'' hin' with hold' | ⟨_, rfl⟩
    · by_contra hne
      exact hothers kind'' (Ne.symm hne) hold'
    · rfl

theorem ends_setMessageDisposition (kind : Disposition) (now : String)
    (h : TouchedWith start messageId eml rfc822MessageId remote index s) :
    Ends (setMessageDisposition kind messageId now)
      (fun _ => TouchedWith start messageId eml rfc822MessageId remote index) s := by
  have hloop : Ends (Program.forEach (Disposition.specs.filter (· != kind)) fun other =>
      writeWorkspace (·.clearDisposition messageId other)) (fun _ s =>
        TouchedWith start messageId eml rfc822MessageId remote index s ∧
          ∀ other ∈ Disposition.specs.filter (· != kind),
            messageId ∉ s.workspace.disposition other) s := by
    apply Program.wp_forEach_done (fun done _ s =>
      TouchedWith start messageId eml rfc822MessageId remote index s ∧
        ∀ other ∈ done, messageId ∉ s.workspace.disposition other) []
    · exact ⟨h, fun other hmem => (List.not_mem_nil hmem).elim⟩
    · intro kind' _ done history s' ⟨htouched, hcleared⟩
      refine ⟨trivial, ⟨htouched.1.clear kind', htouched.2⟩, ?_⟩
      intro other hmem hin
      obtain ⟨hin, hkept⟩ := Workspace.mem_clearDisposition.mp hin
      rcases List.mem_append.mp hmem with hmem | hmem
      · exact hcleared other hmem hin
      · exact hkept ⟨List.mem_singleton.mp hmem, rfl⟩
  apply Ends.bind hloop
  intro _ s' ⟨htouched, hcleared⟩
  apply ends_enterDisposition kind now htouched
  intro other hne
  apply hcleared other
  rw [List.mem_filter, bne_iff_ne]
  exact ⟨by cases other <;> decide, hne⟩

theorem ends_disposeImported (kind? : Option Disposition) (now : String)
    (h : TouchedWith start messageId eml rfc822MessageId remote index s) :
    Ends (disposeImported messageId now kind?)
      (fun _ => TouchedWith start messageId eml rfc822MessageId remote index) s := by
  cases kind? with
  | none => exact h
  | some kind => exact ends_setMessageDisposition kind now h

theorem ends_mergeDelivery? (delivery? : Option DeliveryEnvelope)
    (h : TouchedWith start messageId eml rfc822MessageId remote index s) :
    Ends (mergeDelivery? parser messageId delivery?)
      (fun _ => TouchedWith start messageId eml rfc822MessageId remote index) s := by
  cases delivery? with
  | none => exact h
  | some incoming =>
    obtain ⟨metadata, hmetadata, hremote⟩ := h.1.remote
    apply Ends.workspace_bind
    rw [hmetadata]
    apply Ends.ofExcept_bind
    intro delivery _
    apply Ends.writeWorkspace
    apply h.alter
    · exact fun _ heml => heml
    · exact fun _ hrfc822 => hrfc822
    · exact fun _ _ _ _ => ⟨_, rfl, hremote⟩

/-- What one ingestion does: known bytes are merged into their message, new bytes become a
message of their own. -/
inductive IngestStep (parser : MailParser) (input : IngestMessage) (s s' : IngestState) : Prop
  | merged (messageId : String) (message : StoredMessage)
      (hstored : s.workspace.Stores messageId message)
      (hkey : parser.messageContentKey message.raw = parser.messageContentKey input.rawEml)
      (hstores : ∀ other, s'.workspace.stored? other = if other = messageId then
        some { message with locations := input.located message.locations }
        else s.workspace.stored? other)
      (hindex : s'.index = s.index.located messageId input.remoteLocation)
  | stored (messageId : String) (parsed : MailHeaders)
      (hnew : s.workspace.stored? messageId = none)
      (hkey : s.index.contentIds[parser.messageContentKey input.rawEml]? = none)
      (hstores : ∀ other, s'.workspace.stored? other = if other = messageId then
        some ⟨input.rawEml, parsed.messageId, input.located []⟩ else s.workspace.stored? other)
      (hindex : s'.index = s.index.extended parser messageId input
        ((parsed.messageId.map fun id => normalizeMessageId id.toList).filter (· != "")))

theorem ends_mergeLocation? {message : StoredMessage} {input : IngestMessage}
    {remote : Option (List RemoteLocation)}
    (hs : s.workspace.Ingested) (hstored : s.workspace.Stores messageId message)
    (hremote : remote.getD [] = message.locations) :
    Ends (mergeLocation? messageId remote input.remoteLocation) (fun _ s' => ∃ remote',
      remote'.getD [] = input.located message.locations ∧
      TouchedWith s.workspace messageId (some message.raw) message.rfc822MessageId remote'
        (s.index.located messageId input.remoteLocation) s') s := by
  have heml := hstored.eml
  have hrfc822 := hstored.rfc822MessageId
  have hpersist := fun remote' => @Workspace.Touched.persist s.workspace messageId hs remote' none
  rw [heml, hrfc822] at hpersist
  unfold IngestMessage.located mergeLocation?
  cases hlocation : input.remoteLocation with
  | none =>
    apply Ends.writeWorkspace_bind
    exact ⟨remote, hremote, hpersist remote, rfl⟩
  | some location =>
    apply Ends.modifyIndex_bind
    apply Ends.writeWorkspace_bind
    refine ⟨some (recordLocation location (remote.getD [])).1, ?_, hpersist _, rfl⟩
    rw [hremote]
    rfl

theorem ends_mergeMessage {message : StoredMessage} {input : IngestMessage}
    (hs : s.workspace.Ingested) (hstored : s.workspace.Stores messageId message)
    (hkey : parser.messageContentKey message.raw = parser.messageContentKey input.rawEml) :
    Ends (mergeMessage parser input messageId)
      (fun _ s' => s'.workspace.Ingested ∧ IngestStep parser input s s') s := by
  apply Ends.workspace_bind
  apply Ends.ofExcept_bind
  intro read hread
  obtain ⟨overlays, _, hread⟩ := Result.bind_ok hread
  obtain ⟨read', hread', _, hsame⟩ := @Workspace.readMessageUnder_of_stores _ _ overlays _ hstored
  cases hread.symm.trans hread'
  apply Ends.bind (ends_mergeLocation? hs hstored (congrArg StoredMessage.locations hsame))
  rintro _ s₁ ⟨remote, hremote, htouched⟩
  apply Ends.bind (ends_mergeDelivery? input.delivery htouched)
  intro _ s₂ htouched
  apply Ends.workspace_bind
  apply Ends.ofExcept_bind
  intro read _
  apply Ends.writeWorkspace_bind
  have hcached : TouchedWith s.workspace messageId (some message.raw) message.rfc822MessageId remote
      (s.index.located messageId input.remoteLocation)
      { s₂ with
        workspace := s₂.workspace.writeMessageMaterializedCache messageId read.direction } := by
    apply htouched.alter
    · exact fun _ heml => heml
    · exact fun _ hrfc822 => hrfc822
    · exact fun _ metadata hmetadata hremote => ⟨metadata, hmetadata, hremote⟩
  refine ⟨hcached.1.ingested hs, .merged messageId message hstored hkey ?_ hcached.2⟩
  intro other
  rw [hcached.1.stored?, hremote]

theorem ends_indexLocation? (location? : Option RemoteLocation) :
    Ends (indexLocation? messageId location?)
      (fun _ s' => s' = { s with index := s.index.located messageId location? }) s := by
  cases location? with
  | none => rfl
  | some location =>
    unfold indexLocation?
    apply Ends.modifyIndex
    rfl

theorem ends_indexRfc822? (name? : Option String) :
    Ends (indexRfc822? messageId name?)
      (fun _ s' => s' = { s with index := { s.index with
        rfc822Messages := match name? with
          | some name => s.index.rfc822Messages.add name messageId
          | none => s.index.rfc822Messages } }) s := by
  cases name? with
  | none => rfl
  | some name =>
    unfold indexRfc822?
    apply Ends.modifyIndex
    rfl

theorem ExistingIndex.located_frame (index : ExistingIndex) (messageId : String)
    (location? : Option RemoteLocation) :
    (index.located messageId location?).contentIds = index.contentIds ∧
      (index.located messageId location?).rfc822Messages = index.rfc822Messages ∧
      (index.located messageId location?).rfc822Cases = index.rfc822Cases := by
  cases location? with
  | none => exact ⟨rfl, rfl, rfl⟩
  | some location =>
    cases hkey : location.imapKey? with
    | none => simp only [located, indexLocation, hkey, and_self]
    | some key => simp only [located, indexLocation, hkey, and_self]

theorem ends_storeMessage {input : IngestMessage} (offset : Int) (now : String)
    (hs : s.workspace.Ingested)
    (hkey : s.index.contentIds[parser.messageContentKey input.rawEml]? = none) :
    Ends (storeMessage parser offset now input)
      (fun _ s' => s'.workspace.Ingested ∧ IngestStep parser input s s') s := by
  apply Ends.read_bind
  generalize hid : parser.stableMessageId input.rawEml offset = messageId
  cases hparse : parser.parse input.rawEml with
  | none => trivial
  | some parsed =>
    apply Ends.ofExcept_bind
    intro _ hfree
    have hnone : (s.workspace.record messageId).eml = none := by
      rw [ensure_eq_ok_iff, Bool.not_eq_true', Option.isSome_eq_false_iff, Option.isNone_iff_eq_none]
        at hfree
      exact hfree
    apply Ends.writeWorkspace_bind
    have hpersisted := @Workspace.Touched.persist s.workspace messageId hs
      (input.remoteLocation.map ([·])) (s.index.suggestCase parser input.rawEml)
    rw [hnone] at hpersisted
    have htouched : TouchedWith s.workspace messageId none _ _ s.index
        ⟨s.workspace.persistMessageMetadata messageId (input.remoteLocation.map ([·]))
          (s.index.suggestCase parser input.rawEml), s.index⟩ := ⟨hpersisted, rfl⟩
    apply Ends.bind (ends_mergeDelivery? input.delivery htouched)
    intro _ s₁ htouched
    apply Ends.bind (ends_disposeImported input.importAs.disposition? now htouched)
    intro _ s₂ htouched
    apply Ends.writeWorkspace_bind
    apply Ends.writeWorkspace_bind
    have hpublished : TouchedWith s.workspace messageId (some input.rawEml) parsed.messageId
        (input.remoteLocation.map ([·])) s.index { s₂ with
          workspace := s₂.workspace.writeEml messageId input.rawEml parsed.messageId } := by
      apply htouched.alter
      · exact fun _ _ => rfl
      · exact fun _ _ => rfl
      · exact fun _ metadata hmetadata hremote => ⟨metadata, hmetadata, hremote⟩
    have hcached : TouchedWith s.workspace messageId (some input.rawEml) parsed.messageId
        (input.remoteLocation.map ([·])) s.index { s₂ with
          workspace := (s₂.workspace.writeEml messageId input.rawEml
            parsed.messageId).writeMessageMaterializedCache messageId
              (some input.direction.asStr) } := by
      apply hpublished.alter
      · exact fun _ heml => heml
      · exact fun _ hrfc822 => hrfc822
      · exact fun _ metadata hmetadata hremote => ⟨metadata, hmetadata, hremote⟩
    apply Ends.ofExcept_bind
    intro _ _
    apply Ends.bind (ends_indexLocation? input.remoteLocation)
    rintro _ _ rfl
    apply Ends.modifyIndex_bind
    apply Ends.bind (ends_indexRfc822? _)
    rintro _ _ rfl
    refine ⟨hcached.1.ingested hs, .stored messageId parsed ?_ hkey ?_ ?_⟩
    · rw [Workspace.stored?, MessageRecord.stored?, hnone]
    · intro other
      rw [hcached.1.stored?]
      unfold IngestMessage.located
      cases input.remoteLocation with
      | none => rfl
      | some location => rfl
    · obtain ⟨hcontent, hnames, _⟩ := s.index.located_frame messageId input.remoteLocation
      have hindex : s₂.index = s.index := htouched.2
      unfold ExistingIndex.extended
      rw [← hindex] at hcontent hnames ⊢
      rw [hcontent, hnames]

theorem ends_ingestMessage {input : IngestMessage} (offset : Int) (now : String)
    (hs : s.workspace.Ingested) (hshows : s.index.Shows parser keys s.workspace.Stores) :
    Ends (ingestMessage parser offset now input)
      (fun _ s' => s'.workspace.Ingested ∧ IngestStep parser input s s') s := by
  apply Ends.ofExcept_bind
  intro _ _
  apply Ends.read_bind
  cases hkey : s.index.contentIds[parser.messageContentKey input.rawEml]? with
  | none => exact ends_storeMessage offset now hs hkey
  | some messageId =>
    obtain ⟨message, hstored, hsame⟩ := (hshows.contentIds _ messageId).mp hkey
    exact ends_mergeMessage hs hstored hsame

end Steps

section Locations
variable {location other : RemoteLocation} {locations : List RemoteLocation}

theorem mem_recordLocation (hmem : other ∈ (recordLocation location locations).1) :
    other = location ∨ other ∈ locations := by
  induction locations with
  | nil => exact .inl (List.mem_singleton.mp hmem)
  | cons first rest ih =>
    unfold recordLocation at hmem
    split at hmem
    · rcases List.mem_cons.mp hmem with heq | hmem
      · exact .inl heq
      · exact .inr (List.mem_cons_of_mem _ hmem)
    · rcases List.mem_cons.mp hmem with heq | hmem
      · exact .inr (heq ▸ List.mem_cons_self)
      · rcases ih hmem with heq | hmem
        · exact .inl heq
        · exact .inr (List.mem_cons_of_mem _ hmem)

theorem places_recordLocation {place : String × Option Nat × Option Nat} :
    place ∈ (recordLocation location locations).1.map (·.place) ↔
      place ∈ locations.map (·.place) ∨ place = location.place := by
  induction locations with
  | nil =>
    simp only [recordLocation, List.map_cons, List.map_nil, List.mem_singleton, List.not_mem_nil,
      false_or]
  | cons first rest ih =>
    unfold recordLocation
    split
    · rename_i hsame
      rw [RemoteLocation.samePlace_iff] at hsame
      simp only [List.map_cons, List.mem_cons, hsame]
      constructor
      · exact .inl
      · rintro (h | rfl)
        · exact h
        · exact .inl rfl
    · simp only [List.map_cons, List.mem_cons, ih, or_assoc]

theorem nodup_recordLocation (h : (locations.map (·.place)).Nodup) :
    ((recordLocation location locations).1.map (·.place)).Nodup := by
  induction locations with
  | nil => exact List.nodup_singleton _
  | cons first rest ih =>
    obtain ⟨hfirst, hrest⟩ := List.nodup_cons.mp h
    unfold recordLocation
    split
    · rename_i hsame
      rw [RemoteLocation.samePlace_iff] at hsame
      change first.place ∉ rest.map (·.place) at hfirst
      rw [hsame] at hfirst
      exact List.nodup_cons.mpr ⟨hfirst, hrest⟩
    · rename_i hother
      rw [RemoteLocation.samePlace_iff] at hother
      refine List.nodup_cons.mpr ⟨?_, ih hrest⟩
      intro hmem
      rcases places_recordLocation.mp hmem with hmem | heq
      · exact hfirst hmem
      · exact hother heq

theorem imapKey?_of_place (h : location.place = other.place) : location.imapKey? = other.imapKey? := by
  simp only [RemoteLocation.place, Prod.mk.injEq] at h
  unfold RemoteLocation.imapKey?
  rw [h.1, h.2.1, h.2.2]

theorem keys_recordLocation {key : ImapKey} :
    key ∈ (recordLocation location locations).1.filterMap (·.imapKey?) ↔
      key ∈ locations.filterMap (·.imapKey?) ∨ location.imapKey? = some key := by
  have hplace : ∀ locations : List RemoteLocation, key ∈ locations.filterMap (·.imapKey?) ↔
      ∃ other : RemoteLocation, other.imapKey? = some key ∧
        other.place ∈ locations.map (·.place) := by
    intro locations
    rw [List.mem_filterMap]
    constructor
    · rintro ⟨other, hmem, hkey⟩
      exact ⟨other, hkey, List.mem_map_of_mem hmem⟩
    · rintro ⟨other, hkey, hmem⟩
      obtain ⟨found, hfound, heq⟩ := List.mem_map.mp hmem
      exact ⟨found, hfound, (imapKey?_of_place heq).trans hkey⟩
  rw [hplace, hplace]
  constructor
  · rintro ⟨other, hkey, hmem⟩
    rcases places_recordLocation.mp hmem with hmem | heq
    · exact .inl ⟨other, hkey, hmem⟩
    · exact .inr ((imapKey?_of_place heq).symm.trans hkey)
  · rintro (⟨other, hkey, hmem⟩ | hkey)
    · exact ⟨other, hkey, places_recordLocation.mpr (.inl hmem)⟩
    · exact ⟨location, hkey, places_recordLocation.mpr (.inr rfl)⟩

end Locations

namespace IngestMessage
variable {input : IngestMessage} {locations : List RemoteLocation}

def place? (input : IngestMessage) : Option (String × Option Nat × Option Nat) :=
  input.remoteLocation.map (·.place)

def imapKey? (input : IngestMessage) : Option ImapKey := input.remoteLocation.bind (·.imapKey?)

theorem places_located {place : String × Option Nat × Option Nat} :
    place ∈ (input.located locations).map (·.place) ↔
      place ∈ locations.map (·.place) ∨ input.place? = some place := by
  unfold located place?
  cases input.remoteLocation with
  | none => simp
  | some location =>
    rw [places_recordLocation, Option.map_some, Option.some.injEq]
    exact or_congr_right eq_comm

theorem keys_located {key : ImapKey} :
    key ∈ (input.located locations).filterMap (·.imapKey?) ↔
      key ∈ locations.filterMap (·.imapKey?) ∨ input.imapKey? = some key := by
  unfold located imapKey?
  cases input.remoteLocation with
  | none => simp
  | some location => exact keys_recordLocation

theorem nodup_located (h : (locations.map (·.place)).Nodup) :
    ((input.located locations).map (·.place)).Nodup := by
  unfold located
  cases input.remoteLocation with
  | none => exact h
  | some location => exact nodup_recordLocation h

theorem mem_located {location : RemoteLocation} (h : location ∈ input.located locations) :
    input.remoteLocation = some location ∨ location ∈ locations := by
  unfold located at h
  cases hlocation : input.remoteLocation with
  | none =>
    rw [hlocation] at h
    exact .inr h
  | some found =>
    rw [hlocation] at h
    rcases mem_recordLocation h with rfl | hmem
    · exact .inl rfl
    · exact .inr hmem

end IngestMessage

namespace ExistingIndex
variable {index : ExistingIndex} {stored stored' : String → StoredMessage → Prop}

theorem located_imapKeys {member : ImapKey → Prop} (input : IngestMessage)
    (h : Holds index.imapKeys member) :
    Holds (index.located messageId input.remoteLocation).imapKeys
      fun key => member key ∨ input.imapKey? = some key := by
  unfold IngestMessage.imapKey?
  cases input.remoteLocation with
  | none => exact h.congr fun key => by simp
  | some location =>
    rw [Option.bind_some]
    cases hkey : location.imapKey? with
    | none =>
      simp only [located, indexLocation, hkey]
      exact h.congr fun key => by simp
    | some key =>
      simp only [located, indexLocation, hkey]
      exact h.insert.congr fun other => by rw [Option.some.injEq, eq_comm]

theorem located_imapLocations {pairs : ImapKey → String → Prop} (input : IngestMessage)
    (h : Maps index.imapLocations pairs)
    (hone : ∀ key, input.imapKey? = some key → ∀ other, pairs key other → other = messageId) :
    Maps (index.located messageId input.remoteLocation).imapLocations
      fun key other => pairs key other ∨ input.imapKey? = some key ∧ other = messageId := by
  unfold IngestMessage.imapKey? at hone ⊢
  cases hlocation : input.remoteLocation with
  | none => exact h.congr fun key other => by simp
  | some location =>
    rw [hlocation, Option.bind_some] at hone
    rw [Option.bind_some]
    cases hkey : location.imapKey? with
    | none =>
      simp only [located, indexLocation, hkey]
      exact h.congr fun key other => by simp
    | some key =>
      simp only [located, indexLocation, hkey]
      exact (h.insert (hone key hkey)).congr fun other id => by rw [Option.some.injEq, eq_comm]

/-- A message was found at one more location. -/
theorem Shows.located {message : StoredMessage} (input : IngestMessage)
    (h : index.Shows parser (·.keys) stored) (hstored : stored messageId message)
    (hone : ∀ message', stored messageId message' → message' = message) :
    (index.located messageId input.remoteLocation).Shows parser (·.keys)
      fun other message' => if other = messageId then
        message' = { message with locations := input.located message.locations }
        else stored other message' := by
  obtain ⟨hcontent, hnames, hcases⟩ := index.located_frame messageId input.remoteLocation
  -- A fact of the bytes alone does not see the change.
  have hsame : ∀ (fact : StoredMessage → Prop) (other : String),
      (∀ locations, fact { message with locations } ↔ fact message) →
      ((∃ message', stored other message' ∧ fact message') ↔
        ∃ message', (if other = messageId then
          message' = { message with locations := input.located message.locations }
          else stored other message') ∧ fact message') := by
    intro fact other hfact
    by_cases hother : other = messageId
    · subst hother
      simp only [if_true, exists_eq_left, hfact]
      constructor
      · rintro ⟨message', hmessage', hholds⟩
        rw [hone message' hmessage'] at hholds
        exact hholds
      · exact fun hholds => ⟨message, hstored, hholds⟩
    · simp only [if_neg hother]
  constructor
  · rw [hcontent]
    exact h.contentIds.congr fun key other => hsame _ other fun _ => .rfl
  · rw [hnames]
    exact h.rfc822Messages.congr fun name other => hsame _ other fun _ => .rfl
  · exact hcases.trans h.rfc822Cases
  · apply (located_imapKeys input h.imapKeys).congr
    intro key
    constructor
    · rintro (⟨other, message', hstored', hkey⟩ | hkey)
      · by_cases hother : other = messageId
        · subst hother
          rw [hone message' hstored'] at hkey
          exact ⟨other, _, (if_pos rfl).mpr rfl, IngestMessage.keys_located.mpr (.inl hkey)⟩
        · exact ⟨other, message', (if_neg hother).mpr hstored', hkey⟩
      · exact ⟨messageId, _, (if_pos rfl).mpr rfl, IngestMessage.keys_located.mpr (.inr hkey)⟩
    · rintro ⟨other, message', hstored', hkey⟩
      by_cases hother : other = messageId
      · rw [if_pos hother] at hstored'
        subst hstored'
        rcases IngestMessage.keys_located.mp hkey with hkey | hkey
        · exact .inl ⟨messageId, message, hstored, hkey⟩
        · exact .inr hkey
      · rw [if_neg hother] at hstored'
        exact .inl ⟨other, message', hstored', hkey⟩

/-- A message of new bytes was stored. -/
theorem Shows.extended {message : StoredMessage} (input : IngestMessage)
    (h : index.Shows parser (·.keys) stored) (hnew : ∀ message', ¬stored messageId message')
    (hkey : index.contentIds[parser.messageContentKey input.rawEml]? = none)
    (hraw : message.raw = input.rawEml) (hlocations : message.locations = input.located []) :
    (index.extended parser messageId input message.name?).Shows parser (·.keys)
      fun other message' => if other = messageId then message' = message
        else stored other message' := by
  have hsplit : ∀ (fact : StoredMessage → Prop) (other : String),
      (∃ message', (if other = messageId then message' = message else stored other message') ∧
        fact message') ↔
        (∃ message', stored other message' ∧ fact message') ∨ other = messageId ∧ fact message := by
    intro fact other
    by_cases hother : other = messageId
    · subst hother
      simp only [if_true, exists_eq_left, true_and]
      constructor
      · exact .inr
      · rintro (⟨message', hstored, _⟩ | hfact)
        · exact (hnew message' hstored).elim
        · exact hfact
    · simp only [hother, if_false, false_and, or_false]
  obtain ⟨hcases, hkeys⟩ : (index.extended parser messageId input message.name?).rfc822Cases =
      index.rfc822Cases ∧ (index.extended parser messageId input message.name?).imapKeys =
        (index.located messageId input.remoteLocation).imapKeys :=
    ⟨(index.located_frame messageId input.remoteLocation).2.2, rfl⟩
  constructor
  · have hfree : ∀ other, (∃ message, stored other message ∧
        parser.messageContentKey message.raw = parser.messageContentKey input.rawEml) →
        other = messageId := by
      intro other hpair
      rw [(h.contentIds _ other).mpr hpair] at hkey
      cases hkey
    apply (h.contentIds.insert hfree).congr
    intro key other
    rw [hsplit, hraw]
    apply or_congr_right
    constructor
    · exact fun ⟨hsame, hid⟩ => ⟨hid, hsame.symm⟩
    · exact fun ⟨hid, hsame⟩ => ⟨hsame.symm, hid⟩
  · have hgroups : Groups (match message.name? with
        | some name => index.rfc822Messages.add name messageId
        | none => index.rfc822Messages) fun name other =>
          (∃ message', stored other message' ∧ message'.name? = some name) ∨
            other = messageId ∧ message.name? = some name := by
      cases hname : message.name? with
      | none => exact h.rfc822Messages.congr fun name other => by simp
      | some found =>
        apply h.rfc822Messages.add.congr
        intro name other
        rw [Option.some.injEq, eq_comm, and_comm]
    exact hgroups.congr fun name other => (hsplit _ other).symm
  · exact hcases.trans h.rfc822Cases
  · rw [hkeys]
    apply (located_imapKeys input h.imapKeys).congr
    intro key
    have hown : key ∈ message.keys ↔ input.imapKey? = some key := by
      rw [StoredMessage.keys, hlocations, IngestMessage.keys_located]
      exact or_iff_right List.not_mem_nil
    constructor
    · rintro (⟨other, message', hstored, hmem⟩ | hfound)
      · exact ⟨other, (hsplit _ other).mpr (.inl ⟨message', hstored, hmem⟩)⟩
      · exact ⟨messageId, (hsplit _ messageId).mpr (.inr ⟨rfl, hown.mpr hfound⟩)⟩
    · rintro ⟨other, hmem⟩
      rcases (hsplit _ other).mp hmem with ⟨message', hstored, hmem⟩ | ⟨_, hmem⟩
      · exact .inl ⟨other, message', hstored, hmem⟩
      · exact .inr (hown.mp hmem)

end ExistingIndex

/-- A workspace that no message was ever put into. -/
structure Workspace.NeverPulled (w : Workspace) : Prop where
  messages : w.messages = ∅
  dispositions : ∀ kind, w.disposition kind = ∅
  notifications : w.notifications = ∅
  cases : w.cases = ∅

/-- One message after another is ingested, by one session; the time zone may change and the
clock goes on. -/
def IngestSession (parser : MailParser) (s : IngestState) (inputs : List IngestMessage)
    (s' : IngestState) : Prop :=
  ∃ offset now input outcome, inputs = [input] ∧
    Exec (ingestMessage parser offset now input) s [] (.returned outcome) s'

/-- The digest tells the bytes of these messages apart. -/
def CollisionFree (parser : MailParser) (inputs : List IngestMessage) : Prop :=
  ∀ input ∈ inputs, ∀ other ∈ inputs,
    parser.sha256 input.rawEml = parser.sha256 other.rawEml → input.rawEml = other.rawEml

/-- The server never gives the key of a message to other bytes. -/
def KeysNamed (inputs : List IngestMessage) : Prop :=
  ∀ input ∈ inputs, ∀ other ∈ inputs, ∀ key, input.imapKey? = some key →
    other.imapKey? = some key → input.rawEml = other.rawEml

/-- No location is handed over as one that was found missing. -/
def AllActive (inputs : List IngestMessage) : Prop :=
  ∀ input ∈ inputs, ∀ location, input.remoteLocation = some location → location.isActive = true

/-- What a workspace holds after some messages were ingested, and what the index tells of it. -/
structure Ledger (parser : MailParser) (inputs : List IngestMessage) (s : IngestState) : Prop where
  ingested : s.workspace.Ingested
  shows : s.index.Shows parser (·.keys) s.workspace.Stores
  complete : ∀ input ∈ inputs, ∃ messageId message, s.workspace.Stores messageId message ∧
    message.raw = input.rawEml
  origin : ∀ messageId message, s.workspace.Stores messageId message →
    ∃ input ∈ inputs, input.rawEml = message.raw
  places : ∀ messageId message, s.workspace.Stores messageId message →
    ∀ place, place ∈ message.locations.map (·.place) ↔
      ∃ input ∈ inputs, input.rawEml = message.raw ∧ input.place? = some place
  found : ∀ messageId message, s.workspace.Stores messageId message →
    ∀ location ∈ message.locations, ∃ input ∈ inputs, input.rawEml = message.raw ∧
      input.remoteLocation = some location
  once : ∀ messageId message, s.workspace.Stores messageId message →
    (message.locations.map (·.place)).Nodup

theorem ExistingIndex.Shows.distinct {index : ExistingIndex}
    {stored : String → StoredMessage → Prop} (h : index.Shows parser keys stored) :
    Distinct parser stored := by
  intro messageId other message message' hstored hstored' hkey
  have hfirst := (h.contentIds _ messageId).mpr ⟨message, hstored, hkey⟩
  have hsecond := (h.contentIds _ other).mpr ⟨message', hstored', rfl⟩
  exact Option.some.inj (hfirst.symm.trans hsecond)

namespace Ledger
variable {inputs : List IngestMessage} {input : IngestMessage} {s' : IngestState}

theorem fresh (hw : w.NeverPulled) : Ledger parser [] ⟨w, {}⟩ := by
  have hnone : ∀ messageId message, ¬w.Stores messageId message := by
    intro messageId message hstored
    rw [Workspace.Stores, Workspace.stored?, Workspace.record, hw.messages,
      Std.ExtTreeMap.getElem?_empty] at hstored
    cases hstored
  have hrecord : ∀ messageId, (w.record messageId).eml = none := by
    intro messageId
    rw [Workspace.record, hw.messages, Std.ExtTreeMap.getElem?_empty]
    rfl
  refine ⟨⟨hw.notifications, hw.cases, ?_, ?_⟩, ⟨?_, ?_, rfl, ?_⟩, ?_, ?_, ?_, ?_, ?_⟩
  · intro messageId kind _ hmem
    rw [hw.dispositions kind] at hmem
    exact (Members.not_mem_empty messageId hmem).elim
  · intro messageId heml
    rw [hrecord messageId] at heml
    cases heml
  · exact Maps.empty.congr fun key messageId => by simp [hnone]
  · exact Groups.empty.congr fun name messageId => by simp [hnone]
  · exact Holds.empty.congr fun key => by simp [hnone]
  · exact fun input hmem => (List.not_mem_nil hmem).elim
  · exact fun messageId message hstored => (hnone _ _ hstored).elim
  · exact fun messageId message hstored => (hnone _ _ hstored).elim
  · exact fun messageId message hstored => (hnone _ _ hstored).elim
  · exact fun messageId message hstored => (hnone _ _ hstored).elim

/-- The message that an ingestion wrote, given what its locations were before. -/
theorem extend {old : List RemoteLocation} {message : StoredMessage} (h : Ledger parser inputs s)
    (hs' : s'.workspace.Ingested)
    (hshows : s'.index.Shows parser (·.keys) s'.workspace.Stores)
    (hstores : ∀ other message', s'.workspace.Stores other message' ↔
      if other = messageId then message' = message else s.workspace.Stores other message')
    (hraw : message.raw = input.rawEml) (hlocations : message.locations = input.located old)
    (hothers : ∀ other message', other ≠ messageId → s.workspace.Stores other message' →
      message'.raw ≠ input.rawEml)
    (hreplaced : ∀ message', s.workspace.Stores messageId message' → message'.raw = input.rawEml)
    (hplaces : ∀ place, place ∈ old.map (·.place) ↔
      ∃ earlier ∈ inputs, earlier.rawEml = input.rawEml ∧ earlier.place? = some place)
    (hfound : ∀ location ∈ old, ∃ earlier ∈ inputs, earlier.rawEml = input.rawEml ∧
      earlier.remoteLocation = some location)
    (honce : (old.map (·.place)).Nodup) : Ledger parser (inputs ++ [input]) s' := by
  have hself : s'.workspace.Stores messageId message := (hstores _ _).mpr ((if_pos rfl).mpr rfl)
  have hcases : ∀ other message', s'.workspace.Stores other message' →
      (other = messageId ∧ message' = message) ∨
      (other ≠ messageId ∧ s.workspace.Stores other message') := by
    intro other message' hstored
    have hstored := (hstores other message').mp hstored
    by_cases hother : other = messageId
    · rw [if_pos hother] at hstored
      exact .inl ⟨hother, hstored⟩
    · rw [if_neg hother] at hstored
      exact .inr ⟨hother, hstored⟩
  -- What is said of an earlier input holds of it among all inputs.
  have hlater : ∀ fact : IngestMessage → Prop, (∃ earlier ∈ inputs, fact earlier) →
      ∃ earlier ∈ inputs ++ [input], fact earlier := by
    rintro fact ⟨earlier, hmem, hfact⟩
    exact ⟨earlier, List.mem_append_left _ hmem, hfact⟩
  have hlast : input ∈ inputs ++ [input] := List.mem_append_right _ (List.mem_singleton_self _)
  refine ⟨hs', hshows, ?_, ?_, ?_, ?_, ?_⟩
  · intro earlier hmem
    rcases List.mem_append.mp hmem with hmem | hmem
    · obtain ⟨other, message', hstored, hraw'⟩ := h.complete earlier hmem
      by_cases hother : other = messageId
      · subst hother
        exact ⟨other, message, hself, hraw.trans ((hreplaced message' hstored).symm.trans hraw')⟩
      · exact ⟨other, message', (hstores _ _).mpr ((if_neg hother).mpr hstored), hraw'⟩
    · rw [List.mem_singleton.mp hmem]
      exact ⟨messageId, message, hself, hraw⟩
  · intro other message' hstored
    rcases hcases other message' hstored with ⟨rfl, rfl⟩ | ⟨_, hstored⟩
    · exact ⟨input, hlast, hraw.symm⟩
    · exact hlater _ (h.origin other message' hstored)
  · intro other message' hstored place
    rcases hcases other message' hstored with ⟨rfl, rfl⟩ | ⟨hother, hstored⟩
    · rw [hlocations, IngestMessage.places_located, hplaces, hraw]
      constructor
      · rintro (hearlier | hplace)
        · exact hlater _ hearlier
        · exact ⟨input, hlast, rfl, hplace⟩
      · rintro ⟨earlier, hmem, hsame, hplace⟩
        rcases List.mem_append.mp hmem with hmem | hmem
        · exact .inl ⟨earlier, hmem, hsame, hplace⟩
        · rw [List.mem_singleton.mp hmem] at hplace
          exact .inr hplace
    · rw [h.places other message' hstored]
      constructor
      · exact hlater _
      · rintro ⟨earlier, hmem, hsame, hplace⟩
        rcases List.mem_append.mp hmem with hmem | hmem
        · exact ⟨earlier, hmem, hsame, hplace⟩
        · rw [List.mem_singleton.mp hmem] at hsame
          exact (hothers other message' hother hstored hsame.symm).elim
  · intro other message' hstored location hmem
    rcases hcases other message' hstored with ⟨rfl, rfl⟩ | ⟨_, hstored⟩
    · rw [hlocations] at hmem
      rw [hraw]
      rcases IngestMessage.mem_located hmem with hlocation | hmem
      · exact ⟨input, hlast, rfl, hlocation⟩
      · exact hlater _ (hfound location hmem)
    · exact hlater _ (h.found other message' hstored location hmem)
  · intro other message' hstored
    rcases hcases other message' hstored with ⟨rfl, rfl⟩ | ⟨_, hstored⟩
    · rw [hlocations]
      exact IngestMessage.nodup_located honce
    · exact h.once other message' hstored

theorem imapKey?_of_keys {message : StoredMessage} {key : ImapKey} (h : Ledger parser inputs s)
    (hstored : s.workspace.Stores messageId message) (hkey : key ∈ message.keys) :
    ∃ earlier ∈ inputs, earlier.rawEml = message.raw ∧ earlier.imapKey? = some key := by
  obtain ⟨location, hmem, hlocation⟩ := List.mem_filterMap.mp hkey
  obtain ⟨earlier, hearlier, hraw, hremote⟩ := h.found messageId message hstored location hmem
  refine ⟨earlier, hearlier, hraw, ?_⟩
  rw [IngestMessage.imapKey?, hremote]
  exact hlocation

theorem locate {message : StoredMessage} (h : Ledger parser inputs s)
    (hnamed : KeysNamed (inputs ++ [input])) (hlocates : s.index.Locates (·.keys) s.workspace.Stores)
    (hindex : s'.index.imapLocations =
      (s.index.located messageId input.remoteLocation).imapLocations)
    (hstores : ∀ other message', s'.workspace.Stores other message' ↔
      if other = messageId then message' = message else s.workspace.Stores other message')
    (hothers : ∀ other message', other ≠ messageId → s.workspace.Stores other message' →
      message'.raw ≠ input.rawEml)
    (hkeys : ∀ key, key ∈ message.keys ↔
      (∃ message', s.workspace.Stores messageId message' ∧ key ∈ message'.keys) ∨
        input.imapKey? = some key) :
    s'.index.Locates (·.keys) s'.workspace.Stores := by
  have hone : ∀ key, input.imapKey? = some key → ∀ other,
      (∃ message', s.workspace.Stores other message' ∧ key ∈ message'.keys) →
        other = messageId := by
    intro key hkey other ⟨message', hstored, hmem⟩
    by_contra hother
    obtain ⟨earlier, hearlier, hraw, hkey'⟩ := h.imapKey?_of_keys hstored hmem
    have hsame := hnamed earlier (List.mem_append_left _ hearlier) input
      (List.mem_append_right _ (List.mem_singleton_self _)) key hkey' hkey
    exact hothers other message' hother hstored (hraw.symm.trans hsame)
  have hmaps := ExistingIndex.located_imapLocations input hlocates hone
  unfold ExistingIndex.Locates
  rw [hindex]
  apply hmaps.congr
  intro key other
  simp only [hstores]
  by_cases hother : other = messageId
  · subst hother
    simp only [if_true, exists_eq_left, hkeys, and_true]
  · simp only [hother, if_false, and_false, or_false]

end Ledger

theorem CollisionFree.raw_eq {inputs : List IngestMessage} {input other : IngestMessage}
    (h : CollisionFree parser inputs) (hmem : input ∈ inputs) (hmem' : other ∈ inputs)
    (hkey : parser.messageContentKey input.rawEml = parser.messageContentKey other.rawEml) :
    input.rawEml = other.rawEml :=
  h input hmem other hmem' (Text.hex_injective (String.ofList_injective hkey))

theorem Workspace.stores_iff {w' : Workspace} {message : StoredMessage}
    (h : ∀ other, w'.stored? other = if other = messageId then some message else w.stored? other)
    (other : String) (message' : StoredMessage) :
    w'.Stores other message' ↔
      if other = messageId then message' = message else w.Stores other message' := by
  unfold Stores
  rw [h]
  by_cases hother : other = messageId
  · rw [if_pos hother, if_pos hother, Option.some.injEq, eq_comm]
  · rw [if_neg hother, if_neg hother]

/-- One more ingestion, one more line in the ledger. -/
theorem Ledger.step {inputs : List IngestMessage} {input : IngestMessage} {s' : IngestState}
    (h : Ledger parser inputs s)
    (hlocates : KeysNamed inputs → s.index.Locates (·.keys) s.workspace.Stores)
    (hfree : CollisionFree parser (inputs ++ [input])) (hs' : s'.workspace.Ingested)
    (hstep : IngestStep parser input s s') :
    Ledger parser (inputs ++ [input]) s' ∧
      (KeysNamed (inputs ++ [input]) → s'.index.Locates (·.keys) s'.workspace.Stores) := by
  have hlast : input ∈ inputs ++ [input] := List.mem_append_right _ (List.mem_singleton_self _)
  have hbefore : KeysNamed (inputs ++ [input]) → KeysNamed inputs := fun hnamed a ha b hb =>
    hnamed a (List.mem_append_left _ ha) b (List.mem_append_left _ hb)
  cases hstep with
  | merged messageId message hstored hkey hstored? hindex =>
    obtain ⟨earlier, hearlier, horigin⟩ := h.origin messageId message hstored
    have hraw : message.raw = input.rawEml := by
      rw [← horigin] at hkey ⊢
      exact hfree.raw_eq (List.mem_append_left _ hearlier) hlast hkey
    have hstores := Workspace.stores_iff hstored?
    have hone : ∀ message', s.workspace.Stores messageId message' → message' = message :=
      fun message' hstored' => Option.some.inj (hstored'.symm.trans hstored)
    have hothers : ∀ other message', other ≠ messageId → s.workspace.Stores other message' →
        message'.raw ≠ input.rawEml := by
      intro other message' hother hstored' hraw'
      apply hother
      apply h.shows.distinct other messageId message' message hstored' hstored
      rw [hraw', hraw]
    constructor
    · apply h.extend hs' _ hstores hraw rfl hothers
      · intro message' hstored'
        rw [hone message' hstored', hraw]
      · intro place
        rw [h.places messageId message hstored, hraw]
      · rw [← hraw]
        exact h.found messageId message hstored
      · exact h.once messageId message hstored
      · rw [hindex]
        exact (h.shows.located input hstored hone).congr fun other message' =>
          (hstores other message').symm
    · intro hnamed
      apply h.locate hnamed (hlocates (hbefore hnamed)) (congrArg _ hindex) hstores hothers
      intro key
      rw [StoredMessage.keys, IngestMessage.keys_located]
      apply or_congr_left
      constructor
      · exact fun hkey => ⟨message, hstored, hkey⟩
      · rintro ⟨message', hstored', hkey⟩
        rw [hone message' hstored'] at hkey
        exact hkey
  | stored messageId parsed hnew hkey hstored? hindex =>
    have hstores := Workspace.stores_iff hstored?
    have hnone : ∀ message', ¬s.workspace.Stores messageId message' := by
      intro message' hstored
      cases hnew.symm.trans hstored
    have hunknown : ∀ other message', s.workspace.Stores other message' →
        message'.raw ≠ input.rawEml := by
      intro other message' hstored hraw
      rw [(h.shows.contentIds _ other).mpr ⟨message', hstored, congrArg _ hraw⟩] at hkey
      cases hkey
    have hunseen : ∀ earlier ∈ inputs, earlier.rawEml ≠ input.rawEml := by
      intro earlier hmem hraw
      obtain ⟨other, message', hstored, hsame⟩ := h.complete earlier hmem
      exact hunknown other message' hstored (hsame.trans hraw)
    constructor
    · apply h.extend hs' _ hstores rfl rfl fun other message' _ => hunknown other message'
      · exact fun message' hstored => (hnone message' hstored).elim
      · intro place
        constructor
        · exact fun hmem => (List.not_mem_nil hmem).elim
        · exact fun ⟨earlier, hmem, hraw, _⟩ => (hunseen earlier hmem hraw).elim
      · exact fun location hmem => (List.not_mem_nil hmem).elim
      · exact List.nodup_nil
      · have hshows : (s.index.extended parser messageId input (StoredMessage.name?
            ⟨input.rawEml, parsed.messageId, input.located []⟩)).Shows parser (·.keys) _ :=
          h.shows.extended input hnone hkey rfl rfl
        rw [hindex]
        exact hshows.congr fun other message' => (hstores other message').symm
    · intro hnamed
      have hlocations : s'.index.imapLocations =
          (s.index.located messageId input.remoteLocation).imapLocations := by
        rw [hindex]
        rfl
      apply h.locate hnamed (hlocates (hbefore hnamed)) hlocations hstores
        fun other message' _ => hunknown other message'
      intro key
      rw [StoredMessage.keys, IngestMessage.keys_located]
      apply or_congr_left
      constructor
      · exact fun hmem => (List.not_mem_nil hmem).elim
      · exact fun ⟨message', hstored, _⟩ => (hnone message' hstored).elim

/-- The ledger is kept along every run. -/
theorem ledger_of_run {inputs : List IngestMessage} (hw : w.NeverPulled)
    (hrun : Run (IngestSession parser) ⟨w, {}⟩ inputs s) (hfree : CollisionFree parser inputs) :
    Ledger parser inputs s ∧ (KeysNamed inputs → s.index.Locates (·.keys) s.workspace.Stores) := by
  generalize hstart : (⟨w, {}⟩ : IngestState) = first at hrun
  induction hrun with
  | start =>
    subst hstart
    have hledger : Ledger parser [] ⟨w, {}⟩ := .fresh hw
    refine ⟨hledger, fun _ => Maps.empty.congr ?_⟩
    intro key messageId
    constructor
    · exact False.elim
    · rintro ⟨message, hstored, _⟩
      obtain ⟨input, hmem, _⟩ := hledger.origin messageId message hstored
      exact (List.not_mem_nil hmem).elim
  | next _ hsession ih =>
    obtain ⟨offset, now, input, outcome, rfl, hexec⟩ := hsession
    have hearlier : CollisionFree parser _ := fun a ha b hb =>
      hfree a (List.mem_append_left _ ha) b (List.mem_append_left _ hb)
    obtain ⟨hledger, hlocates⟩ := ih hearlier
    have hends := Ends.of_exec (ends_ingestMessage offset now hledger.ingested hledger.shows) hexec
    exact hledger.step hlocates hfree hends.1 hends.2

theorem Workspace.NeverPulled.loadExistingRemoteIndex (hw : w.NeverPulled) :
    w.loadExistingRemoteIndex parser = .ok {} := by
  have hledger : Ledger parser [] ⟨w, {}⟩ := .fresh hw
  obtain ⟨overlays, hoverlays⟩ := hledger.ingested.materializedOverlayIndex
  have hnothing : w.emlPaths = [] := by
    rw [emlPaths, hw.messages]
    rfl
  rw [Workspace.loadExistingRemoteIndex, hoverlays, hnothing]
  rfl

namespace Ledger
variable {inputs : List IngestMessage} {reloaded : ExistingIndex}

theorem activeKeys_eq {message : StoredMessage} (h : Ledger parser inputs s)
    (hactive : AllActive inputs) (hstored : s.workspace.Stores messageId message) :
    message.activeKeys = message.keys := by
  have hall : message.locations.filter (·.isActive) = message.locations := by
    rw [List.filter_eq_self]
    intro location hmem
    obtain ⟨input, hinput, _, hlocation⟩ := h.found messageId message hstored location hmem
    exact hactive input hinput location hlocation
  rw [StoredMessage.activeKeys, hall]
  rfl

theorem mem_activeKeys_iff {key : ImapKey} (h : Ledger parser inputs s)
    (hactive : AllActive inputs) (messageId : String) :
    (∃ message, s.workspace.Stores messageId message ∧ key ∈ message.keys) ↔
      ∃ message, s.workspace.Stores messageId message ∧ key ∈ message.activeKeys := by
  constructor
  · rintro ⟨message, hstored, hmem⟩
    rw [← h.activeKeys_eq hactive hstored] at hmem
    exact ⟨message, hstored, hmem⟩
  · rintro ⟨message, hstored, hmem⟩
    rw [h.activeKeys_eq hactive hstored] at hmem
    exact ⟨message, hstored, hmem⟩

theorem imapKeys_eq (h : Ledger parser inputs s) (hactive : AllActive inputs)
    (hshows : reloaded.Shows parser (·.activeKeys) s.workspace.Stores) :
    reloaded.imapKeys = s.index.imapKeys := by
  apply hshows.imapKeys.unique
  apply h.shows.imapKeys.congr
  intro key
  exact exists_congr (h.mem_activeKeys_iff hactive)

theorem imapLocations_eq (h : Ledger parser inputs s) (hactive : AllActive inputs)
    (hlocates : s.index.Locates (·.keys) s.workspace.Stores)
    (hreloaded : reloaded.Locates (·.activeKeys) s.workspace.Stores) :
    reloaded.imapLocations = s.index.imapLocations := by
  apply Maps.unique hreloaded
  apply Maps.congr hlocates
  intro key messageId
  exact h.mem_activeKeys_iff hactive messageId

theorem apart (h : Ledger parser inputs s) (hactive : AllActive inputs)
    (hnamed : KeysNamed inputs) : Apart (·.activeKeys) s.workspace.Stores := by
  intro key messageId other message message' hstored hstored' hmem hmem'
  change key ∈ message.activeKeys at hmem
  change key ∈ message'.activeKeys at hmem'
  rw [h.activeKeys_eq hactive hstored] at hmem
  rw [h.activeKeys_eq hactive hstored'] at hmem'
  obtain ⟨input, hinput, hraw, hkey⟩ := h.imapKey?_of_keys hstored hmem
  obtain ⟨input', hinput', hraw', hkey'⟩ := h.imapKey?_of_keys hstored' hmem'
  apply h.shows.distinct _ _ _ _ hstored hstored'
  rw [← hraw, ← hraw', hnamed input hinput input' hinput' key hkey hkey']

end Ledger

/-- What a workspace and the session's index are after some messages were ingested: one message
for each byte string, with every place the bytes were found at, and an index that a reload from
disk agrees with; on its location part unless a location was handed over as missing, and on who
is there unless a key was given to two byte strings. -/
structure Deduplicated (parser : MailParser) (inputs : List IngestMessage) (s : IngestState) :
    Prop where
  stored : ∀ input ∈ inputs, ∃! messageId, (s.workspace.record messageId).eml = some input.rawEml
  origin : ∀ messageId raw, (s.workspace.record messageId).eml = some raw →
    ∃ input ∈ inputs, input.rawEml = raw
  places : ∀ messageId raw, (s.workspace.record messageId).eml = some raw →
    ∀ place, place ∈ (s.workspace.remoteLocations messageId).map (·.place) ↔
      ∃ input ∈ inputs, input.rawEml = raw ∧ input.place? = some place
  once : ∀ messageId raw, (s.workspace.record messageId).eml = some raw →
    ((s.workspace.remoteLocations messageId).map (·.place)).Nodup
  found : ∀ messageId raw, (s.workspace.record messageId).eml = some raw →
    ∀ location ∈ s.workspace.remoteLocations messageId,
      ∃ input ∈ inputs, input.rawEml = raw ∧ input.remoteLocation = some location
  reload : ∃ reloaded, s.workspace.loadExistingRemoteIndex parser = .ok reloaded ∧
    reloaded.contentIds = s.index.contentIds ∧
    reloaded.rfc822Messages = s.index.rfc822Messages ∧
    reloaded.rfc822Cases = s.index.rfc822Cases ∧
    (AllActive inputs → reloaded.imapKeys = s.index.imapKeys ∧
      (KeysNamed inputs → reloaded = s.index))

theorem deduplicated_of_run {inputs : List IngestMessage} {index : ExistingIndex} (hw : w.NeverPulled)
    (hload : w.loadExistingRemoteIndex parser = .ok index)
    (hrun : Run (IngestSession parser) ⟨w, index⟩ inputs s) (hfree : CollisionFree parser inputs) :
    Deduplicated parser inputs s := by
  cases hload.symm.trans hw.loadExistingRemoteIndex
  obtain ⟨hledger, hlocates⟩ := ledger_of_run hw hrun hfree
  have hdistinct := hledger.shows.distinct
  have hread : ∀ messageId raw, (s.workspace.record messageId).eml = some raw →
      ∃ message, s.workspace.Stores messageId message ∧ message.raw = raw :=
    fun messageId raw heml => hledger.ingested.stores_of_eml heml
  constructor
  · intro input hmem
    obtain ⟨messageId, message, hstored, hraw⟩ := hledger.complete input hmem
    refine ⟨messageId, hraw ▸ hstored.eml, ?_⟩
    intro other heml
    obtain ⟨message', hstored', hraw'⟩ := hread other _ heml
    exact hdistinct other messageId message' message hstored' hstored (by rw [hraw', hraw])
  · intro messageId raw heml
    obtain ⟨message, hstored, rfl⟩ := hread messageId raw heml
    exact hledger.origin messageId message hstored
  · intro messageId raw heml
    obtain ⟨message, hstored, rfl⟩ := hread messageId raw heml
    rw [hstored.remoteLocations]
    exact hledger.places messageId message hstored
  · intro messageId raw heml
    obtain ⟨message, hstored, rfl⟩ := hread messageId raw heml
    rw [hstored.remoteLocations]
    exact hledger.once messageId message hstored
  · intro messageId raw heml
    obtain ⟨message, hstored, rfl⟩ := hread messageId raw heml
    rw [hstored.remoteLocations]
    exact hledger.found messageId message hstored
  · obtain ⟨reloaded, hreload, hshows, hreloadLocates⟩ :=
      hledger.ingested.loadExistingRemoteIndex hdistinct
    have hcontent := hshows.contentIds.unique hledger.shows.contentIds
    have hnames := hshows.rfc822Messages.unique hledger.shows.rfc822Messages
    have hcases := hshows.rfc822Cases.trans hledger.shows.rfc822Cases.symm
    refine ⟨reloaded, hreload, hcontent, hnames, hcases, ?_⟩
    intro hactive
    have himapKeys := hledger.imapKeys_eq hactive hshows
    refine ⟨himapKeys, ?_⟩
    intro hnamed
    have himapLocations := hledger.imapLocations_eq hactive (hlocates hnamed)
      (hreloadLocates (hledger.apart hactive hnamed))
    exact ExistingIndex.ext himapKeys himapLocations hcases hnames hcontent

/-- A parser that takes every byte string for a message without headers, with a digest that
short messages do not share. -/
def headerlessParser : MailParser where
  parse _ := some {}
  parseHeaders _ := some {}
  dayOf _ _ := none
  sha256 raw := (raw ++ List.replicate 32 0).take 32
  parseRfc3339 _ := none

def inboxLocation (uid : Nat) : RemoteLocation :=
  { mailboxId := some "inbox", mailboxName := "INBOX", uidValidity := some 1, uid := some uid }

def freshWorkspace : Workspace := { config := MailConfig.default }

theorem freshWorkspace_neverPulled : freshWorkspace.NeverPulled where
  messages := rfl
  dispositions kind := by cases kind <;> rfl
  notifications := rfl
  cases := rfl

def answerNothing (_ : Unit) (request : Empty) : Except AppError Unit × Unit := nomatch request

/-- Messages ingested one after another in one time zone. -/
def ingestAll (parser : MailParser) : List IngestMessage → IngestState → Option IngestState
  | [], s => some s
  | input :: rest, s =>
    match (ingestMessage parser 0 "2024-01-01T00:00:00Z" input).run answerNothing s () with
    | (.ok _, s', _) => ingestAll parser rest s'
    | (.error _, _, _) => none

theorem events_eq_nil (events : List (Event IngestState Empty (fun _ => Unit) AppError)) :
    events = [] := by
  cases events with
  | nil => rfl
  | cons event rest => exact event.request.elim

theorem run_of_ingestAll {inputs before : List IngestMessage} {first s' : IngestState}
    (hrun : Run (IngestSession parser) first before s) (hall : ingestAll parser inputs s = some s') :
    Run (IngestSession parser) first (before ++ inputs) s' := by
  induction inputs generalizing before s with
  | nil =>
    cases hall
    rw [List.append_nil]
    exact hrun
  | cons input rest ih =>
    obtain ⟨events, hexec⟩ := Program.run_exec answerNothing
      (ingestMessage parser 0 "2024-01-01T00:00:00Z" input) s ()
    rw [events_eq_nil events] at hexec
    unfold ingestAll at hall
    split at hall
    · rename_i outcome s₁ _ heq
      rw [heq] at hexec
      rw [List.append_cons]
      exact ih (hrun.next ⟨0, _, input, outcome, rfl, hexec⟩) hall
    · cases hall

/-- Three deliveries: one message at two places, another one beside it. -/
def threeDeliveries : List IngestMessage :=
  [⟨[1], some (inboxLocation 1), none, .triage, .inbound⟩,
    ⟨[2], some (inboxLocation 2), none, .spam, .inbound⟩,
    ⟨[1], some (inboxLocation 3), none, .triage, .inbound⟩]

/-- A server that gives a key to other bytes. -/
def reusedKey : List IngestMessage :=
  [⟨[1], some (inboxLocation 1), none, .triage, .inbound⟩,
    ⟨[2], some (inboxLocation 1), none, .triage, .inbound⟩]

/-- A location that is handed over as one found missing before. -/
def missingOnce : List IngestMessage :=
  [⟨[1], some { inboxLocation 1 with missingRfc3339 := some "2024-01-01T00:00:00Z" }, none,
    .triage, .inbound⟩]

theorem deduplicated_threeDeliveries :
    ∃ s, ingestAll headerlessParser threeDeliveries ⟨freshWorkspace, {}⟩ = some s ∧
      Deduplicated headerlessParser threeDeliveries s := by
  have hends : (ingestAll headerlessParser threeDeliveries ⟨freshWorkspace, {}⟩).isSome = true := by
    decide +kernel
  obtain ⟨s, hs⟩ := Option.isSome_iff_exists.mp hends
  have hfree : CollisionFree headerlessParser threeDeliveries := by
    unfold CollisionFree
    decide
  exact ⟨s, hs, deduplicated_of_run freshWorkspace_neverPulled
    freshWorkspace_neverPulled.loadExistingRemoteIndex (run_of_ingestAll .start hs) hfree⟩

theorem exists_run_of_differs {inputs : List IngestMessage} {first : IngestState}
    (hdiffers : (ingestAll parser inputs first).any (fun s =>
      decide (s.workspace.loadExistingRemoteIndex parser ≠ .ok s.index)) = true) :
    ∃ s, Run (IngestSession parser) first inputs s ∧
      s.workspace.loadExistingRemoteIndex parser ≠ .ok s.index := by
  obtain ⟨s, hs, hne⟩ := (Option.any_eq_true _ _).mp hdiffers
  exact ⟨s, run_of_ingestAll .start hs, of_decide_eq_true hne⟩

/-- The session keeps the last message that was found under a key, a reload the one whose file
comes first; and the session knows the key of a missing location, which a reload passes over. -/
theorem reload_differs :
    (CollisionFree headerlessParser reusedKey ∧
      ∃ s, Run (IngestSession headerlessParser) ⟨freshWorkspace, {}⟩ reusedKey s ∧
        s.workspace.loadExistingRemoteIndex headerlessParser ≠ .ok s.index) ∧
    CollisionFree headerlessParser missingOnce ∧
      ∃ s, Run (IngestSession headerlessParser) ⟨freshWorkspace, {}⟩ missingOnce s ∧
        s.workspace.loadExistingRemoteIndex headerlessParser ≠ .ok s.index := by
  refine ⟨⟨?_, exists_run_of_differs (by decide +kernel)⟩, ?_,
    exists_run_of_differs (by decide +kernel)⟩
  · unfold CollisionFree
    decide
  · unfold CollisionFree
    decide

end AgentFirstMail
