import AgentFirstMail.Ingest.IndexReload
import AgentFirstMail.Pull.Evidence

namespace AgentFirstMail
open Effect Ingest Indexing

/-- There is evidence of some content. -/
def Workspace.Has (w : Workspace) (parser : MailParser) (contentKey : String) : Prop :=
  ∃ messageId raw, w.eml messageId = some raw ∧ parser.messageContentKey raw = contentKey

/-- Evidence of mail comes and never goes. -/
def GrowsMail (w w' : Workspace) : Prop :=
  ∀ messageId raw, w.eml messageId = some raw → w'.eml messageId = some raw

/-- What an index says is stored is stored. -/
def ExistingIndex.Knows (index : ExistingIndex) (parser : MailParser) (w : Workspace) : Prop :=
  ∀ contentKey messageId : String, index.contentIds[contentKey]? = some messageId →
    ∃ raw, w.eml messageId = some raw ∧ parser.messageContentKey raw = contentKey

variable {w w' w'' : Workspace} {parser : MailParser} {index index' : ExistingIndex} {raw : Bytes}
  {messageId contentKey : String}

theorem GrowsMail.refl (w : Workspace) : GrowsMail w w := fun _ _ => id

theorem GrowsMail.trans (h : GrowsMail w w') (h' : GrowsMail w' w'') : GrowsMail w w'' :=
  fun messageId raw hsome => h' messageId raw (h messageId raw hsome)

theorem KeepsMail.grows (h : KeepsMail w w') : GrowsMail w w' :=
  fun messageId _ hsome => (h messageId).trans hsome

theorem AddsMail.grows (h : AddsMail raw w w') : GrowsMail w w' := by
  obtain ⟨added, hnone, _, hother⟩ := h
  intro messageId known hknown
  by_cases heq : messageId = added
  · rw [heq] at hknown
    cases hnone.symm.trans hknown
  · exact (hother messageId heq).trans hknown

theorem Workspace.Has.grows (h : w.Has parser contentKey) (hgrows : GrowsMail w w') :
    w'.Has parser contentKey := by
  obtain ⟨messageId, raw, heml, hkey⟩ := h
  exact ⟨messageId, raw, hgrows messageId raw heml, hkey⟩

namespace ExistingIndex.Knows

theorem grows (h : index.Knows parser w) (hgrows : GrowsMail w w') : index.Knows parser w' := by
  intro contentKey messageId hindexed
  obtain ⟨raw, heml, hkey⟩ := h contentKey messageId hindexed
  exact ⟨raw, hgrows messageId raw heml, hkey⟩

theorem congr (h : index.Knows parser w) (hsame : index'.contentIds = index.contentIds) :
    index'.Knows parser w := by
  intro contentKey messageId hindexed
  rw [hsame] at hindexed
  exact h contentKey messageId hindexed

theorem has (h : index.Knows parser w) (hindexed : index.contentIds[contentKey]? = some messageId) :
    w.Has parser contentKey := by
  obtain ⟨raw, heml, hkey⟩ := h contentKey messageId hindexed
  exact ⟨messageId, raw, heml, hkey⟩

theorem insert (h : index.Knows parser w) (heml : w.eml messageId = some raw) :
    ExistingIndex.Knows { index with
      contentIds := index.contentIds.insert (parser.messageContentKey raw) messageId } parser w := by
  intro contentKey other hindexed
  by_cases hkey : contentKey = parser.messageContentKey raw
  · rw [hkey, Std.ExtTreeMap.getElem?_insert_self] at hindexed
    obtain rfl := Option.some.inj hindexed
    exact ⟨raw, heml, hkey.symm⟩
  · rw [getElem?_insert_ne hkey] at hindexed
    exact h contentKey other hindexed

end ExistingIndex.Knows

/-! ## Reload of the index -/

theorem contentIds_addLocation (index : ExistingIndex) (messageId : String)
    (location : RemoteLocation) :
    (index.addLocation messageId location).contentIds = index.contentIds := by
  unfold ExistingIndex.addLocation
  split
  · split <;> rfl
  · rfl

theorem contentIds_addLocations (index : ExistingIndex) (messageId : String)
    (locations : List RemoteLocation) :
    (index.addLocations messageId locations).contentIds = index.contentIds := by
  unfold ExistingIndex.addLocations
  induction locations generalizing index with
  | nil => rfl
  | cons location rest ih =>
    rw [List.foldl_cons, ih, contentIds_addLocation]

theorem contentIds_addRfc822 (index : ExistingIndex) (caseRefs : Multimap String String)
    (messageId : String) (rfc822Id : Option String) :
    (index.addRfc822 caseRefs messageId rfc822Id).contentIds = index.contentIds := by
  cases rfc822Id <;> rfl

theorem knows_addMessage {caseRefs : Multimap String String} {message : Message}
    (h : index.Knows parser w) (heml : w.eml message.messageId = some raw) :
    (index.addMessage parser caseRefs raw message).Knows parser w := by
  have hcontents : (index.addMessage parser caseRefs raw message).contentIds =
      index.contentIds.insertIfNew (parser.messageContentKey raw) message.messageId := by
    unfold ExistingIndex.addMessage
    rw [contentIds_addLocations, contentIds_addRfc822]
    rfl
  intro contentKey other hindexed
  rw [hcontents, Std.ExtTreeMap.getElem?_insertIfNew] at hindexed
  split at hindexed
  · rename_i hnew
    obtain rfl := Option.some.inj hindexed
    exact ⟨raw, heml, Std.LawfulEqCmp.compare_eq_iff_eq.mp hnew.1⟩
  · exact h contentKey other hindexed

/-- An index that was just read says nothing else than what is stored. -/
theorem knows_loadExistingRemoteIndex (h : w.loadExistingRemoteIndex parser = .ok index) :
    index.Knows parser w := by
  obtain ⟨overlays, _, h⟩ := Result.bind_ok h
  have hpaths : ∀ entry ∈ w.emlPaths, w.eml entry.1 = some entry.2 := fun entry hentry =>
    Workspace.mem_emlPaths.mp hentry
  have hstart : ExistingIndex.Knows {} parser w := by
    intro contentKey messageId hindexed
    have hempty : (∅ : Std.ExtTreeMap String String)[contentKey]? = none :=
      Std.ExtTreeMap.getElem?_empty
    cases hempty.symm.trans hindexed
  generalize w.emlPaths = paths at h hpaths
  generalize ({} : ExistingIndex) = start at h hstart
  induction paths generalizing start with
  | nil =>
    cases h
    exact hstart
  | cons entry rest ih =>
    rw [List.foldlM_cons] at h
    obtain ⟨next, hentry, h⟩ := Result.bind_ok h
    obtain ⟨message, hread, hentry⟩ := Result.bind_ok hentry
    cases hentry
    obtain ⟨_, _, _, _, _, hmessageId, _⟩ := Workspace.readMessageUnder_eq_ok hread
    apply ih (fun entry hmem => hpaths entry (List.mem_cons_of_mem _ hmem)) _ h
    apply knows_addMessage hstart
    rw [hmessageId]
    exact hpaths entry List.mem_cons_self

/-! ## Ingestion -/

/-- Nothing becomes known or unknown. -/
def KeepsKnown (s s' : IngestState) : Prop :=
  KeepsEvidence s s' ∧ s'.index.contentIds = s.index.contentIds

/-- The contents that an index knows are left alone. -/
abbrev SameContents (s s' : IngestState) : Prop := s'.index.contentIds = s.index.contentIds

namespace SameContents

theorem workspace : Ingest.workspace.Writes SameContents :=
  Program.Writes.read.bind fun _ => Program.Writes.ret _

theorem writeWorkspace (change : Workspace → Workspace) :
    (Ingest.writeWorkspace change).Writes SameContents :=
  Program.Writes.write fun _ => rfl

theorem indexLocation (location : RemoteLocation) (messageId : String) :
    (Ingest.modifyIndex (·.indexLocation location messageId)).Writes SameContents := by
  apply Program.Writes.write
  intro s
  unfold SameContents ExistingIndex.indexLocation
  split <;> rfl

theorem setMessageDisposition (kind : Disposition) (messageId now : String) :
    (setMessageDisposition kind messageId now).Writes SameContents :=
  (Program.Writes.forEach fun _ _ => writeWorkspace _).bind fun _ => writeWorkspace _

theorem disposeImported (messageId now : String) (kind? : Option Disposition) :
    (disposeImported messageId now kind?).Writes SameContents := by
  cases kind? with
  | none => exact Program.Writes.ret _
  | some kind => exact setMessageDisposition kind messageId now

theorem mergeDelivery? (parser : MailParser) (messageId : String)
    (delivery? : Option DeliveryEnvelope) :
    (mergeDelivery? parser messageId delivery?).Writes SameContents := by
  cases delivery? with
  | none => exact Program.Writes.ret _
  | some delivery =>
    apply workspace.bind
    intro w
    split
    · exact Program.Writes.fail _
    · exact (Program.Writes.ofExcept _).bind fun _ => writeWorkspace _

theorem mergeLocation? (messageId : String) (remote : Option (List RemoteLocation))
    (location? : Option RemoteLocation) :
    (mergeLocation? messageId remote location?).Writes SameContents := by
  cases location? with
  | none =>
    apply Program.Writes.bind (writeWorkspace (·.persistMessageMetadata messageId remote none))
    exact fun _ => Program.Writes.ret _
  | some location =>
    apply (indexLocation location messageId).bind
    intro _
    apply Program.Writes.bind (writeWorkspace (·.persistMessageMetadata messageId
      (some (recordLocation location (remote.getD [])).1) none))
    exact fun _ => Program.Writes.ret _

end SameContents

variable {input : IngestMessage} {s : IngestState}
  {history : List (Event IngestState Empty (fun _ => Unit) AppError)}

/-- What a source knows while it ingests: evidence only comes, and the index says nothing else
than what is stored. -/
structure Learns (parser : MailParser) (start : Workspace) (s : IngestState) : Prop where
  grows : GrowsMail start s.workspace
  knows : s.index.Knows parser s.workspace

/-- The rule for a part of an ingestion that ends with the content stored. -/
abbrev Learning (parser : MailParser) (start : Workspace) (contentKey : String)
    (p : Ingest IngestOutcome) :
    List (Event IngestState Empty (fun _ => Unit) AppError) → IngestState → Prop :=
  p.wp (fun _ => Learns parser start)
    (fun _ _ s => Learns parser start s ∧ s.workspace.Has parser contentKey)
    (fun _ _ => Learns parser start)

variable {start : Workspace}

theorem Learns.keeps {s' : IngestState} (h : Learns parser start s) (hkeeps : KeepsKnown s s') :
    Learns parser start s' where
  grows := h.grows.trans hkeeps.1.grows
  knows := (h.knows.grows hkeeps.1.grows).congr hkeeps.2

/-- What is true while nothing becomes known. -/
structure Persists (parser : MailParser) (start : Workspace) (P : IngestState → Prop) : Prop where
  learns : ∀ s, P s → Learns parser start s
  keeps : ∀ s s', P s → KeepsKnown s s' → P s'

theorem Persists.and {P : IngestState → Prop} (hP : Persists parser start P)
    (about : Workspace → Prop) (h : ∀ w w', about w → KeepsMail w w' → about w') :
    Persists parser start fun s => P s ∧ about s.workspace where
  learns s hs := hP.learns s hs.1
  keeps s s' hs hkeeps := ⟨hP.keeps s s' hs.1 hkeeps, h _ _ hs.2 hkeeps.1⟩

theorem persists_learns : Persists parser start (Learns parser start) where
  learns _ := id
  keeps _ _ hs hkeeps := hs.keeps hkeeps

theorem learning_keeping {P : IngestState → Prop} {p : Ingest α} {f : α → Ingest IngestOutcome}
    (hP : Persists parser start P) (hp : p.Writes KeepsEvidence) (hcontents : p.Writes SameContents)
    (hs : P s)
    (hf : ∀ value history s, P s → Learning parser start contentKey (f value) history s) :
    Learning parser start contentKey (p.bind f) history s := by
  apply wp_then
  apply (hp.and hcontents).wp (fun _ => ⟨KeepsMail.refl _, rfl⟩)
    (fun _ _ _ h h' => ⟨KeepsMail.trans h.1 h'.1, h'.2.trans h.2⟩)
  · exact fun _ s' _ hkeeps => hP.learns s' (hP.keeps s s' hs hkeeps)
  · exact fun value history' s' _ hkeeps => hf value history' s' (hP.keeps s s' hs hkeeps)
  · exact fun _ _ s' _ hkeeps => hP.learns s' (hP.keeps s s' hs hkeeps)

theorem learning_mergeMessage (hs : Learns parser start s)
    (hindexed : s.index.contentIds[contentKey]? = some messageId) :
    Learning parser start contentKey (mergeMessage parser input messageId) history s := by
  have hP : Persists parser start fun s =>
      Learns parser start s ∧ s.workspace.Has parser contentKey :=
    persists_learns.and (·.Has parser contentKey) fun _ _ hhas hkeeps => hhas.grows hkeeps.grows
  have hs : Learns parser start s ∧ s.workspace.Has parser contentKey :=
    ⟨hs, hs.knows.has hindexed⟩
  apply learning_keeping hP KeepsEvidence.workspace SameContents.workspace hs
  intro read history s hs
  apply learning_keeping hP (Program.Writes.ofExcept _) (Program.Writes.ofExcept _) hs
  intro message history s hs
  apply learning_keeping hP (KeepsEvidence.mergeLocation? _ _ _) (SameContents.mergeLocation? _ _ _)
    hs
  intro flagsUpdated history s hs
  apply learning_keeping hP (KeepsEvidence.mergeDelivery? _ _ _) (SameContents.mergeDelivery? _ _ _)
    hs
  intro _ history s hs
  apply learning_keeping hP KeepsEvidence.workspace SameContents.workspace hs
  intro read history s hs
  apply learning_keeping hP (Program.Writes.ofExcept _) (Program.Writes.ofExcept _) hs
  intro message history s hs
  apply learning_keeping hP (KeepsEvidence.writeMessageMaterializedCache _ _)
    (SameContents.writeWorkspace _) hs
  exact fun _ history s hs => hs

/-- What follows the evidence of a new message: it is entered into the index. -/
theorem learning_indexStored {rfc822Id : Option String} {duplicates : List String}
    (hs : Learns parser start s) (heml : s.workspace.eml messageId = some input.rawEml)
    {triageView : Bytes → Result Unit} :
    Learning parser start (parser.messageContentKey input.rawEml)
      (Program.bind (Program.ofExcept (renderTriageView? triageView input.rawEml input.importAs))
        fun _ => Program.bind (indexLocation? messageId input.remoteLocation) fun _ =>
        Program.bind (Ingest.modifyIndex fun index =>
          { index with
            contentIds := index.contentIds.insert (parser.messageContentKey input.rawEml) messageId })
          fun _ => Program.bind (indexRfc822? messageId rfc822Id) fun _ =>
        Program.ret (.stored messageId duplicates)) history s := by
  have hP : Persists parser start fun s =>
      Learns parser start s ∧ s.workspace.eml messageId = some input.rawEml :=
    persists_learns.and (·.eml messageId = some input.rawEml) fun _ _ heml hkeeps =>
      (hkeeps messageId).trans heml
  have hs : Learns parser start s ∧ s.workspace.eml messageId = some input.rawEml := ⟨hs, heml⟩
  apply learning_keeping hP (Program.Writes.ofExcept _) (Program.Writes.ofExcept _) hs
  intro _ history s hs
  have hlocation : (indexLocation? messageId input.remoteLocation).Writes SameContents := by
    cases input.remoteLocation with
    | none => exact Program.Writes.ret _
    | some location => exact SameContents.indexLocation location messageId
  have hkept : (indexLocation? messageId input.remoteLocation).Writes KeepsEvidence := by
    cases input.remoteLocation with
    | none => exact Program.Writes.ret _
    | some location => exact KeepsEvidence.modifyIndex (·.indexLocation location messageId)
  apply learning_keeping hP hkept hlocation hs
  intro _ history s hs
  have hentered : Learns parser start { s with index := { s.index with
      contentIds := s.index.contentIds.insert (parser.messageContentKey input.rawEml) messageId } } :=
    ⟨hs.1.grows, hs.1.knows.insert hs.2⟩
  refine ⟨hentered, ?_⟩
  have hrfc822 : (indexRfc822? messageId rfc822Id).Writes SameContents := by
    cases rfc822Id with
    | none => exact Program.Writes.ret _
    | some id => exact Program.Writes.write fun _ => rfl
  have hkept : (indexRfc822? messageId rfc822Id).Writes KeepsEvidence := by
    cases rfc822Id with
    | none => exact Program.Writes.ret _
    | some id => exact Program.Writes.write fun _ => KeepsMail.refl _
  apply learning_keeping hP hkept hrfc822 ⟨hentered, hs.2⟩
  exact fun _ history s hs => ⟨hs.1, messageId, input.rawEml, hs.2, rfl⟩

theorem learning_storeMessageWith {triageView : Bytes → Result Unit} {offset : Int} {now : String}
    (hs : Learns parser start s) :
    Learning parser start (parser.messageContentKey input.rawEml)
      (storeMessageWith triageView parser offset now input) history s := by
  apply wp_then
  apply Program.wp_read.mpr
  dsimp only
  split
  · exact hs
  · rename_i parsed _
    apply wp_then
    apply Program.wp_ofExcept.mpr
    split
    · rename_i htaken
      have hfree : s.workspace.eml (parser.stableMessageId input.rawEml offset) = none := by
        rw [ensure_eq_ok_iff, Bool.not_eq_true', Option.isSome_eq_false_iff,
          Option.isNone_iff_eq_none] at htaken
        exact htaken
      have hP : Persists parser start fun s => Learns parser start s ∧
          s.workspace.eml (parser.stableMessageId input.rawEml offset) = none :=
        persists_learns.and (·.eml (parser.stableMessageId input.rawEml offset) = none)
          fun _ _ hnone hkeeps => (hkeeps _).trans hnone
      have hs : Learns parser start s ∧
          s.workspace.eml (parser.stableMessageId input.rawEml offset) = none := ⟨hs, hfree⟩
      apply learning_keeping hP
        (KeepsEvidence.writeWorkspace fun _ => keepsMail_persistMessageMetadata _ _)
        (SameContents.writeWorkspace _) hs
      intro _ history s hs
      apply learning_keeping hP (KeepsEvidence.mergeDelivery? _ _ _)
        (SameContents.mergeDelivery? _ _ _) hs
      intro _ history s hs
      apply learning_keeping hP (KeepsEvidence.disposeImported _ _ _)
        (SameContents.disposeImported _ _ _) hs
      intro _ history s hs
      let stored := s.workspace.writeEml (parser.stableMessageId input.rawEml offset) input.rawEml
        parsed.messageId
      have hadded : AddsMail input.rawEml s.workspace stored := addsMail_writeEml hs.2
      have heml : stored.eml (parser.stableMessageId input.rawEml offset) = some input.rawEml := by
        unfold stored Workspace.eml
        rw [Workspace.writeEml, Workspace.record_alterMessage, if_pos rfl]
      have hstored : Learns parser start { s with workspace := stored } :=
        ⟨hs.1.grows.trans hadded.grows, hs.1.knows.grows hadded.grows⟩
      have hP : Persists parser start fun s => Learns parser start s ∧
          s.workspace.eml (parser.stableMessageId input.rawEml offset) = some input.rawEml :=
        persists_learns.and (·.eml (parser.stableMessageId input.rawEml offset) =
          some input.rawEml) fun _ _ hsome hkeeps => (hkeeps _).trans hsome
      refine ⟨hstored, ?_⟩
      apply learning_keeping hP (KeepsEvidence.writeMessageMaterializedCache _ _)
        (SameContents.writeWorkspace _) ⟨hstored, heml⟩
      exact fun _ history s hs => learning_indexStored hs.1 hs.2
    · exact hs

theorem learning_ingestMessageWith {triageView : Bytes → Result Unit} {offset : Int} {now : String}
    (hs : Learns parser start s) :
    Learning parser start (parser.messageContentKey input.rawEml)
      (ingestMessageWith triageView parser offset now input) history s := by
  apply wp_then
  apply Program.wp_ofExcept.mpr
  split
  · apply wp_then
    apply Program.wp_read.mpr
    split
    · rename_i hindexed
      exact learning_mergeMessage hs hindexed
    · exact learning_storeMessageWith hs
  · exact hs

end AgentFirstMail
