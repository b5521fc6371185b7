import AgentFirstMail.Effect.Frame
import AgentFirstMail.Ingest.Message

namespace AgentFirstMail
open Effect Ingest

/-- The evidence of a message. -/
def Workspace.eml (w : Workspace) (messageId : String) : Option Bytes := (w.record messageId).eml

/-- No evidence of mail comes or goes. -/
def KeepsMail (w w' : Workspace) : Prop := ∀ messageId, w'.eml messageId = w.eml messageId

/-- Evidence of one more message. -/
def AddsMail (raw : Bytes) (w w' : Workspace) : Prop :=
  ∃ messageId, w.eml messageId = none ∧ w'.eml messageId = some raw ∧
    ∀ other, other ≠ messageId → w'.eml other = w.eml other

variable {w w' : Workspace} {messageId : String} {raw : Bytes}

namespace KeepsMail

theorem refl (w : Workspace) : KeepsMail w w := fun _ => rfl

theorem trans {w'' : Workspace} (h : KeepsMail w w') (h' : KeepsMail w' w'') : KeepsMail w w'' :=
  fun messageId => (h' messageId).trans (h messageId)

theorem adds {w'' : Workspace} (h : KeepsMail w w') (h' : AddsMail raw w' w'') :
    AddsMail raw w w'' := by
  obtain ⟨messageId, hnone, hsome, hother⟩ := h'
  refine ⟨messageId, (h messageId).symm.trans hnone, hsome, fun other hne => ?_⟩
  exact (hother other hne).trans (h other)

end KeepsMail

theorem AddsMail.keeps {w'' : Workspace} (h : AddsMail raw w w') (h' : KeepsMail w' w'') :
    AddsMail raw w w'' := by
  obtain ⟨messageId, hnone, hsome, hother⟩ := h
  refine ⟨messageId, hnone, (h' messageId).trans hsome, fun other hne => ?_⟩
  exact (h' other).trans (hother other hne)

theorem keepsMail_alterMessage {change : MessageRecord → MessageRecord}
    (h : ∀ record, (change record).eml = record.eml) :
    KeepsMail w (w.alterMessage messageId change) := by
  intro other
  unfold Workspace.eml
  rw [Workspace.record_alterMessage]
  by_cases heq : other = messageId
  · rw [if_pos heq, h, heq]
  · rw [if_neg heq]

theorem keepsMail_persistMessageMetadata (remote : Option (List RemoteLocation))
    (caseUids : Option (List String)) :
    KeepsMail w (w.persistMessageMetadata messageId remote caseUids) :=
  keepsMail_alterMessage fun _ => rfl

theorem keepsMail_writeMessageMaterializedCache (w : Workspace) (messageId : String)
    (direction : Option String) :
    KeepsMail w (w.writeMessageMaterializedCache messageId direction) :=
  keepsMail_alterMessage fun _ => rfl

theorem keepsMail_clearDisposition (w : Workspace) (messageId : String) (kind : Disposition) :
    KeepsMail w (w.clearDisposition messageId kind) := by
  unfold Workspace.clearDisposition
  split
  · cases kind <;> exact KeepsMail.refl w
  · exact KeepsMail.refl w

theorem addsMail_writeEml {rfc822MessageId : Option String} (h : w.eml messageId = none) :
    AddsMail raw w (w.writeEml messageId raw rfc822MessageId) := by
  refine ⟨messageId, h, ?_, fun other hne => ?_⟩
  · unfold Workspace.eml
    rw [Workspace.writeEml, Workspace.record_alterMessage, if_pos rfl]
  · unfold Workspace.eml
    rw [Workspace.writeEml, Workspace.record_alterMessage, if_neg hne]

/-- The same of a source at work. -/
def KeepsEvidence (s s' : IngestState) : Prop := KeepsMail s.workspace s'.workspace

namespace KeepsEvidence

theorem workspace : Ingest.workspace.Writes KeepsEvidence :=
  Program.Writes.read.bind fun _ => Program.Writes.ret _

theorem writeWorkspace {change : Workspace → Workspace} (h : ∀ w, KeepsMail w (change w)) :
    (Ingest.writeWorkspace change).Writes KeepsEvidence :=
  Program.Writes.write fun _ => h _

theorem modifyIndex (change : ExistingIndex → ExistingIndex) :
    (Ingest.modifyIndex change).Writes KeepsEvidence :=
  Program.Writes.write fun _ => KeepsMail.refl _

theorem setMessageDisposition (kind : Disposition) (messageId now : String) :
    (setMessageDisposition kind messageId now).Writes KeepsEvidence := by
  apply Program.Writes.bind
  · apply Program.Writes.forEach
    intro other _
    exact writeWorkspace fun w => keepsMail_clearDisposition w messageId other
  · intro _
    apply writeWorkspace
    intro w
    cases kind <;> exact KeepsMail.refl w

theorem disposeImported (messageId now : String) (kind? : Option Disposition) :
    (disposeImported messageId now kind?).Writes KeepsEvidence := by
  cases kind? with
  | none => exact Program.Writes.ret _
  | some kind => exact setMessageDisposition kind messageId now

theorem mergeDelivery? (parser : MailParser) (messageId : String)
    (delivery? : Option DeliveryEnvelope) :
    (mergeDelivery? parser messageId delivery?).Writes KeepsEvidence := by
  cases delivery? with
  | none => exact Program.Writes.ret _
  | some delivery =>
    apply workspace.bind
    intro w
    split
    · exact Program.Writes.fail _
    · apply Program.Writes.bind (Program.Writes.ofExcept _)
      intro merged
      exact writeWorkspace fun _ => keepsMail_alterMessage fun _ => rfl

theorem mergeLocation? (messageId : String) (remote : Option (List RemoteLocation))
    (location? : Option RemoteLocation) :
    (mergeLocation? messageId remote location?).Writes KeepsEvidence := by
  cases location? with
  | none =>
    apply (writeWorkspace fun _ => keepsMail_persistMessageMetadata _ _).bind
    exact fun _ => Program.Writes.ret _
  | some location =>
    apply (modifyIndex (·.indexLocation location messageId)).bind
    intro _
    apply (writeWorkspace fun _ => keepsMail_persistMessageMetadata _ _).bind
    exact fun _ => Program.Writes.ret _

theorem writeMessageMaterializedCache (messageId : String) (direction : Option String) :
    (Ingest.writeWorkspace (·.writeMessageMaterializedCache messageId direction)).Writes
      KeepsEvidence :=
  writeWorkspace fun w => keepsMail_writeMessageMaterializedCache w messageId direction

end KeepsEvidence

section Ingestion

/-- Bytes that are not known yet are to be viewed in triage, and their view does not render. -/
def ViewFails (triageView : Bytes → Result Unit) (parser : MailParser) (index : ExistingIndex)
    (importAs : PullImportAs) (raw : Bytes) (error : AppError) : Prop :=
  importAs = .triage ∧ index.contentIds[parser.messageContentKey raw]? = none ∧
    triageView raw = .error error

variable {triageView : Bytes → Result Unit} {parser : MailParser} {offset : Int} {now : String}
  {index : ExistingIndex} {input : IngestMessage} {s : IngestState}

/-- Bytes that were not known yet are stored. -/
def Stores (parser : MailParser) (index : ExistingIndex) (raw : Bytes) (w w' : Workspace) : Prop :=
  index.contentIds[parser.messageContentKey raw]? = none ∧ AddsMail raw w w'

/-- What an ingestion comes to: the outcome tells whether a message was added. -/
def OutcomeEvidence (parser : MailParser) (index : ExistingIndex) (raw : Bytes) (w : Workspace)
    (outcome : IngestOutcome) (w' : Workspace) : Prop :=
  match outcome with
  | .merged _ _ => KeepsMail w w'
  | .stored _ _ => Stores parser index raw w w'

/-- A failed ingestion leaves no message, unless it was the view that failed. -/
def FailureEvidence (triageView : Bytes → Result Unit) (parser : MailParser)
    (index : ExistingIndex) (input : IngestMessage) (w : Workspace) (error : AppError)
    (w' : Workspace) : Prop :=
  KeepsMail w w' ∨ ViewFails triageView parser index input.importAs input.rawEml error ∧
    AddsMail input.rawEml w w'

/-- The rule for a part of an ingestion: wherever it is, and however it ends. -/
abbrev Accounts (triageView : Bytes → Result Unit) (parser : MailParser) (index : ExistingIndex)
    (input : IngestMessage) (w : Workspace) (p : Ingest IngestOutcome) :
    List (Event IngestState Empty (fun _ => Unit) AppError) → IngestState → Prop :=
  p.wp
    (fun _ s => KeepsMail w s.workspace ∨ Stores parser index input.rawEml w s.workspace)
    (fun outcome _ s => OutcomeEvidence parser index input.rawEml w outcome s.workspace)
    (fun error _ s => FailureEvidence triageView parser index input w error s.workspace)

variable {w : Workspace} {history : List (Event IngestState Empty (fun _ => Unit) AppError)}

theorem accounts_keeping {p : Ingest α} {f : α → Ingest IngestOutcome}
    (hp : p.Writes KeepsEvidence) (hs : KeepsMail w s.workspace)
    (hf : ∀ value history s, KeepsMail w s.workspace →
      Accounts triageView parser index input w (f value) history s) :
    Accounts triageView parser index input w (p.bind f) history s := by
  apply wp_then
  apply hp.wp (fun s => KeepsMail.refl s.workspace) (fun _ _ _ h h' => KeepsMail.trans h h')
  · exact fun _ _ _ hkeeps => .inl (hs.trans hkeeps)
  · exact fun value history' s' _ hkeeps => hf value history' s' (hs.trans hkeeps)
  · exact fun _ _ _ _ hkeeps => .inl (hs.trans hkeeps)

theorem accounts_mergeMessage {messageId : String} (hs : KeepsMail w s.workspace) :
    Accounts triageView parser index input w (mergeMessage parser input messageId) history s := by
  apply accounts_keeping KeepsEvidence.workspace hs
  intro read history s hs
  apply accounts_keeping (Program.Writes.ofExcept _) hs
  intro message history s hs
  apply accounts_keeping (KeepsEvidence.mergeLocation? _ _ _) hs
  intro flagsUpdated history s hs
  apply accounts_keeping (KeepsEvidence.mergeDelivery? _ _ _) hs
  intro _ history s hs
  apply accounts_keeping KeepsEvidence.workspace hs
  intro read history s hs
  apply accounts_keeping (Program.Writes.ofExcept _) hs
  intro message history s hs
  apply accounts_keeping (KeepsEvidence.writeMessageMaterializedCache _ _) hs
  exact fun _ history s hs => hs

theorem accounts_modifyIndex {change : ExistingIndex → ExistingIndex}
    {f : Unit → Ingest IngestOutcome} (hs : Stores parser index input.rawEml w s.workspace)
    (hf : ∀ s, Stores parser index input.rawEml w s.workspace →
      Accounts triageView parser index input w (f ()) history s) :
    Accounts triageView parser index input w ((Ingest.modifyIndex change).bind f) history s :=
  ⟨.inr hs, hf { s with index := change s.index } hs⟩

/-- What follows the evidence of a new message: only its view may fail. -/
theorem accounts_indexStored {messageId contentKey : String} {rfc822Id : Option String}
    {duplicates : List String} (hs : Stores parser index input.rawEml w s.workspace) :
    Accounts triageView parser index input w
      (Program.bind (Program.ofExcept (renderTriageView? triageView input.rawEml input.importAs))
        fun _ => Program.bind (indexLocation? messageId input.remoteLocation) fun _ =>
        Program.bind (Ingest.modifyIndex fun index =>
          { index with contentIds := index.contentIds.insert contentKey messageId }) fun _ =>
        Program.bind (indexRfc822? messageId rfc822Id) fun _ =>
        Program.ret (.stored messageId duplicates)) history s := by
  have hindexed : ∀ s : IngestState, Stores parser index input.rawEml w s.workspace →
      Accounts triageView parser index input w
        (Program.bind (Ingest.modifyIndex fun index =>
          { index with contentIds := index.contentIds.insert contentKey messageId }) fun _ =>
        Program.bind (indexRfc822? messageId rfc822Id) fun _ =>
        Program.ret (.stored messageId duplicates)) history s := by
    intro s hs
    apply accounts_modifyIndex hs
    intro s hs
    cases rfc822Id with
    | none => exact hs
    | some id =>
      rw [indexRfc822?]
      apply accounts_modifyIndex hs
      exact fun s hs => hs
  cases hview : renderTriageView? triageView input.rawEml input.importAs with
  | error error =>
    right
    refine ⟨?_, hs.2⟩
    unfold renderTriageView? at hview
    split at hview
    · exact ⟨by assumption, hs.1, hview⟩
    · cases hview
  | ok _ =>
    change Accounts triageView parser index input w
      (Program.bind (indexLocation? messageId input.remoteLocation) _) history s
    cases input.remoteLocation with
    | none => exact hindexed s hs
    | some location =>
      rw [indexLocation?]
      apply accounts_modifyIndex hs
      exact hindexed

theorem accounts_storeMessageWith
    (hnew : index.contentIds[parser.messageContentKey input.rawEml]? = none)
    (hs : KeepsMail w s.workspace) :
    Accounts triageView parser index input w
      (storeMessageWith triageView parser offset now input) history s := by
  apply wp_then
  apply Program.wp_read.mpr
  dsimp only
  split
  · exact .inl hs
  · rename_i parsed _
    apply wp_then
    apply Program.wp_ofExcept.mpr
    split
    · rename_i htaken
      have hfree : w.eml (parser.stableMessageId input.rawEml offset) = none := by
        rw [ensure_eq_ok_iff, Bool.not_eq_true', Option.isSome_eq_false_iff,
          Option.isNone_iff_eq_none] at htaken
        rw [← hs]
        exact htaken
      apply accounts_keeping
        (KeepsEvidence.writeWorkspace fun _ => keepsMail_persistMessageMetadata _ _) hs
      intro _ history s hs
      apply accounts_keeping (KeepsEvidence.mergeDelivery? _ _ _) hs
      intro _ history s hs
      apply accounts_keeping (KeepsEvidence.disposeImported _ _ _) hs
      intro _ history s hs
      have hadded : AddsMail input.rawEml w (s.workspace.writeEml
          (parser.stableMessageId input.rawEml offset) input.rawEml parsed.messageId) :=
        hs.adds (addsMail_writeEml ((hs _).trans hfree))
      refine ⟨.inr ⟨hnew, hadded⟩, ?_⟩
      have hcached := hadded.keeps (keepsMail_writeMessageMaterializedCache _
        (parser.stableMessageId input.rawEml offset) (some input.direction.asStr))
      refine ⟨.inr ⟨hnew, hcached⟩, ?_⟩
      exact accounts_indexStored ⟨hnew, hcached⟩
    · exact .inl hs

theorem accounts_ingestMessageWith :
    Accounts triageView parser s.index input s.workspace
      (ingestMessageWith triageView parser offset now input) history s := by
  apply wp_then
  apply Program.wp_ofExcept.mpr
  split
  · apply wp_then
    apply Program.wp_read.mpr
    split
    · exact accounts_mergeMessage (KeepsMail.refl _)
    · rename_i hnew
      exact accounts_storeMessageWith hnew (KeepsMail.refl _)
  · exact .inl (KeepsMail.refl _)

end Ingestion

end AgentFirstMail
