import AgentFirstMail.Pull.Evidence
import AgentFirstMail.Pull.Sources

namespace AgentFirstMail
open Effect Ingest

/-- Nothing is stored and nothing is charged. -/
structure Unstored (site site' : Site) : Prop where
  mail : KeepsMail site.workspace site'.workspace
  channel : site'.channelEvidence = site.channelEvidence
  budget : site'.budget = site.budget

/-- Nor do the cursors change. -/
structure Refreshes (site site' : Site) : Prop extends Unstored site site' where
  cursors : site'.cursors = site.cursors

namespace Unstored

theorem refl (site : Site) : Unstored site site := ⟨KeepsMail.refl _, rfl, rfl⟩

theorem trans (site site' site'' : Site) (h : Unstored site site') (h' : Unstored site' site'') :
    Unstored site site'' :=
  ⟨h.mail.trans h'.mail, h'.channel.trans h.channel, h'.budget.trans h.budget⟩

end Unstored

theorem KeepsEvidence.updateRemoteLocationFlags (now messageId : String)
    (envelope : RemoteEnvelope) :
    (updateRemoteLocationFlags now messageId envelope).Writes KeepsEvidence := by
  apply workspace.bind
  intro w
  apply Program.Writes.bind (Program.Writes.ofExcept _)
  intro message
  dsimp only
  split
  · apply (writeWorkspace fun _ => keepsMail_persistMessageMetadata _ _).bind
    intro _
    exact (writeMessageMaterializedCache _ _).bind fun _ => Program.Writes.ret _
  · exact Program.Writes.ret _

theorem KeepsEvidence.restoreRemoteDeletedMessage (now messageId : String)
    (importAs : PullImportAs) :
    (restoreRemoteDeletedMessage now messageId importAs).Writes KeepsEvidence := by
  apply workspace.bind
  intro w
  apply Program.Writes.bind (Program.Writes.ofExcept _)
  intro message
  split
  · exact Program.Writes.ret _
  · apply (writeWorkspace fun w => keepsMail_clearDisposition w _ _).bind
    intro _
    apply (disposeImported _ _ _).bind
    intro _
    apply (writeWorkspace fun _ => keepsMail_persistMessageMetadata _ _).bind
    intro _
    exact (writeMessageMaterializedCache _ _).bind fun _ => Program.Writes.ret _

namespace Refreshes

theorem ingest {program : Ingest α} (h : program.Writes KeepsEvidence) :
    (Pull.ingest program).Writes Refreshes :=
  h.zoom_of fun _ _ hkeeps => ⟨⟨hkeeps, rfl, rfl⟩, rfl⟩

theorem writeWorkspace {change : Workspace → Workspace} (h : ∀ w, KeepsMail w (change w)) :
    (Pull.writeWorkspace change).Writes Refreshes :=
  Program.Writes.write fun _ => ⟨⟨h _, rfl, rfl⟩, rfl⟩

theorem loadIndex (parser : MailParser) : (Pull.loadIndex parser).Writes Refreshes := by
  apply Program.Writes.bind Program.Writes.read
  intro site
  apply Program.Writes.bind (Program.Writes.ofExcept _)
  intro index
  exact Program.Writes.write fun _ => ⟨⟨KeepsMail.refl _, rfl, rfl⟩, rfl⟩

theorem resolveTargets (config : MailConfig) (ids : List String) :
    (resolveTargets config ids).Writes Refreshes := by
  apply Program.Writes.bind (Program.Writes.ofExcept _)
  intro selected
  split
  · exact (Program.Writes.ask _).bind fun _ => Program.Writes.ofExcept _
  · exact Program.Writes.ofExcept _

theorem bodyFetchMode (allowUnbounded : Bool) (targets : List PullTarget) :
    (bodyFetchMode allowUnbounded targets).Writes Refreshes := by
  unfold AgentFirstMail.bodyFetchMode
  split
  · exact Program.Writes.ret _
  · split
    · exact Program.Writes.ret _
    · apply Program.Writes.bind (Program.Writes.ask _)
      intro probe
      split
      · exact Program.Writes.ret _
      · exact Program.Writes.fail _

theorem refreshKnown (host : PullHost) (tally : PullTally) (envelope : RemoteEnvelope) :
    (refreshKnown host tally envelope).Writes Refreshes := by
  apply Program.Writes.bind Program.Writes.read
  intro site
  split
  · exact Program.Writes.ret _
  · exact (ingest (KeepsEvidence.updateRemoteLocationFlags _ _ _)).bind fun _ =>
      Program.Writes.ret _

theorem fetchSizedBody (mailbox : String) (uidValidity : Nat) (mode : BodyFetchMode)
    (batch : BodyFetchBatch) (uid : Nat) (size : Option Nat) :
    (fetchSizedBody mailbox uidValidity mode batch uid size).Writes Refreshes := by
  unfold AgentFirstMail.fetchSizedBody
  split
  · exact Program.Writes.ret _
  · apply Program.Writes.bind (Program.Writes.perform _)
    intro body
    split
    · exact Program.Writes.ret _
    · split
      · exact Program.Writes.ret _
      · exact Program.Writes.ret _

theorem fetchAnswered (mailbox : String) (uidValidity : Nat) (mode : BodyFetchMode)
    (uids : List Nat) (batch : BodyFetchBatch) (fetch : SizeFetch) :
    (fetchAnswered mailbox uidValidity mode uids batch fetch).Writes Refreshes := by
  unfold AgentFirstMail.fetchAnswered
  split
  · exact Program.Writes.ret _
  · split
    · exact Program.Writes.ret _
    · exact fetchSizedBody _ _ _ _ _ _

theorem reconcilePulled (mailboxes : List String) : (reconcilePulled mailboxes).Writes Refreshes := by
  apply Program.Writes.bind (Program.Writes.perform _)
  intro changed
  exact Program.Writes.forEach fun _ _ => writeWorkspace fun _ => keepsMail_persistMessageMetadata _ _

theorem selectMailboxHeaderUids (mailbox : String) (sinceDays : Option Nat)
    (cursor : Option PullCursorView) :
    (selectMailboxHeaderUids mailbox sinceDays cursor).Writes Refreshes := by
  apply Program.Writes.bind (Program.Writes.perform _)
  intro status
  apply Program.Writes.bind
  · unfold searchUids
    split
    · exact Program.Writes.ret _
    · exact Program.Writes.perform _
  · exact fun _ => Program.Writes.ret _

end Refreshes

/-- Only the journal changes. -/
def JournalOnly (site site' : Site) : Prop := ∃ journal, site' = { site with journal }

namespace JournalOnly

theorem refl (site : Site) : JournalOnly site site := ⟨site.journal, rfl⟩

theorem trans (site site' site'' : Site) (h : JournalOnly site site')
    (h' : JournalOnly site' site'') : JournalOnly site site'' := by
  obtain ⟨journal, rfl⟩ := h
  obtain ⟨journal', rfl⟩ := h'
  exact ⟨journal', rfl⟩

theorem unstored {site site' : Site} (h : JournalOnly site site') : Unstored site site' := by
  obtain ⟨journal, rfl⟩ := h
  exact ⟨KeepsMail.refl _, rfl, rfl⟩

theorem epochSeconds : Pull.epochSeconds.Writes JournalOnly :=
  (Program.Writes.ask _).bind fun _ => Program.Writes.ret _

theorem save (journal : Journal) : journal.save.Writes JournalOnly := by
  apply epochSeconds.bind
  intro now
  apply Program.Writes.bind (Program.Writes.write fun _ => ⟨_, rfl⟩)
  exact fun _ => Program.Writes.ret _

theorem saveIfChanged (journal : Journal) (changed : Option Journal) :
    (journal.saveIfChanged changed).Writes JournalOnly := by
  cases changed with
  | none => exact Program.Writes.ret _
  | some changed => exact save changed

theorem acknowledge (source : CloudflareSection) (key : String) (archiveKey : Option String)
    (quotaManaged : Bool) : (acknowledge source key archiveKey quotaManaged).Writes JournalOnly := by
  unfold AgentFirstMail.acknowledge
  split
  · exact Program.Writes.perform _
  · split
    · exact Program.Writes.fail _
    · split
      · exact Program.Writes.perform _
      · exact (Program.Writes.perform _).bind fun _ => Program.Writes.perform _

theorem withdrawTask (contentKey : String) (prepared : Bool) (journal? : Option Journal) :
    (withdrawTask contentKey prepared journal?).Writes JournalOnly := by
  unfold AgentFirstMail.withdrawTask
  split
  · exact Program.Writes.ret _
  · split
    · exact (saveIfChanged _ _).bind fun _ => Program.Writes.ret _
    · exact Program.Writes.ret _

theorem recordImport (objectId : String) (receipt : Int → Receipt) (journal? : Option Journal) :
    (recordImport objectId receipt journal?).Writes JournalOnly := by
  cases journal? with
  | none => exact Program.Writes.ret _
  | some journal =>
    apply epochSeconds.bind
    intro now
    exact (save _).bind fun _ => Program.Writes.ret _

theorem recordCleanup (objectId : String) (journal? : Option Journal) :
    (recordCleanup objectId journal?).Writes JournalOnly := by
  cases journal? with
  | none => exact Program.Writes.ret _
  | some journal => exact (saveIfChanged _ _).bind fun _ => Program.Writes.ret _

theorem attempt {p : Pull α} (h : p.Writes JournalOnly) : p.attempt.Writes JournalOnly :=
  (h.bind fun _ => Program.Writes.ret _).tryCatch fun _ => Program.Writes.ret _

theorem cleanupObject (host : PullHost) (source : CloudflareSection) (key : String)
    (quotaManaged : Bool) (tally : R2Tally) :
    (cleanupObject host source key quotaManaged tally).Writes JournalOnly := by
  apply (attempt (acknowledge _ _ _ _)).bind
  intro cleanup
  split
  · exact Program.Writes.ret _
  · exact (recordCleanup _ _).bind fun _ => Program.Writes.ret _

theorem prepareTask (host : PullHost) (raw : Bytes) (journal? : Option Journal) :
    (prepareTask host raw journal?).Writes JournalOnly := by
  cases journal? with
  | none => exact Program.Writes.ret _
  | some journal =>
    apply Program.Writes.bind
    · apply Program.Writes.bind Program.Writes.read
      intro site
      split
      · exact Program.Writes.ret _
      · exact (save _).bind fun _ => Program.Writes.ret _
    · rintro ⟨journal, prepared⟩
      exact Program.Writes.ret _

theorem loadJournal? (source : CloudflareSection) : (loadJournal? source).Writes JournalOnly := by
  unfold AgentFirstMail.loadJournal?
  split
  · apply Program.Writes.bind _ fun _ => Program.Writes.ret _
    exact Program.Writes.read.bind fun _ => (Program.Writes.ofExcept _).bind fun _ =>
      Program.Writes.ret _
  · exact Program.Writes.ret _

end JournalOnly

namespace Unstored

theorem of_refreshes {p : Pull α} (h : p.Writes Refreshes) : p.Writes Unstored :=
  h.mono fun _ _ hrefreshes => hrefreshes.toUnstored

theorem of_journalOnly {p : Pull α} (h : p.Writes JournalOnly) : p.Writes Unstored :=
  h.mono fun _ _ => JournalOnly.unstored

theorem loadPullCursors : loadPullCursors.Writes Unstored := by
  apply Program.Writes.bind Program.Writes.read
  intro site
  split
  · exact Program.Writes.ret _
  · exact Program.Writes.ret _
  · apply Program.Writes.bind (Program.Writes.write fun _ => ⟨KeepsMail.refl _, rfl, rfl⟩)
    exact fun _ => Program.Writes.ret _

theorem commitPullCursors (now : String) (updates : List PullCursorUpdate)
    (fullReconcile : Bool) : (commitPullCursors now updates fullReconcile).Writes Unstored := by
  unfold AgentFirstMail.commitPullCursors
  split
  · exact Program.Writes.ret _
  · apply loadPullCursors.bind
    rintro ⟨cursors, recovered⟩
    dsimp only
    split
    · exact Program.Writes.fail _
    · exact Program.Writes.write fun _ => ⟨KeepsMail.refl _, rfl, rfl⟩

theorem listObjectsFrom (bucketPrefix : String) (pages : PageLimit) (continuation : Option String)
    (tokens : List String) :
    (listObjectsFrom bucketPrefix pages continuation tokens).Writes Unstored := by
  induction pages generalizing continuation tokens with
  | zero => exact Program.Writes.fail _
  | succ pages ih =>
    apply Program.Writes.bind (Program.Writes.perform _)
    intro page
    split
    · exact Program.Writes.ret _
    · split
      · exact Program.Writes.fail _
      · exact (ih _ _).bind fun _ => Program.Writes.ret _

theorem selectObjects (source : CloudflareSection) (pages : PageLimit)
    (selected : Option (List R2Object)) :
    (selectObjects source pages selected).Writes Unstored := by
  cases selected with
  | none => exact listObjectsFrom _ _ _ _
  | some objects => exact Program.Writes.ret _

theorem readInput (source : FileSource) (path : String) :
    (readInput source path).Writes Unstored :=
  (Program.Writes.perform _).bind fun _ => (Program.Writes.ofExcept _).bind fun _ =>
    Program.Writes.ret _

theorem listInputs (source : FileSource) : (listInputs source).Writes Unstored :=
  (Program.Writes.perform _).bind fun _ => (Program.Writes.ofExcept _).bind fun _ =>
    Program.Writes.ret _

theorem persistChannelMetadata (messageId : String) :
    (persistChannelMetadata messageId).Writes Unstored :=
  of_refreshes (Refreshes.writeWorkspace fun _ => keepsMail_persistMessageMetadata _ _)

end Unstored
end AgentFirstMail
