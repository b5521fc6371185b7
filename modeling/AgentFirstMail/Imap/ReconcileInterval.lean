import AgentFirstMail.Ingest.Deduplication
import AgentFirstMail.Pull.Unstored

namespace AgentFirstMail
open Effect

variable {host : PullHost} {target : PullTarget} {options : PullOptions} {mode : BodyFetchMode}
  {site site' : Site} {history : List PullEvent}

/-- The cursor file is left as it is. -/
def KeepsCursors (site site' : Site) : Prop := site'.cursors = site.cursors

namespace KeepsCursors

theorem refl (site : Site) : KeepsCursors site site := rfl

theorem trans (s s' s'' : Site) (h : KeepsCursors s s') (h' : KeepsCursors s' s'') :
    KeepsCursors s s'' := Eq.trans h' h

theorem ingest (program : Ingest α) : (Pull.ingest program).Writes KeepsCursors :=
  Program.Writes.zoom fun _ _ => rfl

theorem charge (messages bytes : Int) : (Pull.charge messages bytes).Writes KeepsCursors :=
  Program.Writes.write fun _ => rfl

theorem setBudget (options : PullOptions) : (Pull.setBudget options).Writes KeepsCursors :=
  Program.Writes.write fun _ => rfl

theorem of_refreshes {p : Pull α} (h : p.Writes Refreshes) : p.Writes KeepsCursors :=
  h.mono fun _ _ hquiet => hquiet.cursors

theorem admitEnvelope (tallies : PullTally × MailboxTally) (envelope : RemoteEnvelope) :
    (admitEnvelope host tallies envelope).Writes KeepsCursors := by
  apply Program.Writes.bind Program.Writes.read
  intro site
  dsimp only
  split
  · exact (of_refreshes (Refreshes.refreshKnown _ _ _)).bind fun _ => Program.Writes.ret _
  · split
    · exact Program.Writes.ret _
    · exact (charge _ _).bind fun _ => Program.Writes.ret _

theorem admitBatch (mailbox : String) (uidValidity : Nat) (tallies : PullTally × MailboxTally)
    (uids : List Nat) : (admitBatch host mailbox uidValidity tallies uids).Writes KeepsCursors := by
  apply Program.Writes.bind
  · exact (Program.Writes.perform _).bind fun _ => Program.Writes.ret _
  · rintro ⟨envelopes, missing⟩
    exact Program.Writes.gather fun tallies envelope => admitEnvelope tallies envelope

theorem storeFetched (tally : PullTally) (remote : RemoteMessage) :
    (storeFetched host target tally remote).Writes KeepsCursors := by
  apply Program.Writes.bind (ingest _)
  intro outcome
  split
  · apply Program.Writes.bind (charge _ _)
    intro _
    exact (ingest _).bind fun _ => Program.Writes.ret _
  · exact Program.Writes.ret _

theorem receiveFetched (tallies : PullTally × MailboxTally) (remote : RemoteMessage) :
    (receiveFetched host target tallies remote).Writes KeepsCursors := by
  unfold AgentFirstMail.receiveFetched
  split
  · exact Program.Writes.ret _
  · apply Program.Writes.bind Program.Writes.read
    intro site
    dsimp only
    split
    · exact Program.Writes.ret _
    · apply Program.Writes.bind (charge _ _)
      intro _
      exact (storeFetched _ _).bind fun _ => Program.Writes.ret _

theorem receiveBatch (uidValidity : Nat) (tallies : PullTally × MailboxTally) (uids : List Nat) :
    (receiveBatch host target uidValidity mode tallies uids).Writes KeepsCursors := by
  apply Program.Writes.bind
  · apply Program.Writes.bind (Program.Writes.perform _)
    intro sizes
    apply Program.Writes.bind
      (Program.Writes.gather fun batch fetch =>
        of_refreshes (Refreshes.fetchAnswered _ _ _ _ batch fetch))
    intro batch
    exact Program.Writes.ret _
  · intro fetched
    exact Program.Writes.gather fun tallies remote => receiveFetched tallies remote

end KeepsCursors

/-- A mailbox as a pull found it goes by its cursor. -/
def PullCursorFile.usableFor (file : PullCursorFile) (update : PullCursorUpdate) : Bool :=
  (pullCursorForTarget file.mailboxes
    ⟨update.mailboxId, update.mailboxName, .triage, .inbound⟩).any
    (·.uidValidity == update.uidValidity)

/-- A folder was searched without going by the UIDs seen before. -/
def SearchedInFull (events : List PullEvent) (mailbox : String) : Prop :=
  ∃ event ∈ events, ∃ query, event.request = .uidSearch mailbox query ∧ query.full = true

theorem SearchedInFull.mono {events events' : List PullEvent} {mailbox : String}
    (h : SearchedInFull events mailbox) (hmore : events <+: events') :
    SearchedInFull events' mailbox := by
  obtain ⟨event, hmem, hquery⟩ := h
  exact ⟨event, hmore.subset hmem, hquery⟩

theorem headerQuery_full {sinceDays : Option Nat} {cursor : Option PullCursorView}
    {uidValidity : Nat} (h : (cursor.filter (·.uidValidity == uidValidity)).isSome = false) :
    ∃ query, headerQuery sinceDays cursor uidValidity = some query ∧ query.full = true := by
  unfold headerQuery
  rw [Option.isSome_eq_false_iff, Option.isNone_iff_eq_none] at h
  dsimp only
  rw [h]
  split
  · rename_i heq
    cases heq
  · split
    · exact ⟨_, rfl, rfl⟩
    · exact ⟨_, rfl, rfl⟩

/-- What a pull knows of the mailboxes it has gone through. -/
structure PullSurveyed (file : PullCursorFile) (start : Bool) (done : List PullTarget)
    (survey : PullSurvey) (events : List PullEvent) : Prop where
  mailboxes : survey.cursorUpdates.map (fun update => (update.mailboxId, update.mailboxName)) =
    done.map fun target => (target.id, target.mailbox)
  scanned : ∀ update ∈ survey.cursorUpdates, file.usableFor update = false →
    SearchedInFull events update.mailboxName
  incremental : survey.allTargetsUsedIncremental =
    (start && survey.cursorUpdates.all file.usableFor)

theorem PullSurveyed.note {file : PullCursorFile} {start : Bool} {done : List PullTarget}
    {survey : PullSurvey} {history' : List PullEvent} {selection : MailboxHeaderSelection}
    (h : PullSurveyed file start done survey history) (hmore : history <+: history')
    (hused : selection.cursorUsed = (pullCursorForTarget file.mailboxes target).any
      (·.uidValidity == selection.uidValidity))
    (hscanned : selection.cursorUsed = false → SearchedInFull history' target.mailbox)
    (highestUid : Nat) :
    PullSurveyed file start (done ++ [target]) (survey.note target selection highestUid) history' where
  mailboxes := by
    unfold PullSurvey.note
    rw [List.map_append, List.map_append, h.mailboxes]
    rfl
  scanned := by
    intro update hupdate hunused
    rcases List.mem_append.mp hupdate with hbefore | hlast
    · exact (h.scanned update hbefore hunused).mono hmore
    · rw [List.mem_singleton.mp hlast] at hunused ⊢
      exact hscanned (hused.trans hunused)
  incremental := by
    unfold PullSurvey.note
    rw [List.all_append, h.incremental, hused, Bool.and_assoc, List.all_cons, List.all_nil,
      Bool.and_true]
    rfl

section Survey

variable {file : PullCursorFile} {inv : SiteFact}
  (hkept : ∀ history (site : Site), site.cursors.mailboxes = file.mailboxes → inv history site)

include hkept

theorem wp_keepsCursors {p : Pull α}
    {post : α → SiteFact}
    (hsite : site.cursors.mailboxes = file.mailboxes) (hp : p.Writes KeepsCursors)
    (hpost : ∀ value history' site', history <+: history' → site'.cursors = site.cursors →
      post value history' site') :
    p.wp inv post (fun _ => inv) history site := by
  have hinv (history' : List PullEvent) (site' : Site) (h : KeepsCursors site site') :
      inv history' site' := by
    apply hkept
    rw [show site'.cursors = site.cursors from h]
    exact hsite
  exact hp.wp KeepsCursors.refl KeepsCursors.trans (fun _ _ _ h => hinv _ _ h) hpost
    (fun _ _ _ _ h => hinv _ _ h)

/-- A mailbox that is not gone through by its cursor is searched in full. -/
theorem wp_selectMailboxHeaderUids {mailbox : String} {sinceDays : Option Nat}
    {cursor : Option PullCursorView} (hsite : site.cursors.mailboxes = file.mailboxes) :
    (selectMailboxHeaderUids mailbox sinceDays cursor).wp inv
      (fun selection history' site' => site' = site ∧ history <+: history' ∧
        selection.cursorUsed = cursor.any (·.uidValidity == selection.uidValidity) ∧
        (selection.cursorUsed = false → SearchedInFull history' mailbox))
      (fun _ => inv) history site := by
  refine ⟨hkept _ _ hsite, fun reply => ⟨hkept _ _ hsite, ?_⟩⟩
  cases reply with
  | error error => exact hkept _ _ hsite
  | ok status =>
    generalize hhistory : history ++ [_] = asked
    have hasked : history <+: asked := hhistory ▸ List.prefix_append _ _
    have hused : (cursor.filter (·.uidValidity == Option.getD status 0)).isSome =
        cursor.any (·.uidValidity == Option.getD status 0) := by
      cases cursor with
      | none => rfl
      | some view =>
        rw [Option.filter_some]
        cases hview : view.uidValidity == Option.getD status 0 <;> simp [hview]
    change Program.wp _ _ _ (Program.bind (searchUids mailbox
      (headerQuery sinceDays cursor (Option.getD status 0))) _) asked site
    cases hquery : headerQuery sinceDays cursor (Option.getD status 0) with
    | none =>
      refine ⟨rfl, hasked, hused, ?_⟩
      intro hunused
      obtain ⟨query, heq, _⟩ := headerQuery_full hunused
      rw [hquery] at heq
      cases heq
    | some query =>
      refine ⟨hkept _ _ hsite, fun reply => ⟨hkept _ _ hsite, ?_⟩⟩
      cases reply with
      | error error => exact hkept _ _ hsite
      | ok found =>
        refine ⟨rfl, hasked.trans (List.prefix_append _ _), hused, ?_⟩
        intro hunused
        obtain ⟨query', heq, hfull⟩ := headerQuery_full hunused
        rw [hquery] at heq
        cases heq
        exact ⟨_, List.mem_append_right _ List.mem_cons_self, query, rfl, hfull⟩

theorem PullSurveyed.step {start : Bool} {done : List PullTarget} {report : PullReport}
    (h : PullSurveyed file start done report.survey history)
    (hsite : site.cursors.mailboxes = file.mailboxes) :
    (pullTargetMailbox host options mode file.mailboxes report target).wp inv
      (fun report' history' site' => site'.cursors.mailboxes = file.mailboxes ∧
        PullSurveyed file start (done ++ [target]) report'.survey history')
      (fun _ => inv) history site := by
  apply Program.wp_seq (wp_selectMailboxHeaderUids hkept hsite)
  rintro selection selected site' ⟨rfl, hselected, hused, hscanned⟩
  apply wp_then
  apply wp_keepsCursors hkept hsite
    (Program.Writes.gather fun tallies uids => KeepsCursors.admitBatch _ _ tallies uids)
  intro admitted history' site₁ hadmitted hcursors
  rw [← hcursors] at hsite
  apply wp_then
  apply wp_keepsCursors hkept hsite
    (Program.Writes.gather fun tallies uids => KeepsCursors.receiveBatch _ tallies uids)
  intro received history'' site₂ hreceived hcursors'
  rw [← hcursors'] at hsite
  have hmore := hadmitted.trans hreceived
  refine ⟨hsite, h.note (hselected.trans hmore) hused ?_ _⟩
  exact fun hunused => (hscanned hunused).mono hmore

theorem wp_loadPullCursors (hsite : site.cursors.mailboxes = file.mailboxes) :
    loadPullCursors.wp inv
      (fun loaded history' site' => history' = history ∧ loaded.1 = file.mailboxes ∧
        site'.cursors.mailboxes = file.mailboxes)
      (fun _ => inv) history site := by
  rw [← hsite]
  dsimp only [loadPullCursors, Pull.read, Program.read, Program.bind_eq, Program.bind, Program.wp]
  split
  · rename_i hcursors
    exact ⟨rfl, by rw [hcursors]; rfl, rfl⟩
  · rename_i mailboxes hcursors
    exact ⟨rfl, by rw [hcursors]; rfl, rfl⟩
  · rename_i reason hcursors
    have hmissing : (PullCursorFile.missing).mailboxes = site.cursors.mailboxes := by
      rw [hcursors]
      rfl
    exact ⟨hkept _ _ (hmissing.trans hsite), rfl, hmissing.symm ▸ rfl, hmissing⟩

theorem wp_pullWorkspaceSession (targets : List PullTarget)
    (hsite : site.cursors.mailboxes = file.mailboxes) :
    (pullWorkspaceSession host targets options mode).wp inv
      (fun report history' site' => site'.cursors.mailboxes = file.mailboxes ∧
        PullSurveyed file (!targets.isEmpty) targets report.survey history')
      (fun _ => inv) history site := by
  apply wp_then
  apply wp_keepsCursors hkept hsite (KeepsCursors.of_refreshes (Refreshes.loadIndex _))
  intro _ history₁ site₁ _ hcursors
  rw [← hcursors] at hsite
  apply wp_then
  apply wp_keepsCursors hkept hsite (KeepsCursors.setBudget _)
  intro _ history₂ site₂ _ hcursors
  rw [← hcursors] at hsite
  apply Program.wp_seq (wp_loadPullCursors hkept hsite)
  rintro ⟨cursors, recovered⟩ history₃ site₃ ⟨rfl, rfl, hsite⟩
  apply Program.wp_gather fun done (report : PullReport) history (site : Site) =>
    site.cursors.mailboxes = file.mailboxes ∧
      PullSurveyed file (!targets.isEmpty) done report.survey history
  · refine ⟨hsite, rfl, ?_, ?_⟩
    · exact fun update hupdate => (List.not_mem_nil hupdate).elim
    · exact (Bool.and_true _).symm
  · rintro done target rest report history site _ ⟨hsite, hsurveyed⟩
    exact hsurveyed.step hkept hsite

end Survey

/-- The reconciliation of the pulled folders was answered. -/
def ReconcileAnswered (events : List PullEvent) : Prop :=
  ∃ event ∈ events, ∃ mailboxes, event.request = .reconcileRemoteMissing mailboxes ∧
    event.Answered

theorem ReconcileAnswered.mono {events events' : List PullEvent} (h : ReconcileAnswered events)
    (hmore : events <+: events') : ReconcileAnswered events' := by
  obtain ⟨event, hmem, hevent⟩ := h
  exact ⟨event, hmore.subset hmem, hevent⟩

/-- The cursor file has been replaced by what a pull found. -/
def Committed (now : String) (file : PullCursorFile) (survey : PullSurvey) (site : Site) : Prop :=
  site.cursors.mailboxes =
    file.mailboxes.commit survey.cursorUpdates (!survey.allTargetsUsedIncremental) now

/-- Where a pull has come to: the cursors are as they were, or they are those of its survey. -/
def PullProgress (now : String) (file : PullCursorFile) (events : List PullEvent) (site : Site) :
    Prop :=
  site.cursors.mailboxes = file.mailboxes ∨
    ∃ survey targets, PullSurveyed file (!targets.isEmpty) targets survey events ∧
      ReconcileAnswered events ∧ Committed now file survey site

theorem PullSurveyed.mono {file : PullCursorFile} {start : Bool} {done : List PullTarget}
    {survey : PullSurvey} {history' : List PullEvent}
    (h : PullSurveyed file start done survey history) (hmore : history <+: history') :
    PullSurveyed file start done survey history' where
  mailboxes := h.mailboxes
  scanned := fun update hupdate hunused => (h.scanned update hupdate hunused).mono hmore
  incremental := h.incremental

section Commit

variable {file : PullCursorFile} {now : String}

theorem wp_reconcilePulled (mailboxes : List String)
    (hsite : site.cursors.mailboxes = file.mailboxes) :
    (reconcilePulled mailboxes).wp (PullProgress now file)
      (fun _ history' site' => site'.cursors.mailboxes = file.mailboxes ∧ history <+: history' ∧
        ReconcileAnswered history')
      (fun _ => PullProgress now file) history site := by
  refine ⟨.inl hsite, fun reply => ⟨.inl hsite, ?_⟩⟩
  cases reply with
  | error error => exact .inl hsite
  | ok changed =>
    have hwrites : (Program.forEach changed fun entry =>
        Pull.writeWorkspace (·.persistMessageMetadata entry.1 (some entry.2) none)).Writes
          KeepsCursors :=
      Program.Writes.forEach fun _ _ => Program.Writes.write fun _ => rfl
    apply wp_keepsCursors (fun _ _ h => .inl h) hsite hwrites
    intro _ history' site' hmore hcursors
    refine ⟨hcursors ▸ hsite, (List.prefix_append _ _).trans hmore, ?_⟩
    exact ⟨_, hmore.subset (List.mem_append_right _ List.mem_cons_self), mailboxes, rfl, changed, rfl⟩

theorem wp_commitPullCursors {targets : List PullTarget} {survey : PullSurvey}
    (hsite : site.cursors.mailboxes = file.mailboxes)
    (hsurveyed : PullSurveyed file (!targets.isEmpty) targets survey history)
    (hreconciled : ReconcileAnswered history) :
    (commitPullCursors now survey.cursorUpdates (!survey.allTargetsUsedIncremental)).wp
      (PullProgress now file)
      (fun _ history' site' => history' = history ∧ Committed now file survey site')
      (fun _ => PullProgress now file) history site := by
  unfold commitPullCursors
  split
  · rename_i hempty
    refine ⟨rfl, ?_⟩
    unfold Committed
    rw [List.isEmpty_iff.mp hempty, hsite]
    rfl
  · apply Program.wp_seq (wp_loadPullCursors (fun _ _ h => .inl h) hsite)
    rintro ⟨cursors, recovered⟩ history' site' ⟨rfl, rfl, hsite⟩
    dsimp only
    split
    · exact .inl hsite
    · exact ⟨.inr ⟨survey, targets, hsurveyed, hreconciled, rfl⟩, rfl, rfl⟩

end Commit

theorem wp_pullWithProgress {config : MailConfig} {allowUnbounded : Bool} {ids : List String}
    {file : PullCursorFile} (hsite : site.cursors.mailboxes = file.mailboxes) :
    (pullWithProgress host config allowUnbounded ids options).wp (PullProgress host.now file)
      (fun report history' site' =>
        ∃ targets, PullSurveyed file (!targets.isEmpty) targets report.survey history' ∧
          Committed host.now file report.survey site')
      (fun _ => PullProgress host.now file) history site := by
  have hkept (history : List PullEvent) (site : Site)
      (h : site.cursors.mailboxes = file.mailboxes) : PullProgress host.now file history site :=
    .inl h
  apply wp_then
  apply wp_keepsCursors hkept hsite (KeepsCursors.of_refreshes (Refreshes.resolveTargets _ _))
  intro targets history₁ site₁ _ hcursors
  rw [← hcursors] at hsite
  apply wp_then
  apply wp_keepsCursors hkept hsite (KeepsCursors.of_refreshes (Refreshes.bodyFetchMode _ _))
  intro mode history₂ site₂ _ hcursors
  rw [← hcursors] at hsite
  apply Program.wp_seq (wp_pullWorkspaceSession hkept targets hsite)
  rintro report history₃ site₃ ⟨hsite, hsurveyed⟩
  apply Program.wp_seq (wp_reconcilePulled _ hsite)
  rintro _ history₄ site₄ ⟨hsite, hmore, hreconciled⟩
  have hsurveyed := hsurveyed.mono hmore
  apply Program.wp_seq (wp_commitPullCursors hsite hsurveyed hreconciled)
  rintro _ history₅ site₅ ⟨rfl, hcommitted⟩
  have hprogress (event : PullEvent) : PullProgress host.now file (history₅ ++ [event]) site₅ := by
    have hmore := List.prefix_append history₅ [event]
    exact .inr ⟨_, targets, hsurveyed.mono hmore, hreconciled.mono hmore, hcommitted⟩
  refine ⟨hprogress _, fun reply => ⟨hprogress _, ?_⟩⟩
  cases reply with
  | error error => exact hprogress _
  | ok value => exact ⟨targets, hsurveyed.mono (List.prefix_append _ _), hcommitted⟩

/-- One pull of a run: what it was asked to do, what happened, and what it found and left. -/
structure ImapPull where
  host : PullHost
  config : MailConfig
  allowUnbounded : Bool
  ids : List String
  options : PullOptions
  before : Site
  events : List PullEvent
  outcome : Outcome AppError PullReport
  after : Site

namespace ImapPull
variable (pull : ImapPull)

def Runs : Prop :=
  Exec (pullWithProgress pull.host pull.config pull.allowUnbounded pull.ids pull.options)
    pull.before pull.events pull.outcome pull.after

/-- What a pull that succeeded found of the cursors. -/
def survey? : Option PullSurvey :=
  match pull.outcome with
  | .returned report => some report.survey
  | _ => none

/-- The pull succeeded, and the mailbox was among those it pulled. -/
def succeeds (mailboxId : String) : Bool :=
  pull.survey?.any fun survey => survey.cursorUpdates.any (·.mailboxId == mailboxId)

/-- The pull succeeded, and it searched the folder of the mailbox in full. -/
def ScansInFull (mailboxId : String) : Prop :=
  ∃ survey, pull.survey? = some survey ∧ ∃ update ∈ survey.cursorUpdates,
    update.mailboxId = mailboxId ∧ SearchedInFull pull.events update.mailboxName

/-- When the turn of a mailbox to be scanned is kept: a pull goes by its cursor only together
with every other cursor, and never when it has gone by it nine times; and a pull that stops
after its reconciliation was answered has searched nothing in full. -/
structure KeepsTurn (mailboxId : String) : Prop where
  together : ∀ survey ∈ pull.survey?, ∀ update ∈ survey.cursorUpdates,
    update.mailboxId = mailboxId → pull.before.cursors.usableFor update = true →
    ∀ other ∈ survey.cursorUpdates, pull.before.cursors.usableFor other = true
  ninth : ∀ survey ∈ pull.survey?, ∀ update ∈ survey.cursorUpdates,
    update.mailboxId = mailboxId →
    pull.before.cursors.mailboxes[mailboxId]?.map (·.pullCountSinceFullReconcile) = some 9 →
    pull.before.cursors.usableFor update = false
  finished : pull.survey? = none → ReconcileAnswered pull.events →
    ∀ mailbox, ¬SearchedInFull pull.events mailbox

end ImapPull

/-- Successive pulls: whatever else happens in between, nothing else writes the cursor file. -/
def Follow : PullCursorFile → List ImapPull → Prop
  | _, [] => True
  | file, pull :: rest => pull.before.cursors = file ∧ pull.Runs ∧ Follow pull.after.cursors rest

/-- A cursor of the mailbox has gone by at least so many pulls. -/
def Waited (file : PullCursorFile) (mailboxId : String) (count : Nat) : Prop :=
  ∀ cursor, file.mailboxes[mailboxId]? = some cursor → count ≤ cursor.pullCountSinceFullReconcile

theorem usableFor_cursor {file : PullCursorFile} {update : PullCursorUpdate}
    (h : file.usableFor update = true) :
    ∃ cursor, file.mailboxes[update.mailboxId]? = some cursor ∧
      cursor.pullCountSinceFullReconcile < fullReconcileInterval := by
  unfold PullCursorFile.usableFor at h
  obtain ⟨view, hview, _⟩ := (Option.any_eq_true _ _).mp h
  exact pullCursorForTarget_isSome (Option.isSome_of_mem hview)

theorem Follow.drop {file : PullCursorFile} {before after : List ImapPull}
    (h : Follow file (before ++ after)) : ∃ file', Follow file' after := by
  induction before generalizing file with
  | nil => exact ⟨file, h⟩
  | cons pull rest ih => exact ih h.2.2

theorem Follow.take {file : PullCursorFile} {before after : List ImapPull}
    (h : Follow file (before ++ after)) : Follow file before := by
  induction before generalizing file with
  | nil => trivial
  | cons pull rest ih => exact ⟨h.1, h.2.1, ih h.2.2⟩

section Turn

variable {pull : ImapPull} {mailboxId : String} {count : Nat}

theorem Waited.countedTo {file : PullCursorFile} {update : PullCursorUpdate}
    (h : Waited file update.mailboxId count) (husable : file.usableFor update = true) :
    file.mailboxes.CountedTo update.mailboxId count := by
  obtain ⟨cursor, hcursor, _⟩ := usableFor_cursor husable
  exact ⟨cursor, hcursor, h cursor hcursor⟩

theorem Waited.of_countedTo {file : PullCursorFile} (h : file.mailboxes.CountedTo mailboxId count) :
    Waited file mailboxId count := by
  intro cursor hcursor
  obtain ⟨other, hother, hcount⟩ := h
  rw [hcursor] at hother
  cases hother
  exact hcount

theorem ImapPull.sound (hruns : pull.Runs) :
    PullProgress pull.host.now pull.before.cursors pull.events pull.after ∧
      pull.outcome.Meets (fun report events site =>
        ∃ targets, PullSurveyed pull.before.cursors (!targets.isEmpty) targets report.survey events ∧
          Committed pull.host.now pull.before.cursors report.survey site)
        (fun _ => PullProgress pull.host.now pull.before.cursors) pull.events pull.after := by
  have hstart : PullProgress pull.host.now pull.before.cursors [] pull.before := .inl rfl
  exact Program.wp_sound hruns hstart (wp_pullWithProgress rfl)

theorem ImapPull.surveyed (hruns : pull.Runs) {survey : PullSurvey}
    (hsurvey : pull.survey? = some survey) :
    ∃ targets, PullSurveyed pull.before.cursors (!targets.isEmpty) targets survey pull.events ∧
      Committed pull.host.now pull.before.cursors survey pull.after := by
  have hmeets := (ImapPull.sound hruns).2
  unfold survey? at hsurvey
  cases houtcome : pull.outcome with
  | returned report =>
    rw [houtcome] at hsurvey hmeets
    cases hsurvey
    exact hmeets
  | failed error =>
    rw [houtcome] at hsurvey
    cases hsurvey
  | crashed =>
    rw [houtcome] at hsurvey
    cases hsurvey

theorem PullSurveyed.commit_eq {file : PullCursorFile} {targets : List PullTarget}
    {survey : PullSurvey} {events : List PullEvent} {now : String} {site : Site}
    (h : PullSurveyed file (!targets.isEmpty) targets survey events)
    (husable : ∀ update ∈ survey.cursorUpdates, file.usableFor update = true)
    (hcommitted : Committed now file survey site) :
    site.cursors.mailboxes = file.mailboxes.commit survey.cursorUpdates false now := by
  unfold Committed at hcommitted
  rw [hcommitted]
  cases htargets : targets with
  | nil =>
    have hnone := h.mailboxes
    rw [htargets] at hnone
    rw [List.map_eq_nil_iff.mp hnone]
    rfl
  | cons target rest =>
    have hall := h.incremental
    rw [htargets, List.all_eq_true.mpr husable] at hall
    rw [hall]
    rfl

theorem PullSurveyed.waited {file : PullCursorFile} {targets : List PullTarget}
    {survey : PullSurvey} {events : List PullEvent} {now : String} {site : Site}
    (h : PullSurveyed file (!targets.isEmpty) targets survey events)
    (husable : ∀ update ∈ survey.cursorUpdates, file.usableFor update = true)
    (hcommitted : Committed now file survey site) (hcount : count ≤ 9)
    (hwaited : Waited file mailboxId count) : Waited site.cursors mailboxId count := by
  have hcommit := h.commit_eq husable hcommitted
  by_cases hmem : ∃ update ∈ survey.cursorUpdates, update.mailboxId = mailboxId
  · obtain ⟨update, hupdate, rfl⟩ := hmem
    have hcounted := hwaited.countedTo (husable update hupdate)
    have hkept : PullCursors.CountedTo (file.mailboxes.commit survey.cursorUpdates false now)
        update.mailboxId count :=
      hcounted.keep_all (Nat.le_trans hcount (by decide)) survey.cursorUpdates
    rw [← hcommit] at hkept
    exact .of_countedTo hkept
  · intro cursor hcursor
    rw [hcommit, PullCursors.getElem?_commit fun update hupdate heq =>
      hmem ⟨update, hupdate, heq⟩] at hcursor
    exact hwaited cursor hcursor

/-- A pull that went by the cursor of the mailbox has counted. -/
theorem ImapPull.counts (hruns : pull.Runs) (hkeeps : pull.KeepsTurn mailboxId)
    (hsucceeds : pull.succeeds mailboxId = true) (hscans : ¬pull.ScansInFull mailboxId)
    (hwaited : Waited pull.before.cursors mailboxId count) :
    count ≤ 8 ∧ Waited pull.after.cursors mailboxId (count + 1) := by
  obtain ⟨survey, hsurvey, hany⟩ := (Option.any_eq_true _ _).mp hsucceeds
  obtain ⟨update, hupdate, hid⟩ := List.any_eq_true.mp hany
  rw [beq_iff_eq] at hid
  subst hid
  obtain ⟨targets, hsurveyed, hcommitted⟩ := ImapPull.surveyed hruns hsurvey
  have husable : pull.before.cursors.usableFor update = true := by
    cases hunused : pull.before.cursors.usableFor update with
    | true => rfl
    | false => exact (hscans ⟨survey, hsurvey, update, hupdate, rfl,
        hsurveyed.scanned update hupdate hunused⟩).elim
  have hall := hkeeps.together survey hsurvey update hupdate rfl husable
  obtain ⟨cursor, hcursor, hlimit⟩ := usableFor_cursor husable
  have hnotNine : cursor.pullCountSinceFullReconcile ≠ 9 := by
    intro hnine
    have hunused := hkeeps.ninth survey hsurvey update hupdate rfl
      (by rw [hcursor, Option.map_some, hnine])
    rw [husable] at hunused
    cases hunused
  have hcount := hwaited cursor hcursor
  have hle : count ≤ 8 := by
    unfold fullReconcileInterval at hlimit
    omega
  refine ⟨hle, .of_countedTo ?_⟩
  rw [hsurveyed.commit_eq hall hcommitted]
  exact (hwaited.countedTo husable).commit (Nat.lt_of_le_of_lt hle (by decide))
    (List.mem_map_of_mem hupdate)

/-- Any other pull has not restarted the count. -/
theorem ImapPull.waits (hruns : pull.Runs) (hkeeps : pull.KeepsTurn mailboxId)
    (hcount : count ≤ 9) (hsucceeds : pull.succeeds mailboxId = false)
    (hwaited : Waited pull.before.cursors mailboxId count) :
    Waited pull.after.cursors mailboxId count := by
  cases hsurvey : pull.survey? with
  | some survey =>
    obtain ⟨targets, hsurveyed, hcommitted⟩ := ImapPull.surveyed hruns hsurvey
    intro cursor hcursor
    unfold succeeds at hsucceeds
    rw [hsurvey, Option.any_some, List.any_eq_false] at hsucceeds
    unfold Committed at hcommitted
    rw [hcommitted, PullCursors.getElem?_commit fun update hupdate heq =>
      hsucceeds update hupdate (beq_iff_eq.mpr heq)] at hcursor
    exact hwaited cursor hcursor
  | none =>
    rcases (ImapPull.sound hruns).1 with hsame | ⟨survey, targets, hsurveyed, hreconciled, hcommitted⟩
    · intro cursor hcursor
      rw [hsame] at hcursor
      exact hwaited cursor hcursor
    · apply hsurveyed.waited _ hcommitted hcount hwaited
      intro update hupdate
      cases hunused : pull.before.cursors.usableFor update with
      | true => rfl
      | false =>
        exact (hkeeps.finished hsurvey hreconciled _
          (hsurveyed.scanned update hupdate hunused)).elim

end Turn

theorem length_succeeds_le {file : PullCursorFile} {pulls : List ImapPull} {mailboxId : String}
    {count : Nat} (hfollow : Follow file pulls) (hkeep : ∀ pull ∈ pulls, pull.KeepsTurn mailboxId)
    (hscans : ∀ pull ∈ pulls, pull.succeeds mailboxId = true → ¬pull.ScansInFull mailboxId)
    (hcount : count ≤ 9) (hwaited : Waited file mailboxId count) :
    count + (pulls.filter (·.succeeds mailboxId)).length ≤ 9 := by
  induction pulls generalizing file count with
  | nil => exact hcount
  | cons pull rest ih =>
    obtain ⟨rfl, hruns, hrest⟩ := hfollow
    obtain ⟨hpull, hkeepRest⟩ := List.forall_mem_cons.mp hkeep
    obtain ⟨hscan, hscanRest⟩ := List.forall_mem_cons.mp hscans
    cases hsucceeds : pull.succeeds mailboxId with
    | true =>
      obtain ⟨hle, hcounted⟩ := ImapPull.counts hruns hpull hsucceeds (hscan hsucceeds) hwaited
      have hlength := ih hrest hkeepRest hscanRest (Nat.succ_le_succ hle) hcounted
      rw [List.filter_cons, if_pos hsucceeds, List.length_cons]
      omega
    | false =>
      rw [List.filter_cons, if_neg (hsucceeds ▸ Bool.false_ne_true)]
      exact ih hrest hkeepRest hscanRest hcount
        (ImapPull.waits hruns hpull hcount hsucceeds hwaited)

/-- Among any ten successive successful pulls of a mailbox, one scans it in full, as long as its
turn is kept. -/
theorem scansInFull_within_ten {file : PullCursorFile} {before stretch after : List ImapPull}
    {mailboxId : String} (hfollow : Follow file (before ++ stretch ++ after))
    (hkeep : ∀ pull ∈ before ++ stretch ++ after, pull.KeepsTurn mailboxId)
    (hten : 10 ≤ (stretch.filter (·.succeeds mailboxId)).length) :
    ∃ pull ∈ stretch, pull.ScansInFull mailboxId := by
  obtain ⟨start, hstretch⟩ := (hfollow.take).drop
  by_contra hnone
  have hscans : ∀ pull ∈ stretch, pull.succeeds mailboxId = true →
      ¬pull.ScansInFull mailboxId := fun pull hpull _ hscan => hnone ⟨pull, hpull, hscan⟩
  have hle := length_succeeds_le hstretch (fun pull hpull =>
    hkeep pull (List.mem_append_left _ (List.mem_append_right _ hpull))) hscans (Nat.zero_le 9)
    fun _ _ => Nat.zero_le _
  omega

/-- A server with two folders and no mail. -/
def emptyServer (_ : Unit) (request : PullRequest) : Except AppError request.Reply × Unit :=
  match request with
  | .listMailboxes =>
    (.ok [{ name := "INBOX" }, { name := "Archive", attributes := ["\\Archive"] }], ())
  | .probePartialFetch _ => (.ok (), ())
  | .examine _ => (.ok (some 1), ())
  | .uidSearch _ _ => (.ok [], ())
  | .reconcileRemoteMissing _ => (.ok [], ())
  | .renderRefresh => (.ok (), ())
  | _ => (.error { errorCode := "imap_fetch_failed", message := "no mail" }, ())

def zeroDigest : Blake3 where
  ofJson _ := List.replicate 32 0
  ofScope _ _ _ _ := List.replicate 32 0
  length_ofJson _ := rfl
  length_ofScope _ _ _ _ := rfl

def plainPullHost : PullHost where
  parser := headerlessParser
  blake3 := zeroDigest
  triageView _ := .ok ()
  timezoneOffset := 0
  now := "2024-01-01T00:00:00Z"

/-- A pull of some mailboxes from that server. -/
def pullFromEmpty (ids : List String) (before : Site) : ImapPull :=
  let trace := (pullWithProgress plainPullHost MailConfig.default true ids {}).trace emptyServer
    before ()
  ⟨plainPullHost, MailConfig.default, true, ids, {}, before, trace.events, trace.outcome,
    trace.state⟩

/-- Pulls one after another, each of its own mailboxes. -/
def pullsFromEmpty : List (List String) → Site → List ImapPull
  | [], _ => []
  | ids :: rest, before =>
    pullFromEmpty ids before :: pullsFromEmpty rest (pullFromEmpty ids before).after

theorem follow_pullsFromEmpty (selections : List (List String)) (before : Site) :
    Follow before.cursors (pullsFromEmpty selections before) := by
  induction selections generalizing before with
  | nil => trivial
  | cons ids rest ih => exact ⟨rfl, Program.trace_exec _ _ _ _, ih _⟩

def both : List String := ["inbox", "archive"]

/-- All that a turn asks, of a pull that returned. -/
def ImapPull.keepsTurn (pull : ImapPull) (mailboxId : String) : Bool :=
  pull.survey?.any fun survey => survey.cursorUpdates.all fun update =>
    update.mailboxId != mailboxId || (!pull.before.cursors.usableFor update ||
      survey.cursorUpdates.all pull.before.cursors.usableFor) &&
    (pull.before.cursors.mailboxes[mailboxId]?.map (·.pullCountSinceFullReconcile) != some 9 ||
      !pull.before.cursors.usableFor update)

theorem ImapPull.keepsTurn_sound {pull : ImapPull} {mailboxId : String}
    (h : pull.keepsTurn mailboxId = true) : pull.KeepsTurn mailboxId := by
  obtain ⟨survey, hsurvey, hall⟩ := (Option.any_eq_true _ _).mp h
  rw [List.all_eq_true] at hall
  simp only [Bool.or_eq_true, bne_iff_ne, Bool.and_eq_true, Bool.not_eq_true'] at hall
  constructor
  · intro survey' hmem update hupdate hid husable
    rw [hsurvey] at hmem
    cases hmem
    rcases hall update hupdate with hother | ⟨hunused | htogether, _⟩
    · exact (hother hid).elim
    · rw [husable] at hunused
      cases hunused
    · exact List.all_eq_true.mp htogether
  · intro survey' hmem update hupdate hid hnine
    rw [hsurvey] at hmem
    cases hmem
    rcases hall update hupdate with hother | ⟨_, hearlier | hunused⟩
    · exact (hother hid).elim
    · exact (hearlier hnine).elim
    · exact hunused
  · intro hnone
    rw [hsurvey] at hnone
    cases hnone

def neverPulled : Site := { workspace := freshWorkspace }

/-- Ten pulls of both mailboxes, the first of which has no cursor to go by. -/
theorem scansInFull_within_ten_pullsOfBoth :
    ∃ pull ∈ pullsFromEmpty (List.replicate 10 both) neverPulled, pull.ScansInFull "archive" := by
  have hchecked : (pullsFromEmpty (List.replicate 10 both) neverPulled).all
      (·.keepsTurn "archive") = true := by decide +kernel
  have hten : 10 ≤ ((pullsFromEmpty (List.replicate 10 both) neverPulled).filter
      (·.succeeds "archive")).length := by decide +kernel
  have hfollow := follow_pullsFromEmpty (List.replicate 10 both) neverPulled
  rw [← List.append_nil (pullsFromEmpty _ _), ← List.nil_append (pullsFromEmpty _ _)] at hfollow
  refine scansInFull_within_ten hfollow ?_ hten
  rw [List.nil_append, List.append_nil]
  exact fun pull hpull => ImapPull.keepsTurn_sound (List.all_eq_true.mp hchecked pull hpull)

/-- Whether a pull searched a folder of the mailbox in full. -/
def ImapPull.scansInFull (pull : ImapPull) (mailboxId : String) : Bool :=
  pull.survey?.any fun survey => survey.cursorUpdates.any fun update =>
    update.mailboxId == mailboxId && pull.events.any fun event =>
      match event.request with
      | .uidSearch mailbox query => mailbox == update.mailboxName && query.full
      | _ => false

theorem ImapPull.ScansInFull.scansInFull {pull : ImapPull} {mailboxId : String}
    (h : pull.ScansInFull mailboxId) : pull.scansInFull mailboxId = true := by
  obtain ⟨survey, hsurvey, update, hupdate, rfl, event, hevent, query, hrequest, hfull⟩ := h
  unfold ImapPull.scansInFull
  rw [hsurvey, Option.any_some, List.any_eq_true]
  refine ⟨update, hupdate, ?_⟩
  rw [beq_self_eq_true, Bool.true_and, List.any_eq_true]
  refine ⟨event, hevent, ?_⟩
  rw [hrequest]
  exact Bool.and_eq_true_iff.mpr ⟨beq_self_eq_true _, hfull⟩

/-- Both mailboxes are pulled and scanned; after five more pulls of both and five of the inbox
alone the inbox has its turn, which restarts the count of the archive too. -/
def inboxOftener : List (List String) :=
  List.replicate 6 both ++ List.replicate 5 ["inbox"] ++ List.replicate 10 both

/-- Fifteen successful pulls of the archive in a row, none of which scans it in full. -/
theorem archive_not_scanned_within_fifteen :
    Follow neverPulled.cursors (pullsFromEmpty inboxOftener neverPulled) ∧
      (((pullsFromEmpty inboxOftener neverPulled).drop 1).filter
        (·.succeeds "archive")).length = 15 ∧
      ∀ pull ∈ (pullsFromEmpty inboxOftener neverPulled).drop 1, ¬pull.ScansInFull "archive" := by
  have hnever : ((pullsFromEmpty inboxOftener neverPulled).drop 1).all
      (fun pull => !pull.scansInFull "archive") = true := by decide +kernel
  refine ⟨follow_pullsFromEmpty _ _, by decide +kernel, ?_⟩
  intro pull hpull hscans
  have hnot := List.all_eq_true.mp hnever pull hpull
  rw [hscans.scansInFull] at hnot
  cases hnot

end AgentFirstMail
