import AgentFirstMail.Drafts.Queueing
import AgentFirstMail.PushQueue.Snapshot

namespace AgentFirstMail
open Effect Command
variable {host : DraftQueueHost} {w w' : Workspace} {caseRef caseUid draftName pushId : String}
  {action : OutboundAction} {draft : QueueableDraft} {item : PushItem}

section Checks

theorem validateOutboundRequeue_not_started {previousAction : Option OutboundAction} {reset : Bool}
    (h : validateOutboundRequeue (some item) previousAction action = .ok reset) :
    item.hasStartedEffects = false := by
  change (if item.hasStartedEffects then _ else _) = _ at h
  split at h
  · cases h
  · rename_i hnot
    exact (Bool.not_eq_true _).mp hnot

/-- What is known of a draft that passed the checks. -/
structure Checked (host : DraftQueueHost) (w : Workspace) (draftName : String)
    (action : OutboundAction) (draft : QueueableDraft) : Prop where
  case_ : ∃ case_, w.cases[draft.caseUid]? = some case_
  requeue : ∃ reset, validateOutboundRequeue (w.findDraftItem draft.caseUid draftName)
    draft.previousAction action = .ok reset
  text : draft.file.text = textBytes draft.text
  caseUid : draft.file.frontmatter.caseUid = draft.caseUid
  syncIntent : host.format.Rereads → draft.file.frontmatter.syncIntent = some action
  hash : draft.validation.draftHash = host.blake3Fingerprint draft.text
  complete : action = .send → draft.validation.completeness = .complete

theorem validateDraftBytes_eq_ok {draftHost : DraftHost} {text : List Char}
    {validation : DraftValidation}
    (h : validateDraftBytes draftHost draftName text = .ok validation) :
    validation.draftHash = draftHost.blake3Fingerprint text ∧
      ∃ header body, readDoc draftHost.format text = .ok (header, body) ∧
        header.caseUid = draftHost.caseUid := by
  obtain ⟨_, h⟩ := Result.seq_ok h
  obtain ⟨⟨header, body⟩, hread, h⟩ := Result.bind_ok h
  obtain ⟨content, _, h⟩ := Result.bind_ok h
  obtain ⟨hheader, h⟩ := Result.seq_ok h
  cases h
  obtain ⟨_, hheader⟩ := Result.seq_ok hheader
  obtain ⟨hcase, _⟩ := Result.seq_ok hheader
  exact ⟨rfl, header, body, mapError_eq_ok_iff.mp hread, eq_of_beq (ensure_eq_ok_iff.mp hcase)⟩

theorem queueDraftChecks_eq_ok (h : queueDraftChecks host w caseRef draftName action = .ok draft) :
    Checked host w draftName action draft := by
  obtain ⟨_, h⟩ := Result.seq_ok h
  obtain ⟨⟨caseUid, case_⟩, hresolved, h⟩ := Result.bind_ok h
  obtain ⟨text, _, h⟩ := Result.bind_ok h
  obtain ⟨⟨header, body⟩, _, h⟩ := Result.bind_ok h
  obtain ⟨hallowed, h⟩ := Result.seq_ok h
  obtain ⟨rendered, hedited, h⟩ := Result.bind_ok h
  obtain ⟨validation, hvalid, h⟩ := Result.bind_ok h
  obtain ⟨reset, hreset, _⟩ := Result.bind_ok hallowed
  obtain ⟨hhash, read, readBody, hread, hcase⟩ := validateDraftBytes_eq_ok hvalid
  have hfile : (DraftFile.ofText host.format { header with syncIntent := some action }
      rendered).frontmatter = read.toDraftFrontmatter := by
    change readDoc host.format rendered = _ at hread
    simp only [DraftFile.ofText, hread]
  have hchecked (hcomplete : action = .send → validation.completeness = .complete) :
      Checked host w draftName action
        { caseUid, casePath := s!"cases/{case_.group}/{case_.dirName}"
          previousAction := header.syncIntent, text := rendered
          file := .ofText host.format { header with syncIntent := some action } rendered
          validation } :=
    { case_ := ⟨case_, (Workspace.resolveActiveCase_eq_ok hresolved).1⟩
      requeue := ⟨reset, hreset⟩
      text := rfl
      caseUid := by
        change (DraftFile.ofText _ _ _).frontmatter.caseUid = caseUid
        rw [hfile]
        exact hcase
      syncIntent := by
        intro hrereads
        obtain ⟨kept, hback⟩ := hrereads _ _ _ _ hedited
        change readDoc host.format rendered = _ at hread
        rw [hread] at hback
        cases hback
        change (DraftFile.ofText _ _ _).frontmatter.syncIntent = some action
        rw [hfile]
      hash := hhash
      complete := hcomplete }
  split at h
  · obtain ⟨hcomplete, h⟩ := Result.seq_ok h
    cases h
    exact hchecked fun _ => eq_of_beq (ensure_eq_ok_iff.mp hcomplete)
  · rename_i hother
    cases h
    exact hchecked fun hsend => (hother hsend).elim

end Checks

section Projection

theorem pending_of_not_started (h : item.hasStartedEffects = false) :
    ∀ state ∈ item.stepStates, state.status = .pending := by
  intro state hmem
  rw [PushItem.hasStartedEffects, Bool.or_eq_false_iff, Bool.or_eq_false_iff] at h
  have hstate := List.any_eq_false.mp h.1.1 state hmem
  rw [Bool.not_eq_true, Bool.or_eq_false_iff, Bool.or_eq_false_iff] at hstate
  exact bne_eq_false_iff_eq.mp hstate.1.1

theorem fromQueue_of_not_started (h : item.hasStartedEffects = false)
    (herror : item.lastError = none) :
    DraftStateProjection.fromQueue (some action) (some item) =
      ⟨queuedStatus action, some action, none⟩ := by
  have hfailed : (item.stepStates.any fun state =>
      state.status == .failed || state.status == .remoteOutcomeUnknown) = false := by
    rw [List.any_eq_false]
    intro state hmem
    rw [pending_of_not_started h state hmem]
    decide
  rw [DraftStateProjection.fromQueue, statusForQueuedItem, herror, hfailed, h]
  rfl

theorem outboundItem_not_started {now : String} {seq : Nat} {existing : Option PushItem}
    {previousAction : Option OutboundAction} {reset : Bool}
    (h : validateOutboundRequeue existing previousAction action = .ok reset) :
    (outboundItem now pushId seq caseUid draftName existing reset).hasStartedEffects = false := by
  cases existing with
  | none => rfl
  | some item =>
    have hnot := validateOutboundRequeue_not_started h
    cases reset with
    | true => rfl
    | false => exact hnot

end Projection

/-- A draft, as it lies in a workspace and as it is queued there. -/
structure DraftQueued (host : DraftQueueHost) (w : Workspace) (draft : QueueableDraft)
    (queued : QueuedDraft) : Prop where
  record : ∃ item, w.pushItems[queued.pushId]? = some item ∧
    item.target = .draft queued.caseUid queued.draftName ∧
    DraftStateProjection.fromQueue draft.file.frontmatter.syncIntent (some item) =
      ⟨queuedStatus queued.action, some queued.action, none⟩
  only : ∀ (pushId : String) item, w.pushItems[pushId]? = some item →
    item.target = .draft queued.caseUid queued.draftName → pushId = queued.pushId
  file : w.readDraft queued.caseUid queued.draftName = .ok draft.file
  content : draft.file.text = textBytes draft.text
  caseUid : draft.file.frontmatter.caseUid = queued.caseUid
  validated : ∃ case_, w.cases[queued.caseUid]? = some case_ ∧
    case_.draftStates[queued.draftName]? = some (DraftStateEntry.json
      ⟨host.blake3Fingerprint draft.text, queued.lastValidatedRfc3339⟩)

section Queueing

/-- The records of a queue are consistent, and kept apart. -/
structure Workspace.QueueSound (w : Workspace) : Prop where
  consistent : w.QueueConsistent
  keyed : w.QueueKeyed

/-- The workspace with the file and the validation of a draft written. -/
def Workspace.withDraftWritten (host : DraftQueueHost) (w : Workspace) (draftName transactionId :
    String) (draft : QueueableDraft) : Workspace :=
  ((w.writeTransaction transactionId ⟨"draft_queue", draftQueuePaths draft draftName⟩).replaceDraft
    draft.caseUid draftName draft.file).writeDraftValidationState draft.caseUid draftName
    (DraftStateEntry.json ⟨draft.validation.draftHash, host.now⟩)

theorem withDraftWritten_case {case_ : CaseRecord} {transactionId : String}
    (h : w.cases[draft.caseUid]? = some case_) :
    (w.withDraftWritten host draftName transactionId draft).cases[draft.caseUid]? = some
      { case_ with
        drafts := case_.drafts.insert draftName draft.file
        draftStates := case_.draftStates.insert draftName
          (DraftStateEntry.json ⟨draft.validation.draftHash, host.now⟩) } := by
  have hreplaced : ((w.writeTransaction transactionId
      ⟨"draft_queue", draftQueuePaths draft draftName⟩).replaceDraft draft.caseUid draftName
      draft.file).cases[draft.caseUid]? = some
        { case_ with drafts := case_.drafts.insert draftName draft.file } :=
    Workspace.alterCase_get h
  exact Workspace.alterCase_get hreplaced

theorem readDraftState_draftWritten {transactionId : String} {case_ : CaseRecord}
    (h : w.cases[draft.caseUid]? = some case_) :
    (((w.writeTransaction transactionId ⟨"draft_queue", draftQueuePaths draft draftName⟩).replaceDraft
      draft.caseUid draftName draft.file).readDraftState draft.caseUid) =
        w.readDraftState draft.caseUid := by
  have hreplaced : ((w.writeTransaction transactionId
      ⟨"draft_queue", draftQueuePaths draft draftName⟩).replaceDraft draft.caseUid draftName
      draft.file).cases[draft.caseUid]? = some
        { case_ with drafts := case_.drafts.insert draftName draft.file } :=
    Workspace.alterCase_get h
  rw [Workspace.readDraftState, Workspace.readDraftState, Workspace.findCase, Workspace.findCase,
    hreplaced, h]
  rfl

theorem wp_writeDraftValidationState {m : Process} {h : List RemoteEvent} {hash : String}
    {inv : ProcessFact}
    {post : Unit → ProcessFact}
    {abort : AppError → ProcessFact}
    (hpost : ∀ states, m.workspace.readDraftState caseUid = .ok states →
      let written := m.onWorkspace (·.writeDraftValidationState caseUid draftName
        (DraftStateEntry.json ⟨hash, host.now⟩))
      inv h written ∧ post () h written)
    (habort : ∀ error, m.workspace.readDraftState caseUid = .error error → abort error h m) :
    Program.wp inv post abort (writeDraftValidationState host caseUid draftName hash) h m := by
  unfold writeDraftValidationState
  apply wp_workspace_bind.mpr
  apply wp_then
  exact wp_check hpost habort

/-- What the run of a command that queues a draft comes to, when it is not cut off. -/
def QueueingEnds (host : DraftQueueHost) (w : Workspace) (caseRef draftName : String)
    (action : OutboundAction) : Outcome AppError QueuedDraft → List RemoteEvent → Workspace → Prop
  | .returned queued, _, w' => ∃ draft,
      queueDraftChecks host w caseRef draftName action = .ok draft ∧
      queued.draftName = draftName ∧ queued.action = action ∧ queued.caseUid = draft.caseUid ∧
      DraftQueued host w' draft queued
  | .failed error, events, w' =>
      (queueDraftChecks host w caseRef draftName action = .error error ∧ w' = w) ∨
      (∃ draft, queueDraftChecks host w caseRef draftName action = .ok draft) ∧
        DrawFailed error events
  | .crashed, _, _ => True

theorem DraftQueued.congr {queued : QueuedDraft} (h : DraftQueued host w draft queued)
    (hpush : w'.pushItems = w.pushItems) (hcases : w'.cases = w.cases) :
    DraftQueued host w' draft queued where
  record := by
    rw [hpush]
    exact h.record
  only := by
    rw [hpush]
    exact h.only
  file := by
    rw [Workspace.readDraft, Workspace.findCase, hcases]
    exact h.file
  content := h.content
  caseUid := h.caseUid
  validated := by
    rw [hcases]
    exact h.validated

theorem Workspace.QueueSound.congr (h : w.QueueSound) (hpush : w'.pushItems = w.pushItems) :
    w'.QueueSound where
  consistent := h.consistent.congr hpush
  keyed := h.keyed.of_from (QueueFrom.congr (.refl PushItem.SameIdentity.refl w) hpush)

theorem Workspace.QueueSound.queuedItem (now : String) {previousAction : Option OutboundAction}
    {reset : Bool} (h : w.QueueSound)
    (hreset : validateOutboundRequeue (w.findDraftItem caseUid draftName) previousAction action =
      .ok reset) (hunder : w.QueuesUnder caseUid draftName pushId) :
    (w.writeItem (w.queuedItem now caseUid draftName pushId reset)).QueueSound where
  consistent := by
    apply h.consistent.write
    apply outboundItem_consistent
    intro item hfind
    exact (h.consistent.of_mem (List.mem_of_find?_eq_some hfind)).2
  keyed := h.keyed.write (takes_draft now h.consistent hreset hunder)

theorem draftQueued_of_written {transactionId : String} {reset : Bool} (hsound : w'.QueueSound)
    (hrereads : host.format.Rereads) (hchecked : Checked host w draftName action draft)
    (hwritten : w' = w.withDraftWritten host draftName transactionId draft)
    (hreset : validateOutboundRequeue (w'.findDraftItem draft.caseUid draftName)
      draft.previousAction action = .ok reset)
    (hunder : w'.QueuesUnder draft.caseUid draftName pushId) :
    DraftQueued host (w'.writeItem (w'.queuedItem host.now draft.caseUid draftName pushId reset))
      draft ⟨pushId, action, draft.caseUid, draftName, host.now,
        draft.validation.completeness⟩ := by
  have hkeyed := (hsound.queuedItem host.now hreset hunder).keyed
  have hget := Workspace.writeItem_get w'
    (w'.queuedItem host.now draft.caseUid draftName pushId reset)
  obtain ⟨case_, hcase⟩ := hchecked.case_
  have hafter : w'.cases[draft.caseUid]? = some
      { case_ with
        drafts := case_.drafts.insert draftName draft.file
        draftStates := case_.draftStates.insert draftName
          (DraftStateEntry.json ⟨draft.validation.draftHash, host.now⟩) } := by
    rw [hwritten]
    exact withDraftWritten_case hcase
  exact
    { record := by
        refine ⟨_, hget, rfl, ?_⟩
        rw [hchecked.syncIntent hrereads]
        exact fromQueue_of_not_started (outboundItem_not_started hreset) rfl
      only := fun other item hother htarget => hkeyed.target other _ item _ hother hget htarget
      file := by
        change (w'.readDraft draft.caseUid draftName) = _
        rw [Workspace.readDraft, Workspace.findCase, hafter]
        dsimp only [bind, Except.bind]
        rw [Std.ExtTreeMap.getElem?_insert_self]
      content := hchecked.text
      caseUid := hchecked.caseUid
      validated := by
        refine ⟨_, hafter, ?_⟩
        change (case_.draftStates.insert draftName _)[draftName]? = _
        rw [Std.ExtTreeMap.getElem?_insert_self, hchecked.hash] }

/-- A draft passed its checks, and the states of the drafts of its case cannot be read. -/
def StateUnread (host : DraftQueueHost) (w : Workspace) (caseRef draftName : String)
    (action : OutboundAction) : Prop :=
  ∃ draft error, queueDraftChecks host w caseRef draftName action = .ok draft ∧
    w.readDraftState draft.caseUid = .error error

theorem queueDraft_ends {events : List RemoteEvent} {process : Process}
    {outcome : Outcome AppError QueuedDraft} (hsound : w.QueueSound)
    (hrereads : host.format.Rereads)
    (hexec : Exec (queueDraft host caseRef draftName action) (.start w) events outcome process) :
    process.workspace.QueueSound ∧
      (QueueingEnds host w caseRef draftName action outcome events process.workspace ∨
        StateUnread host w caseRef draftName action) := by
  let sound : ProcessFact := fun _ m =>
    m.workspace.QueueSound
  have hsame : ∀ m : Process, m.workspace.pushItems = w.pushItems → m.workspace.QueueSound := by
    intro m hpush
    exact hsound.congr hpush
  have hwp : Program.wp sound
      (fun queued h m => sound h m ∧
        (QueueingEnds host w caseRef draftName action (.returned queued) h m.workspace ∨
          StateUnread host w caseRef draftName action))
      (fun error h m => sound h m ∧
        (QueueingEnds host w caseRef draftName action (.failed error) h m.workspace ∨
          StateUnread host w caseRef draftName action))
      (queueDraft host caseRef draftName action) [] (.start w) := by
    apply wp_workspace_bind.mpr
    apply wp_check_bind
    · intro draft hdraft
      have hchecked := queueDraftChecks_eq_ok hdraft
      obtain ⟨case_, hcase⟩ := hchecked.case_
      refine ⟨hsame _ rfl, hsame _ rfl, ?_⟩
      apply wp_then
      apply Program.wp_ret.mpr
      apply wp_then
      apply wp_writeDraftValidationState
      swap
      · intro error hunread
        refine ⟨hsame _ rfl, .inr ⟨draft, error, hdraft, ?_⟩⟩
        exact (readDraftState_draftWritten hcase).symm.trans hunread
      intro _ _
      refine ⟨hsame _ rfl, ?_⟩
      apply wp_then
      apply wp_queueOutbound (fun _ => hsame _ rfl)
      · intro reset pushId h hreset hunder
        have hwritten := (hsame _ rfl).queuedItem host.now hreset hunder
        have hqueued := draftQueued_of_written (hsame _ rfl) hrereads hchecked rfl hreset hunder
        have hnext : ∀ m : Process, m.workspace.pushItems = (Workspace.writeItem _ _).pushItems →
            m.workspace.QueueSound := fun _ hpush => hwritten.congr hpush
        refine ⟨hwritten, ?_⟩
        apply wp_then
        refine ⟨hnext _ rfl, ?_⟩
        apply wp_then
        apply wp_then
        apply Program.wp_perform (hnext _ rfl) (fun _ => hnext _ rfl)
        · intro eventId
          refine ⟨hnext _ rfl, hnext _ rfl, hnext _ rfl, .inl ⟨draft, hdraft, rfl, rfl, rfl, ?_⟩⟩
          exact hqueued.congr rfl rfl
        · intro error
          exact ⟨hnext _ rfl, .inl (.inr ⟨⟨draft, hdraft⟩, .inr ⟨_, List.mem_concat_self, rfl⟩⟩)⟩
      · intro error hrefused
        obtain ⟨reset, hreset⟩ := hchecked.requeue
        cases hreset.symm.trans hrefused
      · intro error h hdraw
        exact ⟨hsame _ rfl, .inl (.inr ⟨⟨draft, hdraft⟩, hdraw⟩)⟩
    · intro error herror
      exact ⟨hsound, .inl (.inl ⟨herror, rfl⟩)⟩
  obtain ⟨hkept, hmeets⟩ := Program.wp_sound hexec hsound hwp
  cases outcome with
  | returned queued => exact hmeets
  | failed error => exact hmeets
  | crashed => exact ⟨hkept, .inl trivial⟩

theorem readDraftState_code {error : AppError} {case_ : CaseRecord} {caseUid : String}
    (hcase : w.cases[caseUid]? = some case_) (herror : w.readDraftState caseUid = .error error) :
    error.errorCode = "store_error" ∨ error.errorCode = "draft_state_invalid" := by
  rw [Workspace.readDraftState, Workspace.findCase, hcase] at herror
  change case_.readDraftState = _ at herror
  unfold CaseRecord.readDraftState at herror
  split at herror
  · cases herror
    exact .inl rfl
  · cases herror
    exact .inl rfl
  · cases herror
    exact .inr rfl
  · cases herror

/-- Where the states of the drafts cannot be read, the command stops after its first write. -/
theorem queueDraft_stops {error : AppError}
    (hdraft : queueDraftChecks host w caseRef draftName action = .ok draft)
    (hunread : w.readDraftState draft.caseUid = .error error) :
    ∃ process, Exec (queueDraft host caseRef draftName action) (.start w) [] (.failed error)
      process := by
  obtain ⟨case_, hcase⟩ := (queueDraftChecks_eq_ok hdraft).case_
  have hwp : Program.wp Anywhere (fun _ _ _ => False) (fun other h _ => other = error ∧ h = [])
      (queueDraft host caseRef draftName action) [] (.start w) := by
    apply wp_workspace_bind.mpr
    apply wp_check_bind
    · intro other hother
      cases hdraft.symm.trans hother
      refine ⟨trivial, trivial, ?_⟩
      apply wp_then
      apply Program.wp_ret.mpr
      apply wp_then
      apply wp_writeDraftValidationState
      · intro states hread
        cases hunread.symm.trans ((readDraftState_draftWritten hcase).symm.trans hread)
      · intro other hother
        cases hunread.symm.trans ((readDraftState_draftWritten hcase).symm.trans hother)
        exact ⟨rfl, rfl⟩
    · intro other hother
      cases hdraft.symm.trans hother
  obtain ⟨events, other, process, hexec, rfl, rfl⟩ := Program.failing (storeError "") trivial hwp
  exact ⟨process, hexec⟩

end Queueing

section Runs
variable {w₀ : Workspace} {before events : List RemoteEvent} {process : Process}

/-- One thing that is done to a workspace with a queue; the drafts are queued by commands that
read their documents back. -/
inductive DraftSession : Workspace → List RemoteEvent → Workspace → Prop
  | queue {w w' : Workspace} {events : List RemoteEvent} :
      QueueSession w events w' → DraftSession w events w'
  | draft {host : DraftQueueHost} {w : Workspace} {caseRef draftName : String}
      {action : OutboundAction} {events : List RemoteEvent} {process : Process}
      {outcome : Outcome AppError QueuedDraft} : host.format.Rereads →
      Exec (queueDraft host caseRef draftName action) (.start w) events outcome process →
        DraftSession w events process.workspace

theorem DraftSession.queueSound (hsound : w.QueueSound) (hsession : DraftSession w events w') :
    w'.QueueSound := by
  cases hsession with
  | queue hqueue =>
    exact ⟨hqueue.queueConsistent hsound.consistent,
      (hqueue.keeps hsound.consistent hsound.keyed).1⟩
  | draft hrereads hexec => exact (queueDraft_ends hsound hrereads hexec).1

theorem queueSound_of_run (hempty : w₀.pushItems = ∅) (hrun : Run DraftSession w₀ before w) :
    w.QueueSound := by
  refine hrun.invariant ?_ fun _ _ _ _ hsound hsession => hsession.queueSound hsound
  obtain ⟨hconsistent, hkeyed⟩ := queueKeyed_of_run hempty .start
  exact ⟨hconsistent, hkeyed⟩

/-- Queueing a draft writes the draft, what was validated of it and its only record, or, when it
is refused, nothing; unless the states of the drafts of its case cannot be read. -/
theorem queueDraft_atomic_iff (hempty : w₀.pushItems = ∅) (hrun : Run DraftSession w₀ before w)
    (hrereads : host.format.Rereads) :
    (∀ events outcome process,
      Exec (queueDraft host caseRef draftName action) (.start w) events outcome process →
        QueueingEnds host w caseRef draftName action outcome events process.workspace) ↔
      ∀ draft, queueDraftChecks host w caseRef draftName action = .ok draft →
        ∃ states, w.readDraftState draft.caseUid = .ok states := by
  constructor
  · intro hends draft hdraft
    cases hread : w.readDraftState draft.caseUid with
    | ok states => exact ⟨states, rfl⟩
    | error error =>
      obtain ⟨process, hexec⟩ := queueDraft_stops hdraft hread
      obtain ⟨case_, hcase⟩ := (queueDraftChecks_eq_ok hdraft).case_
      have hcode := readDraftState_code hcase hread
      rcases hends [] _ process hexec with ⟨hrefused, _⟩ | ⟨_, rfl | ⟨event, hmem, _⟩⟩
      · cases hdraft.symm.trans hrefused
      · rcases hcode with hcode | hcode
        · exact absurd hcode (by decide)
        · exact absurd hcode (by decide)
      · cases hmem
  · intro hready events outcome process hexec
    rcases (queueDraft_ends (queueSound_of_run hempty hrun) hrereads hexec).2 with hends |
      ⟨draft, error, hdraft, hunread⟩
    · exact hends
    · obtain ⟨states, hread⟩ := hready draft hdraft
      cases hread.symm.trans hunread

end Runs

section Letter

def letterHeader : DraftHeader where
  caseUid := "c20240101001"
  kind := some "draft"
  subject := some "Hello"
  to_ := ["ann@example.com"]

def letterYaml : List Char :=
  "kind: draft\ncase_uid: c20240101001\nsubject: Hello\nto:\n- ann@example.com\n".toList

def queuedYaml : List Char := letterYaml ++ "sync_intent: send\n".toList

def letterBody : List Char :=
  "<!-- afmail:compose:start -->\nHi\n<!-- afmail:compose:end -->\n".toList

def letterText (yaml : List Char) : List Char :=
  "---\n".toList ++ yaml ++ "---\n".toList ++ letterBody

/-- Reads the front matter of one draft, and writes that it is to be sent. -/
def letterFormat : MarkdownFormat DraftHeader where
  fromStr yaml :=
    if yaml = letterYaml then .ok letterHeader
    else if yaml = queuedYaml then
      .ok { letterHeader with syncIntent := some .send }
    else .error "not a letter"
  yamlToString _ := .error "not written anew"
  editDocument source header :=
    if source = letterText letterYaml ∧ header = { letterHeader with syncIntent := some .send } then
      .ok (some (letterText queuedYaml))
    else .error (internalError "not a letter")

def letterHost : DraftQueueHost where
  toCaseHost := plainCaseHost
  format := letterFormat
  blake3Fingerprint _ := "hash"
  resolveIdentity _ _ := .ok ⟨"me", "Me", "me@example.com", none⟩
  normalizeRecipientAddress address _ := .ok address
  openDraftAttachment _ _ := .ok ()

theorem letterFormat_rereads : letterFormat.Rereads := by
  intro source header body edited h
  obtain ⟨answer, hanswer, h⟩ := Result.bind_ok h
  change (if _ then _ else _) = _ at hanswer
  split at hanswer
  · rename_i hknown
    obtain ⟨_, hheader⟩ := hknown
    subst hheader
    cases hanswer
    have hedited : edited = letterText queuedYaml := by
      dsimp only at h
      split at h
      · split at h
        · exact (Except.ok.inj h).symm
        · cases h
      · cases h
    exact ⟨letterBody, by
      rw [hedited]
      decide +kernel⟩
  · cases hanswer

/-- A case with a draft that is complete. -/
def letterDrafted : Workspace where
  config := .default
  cases := .ofList [("c20240101001", ({
    group := "", dirName := "hello", caseName := "hello"
    drafts := .ofList [("letter.md", (⟨letterHeader.toDraftFrontmatter,
      textBytes (letterText letterYaml)⟩ : DraftFile))] } : CaseRecord))]

theorem queueDraft_atomic_letter : ∃ events process,
    let queued : QueuedDraft := ⟨"push_draft_d", .send, "c20240101001", "letter.md",
      "2024-01-01T00:00:00Z", .complete⟩
    Exec (queueDraft letterHost "c20240101001" "letter.md" .send) (.start letterDrafted) events
      (.returned queued) process ∧
    QueueingEnds letterHost letterDrafted "c20240101001" "letter.md" .send (.returned queued) events
      process.workspace := by
  obtain ⟨events, hexec⟩ := Program.run_exec namesThenGone
    (queueDraft letterHost "c20240101001" "letter.md" .send) (.start letterDrafted) ()
  have hreturned : ((queueDraft letterHost "c20240101001" "letter.md" .send).run namesThenGone
      (.start letterDrafted) ()).1 = .ok ⟨"push_draft_d", .send, "c20240101001", "letter.md",
        "2024-01-01T00:00:00Z", .complete⟩ := by decide +kernel
  rw [hreturned] at hexec
  refine ⟨events, _, hexec, ?_⟩
  refine (queueDraft_atomic_iff rfl .start letterFormat_rereads).mpr ?_ _ _ _ hexec
  intro draft hdraft
  have hcase := congrArg (fun checked => checked.toOption.map (·.caseUid)) hdraft
  have hletter : (queueDraftChecks letterHost letterDrafted "c20240101001" "letter.md"
      .send).toOption.map (·.caseUid) = some "c20240101001" := by decide +kernel
  have huid : draft.caseUid = "c20240101001" := Option.some.inj (hcase.symm.trans hletter)
  rw [huid]
  exact ⟨∅, by decide +kernel⟩

/-- The same case, with a file of another schema for the states of its drafts. -/
def letterUnread : Workspace :=
  letterDrafted.alterCase "c20240101001" fun case_ => { case_ with draftStateIssue := some .otherSchema }

def queueUnread : Trace Process Request Request.Reply AppError QueuedDraft Unit :=
  (queueDraft letterHost "c20240101001" "letter.md" .send).trace namesThenGone (.start letterUnread) ()

/-- What the front matter of the letter says is to be done with it. -/
def letterIntent (w : Workspace) : Option OutboundAction :=
  (w.readDraft "c20240101001" "letter.md").toOption.bind (·.frontmatter.syncIntent)

/-- The command fails when it has marked the draft to be sent, and nothing is queued. -/
theorem queueDraft_not_atomic :
    Exec (queueDraft letterHost "c20240101001" "letter.md" .send) (.start letterUnread) []
      queueUnread.outcome queueUnread.state ∧
    queueUnread.outcome = .failed
      { errorCode := "draft_state_invalid"
        message := "invalid draft state schema: cases//hello/data/drafts.json" } ∧
    queueUnread.state.workspace.readItems = [] ∧
    letterIntent queueUnread.state.workspace = some .send ∧
    ¬ QueueingEnds letterHost letterUnread "c20240101001" "letter.md" .send queueUnread.outcome []
      queueUnread.state.workspace := by
  have hexec := Program.trace_exec namesThenGone
    (queueDraft letterHost "c20240101001" "letter.md" .send) (.start letterUnread) ()
  change Exec _ _ queueUnread.events queueUnread.outcome queueUnread.state at hexec
  have hended : (queueUnread.events.length, queueUnread.outcome,
      queueUnread.state.workspace.readItems, letterIntent queueUnread.state.workspace) =
      (0, .failed { errorCode := "draft_state_invalid"
                    message := "invalid draft state schema: cases//hello/data/drafts.json" },
        [], some .send) := by decide +kernel
  obtain ⟨hlength, hended⟩ := Prod.mk.inj hended
  obtain ⟨houtcome, hended⟩ := Prod.mk.inj hended
  obtain ⟨hitems, hintent⟩ := Prod.mk.inj hended
  rw [List.length_eq_zero_iff.mp hlength] at hexec
  refine ⟨hexec, houtcome, hitems, hintent, ?_⟩
  rw [houtcome]
  rintro (⟨_, hsame⟩ | ⟨_, hdraw | ⟨event, hmem, _⟩⟩)
  · rw [hsame] at hintent
    exact absurd hintent (by decide +kernel)
  · exact absurd (congrArg AppError.errorCode hdraw) (by decide)
  · cases hmem

end Letter
end AgentFirstMail
