import AgentFirstMail.Review.PageSessions

namespace AgentFirstMail
open Effect TreeCommand

/-- The first draft of a name replaced. -/
def replaceDraftDocument (draftName : String) (document : DraftRenderDocument)
    (drafts : List DraftRenderDocument) : List DraftRenderDocument :=
  match drafts.findIdx? (·.draftName == draftName) with
  | some i => drafts.set i document
  | none => drafts

/-- The documents of an item with a document that was saved. -/
def ReviewDocument.withSaved (saved : SavedEdit) : ReviewDocument → ReviewDocument
  | .message document => .message document
  | .case collection notes drafts =>
    match saved.document, saved.draftName with
    | .notes document, _ => .case collection document drafts
    | .draft document, some draftName =>
      .case collection notes (replaceDraftDocument draftName document drafts)
    | .draft _, none => .case collection notes drafts
  | .notification collection notes =>
    match saved.document with
    | .notes document => .notification collection document
    | .draft _ => .notification collection notes

def ShownItem.withSaved (saved : SavedEdit) (item : ShownItem) : ShownItem :=
  { item with document := item.document.withSaved saved }

section Recording
variable {host : PageHost} {surface : ReviewSurface} {contents : ReviewContents}

theorem map_set_findIdx? (drafts : List (EditableReviewDocument DraftRenderDocument))
    (draftName : String) (draft : EditableReviewDocument DraftRenderDocument) :
    List.map EditableReviewDocument.document
      (match drafts.findIdx? fun draft => draft.document.draftName == draftName with
        | some i => drafts.set i draft
        | none => drafts) =
      replaceDraftDocument draftName draft.document
        (drafts.map EditableReviewDocument.document) := by
  unfold replaceDraftDocument
  rw [List.findIdx?_map]
  change _ = match drafts.findIdx? fun draft => draft.document.draftName == draftName with
    | some i => (drafts.map EditableReviewDocument.document).set i draft.document
    | none => drafts.map EditableReviewDocument.document
  cases drafts.findIdx? fun draft => draft.document.draftName == draftName with
  | some i => exact List.map_set
  | none => rfl

/-- What the server records of a save is what a save does to the items that it shows. -/
theorem ReviewContents.item?_recordSaved (hhashed : contents.Hashed host surface)
    (saved : SavedEdit) (messageId : String) :
    (contents.recordSaved host surface saved).item? messageId =
      (contents.item? messageId).map (·.withSaved saved) := by
  obtain ⟨draftName, baseHash, document⟩ := saved
  cases hhashed with
  | @triage contents _ =>
    change (contents.item? messageId).map _ = ((contents.item? messageId).map _).map _
    cases contents.item? messageId <;> rfl
  | @case caseRef contents _ =>
    cases document with
    | notes document => rfl
    | draft document =>
      cases draftName with
      | none => rfl
      | some draftName =>
        have hdrafts := map_set_findIdx? contents.drafts draftName ⟨document, baseHash⟩
        unfold recordSaved applySavedEditToModel CaseReviewContents.withDraft
        change _ = some (ShownItem.mk (.case contents.collection.withoutSuggestions
          contents.notes.document (replaceDraftDocument draftName document
            (contents.drafts.map (·.document)))) contents.expectedAgentSuggestionUid)
        rw [← hdrafts]
        dsimp only
        cases contents.drafts.findIdx? (·.document.draftName == draftName) <;> rfl
  | notification _ => cases document <;> rfl
  | draft =>
    cases document with
    | notes document => rfl
    | draft document =>
      unfold recordSaved applySavedEditToModel
      dsimp only
      split <;> rfl

theorem ReviewContents.Hashed.recordSaved (hhashed : contents.Hashed host surface)
    (saved : SavedEdit) : (contents.recordSaved host surface saved).Hashed host surface := by
  obtain ⟨draftName, baseHash, document⟩ := saved
  cases hhashed with
  | triage h => exact .triage h
  | @case caseRef contents h =>
    cases document with
    | notes document => exact .case rfl
    | draft document =>
      cases draftName with
      | none => exact .case h
      | some draftName =>
        unfold ReviewContents.recordSaved applySavedEditToModel CaseReviewContents.withDraft
        dsimp only
        cases contents.drafts.findIdx? (·.document.draftName == draftName) with
        | none => exact .case h
        | some i => exact .case rfl
  | notification h =>
    cases document with
    | notes document => exact .notification rfl
    | draft document => exact .notification h
  | draft =>
    cases document with
    | notes document => exact .draft
    | draft document =>
      unfold ReviewContents.recordSaved applySavedEditToModel
      dsimp only
      split <;> exact .draft

end Recording

/-- A tree whose workspace was written, with the records of that. -/
def WorkspaceTree.written (tree : WorkspaceTree) (w : Workspace) (audit : AuditLog) :
    WorkspaceTree :=
  { tree with workspace := { w with audit } }

section Frames
variable {host : PageHost} {tree : WorkspaceTree} {caseRef caseUid notificationRef
  notificationUid : String} {audit : AuditLog} {messages : List MessageRenderDocument}
  {notes notes' : NotesRenderDocument} {drafts drafts' : List DraftRenderDocument}

/-- What is read of a case whose notes, drafts or suggestions were written. -/
theorem ReadsCase.put {case_ file : CaseRecord}
    (hreads : ReadsCase host tree caseRef caseUid case_ messages notes drafts)
    (hcore : file.core = case_.core)
    (hpair : validateCaseSuggestionPair host.toHost file.agentSuggestion file.humanSuggestion =
      .ok ())
    (hnotes : notesRenderDocument file.path file.notes = .ok notes')
    (hdrafts : caseDrafts host.toReviewHost tree.workspace caseUid file = .ok drafts') :
    ReadsCase host (tree.written (tree.workspace.putCase caseUid file) audit) caseRef caseUid file
      messages notes' drafts' := by
  obtain ⟨hget, _, hfits⟩ := readCaseFile_eq_ok_iff.mp hreads.file
  have htree : (tree.written (tree.workspace.putCase caseUid file) audit).core = tree.core :=
    congrArg (fun w => { tree with workspace := w }) (Workspace.core_putCase hget hcore)
  have hmembers : file.members = case_.members := (congrArg CaseRecord.members hcore :)
  have hstatus : file.status = case_.status := (congrArg CaseRecord.status hcore :)
  have hdir : file.archivedDir = case_.archivedDir := (congrArg CaseRecord.archivedDir hcore :)
  refine ⟨hreads.parsed, readCaseFile_eq_ok_iff.mpr ⟨?_, hpair, ?_⟩, ?_, hnotes, ?_⟩
  · exact Std.ExtTreeMap.getElem?_insert_self
  · unfold Workspace.ensureStatusFitsTree
    rw [hstatus, hdir]
    exact hfits
  · rw [WorkspaceTree.messageRenderDocument_congr htree, hmembers]
    exact hreads.messages
  · unfold caseDrafts
    rw [WorkspaceTree.draftRenderDocument_congr htree]
    exact hdrafts

theorem ReadsNotification.put {notification file : NotificationRecord}
    (hreads : ReadsNotification host tree notificationRef notificationUid notification messages
      notes)
    (hcore : file.core = notification.core)
    (hpair : validateNotificationSuggestionPair host.toHost file.agentSuggestion
      file.humanSuggestion = .ok ())
    (hnotes : notesRenderDocument file.path file.notes = .ok notes') :
    ReadsNotification host (tree.written (tree.workspace.putNotification notificationUid file)
      audit) notificationRef notificationUid file messages notes' := by
  obtain ⟨hget, _⟩ := readNotifications_eq_ok_iff.mp hreads.file
  have htree : (tree.written (tree.workspace.putNotification notificationUid file) audit).core =
      tree.core :=
    congrArg (fun w => { tree with workspace := w }) (Workspace.core_putNotification hget hcore)
  have hmembers : file.members = notification.members :=
    (congrArg NotificationRecord.members hcore :)
  refine ⟨hreads.parsed, readNotifications_eq_ok_iff.mpr ⟨?_, hpair⟩, ?_, hnotes⟩
  · exact Std.ExtTreeMap.getElem?_insert_self
  · rw [WorkspaceTree.messageRenderDocument_congr htree, hmembers]
    exact hreads.messages

end Frames

section Returned
variable {host : PageHost} {tree tree' : WorkspaceTree} {events history : List TreeEvent}

/-- What is told of returns only. -/
abbrev TreeCommand.Returns (p : TreeCommand α) (post : α → WorkspaceTree → Prop) (history : List TreeEvent)
    (tree : WorkspaceTree) : Prop :=
  Program.wp (fun _ _ => True) (fun value _ t => post value t) (fun _ _ _ => True) p history tree

theorem returns_appendAuditEvent {host : Host} {kind : String} {targets : List (String × String)}
    {reason : Option String} {f : Unit → TreeCommand β} {post : β → WorkspaceTree → Prop}
    (h : ∀ history audit, Returns (f ()) post history (tree.written tree.workspace audit)) :
    Returns (appendAuditEvent host kind targets reason >>= f) post history tree := by
  apply wp_then
  apply wp_then
  refine ⟨trivial, fun reply => ⟨trivial, ?_⟩⟩
  cases reply with
  | error error => trivial
  | ok eventId => exact ⟨trivial, trivial, h _ _⟩

theorem returns_of_exec {p : TreeCommand α} {P : α → WorkspaceTree → Prop} {value : α}
    (hexec : Exec p tree events (.returned value) tree') (h : Returns p P [] tree) :
    P value tree' :=
  (Program.wp_sound hexec trivial h).2

/-- A save of notes writes them and tells what is read of them then. -/
theorem saveNotesOf_returned {objectKind : String}
    {read : WorkspaceTree → Result (String × NotesRenderDocument)}
    {replace : String → String → Workspace → Workspace} {edit : NotesEdit} {saved : SavedEdit}
    (hexec : Exec (saveNotesOf host objectKind read replace edit) tree events
      (.returned (.ok saved)) tree') :
    ∃ uid current uid' notes audit, read tree = .ok (uid, current) ∧
      tree' = tree.written (replace uid (withNewline edit.text) tree.workspace) audit ∧
      read tree' = .ok (uid', notes) ∧ saved.document = .notes notes := by
  refine returns_of_exec (P := fun result t => ∀ saved, result = .ok saved →
    ∃ uid current uid' notes audit, read tree = .ok (uid, current) ∧
      t = tree.written (replace uid (withNewline edit.text) tree.workspace) audit ∧
      read t = .ok (uid', notes) ∧ saved.document = .notes notes) hexec ?_ saved rfl
  refine wp_acquireReviewWriteLock (fun _ => ?_) fun _ _ => trivial
  refine wp_treeCheck (fun found hread => ?_) fun _ _ => trivial
  obtain ⟨uid, current⟩ := found
  dsimp only
  split
  · intro saved h
    cases h
  · refine wp_then ⟨trivial, returns_appendAuditEvent fun history audit => ?_⟩
    apply wp_tree.mpr
    refine wp_treeCheck (fun found hread' => ?_) fun _ _ => trivial
    intro saved h
    cases h
    exact ⟨uid, current, found.1, found.2, audit, hread, rfl, hread', rfl⟩

end Returned

/-- A save changes the items of a review as the server records it, and is part of what is read of
them then. -/
structure SavesItems (host : PageHost) (surface : ReviewSurface) (tree tree' : WorkspaceTree)
    (saved : SavedEdit) : Prop where
  shown : ∀ (messageId : String) (current : CurrentItem),
    currentItem host tree surface messageId = .ok current →
    ∃ current', currentItem host tree' surface messageId = .ok current' ∧
      current'.toShownItem = current.toShownItem.withSaved saved
  contained : ∀ (messageId : String) (current : CurrentItem),
    currentItem host tree' surface messageId = .ok current →
    current.toShownItem.withSaved saved = current.toShownItem

section Saves
variable {host : PageHost} {tree tree' : WorkspaceTree} {events : List TreeEvent}
  {saved : SavedEdit}

theorem SavesItems.of_draft {caseRef draftName : String} :
    SavesItems host (.draft caseRef draftName) tree tree' saved :=
  ⟨fun _ _ h => (nomatch h), fun _ _ h => (nomatch h)⟩

theorem readCaseNotes_eq_ok {caseRef caseUid : String} {notes : NotesRenderDocument}
    (h : readCaseNotes host caseRef tree = .ok (caseUid, notes)) :
    ∃ case_, parseCaseRef host.toHost caseRef = .ok caseUid ∧
      tree.workspace.readCaseFile host.toHost caseUid = .ok case_ ∧
      notesRenderDocument case_.path case_.notes = .ok notes := by
  obtain ⟨uid, huid, h⟩ := Result.bind_ok h
  obtain ⟨read, hread, h⟩ := Result.bind_ok h
  cases h
  obtain ⟨parsed, hparsed, huid⟩ := Result.bind_ok huid
  obtain ⟨_, _, huid⟩ := Result.bind_ok huid
  cases huid
  obtain ⟨case_, hfile, hnotes⟩ := Result.bind_ok hread
  exact ⟨case_, hparsed, hfile, hnotes⟩

theorem readNotificationNotes_eq_ok {notificationRef notificationUid : String}
    {notes : NotesRenderDocument}
    (h : readNotificationNotes host notificationRef tree = .ok (notificationUid, notes)) :
    ∃ notification, parseNotificationRef host.toHost notificationRef = .ok notificationUid ∧
      tree.workspace.findNotification notificationUid = .ok notification ∧
      notesRenderDocument notification.path notification.notes = .ok notes := by
  obtain ⟨uid, huid, h⟩ := Result.bind_ok h
  obtain ⟨read, hread, h⟩ := Result.bind_ok h
  cases h
  obtain ⟨parsed, hparsed, huid⟩ := Result.bind_ok huid
  obtain ⟨_, _, huid⟩ := Result.bind_ok huid
  cases huid
  obtain ⟨notification, hfile, hnotes⟩ := Result.bind_ok hread
  exact ⟨notification, hparsed, hfile, hnotes⟩

theorem SavesItems.of_caseNotes {caseRef : String} {edit : NotesEdit}
    (hexec : Exec (saveNotesInWorkspace host caseRef edit) tree events (.returned (.ok saved))
      tree') : SavesItems host (.case caseRef) tree tree' saved := by
  obtain ⟨caseUid, _, caseUid', saved', audit, hread, rfl, hread', hsaved⟩ :=
    saveNotesOf_returned hexec
  obtain ⟨case_, hparsed, hfile, _⟩ := readCaseNotes_eq_ok hread
  obtain ⟨file', hparsed', hfile', hnotes'⟩ := readCaseNotes_eq_ok hread'
  cases hparsed.symm.trans hparsed'
  have hget := (readCaseFile_eq_ok_iff.mp hfile).1
  have hput : tree.workspace.replaceCaseNotes caseUid (withNewline edit.text) = _ :=
    Workspace.alterCase_eq_putCase hget
  rw [hput] at hfile' ⊢
  have hget' := (readCaseFile_eq_ok_iff.mp hfile').1
  have hfound : file' = { case_ with notes := some (withNewline edit.text) } :=
    Option.some.inj (hget'.symm.trans Std.ExtTreeMap.getElem?_insert_self)
  constructor
  · intro messageId current hcurrent
    obtain ⟨uid, found, messages, notes, drafts, hreads, rfl⟩ := currentItem_case_eq_ok.mp hcurrent
    cases hreads.parsed.symm.trans hparsed
    cases hreads.file.symm.trans hfile
    rw [hfound] at hnotes'
    refine ⟨_, currentItem_case_eq_ok.mpr ⟨caseUid, _, messages, saved', drafts, hreads.put rfl
      (readCaseFile_eq_ok_iff.mp hfile).2.1 hnotes' hreads.drafts, rfl⟩, ?_⟩
    unfold ShownItem.withSaved ReviewDocument.withSaved
    rw [hsaved]
    rfl
  · intro messageId current hcurrent
    obtain ⟨uid, found, messages, notes, drafts, hreads, rfl⟩ := currentItem_case_eq_ok.mp hcurrent
    cases hreads.parsed.symm.trans hparsed
    cases hreads.file.symm.trans hfile'
    cases hreads.notes.symm.trans hnotes'
    unfold ShownItem.withSaved ReviewDocument.withSaved
    rw [hsaved]
    rfl

theorem SavesItems.of_notificationNotes {notificationRef : String} {edit : NotesEdit}
    (hexec : Exec (saveNotificationNotesInWorkspace host notificationRef edit) tree events
      (.returned (.ok saved)) tree') :
    SavesItems host (.notification notificationRef) tree tree' saved := by
  obtain ⟨notificationUid, _, uid', saved', audit, hread, rfl, hread', hsaved⟩ :=
    saveNotesOf_returned hexec
  obtain ⟨notification, hparsed, hfile, _⟩ := readNotificationNotes_eq_ok hread
  obtain ⟨file', hparsed', hfile', hnotes'⟩ := readNotificationNotes_eq_ok hread'
  cases hparsed.symm.trans hparsed'
  have hget := findNotification_eq_ok_iff.mp hfile
  have hput := Workspace.replaceNotificationNotes_eq_putNotification
    (withNewline edit.text) hget
  rw [hput] at hfile' ⊢
  have hget' := findNotification_eq_ok_iff.mp hfile'
  have hfound : file' = { notification with notes := some (withNewline edit.text) } :=
    Option.some.inj (hget'.symm.trans Std.ExtTreeMap.getElem?_insert_self)
  constructor
  · intro messageId current hcurrent
    obtain ⟨uid, found, messages, notes, hreads, rfl⟩ := currentItem_notification_eq_ok.mp hcurrent
    cases hreads.parsed.symm.trans hparsed
    have hfound' := findNotification_of_read hreads.file
    cases hfound'.symm.trans hfile
    rw [hfound] at hnotes'
    refine ⟨_, currentItem_notification_eq_ok.mpr ⟨notificationUid, _, messages, saved',
      hreads.put rfl (readNotifications_eq_ok_iff.mp hreads.file).2 hnotes', rfl⟩, ?_⟩
    unfold ShownItem.withSaved ReviewDocument.withSaved
    rw [hsaved]
    rfl
  · intro messageId current hcurrent
    obtain ⟨uid, found, messages, notes, hreads, rfl⟩ := currentItem_notification_eq_ok.mp hcurrent
    cases hreads.parsed.symm.trans hparsed
    have hfound' := findNotification_of_read hreads.file
    cases hfound'.symm.trans hfile'
    cases hreads.notes.symm.trans hnotes'
    unfold ShownItem.withSaved ReviewDocument.withSaved
    rw [hsaved]
    rfl

end Saves

section Drafts
variable {host : PageHost} {tree tree' : WorkspaceTree} {events : List TreeEvent}
  {saved : SavedEdit} {draftName : String} {changed : DraftFile} {document : DraftRenderDocument}

theorem toList_insert_of_mem {α : Type} {m : Std.ExtTreeMap String α} {key : String} {value : α}
    (hmem : key ∈ m) : (m.insert key value).toList =
      m.toList.map fun entry => (entry.1, if entry.1 = key then value else entry.2) := by
  have hinsert : m.insert key value = m.map fun other v => if other = key then value else v := by
    apply Std.ExtTreeMap.ext_getElem?
    intro other
    rw [Std.ExtTreeMap.getElem?_insert, Std.ExtTreeMap.getElem?_map]
    by_cases heq : key = other
    · subst heq
      obtain ⟨found, hfound⟩ := Option.isSome_iff_exists.mp
        (Std.ExtTreeMap.mem_iff_isSome_getElem?.mp hmem)
      rw [if_pos Std.ReflCmp.compare_self, hfound]
      exact congrArg some (if_pos rfl).symm
    · rw [if_neg fun hsame => heq (Std.LawfulEqCmp.compare_eq_iff_eq.mp hsame)]
      cases m[other]? with
      | none => rfl
      | some found => exact congrArg some (if_neg (Ne.symm heq)).symm
  rw [hinsert, Std.ExtTreeMap.toList_map]

/-- The documents of drafts, one of which was changed. -/
theorem mapM_replaced {read : String × DraftFile → Result DraftRenderDocument}
    {entries : List (String × DraftFile)} {drafts : List DraftRenderDocument}
    (hnames : ∀ entry document, read entry = .ok document → document.draftName = entry.1)
    (hchanged : read (draftName, changed) = .ok document)
    (hkeys : entries.Pairwise fun a b => a.1 ≠ b.1)
    (hdrafts : List.Forall₂ (fun entry document => read entry = .ok document) entries drafts) :
    List.Forall₂ (fun entry document => read entry = .ok document)
      (entries.map fun entry => (entry.1, if entry.1 = draftName then changed else entry.2))
      (replaceDraftDocument draftName document drafts) := by
  induction hdrafts with
  | nil => exact .nil
  | @cons entry first entries drafts hfirst hrest ih =>
    obtain ⟨hne, hkeys⟩ := List.pairwise_cons.mp hkeys
    have hname := hnames entry first hfirst
    unfold replaceDraftDocument
    rw [List.findIdx?_cons, hname, List.map_cons]
    by_cases heq : entry.1 = draftName
    · have hothers : (entries.map fun entry =>
          (entry.1, if entry.1 = draftName then changed else entry.2)) = entries := by
        rw [List.map_congr_left (g := id), List.map_id]
        intro other hother
        rw [if_neg fun hsame => hne other hother (heq.trans hsame.symm)]
        rfl
      rw [hothers, if_pos heq, heq, beq_self_eq_true]
      exact .cons hchanged hrest
    · have hother := ih hkeys
      unfold replaceDraftDocument at hother
      rw [if_neg heq, if_neg (by simpa using heq)]
      cases hindex : drafts.findIdx? (·.draftName == draftName) with
      | none =>
        rw [hindex] at hother
        exact .cons hfirst hother
      | some i =>
        rw [hindex] at hother
        exact .cons hfirst hother

theorem draftName_of_read {host : ReviewHost} {w : Workspace} {caseUid : String}
    {entry : String × DraftFile} (h : draftRenderDocument host w caseUid entry = .ok document) :
    document.draftName = entry.1 := by
  obtain ⟨_, h⟩ := Result.seq_ok h
  obtain ⟨analysis, _, h⟩ := Result.bind_ok h
  cases h
  rfl

theorem caseDrafts_replaced {host : ReviewHost} {w : Workspace} {caseUid : String}
    {drafts : List DraftRenderDocument} (case_ : CaseRecord)
    (states : Std.ExtTreeMap String String) (hmem : draftName ∈ case_.drafts)
    (hchanged : draftRenderDocument host w caseUid (draftName, changed) = .ok document)
    (hdrafts : caseDrafts host w caseUid case_ = .ok drafts) :
    caseDrafts host w caseUid { case_ with
      drafts := case_.drafts.insert draftName changed, draftStates := states } =
      .ok (replaceDraftDocument draftName document drafts) := by
  unfold caseDrafts at hdrafts ⊢
  dsimp only
  split at hdrafts
  · rename_i hactive
    rw [if_pos hactive, toList_insert_of_mem hmem]
    refine Result.mapM_eq_ok_iff.mpr (mapM_replaced (fun _ _ => draftName_of_read) hchanged ?_
      (Result.mapM_eq_ok_iff.mp hdrafts))
    refine Std.ExtTreeMap.distinct_keys_toList.imp fun hne heq => hne ?_
    rw [heq]
    exact Std.ReflCmp.compare_self
  · rename_i hinactive
    cases hdrafts
    rw [if_neg hinactive]
    rfl

theorem resolveActiveCase_eq_ok {host : Host} {w : Workspace} {caseRef caseUid : String}
    {case_ : CaseRecord} (h : w.resolveActiveCase host caseRef = .ok (caseUid, case_)) :
    parseCaseRef host caseRef = .ok caseUid ∧ w.cases[caseUid]? = some case_ := by
  obtain ⟨uid, hparsed, h⟩ := Result.bind_ok h
  split at h
  · rename_i found hfound
    cases h
    exact ⟨hparsed, (Option.filter_eq_some_iff.mp hfound).1⟩
  · obtain ⟨_, h⟩ := Result.seq_ok h
    cases h

theorem WorkspaceTree.draftRenderDocument_eq_ok {caseRef : String}
    (h : tree.draftRenderDocument host caseRef draftName = .ok document) :
    ∃ caseUid case_ draft, parseCaseRef host.toHost caseRef = .ok caseUid ∧
      tree.workspace.cases[caseUid]? = some case_ ∧ case_.drafts[draftName]? = some draft ∧
      AgentFirstMail.draftRenderDocument host.toReviewHost tree.workspace caseUid
        (draftName, draft) = .ok document := by
  obtain ⟨_, h⟩ := Result.seq_ok h
  obtain ⟨_, h⟩ := Result.seq_ok h
  obtain ⟨⟨caseUid, case_⟩, hresolved, h⟩ := Result.bind_ok h
  obtain ⟨hparsed, hget⟩ := resolveActiveCase_eq_ok hresolved
  dsimp only at h
  split at h
  · cases h
  · rename_i draft hdraft
    exact ⟨caseUid, case_, draft, hparsed, hget, hdraft, h⟩

theorem readDraft_eq_ok {caseRef caseUid : String} {draft : DraftFile}
    (h : readDraft host tree caseRef draftName = .ok (caseUid, draft)) :
    ∃ case_, parseCaseRef host.toHost caseRef = .ok caseUid ∧
      tree.workspace.cases[caseUid]? = some case_ ∧ case_.drafts[draftName]? = some draft := by
  obtain ⟨⟨uid, case_⟩, hresolved, h⟩ := Result.bind_ok h
  obtain ⟨hparsed, hget⟩ := resolveActiveCase_eq_ok hresolved
  dsimp only at h
  split at h
  · cases h
  · rename_i found hdraft
    cases h
    exact ⟨case_, hparsed, hget, hdraft⟩

/-- A save of a draft writes it with its state and tells what is read of it then. -/
theorem saveDraftInWorkspace_returned {caseRef : String} {edit : DraftEdit}
    (hexec : Exec (saveDraftInWorkspace host caseRef draftName edit) tree events
      (.returned (.ok saved)) tree') :
    ∃ caseUid draft changed state audit document,
      readDraft host tree caseRef draftName = .ok (caseUid, draft) ∧
      tree' = tree.written ((tree.workspace.replaceDraft caseUid draftName
        changed).writeDraftValidationState caseUid draftName state) audit ∧
      tree'.draftRenderDocument host caseRef draftName = .ok document ∧
      saved.draftName = some draftName ∧ saved.document = .draft document := by
  refine returns_of_exec (P := fun result t => ∀ saved, result = .ok saved →
    ∃ caseUid draft changed state audit document,
      readDraft host tree caseRef draftName = .ok (caseUid, draft) ∧
      t = tree.written ((tree.workspace.replaceDraft caseUid draftName
        changed).writeDraftValidationState caseUid draftName state) audit ∧
      t.draftRenderDocument host caseRef draftName = .ok document ∧
      saved.draftName = some draftName ∧ saved.document = .draft document) hexec ?_ saved rfl
  refine wp_acquireReviewWriteLock (fun _ => ?_) fun _ _ => trivial
  refine wp_treeCheck (fun current _ => ?_) fun _ _ => trivial
  split
  · intro saved h
    cases h
  · refine wp_treeCheck (fun _ _ => ?_) fun _ _ => trivial
    refine wp_treeCheck (fun found hread => ?_) fun _ _ => trivial
    obtain ⟨caseUid, draft⟩ := found
    refine wp_treeCheck (fun found _ => ?_) fun _ _ => trivial
    obtain ⟨changed, state⟩ := found
    refine wp_then ⟨trivial, ?_⟩
    apply wp_tree.mpr
    refine wp_treeCheck (fun _ _ => ?_) fun _ _ => trivial
    refine wp_then ⟨trivial, ?_⟩
    refine returns_appendAuditEvent fun history audit => ?_
    apply wp_tree.mpr
    refine wp_treeCheck (fun document hdocument => ?_) fun _ _ => trivial
    intro saved h
    cases h
    exact ⟨caseUid, draft, changed, state, audit, document, hread, rfl, hdocument, rfl, rfl⟩

theorem Workspace.putCase_putCase {w : Workspace} {caseUid : String} {case_ case_' : CaseRecord} :
    (w.putCase caseUid case_).putCase caseUid case_' = w.putCase caseUid case_' := by
  have hcases : (w.cases.insert caseUid case_).insert caseUid case_' =
      w.cases.insert caseUid case_' := by
    apply Std.ExtTreeMap.ext_getElem?
    intro other
    simp only [Std.ExtTreeMap.getElem?_insert]
    split <;> rfl
  unfold putCase
  rw [hcases]

/-- A case with one of its drafts changed. -/
def CaseRecord.withDraft (case_ : CaseRecord) (draftName : String) (changed : DraftFile)
    (state : String) : CaseRecord :=
  { case_ with
    drafts := case_.drafts.insert draftName changed
    draftStates := case_.draftStates.insert draftName state }

theorem Workspace.replaceDraft_eq_putCase {w : Workspace} {caseUid state : String}
    {case_ : CaseRecord} (hget : w.cases[caseUid]? = some case_) :
    (w.replaceDraft caseUid draftName changed).writeDraftValidationState caseUid draftName state =
      w.putCase caseUid (case_.withDraft draftName changed state) := by
  unfold replaceDraft writeDraftValidationState
  rw [alterCase_eq_putCase hget, alterCase_eq_putCase Std.ExtTreeMap.getElem?_insert_self,
    putCase_putCase]
  rfl

theorem insert_of_getElem? {α : Type} {m : Std.ExtTreeMap String α} {key : String} {value : α}
    (hget : m[key]? = some value) : m.insert key value = m := by
  apply Std.ExtTreeMap.ext_getElem?
  intro other
  rw [Std.ExtTreeMap.getElem?_insert]
  split
  · rename_i heq
    rw [← Std.LawfulEqCmp.compare_eq_iff_eq.mp heq, hget]
  · rfl

theorem SavesItems.of_caseDraft {caseRef : String} {edit : DraftEdit}
    (hexec : Exec (saveDraftInWorkspace host caseRef draftName edit) tree events
      (.returned (.ok saved)) tree') : SavesItems host (.case caseRef) tree tree' saved := by
  obtain ⟨caseUid, draft, changed, state, audit, document, hread, rfl, hdocument, hname, hsaved⟩ :=
    saveDraftInWorkspace_returned hexec
  obtain ⟨case_, hparsed, hget, hdraft⟩ := readDraft_eq_ok hread
  obtain ⟨uid, file, found, hparsed', hget', hfound, hdocument⟩ :=
    WorkspaceTree.draftRenderDocument_eq_ok hdocument
  cases hparsed.symm.trans hparsed'
  rw [Workspace.replaceDraft_eq_putCase hget] at hget' hdocument ⊢
  cases Option.some.inj (hget'.symm.trans Std.ExtTreeMap.getElem?_insert_self)
  cases hfound.symm.trans Std.ExtTreeMap.getElem?_insert_self
  have hcore : (case_.withDraft draftName changed state).core = case_.core := rfl
  have htree : (tree.written (tree.workspace.putCase caseUid
      (case_.withDraft draftName changed state)) audit).core = tree.core :=
    congrArg (fun w => { tree with workspace := w }) (Workspace.core_putCase hget hcore)
  constructor
  · intro messageId current hcurrent
    obtain ⟨uid, found, messages, notes, drafts, hreads, rfl⟩ := currentItem_case_eq_ok.mp hcurrent
    cases hreads.parsed.symm.trans hparsed
    obtain ⟨hfound, hpair, _⟩ := readCaseFile_eq_ok_iff.mp hreads.file
    cases hfound.symm.trans hget
    rw [WorkspaceTree.draftRenderDocument_congr htree] at hdocument
    have hdrafts := caseDrafts_replaced case_ (case_.draftStates.insert draftName state)
      (Indexing.mem_of_getElem? hdraft) hdocument hreads.drafts
    refine ⟨_, currentItem_case_eq_ok.mpr ⟨caseUid, _, messages, notes, _,
      hreads.put hcore hpair hreads.notes hdrafts, rfl⟩, ?_⟩
    unfold ShownItem.withSaved ReviewDocument.withSaved
    rw [hsaved, hname]
    rfl
  · intro messageId current hcurrent
    obtain ⟨uid, found, messages, notes, drafts, hreads, rfl⟩ := currentItem_case_eq_ok.mp hcurrent
    cases hreads.parsed.symm.trans hparsed
    obtain ⟨hfound, _⟩ := readCaseFile_eq_ok_iff.mp hreads.file
    cases Option.some.inj (hfound.symm.trans Std.ExtTreeMap.getElem?_insert_self)
    have hagain : (case_.drafts.insert draftName changed).insert draftName changed =
        case_.drafts.insert draftName changed :=
      insert_of_getElem? Std.ExtTreeMap.getElem?_insert_self
    have hdrafts := caseDrafts_replaced (case_.withDraft draftName changed state)
      (case_.draftStates.insert draftName state) Std.ExtTreeMap.mem_insert_self hdocument
      hreads.drafts
    have hsame := hreads.drafts
    unfold CaseRecord.withDraft at hdrafts hsame
    dsimp only at hdrafts hsame
    rw [hagain] at hdrafts
    have hreplaced := Except.ok.inj (hdrafts.symm.trans hsame)
    unfold ShownItem.withSaved ReviewDocument.withSaved CaseRecord.currentItem
    rw [hsaved, hname]
    dsimp only
    rw [hreplaced]

end Drafts

theorem SavesItems.of_notes {host : PageHost} {surface : ReviewSurface}
    {tree tree' : WorkspaceTree} {events : List TreeEvent} {edit : NotesEdit} {saved : SavedEdit}
    (hexec : Exec (saveNotes host surface edit) tree events (.returned (.ok saved)) tree') :
    SavesItems host surface tree tree' saved := by
  cases surface with
  | case caseRef => exact .of_caseNotes hexec
  | notification notificationRef => exact .of_notificationNotes hexec
  | triage => cases hexec
  | draft caseRef draftName => cases hexec

theorem SavesItems.of_drafts {host : PageHost} {surface : ReviewSurface} {model : ReviewContents}
    {tree tree' : WorkspaceTree} {events : List TreeEvent} {edit : DraftEdit} {saved : SavedEdit}
    (hexec : Exec (saveDraft host surface model edit) tree events (.returned (.ok saved)) tree') :
    SavesItems host surface tree tree' saved := by
  rcases hexec.of_ofExcept_bind with ⟨⟨caseRef, draftName⟩, htarget, hexec⟩ |
    ⟨_, _, _, _, hfailed | hcrashed⟩
  · cases surface with
    | case ref =>
      unfold savedDraftTarget at htarget
      dsimp only at htarget
      split at htarget
      all_goals split at htarget
      all_goals cases htarget
      all_goals exact .of_caseDraft hexec
    | draft ref name => exact .of_draft
    | triage => cases htarget
    | notification ref => cases htarget
  · cases hfailed
  · cases hcrashed

end AgentFirstMail
