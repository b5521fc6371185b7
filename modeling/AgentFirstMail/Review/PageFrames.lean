import AgentFirstMail.Review.PageSettling

namespace AgentFirstMail
open Effect TreeCommand

/-- A case without its notes, its drafts and the suggestions for it. -/
def CaseRecord.core (case_ : CaseRecord) : CaseRecord :=
  { case_ with
    drafts := ∅, draftStates := ∅, notes := none, agentSuggestion := none
    humanSuggestion := none }

def NotificationRecord.core (notification : NotificationRecord) : NotificationRecord :=
  { notification with notes := none, agentSuggestion := none, humanSuggestion := none }

/-- What messages are read from. -/
def Workspace.core (w : Workspace) : Workspace :=
  { w with
    cases := w.cases.map fun _ case_ => case_.core
    notifications := w.notifications.map fun _ notification => notification.core
    audit := {} }

namespace Workspace
variable (w : Workspace)

theorem buildCaseIndex_core : w.core.buildCaseIndex = w.buildCaseIndex := by
  have hentries : w.core.allCaseEntries = w.allCaseEntries.map fun entry => (entry.1, entry.2.core) := by
    unfold allCaseEntries caseEntries archivedCaseEntries core
    rw [Std.ExtTreeMap.toList_map, List.filter_map, List.filter_map, List.map_append]
    rfl
  unfold buildCaseIndex
  rw [hentries, List.mapM_map]
  rfl

theorem notificationStateByMessage_core :
    w.core.notificationStateByMessage = w.notificationStateByMessage := by
  unfold notificationStateByMessage core
  rw [Std.ExtTreeMap.toList_map, List.foldlM_map]
  rfl

theorem materializedOverlayIndex_core :
    w.core.materializedOverlayIndex = w.materializedOverlayIndex := by
  unfold materializedOverlayIndex
  rw [buildCaseIndex_core, notificationStateByMessage_core]
  rfl

theorem notifiedRfc3339_core (notificationUid messageId : String) :
    w.core.notifiedRfc3339 notificationUid messageId =
      w.notifiedRfc3339 notificationUid messageId := by
  unfold notifiedRfc3339 core
  rw [Std.ExtTreeMap.getElem?_map]
  cases w.notifications[notificationUid]? <;> rfl

end Workspace

theorem applyWorkspaceOverlays_core (w : Workspace) (index : OverlayIndex) (message : MessageBase) :
    applyWorkspaceOverlays w.core index message = applyWorkspaceOverlays w index message := by
  unfold applyWorkspaceOverlays
  simp only [Workspace.notifiedRfc3339_core]
  rfl

namespace WorkspaceTree

def core (tree : WorkspaceTree) : WorkspaceTree := { tree with workspace := tree.workspace.core }

variable {host : ProjectionHost} (tree : WorkspaceTree)

theorem present_core (context : MaterializationContext) (message : MessageBase) :
    tree.core.present context message = tree.present context message := by
  unfold present core
  rw [applyWorkspaceOverlays_core]

theorem readMessageById_core (messageId : String) :
    tree.core.readMessageById host messageId = tree.readMessageById host messageId := by
  have hcontext : tree.core.materializationContext host = tree.materializationContext host := by
    unfold materializationContext core
    dsimp only
    rw [Workspace.materializedOverlayIndex_core]
    rfl
  unfold readMessageById
  rw [hcontext]
  cases tree.materializationContext host with
  | error error => rfl
  | ok context =>
    change tree.core.readMessage host context messageId = tree.readMessage host context messageId
    unfold readMessage readMessageFromEml readProjection
    simp only [present_core]
    rfl

variable {tree} {tree' : WorkspaceTree}

theorem messageRenderDocument_congr {host : ReviewHost} (hcore : tree'.core = tree.core) :
    tree'.messageRenderDocument host = tree.messageRenderDocument host := by
  funext messageId
  have hread : tree'.readMessageById host.toProjectionHost messageId =
      tree.readMessageById host.toProjectionHost messageId := by
    rw [← readMessageById_core, hcore, readMessageById_core]
  unfold messageRenderDocument
  rw [hread]

theorem draftRenderDocument_congr {host : ReviewHost} (hcore : tree'.core = tree.core)
    (caseUid : String) : AgentFirstMail.draftRenderDocument host tree'.workspace caseUid =
      AgentFirstMail.draftRenderDocument host tree.workspace caseUid := by
  funext entry
  have hitem : tree'.workspace.findDraftItem = tree.workspace.findDraftItem := by
    change tree'.core.workspace.findDraftItem = tree.core.workspace.findDraftItem
    rw [hcore]
  unfold AgentFirstMail.draftRenderDocument
  rw [hitem]

end WorkspaceTree

namespace Workspace
variable {w : Workspace}

theorem alterCase_eq_putCase {change : CaseRecord → CaseRecord} {caseUid : String}
    {case_ : CaseRecord} (hget : w.cases[caseUid]? = some case_) :
    w.alterCase caseUid change = w.putCase caseUid (change case_) := by
  have hcases : w.cases.alter caseUid (·.map change) = w.cases.insert caseUid (change case_) := by
    apply Std.ExtTreeMap.ext_getElem?
    intro other
    rw [Std.ExtTreeMap.getElem?_alter, Std.ExtTreeMap.getElem?_insert, hget]
    rfl
  unfold alterCase putCase
  rw [hcases]

theorem replaceNotificationNotes_eq_putNotification {notificationUid : String}
    {notification : NotificationRecord} (text : String)
    (hget : w.notifications[notificationUid]? = some notification) :
    w.replaceNotificationNotes notificationUid text =
      w.putNotification notificationUid { notification with notes := some text } := by
  have hnotifications : w.notifications.alter notificationUid
        (·.map fun notification => { notification with notes := some text }) =
      w.notifications.insert notificationUid { notification with notes := some text } := by
    apply Std.ExtTreeMap.ext_getElem?
    intro other
    rw [Std.ExtTreeMap.getElem?_alter, Std.ExtTreeMap.getElem?_insert, hget]
    rfl
  unfold replaceNotificationNotes putNotification
  dsimp only
  rw [hnotifications]

theorem core_putCase {caseUid : String} {case_ file : CaseRecord}
    (hget : w.cases[caseUid]? = some case_) (hsame : file.core = case_.core) :
    (w.putCase caseUid file).core = w.core := by
  have hcases : (w.cases.insert caseUid file).map (fun _ case_ => case_.core) =
      w.cases.map fun _ case_ => case_.core := by
    apply Std.ExtTreeMap.ext_getElem?
    intro other
    rw [Std.ExtTreeMap.getElem?_map, Std.ExtTreeMap.getElem?_map, Std.ExtTreeMap.getElem?_insert]
    split
    · rename_i heq
      rw [← Std.LawfulEqCmp.compare_eq_iff_eq.mp heq, hget]
      exact congrArg some hsame
    · rfl
  unfold putCase core
  dsimp only
  rw [hcases]

theorem core_putNotification {notificationUid : String} {notification file : NotificationRecord}
    (hget : w.notifications[notificationUid]? = some notification)
    (hsame : file.core = notification.core) :
    (w.putNotification notificationUid file).core = w.core := by
  have hnotifications : (w.notifications.insert notificationUid file).map
      (fun _ notification => notification.core) =
      w.notifications.map fun _ notification => notification.core := by
    apply Std.ExtTreeMap.ext_getElem?
    intro other
    rw [Std.ExtTreeMap.getElem?_map, Std.ExtTreeMap.getElem?_map, Std.ExtTreeMap.getElem?_insert]
    split
    · rename_i heq
      rw [← Std.LawfulEqCmp.compare_eq_iff_eq.mp heq, hget]
      exact congrArg some hsame
    · rfl
  unfold putNotification core
  dsimp only
  rw [hnotifications]

end Workspace

/-- A case with what a review reads besides, as an item. -/
def CaseRecord.currentItem (case_ : CaseRecord) (caseUid : String)
    (messages : List MessageRenderDocument) (notes : NotesRenderDocument)
    (drafts : List DraftRenderDocument) : CurrentItem :=
  let collection : CollectionRenderDocument :=
    { collection := case_.collection caseUid, messages, location := some case_.group }
  { document := .case collection.withoutSuggestions notes drafts
    agentSuggestionUid := collection.caseAgent.map (·.agentSuggestionUid)
    proposedFor := collection.caseAgent.map (·.reviewBaseHash) }

def NotificationRecord.currentItem (notification : NotificationRecord) (notificationUid : String)
    (messages : List MessageRenderDocument) (notes : NotesRenderDocument) : CurrentItem :=
  let collection : CollectionRenderDocument :=
    { collection := notification.collection notificationUid, messages, location := none }
  { document := .notification collection.withoutSuggestions notes
    agentSuggestionUid := collection.notificationAgent.map (·.agentSuggestionUid)
    proposedFor := collection.notificationAgent.map (·.reviewBaseHash) }

section Items
variable {host : PageHost} {tree tree' : WorkspaceTree} {caseRef caseUid : String}
  {notificationRef notificationUid messageId : String}

theorem readCaseFile_eq_ok_iff {host : Host} {w : Workspace} {case_ : CaseRecord} :
    w.readCaseFile host caseUid = .ok case_ ↔ w.cases[caseUid]? = some case_ ∧
      validateCaseSuggestionPair host case_.agentSuggestion case_.humanSuggestion = .ok () ∧
      Workspace.ensureStatusFitsTree caseUid case_ = .ok () := by
  constructor
  · intro h
    obtain ⟨found, hfound, h⟩ := Result.bind_ok h
    obtain ⟨hvalid, h⟩ := Result.seq_ok h
    obtain ⟨hfits, h⟩ := Result.seq_ok h
    cases h
    refine ⟨Workspace.findCase_eq_ok_iff.mp hfound, ?_, hfits⟩
    cases hpair : validateCaseSuggestionPair host case_.agentSuggestion case_.humanSuggestion with
    | ok _ => rfl
    | error error =>
      rw [hpair] at hvalid
      cases hvalid
  · rintro ⟨hget, hvalid, hfits⟩
    refine Result.bind_eq_ok_iff.mpr ⟨case_, Workspace.findCase_eq_ok_iff.mpr hget, ?_⟩
    rw [hvalid]
    exact Result.bind_unit_eq_ok_iff.mpr ⟨rfl, Result.bind_unit_eq_ok_iff.mpr ⟨hfits, rfl⟩⟩

theorem findNotification_eq_ok_iff {w : Workspace} {notification : NotificationRecord} :
    w.findNotification notificationUid = .ok notification ↔
      w.notifications[notificationUid]? = some notification := by
  unfold Workspace.findNotification
  cases w.notifications[notificationUid]? with
  | none => exact ⟨fun h => (nomatch h), fun h => (nomatch h)⟩
  | some found => exact ⟨fun h => congrArg some (Except.ok.inj h), fun h => by cases h; rfl⟩

theorem readNotifications_eq_ok_iff {host : Host} {w : Workspace}
    {notification : NotificationRecord} :
    w.readNotifications host notificationUid = .ok notification ↔
      w.notifications[notificationUid]? = some notification ∧
      validateNotificationSuggestionPair host notification.agentSuggestion
        notification.humanSuggestion = .ok () := by
  constructor
  · intro h
    obtain ⟨found, hfound, h⟩ := Result.bind_ok h
    obtain ⟨hvalid, h⟩ := Result.seq_ok h
    cases h
    constructor
    · exact findNotification_eq_ok_iff.mp hfound
    · cases hpair : validateNotificationSuggestionPair host notification.agentSuggestion
          notification.humanSuggestion with
      | ok _ => rfl
      | error error =>
        rw [hpair] at hvalid
        cases hvalid
  · rintro ⟨hget, hvalid⟩
    refine Result.bind_eq_ok_iff.mpr ⟨notification, findNotification_eq_ok_iff.mpr hget, ?_⟩
    rw [hvalid]
    rfl

/-- The drafts of a case whose file was read. -/
def caseDrafts (host : ReviewHost) (w : Workspace) (caseUid : String) (case_ : CaseRecord) :
    Result (List DraftRenderDocument) :=
  if case_.status.isActive then case_.drafts.toList.mapM (draftRenderDocument host w caseUid)
  else .ok []

/-- What the item of a case is read from. -/
structure ReadsCase (host : PageHost) (tree : WorkspaceTree) (caseRef caseUid : String)
    (case_ : CaseRecord) (messages : List MessageRenderDocument) (notes : NotesRenderDocument)
    (drafts : List DraftRenderDocument) : Prop where
  parsed : parseCaseRef host.toHost caseRef = .ok caseUid
  file : tree.workspace.readCaseFile host.toHost caseUid = .ok case_
  messages : case_.members.messageIds.mapM (tree.messageRenderDocument host.toReviewHost) =
    .ok messages
  notes : notesRenderDocument case_.path case_.notes = .ok notes
  drafts : caseDrafts host.toReviewHost tree.workspace caseUid case_ = .ok drafts

theorem currentItem_case_eq_ok {current : CurrentItem} :
    currentItem host tree (.case caseRef) messageId = .ok current ↔
      ∃ caseUid case_ messages notes drafts,
        ReadsCase host tree caseRef caseUid case_ messages notes drafts ∧
          current = case_.currentItem caseUid messages notes drafts := by
  constructor
  · intro h
    obtain ⟨caseUid, huid, h⟩ := Result.bind_ok h
    obtain ⟨collection, hcollection, h⟩ := Result.bind_ok h
    obtain ⟨notes, hnotes, h⟩ := Result.bind_ok h
    obtain ⟨drafts, hdrafts, h⟩ := Result.bind_ok h
    cases h
    obtain ⟨parsed, hparsed, huid⟩ := Result.bind_ok huid
    obtain ⟨_, _, huid⟩ := Result.bind_ok huid
    cases huid
    obtain ⟨case_, hfile, hcollection⟩ := Result.bind_ok hcollection
    obtain ⟨messages, hmessages, hcollection⟩ := Result.bind_ok hcollection
    cases hcollection
    obtain ⟨found, hfound, hnotes⟩ := Result.bind_ok hnotes
    cases hfound.symm.trans hfile
    obtain ⟨found, hfound, hdrafts⟩ := Result.bind_ok hdrafts
    cases hfound.symm.trans hfile
    exact ⟨caseUid, case_, messages, notes, drafts, ⟨hparsed, hfile, hmessages, hnotes, hdrafts⟩, rfl⟩
  · rintro ⟨caseUid, case_, messages, notes, drafts, hreads, rfl⟩
    refine Result.bind_eq_ok_iff.mpr ⟨caseUid, Result.bind_eq_ok_iff.mpr ⟨caseUid, hreads.parsed,
      Result.bind_eq_ok_iff.mpr ⟨case_, hreads.file, rfl⟩⟩, ?_⟩
    refine Result.bind_eq_ok_iff.mpr ⟨_, Result.bind_eq_ok_iff.mpr ⟨case_, hreads.file,
      Result.bind_eq_ok_iff.mpr ⟨messages, hreads.messages, rfl⟩⟩, ?_⟩
    refine Result.bind_eq_ok_iff.mpr ⟨notes, Result.bind_eq_ok_iff.mpr
      ⟨case_, hreads.file, hreads.notes⟩, ?_⟩
    exact Result.bind_eq_ok_iff.mpr ⟨drafts, Result.bind_eq_ok_iff.mpr
      ⟨case_, hreads.file, hreads.drafts⟩, rfl⟩

structure ReadsNotification (host : PageHost) (tree : WorkspaceTree)
    (notificationRef notificationUid : String) (notification : NotificationRecord)
    (messages : List MessageRenderDocument) (notes : NotesRenderDocument) : Prop where
  parsed : parseNotificationRef host.toHost notificationRef = .ok notificationUid
  file : tree.workspace.readNotifications host.toHost notificationUid = .ok notification
  messages : notification.members.messageIds.mapM
    (tree.messageRenderDocument host.toReviewHost) = .ok messages
  notes : notesRenderDocument notification.path notification.notes = .ok notes

theorem findNotification_of_read {host : Host} {w : Workspace} {notification : NotificationRecord}
    (hfile : w.readNotifications host notificationUid = .ok notification) :
    w.findNotification notificationUid = .ok notification :=
  findNotification_eq_ok_iff.mpr (readNotifications_eq_ok_iff.mp hfile).1

theorem currentItem_notification_eq_ok {current : CurrentItem} :
    currentItem host tree (.notification notificationRef) messageId = .ok current ↔
      ∃ notificationUid notification messages notes,
        ReadsNotification host tree notificationRef notificationUid notification messages notes ∧
          current = notification.currentItem notificationUid messages notes := by
  constructor
  · intro h
    obtain ⟨notificationUid, huid, h⟩ := Result.bind_ok h
    obtain ⟨collection, hcollection, h⟩ := Result.bind_ok h
    obtain ⟨notes, hnotes, h⟩ := Result.bind_ok h
    cases h
    obtain ⟨parsed, hparsed, huid⟩ := Result.bind_ok huid
    obtain ⟨_, _, huid⟩ := Result.bind_ok huid
    cases huid
    obtain ⟨notification, hfile, hcollection⟩ := Result.bind_ok hcollection
    obtain ⟨messages, hmessages, hcollection⟩ := Result.bind_ok hcollection
    cases hcollection
    obtain ⟨found, hfound, hnotes⟩ := Result.bind_ok hnotes
    cases hfound.symm.trans (findNotification_of_read hfile)
    exact ⟨notificationUid, notification, messages, notes, ⟨hparsed, hfile, hmessages, hnotes⟩, rfl⟩
  · rintro ⟨notificationUid, notification, messages, notes, hreads, rfl⟩
    have hfound := findNotification_of_read hreads.file
    refine Result.bind_eq_ok_iff.mpr ⟨notificationUid, Result.bind_eq_ok_iff.mpr
      ⟨notificationUid, hreads.parsed, Result.bind_eq_ok_iff.mpr ⟨notification, hfound, rfl⟩⟩, ?_⟩
    refine Result.bind_eq_ok_iff.mpr ⟨_, Result.bind_eq_ok_iff.mpr ⟨notification, hreads.file,
      Result.bind_eq_ok_iff.mpr ⟨messages, hreads.messages, rfl⟩⟩, ?_⟩
    exact Result.bind_eq_ok_iff.mpr ⟨notes, Result.bind_eq_ok_iff.mpr
      ⟨notification, hfound, hreads.notes⟩, rfl⟩

end Items
end AgentFirstMail
