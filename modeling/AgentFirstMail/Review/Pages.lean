import AgentFirstMail.Cases.Archive
import AgentFirstMail.Review.Commands

namespace AgentFirstMail
open Effect TreeCommand

/-- One draft-editor save. -/
structure DraftEdit where
  baseHash : String := ""
  draftName : String := ""
  subject : Option String := none
  toText : String := ""
  cc : String := ""
  bcc : String := ""
  body : Option String := none

/-- One notes-editor save. -/
structure NotesEdit where
  baseHash : String := ""
  text : String := ""

/-- What review pages use besides: the hashes of the documents that can be edited, and what an
edit makes of a draft, with the record that it was validated. -/
structure PageHost extends ReviewHost where
  notesHash : NotesRenderDocument → String
  draftHash : DraftRenderDocument → String
  changeDraft : Workspace → String → String → DraftFile → DraftEdit → Result (DraftFile × String)

/-- A document that can be edited on a page. -/
structure EditableReviewDocument (α : Type) where
  document : α
  baseHash : String
deriving DecidableEq

/-- A message in triage as a page shows it. The suggestion round is kept by the server: a
settlement cannot name a newer one. -/
structure TriageReviewItem where
  document : TriageRenderDocument
  messageReviewBaseHash : String
  expectedAgentSuggestionUid : Option String
  stale : Bool

structure TriageTruncation where
  count : Nat
  returnedCount : Nat

structure TriageReviewContents where
  items : List TriageReviewItem
  truncated : Option TriageTruncation := none

structure CaseReviewContents where
  collection : CollectionRenderDocument
  caseReviewBaseHash : String
  expectedAgentSuggestionUid : Option String
  stale : Bool
  notes : EditableReviewDocument NotesRenderDocument
  drafts : List (EditableReviewDocument DraftRenderDocument)

structure NotificationReviewContents where
  collection : CollectionRenderDocument
  notificationReviewBaseHash : String
  expectedAgentSuggestionUid : Option String
  stale : Bool
  notes : EditableReviewDocument NotesRenderDocument
deriving DecidableEq

inductive ReviewContents where
  | triage (contents : TriageReviewContents)
  | case (contents : CaseReviewContents)
  | notification (contents : NotificationReviewContents)
  | draft (draft : EditableReviewDocument DraftRenderDocument)

/-- What a review is about. -/
inductive ReviewSurface where
  | triage
  | case (caseRef : String)
  | notification (notificationRef : String)
  | draft (caseRef draftName : String)
deriving DecidableEq

/-- A proposal was made for another state of its item. -/
def AgentSuggestion.staleAt (suggestion : AgentSuggestion α) (hash : String) : Bool :=
  suggestion.reviewBaseHash != hash

def CollectionRenderDocument.caseAgent (document : CollectionRenderDocument) :
    Option CaseAgentSuggestion :=
  match document.collection.agentSuggestion with
  | some (.case agent) => some agent
  | _ => none

def CollectionRenderDocument.notificationAgent (document : CollectionRenderDocument) :
    Option NotificationAgentSuggestion :=
  match document.collection.agentSuggestion with
  | some (.notification agent) => some agent
  | _ => none

def draftMissing (draftName : String) : AppError :=
  { errorCode := "draft_not_found", message := s!"draft not found: {draftName}" }

section Building
variable (host : PageHost) (tree : WorkspaceTree)

/-- One draft of an active case. -/
def WorkspaceTree.draftRenderDocument (caseRef draftName : String) :
    Result DraftRenderDocument := do
  validateId host.toHost "draft_name" draftName
  ensure (".md".toList.isSuffixOf draftName.toList)
    (invalidRequest "invalid draft_name: must be a markdown file name")
  let (caseUid, case_) ← tree.workspace.resolveActiveCase host.toHost caseRef
  match case_.drafts[draftName]? with
  | none => throw (draftMissing draftName)
  | some draft =>
    AgentFirstMail.draftRenderDocument host.toReviewHost tree.workspace caseUid (draftName, draft)

def editableNotes (document : NotesRenderDocument) : EditableReviewDocument NotesRenderDocument :=
  ⟨document, host.notesHash document⟩

def editableDraft (document : DraftRenderDocument) : EditableReviewDocument DraftRenderDocument :=
  ⟨document, host.draftHash document⟩

def triageReviewItem (messageId : String) : Result TriageReviewItem := do
  let document ← tree.triageTemplateDocument host.toReviewHost messageId
  let messageReviewBaseHash ← tree.messageReviewBaseHash host.toReviewHost messageId
  let agent := document.message.message.agentSuggestion
  return { document, messageReviewBaseHash
           expectedAgentSuggestionUid := agent.map (·.agentSuggestionUid)
           stale := agent.any (·.staleAt messageReviewBaseHash) }

def buildTriageReviewContents (messageIds : List String) (truncated : Option TriageTruncation) :
    Result TriageReviewContents := do
  let items ← messageIds.mapM (triageReviewItem host tree)
  return { items, truncated }

def buildCaseReviewContents (caseRef : String) : Result CaseReviewContents := do
  let caseUid ← resolveCaseRef host.toReviewHost tree caseRef
  let collection ← tree.caseRenderDocument host.toReviewHost caseUid
  let caseReviewBaseHash ← tree.caseReviewBaseHash host.toReviewHost caseUid
  let notes ← tree.caseNotesRenderDocument host.toReviewHost caseUid
  let drafts ← tree.draftRenderDocuments host.toReviewHost caseUid
  return { collection, caseReviewBaseHash
           expectedAgentSuggestionUid := collection.caseAgent.map (·.agentSuggestionUid)
           stale := collection.caseAgent.any (·.staleAt caseReviewBaseHash)
           notes := editableNotes host notes
           drafts := drafts.map (editableDraft host) }

def buildNotificationReviewContents (notificationRef : String) :
    Result NotificationReviewContents := do
  let notificationUid ← resolveNotificationRef host.toReviewHost tree notificationRef
  let collection ← tree.notificationRenderDocument host.toReviewHost notificationUid
  let notificationReviewBaseHash ←
    tree.notificationReviewBaseHash host.toReviewHost notificationUid
  let notes ← tree.notificationNotesRenderDocument notificationUid
  return { collection, notificationReviewBaseHash
           expectedAgentSuggestionUid := collection.notificationAgent.map (·.agentSuggestionUid)
           stale := collection.notificationAgent.any (·.staleAt notificationReviewBaseHash)
           notes := editableNotes host notes }

def reviewContentsMismatch : AppError :=
  { errorCode := "review_document_invalid"
    message := "review surface and typed contents do not match" }

/-- The surface of a session read again; a triage review keeps its messages. -/
def refreshedReviewRenderDocument (surface : ReviewSurface) (current : ReviewContents) :
    Result ReviewContents :=
  match surface with
  | .triage =>
    match current with
    | .triage contents => do
      let contents ← buildTriageReviewContents host tree
        (contents.items.map (·.document.message.message.messageId)) contents.truncated
      return .triage contents
    | _ => .error reviewContentsMismatch
  | .case caseRef => do
    let contents ← buildCaseReviewContents host tree caseRef
    return .case contents
  | .notification notificationRef => do
    let contents ← buildNotificationReviewContents host tree notificationRef
    return .notification contents
  | .draft caseRef draftName => do
    let document ← tree.draftRenderDocument host caseRef draftName
    return .draft (editableDraft host document)

end Building

inductive SavedDocument where
  | notes (document : NotesRenderDocument)
  | draft (document : DraftRenderDocument)
deriving DecidableEq

/-- What a successful save wrote. -/
structure SavedEdit where
  draftName : Option String := none
  baseHash : String
  document : SavedDocument
deriving DecidableEq

def withNewline (text : String) : String :=
  if text.toList.getLast? = some '\n' then text else text ++ "\n"

section Saving
variable (host : PageHost)

/-- No command writes beside an exclusive lock, and nothing is written over an unfinished
transaction. -/
def acquireReviewWriteLock : TreeCommand WorkspaceTree := do
  let tree ← TreeCommand.tree
  Program.ofExcept tree.workspace.ensureNoIncompleteTransactions
  return tree

/-- Replaces the notes that an edit was made for; others are told by their hash. -/
def saveNotesOf (objectKind : String) (read : WorkspaceTree → Result (String × NotesRenderDocument))
    (replace : String → String → Workspace → Workspace) (edit : NotesEdit) :
    TreeCommand (Except String SavedEdit) := do
  let tree ← acquireReviewWriteLock
  let (uid, current) ← Program.ofExcept (read tree)
  if host.notesHash current ≠ edit.baseHash then
    return .error (host.notesHash current)
  else do
    writeWorkspace (replace uid (withNewline edit.text))
    appendAuditEvent host.toHost (objectKind ++ "_notes_replaced") [(objectKind, uid)] none
    let tree ← TreeCommand.tree
    let (_, saved) ← Program.ofExcept (read tree)
    return .ok { baseHash := host.notesHash saved, document := .notes saved }

def readCaseNotes (caseRef : String) (tree : WorkspaceTree) :
    Result (String × NotesRenderDocument) := do
  let caseUid ← resolveCaseRef host.toReviewHost tree caseRef
  let notes ← tree.caseNotesRenderDocument host.toReviewHost caseUid
  return (caseUid, notes)

def readNotificationNotes (notificationRef : String) (tree : WorkspaceTree) :
    Result (String × NotesRenderDocument) := do
  let notificationUid ← resolveNotificationRef host.toReviewHost tree notificationRef
  let notes ← tree.notificationNotesRenderDocument notificationUid
  return (notificationUid, notes)

def Workspace.replaceCaseNotes (caseUid text : String) (w : Workspace) : Workspace :=
  w.alterCase caseUid fun case_ => { case_ with notes := some text }

def Workspace.replaceNotificationNotes (notificationUid text : String) (w : Workspace) :
    Workspace :=
  let change := fun notification : NotificationRecord => { notification with notes := some text }
  { w with notifications := w.notifications.alter notificationUid fun found => found.map change }

def saveNotesInWorkspace (caseRef : String) : NotesEdit → TreeCommand (Except String SavedEdit) :=
  saveNotesOf host "case" (readCaseNotes host caseRef) Workspace.replaceCaseNotes

def saveNotificationNotesInWorkspace (notificationRef : String) :
    NotesEdit → TreeCommand (Except String SavedEdit) :=
  saveNotesOf host "notification" (readNotificationNotes host notificationRef)
    Workspace.replaceNotificationNotes

def saveNotes (surface : ReviewSurface) (edit : NotesEdit) :
    TreeCommand (Except String SavedEdit) :=
  match surface with
  | .case caseRef => saveNotesInWorkspace host caseRef edit
  | .notification notificationRef => saveNotificationNotesInWorkspace host notificationRef edit
  | _ => Program.fail
    { errorCode := "review_save_invalid"
      message := "this review surface does not allow notes saves" }

def Workspace.replaceDraft (caseUid draftName : String) (draft : DraftFile) (w : Workspace) :
    Workspace :=
  w.alterCase caseUid fun case_ => { case_ with drafts := case_.drafts.insert draftName draft }

def Workspace.writeDraftValidationState (caseUid draftName state : String) (w : Workspace) :
    Workspace :=
  w.alterCase caseUid fun case_ =>
    { case_ with draftStates := case_.draftStates.insert draftName state }

def readDraft (tree : WorkspaceTree) (caseRef draftName : String) : Result (String × DraftFile) := do
  let (caseUid, case_) ← tree.workspace.resolveActiveCase host.toHost caseRef
  match case_.drafts[draftName]? with
  | none => throw (draftMissing draftName)
  | some draft => return (caseUid, draft)

def saveDraftInWorkspace (caseRef draftName : String) (edit : DraftEdit) :
    TreeCommand (Except String SavedEdit) := do
  let tree ← acquireReviewWriteLock
  let current ← Program.ofExcept (tree.draftRenderDocument host caseRef draftName)
  if host.draftHash current ≠ edit.baseHash then
    return .error (host.draftHash current)
  else do
    Program.ofExcept (ensure (trimmed edit.toText != "" || trimmed edit.bcc != "")
      (draftInvalid "draft requires at least one to or bcc recipient"))
    let (caseUid, draft) ← Program.ofExcept (readDraft host tree caseRef draftName)
    let (changed, state) ← Program.ofExcept
      (host.changeDraft tree.workspace caseUid draftName draft edit)
    writeWorkspace (·.replaceDraft caseUid draftName changed)
    let written ← TreeCommand.tree
    let _ ← Program.ofExcept (written.workspace.readDraftState caseUid)
    writeWorkspace (·.writeDraftValidationState caseUid draftName state)
    appendAuditEvent host.toHost "draft_changed" [("case", caseUid)] none
    let tree ← TreeCommand.tree
    let saved ← Program.ofExcept (tree.draftRenderDocument host caseRef draftName)
    return .ok
      { draftName := some draftName, baseHash := host.draftHash saved, document := .draft saved }

def draftNotAllowed (message : String) : AppError :=
  { errorCode := "review_draft_not_allowed", message }

/-- A case review saves the drafts it lists; a draft review has one. -/
def savedDraftTarget (surface : ReviewSurface) (model : ReviewContents) (requested : String) :
    Result (String × String) :=
  match surface with
  | .draft caseRef draftName => .ok (caseRef, draftName)
  | .case caseRef =>
    let listed := match model with
      | .case contents => contents.drafts.any (·.document.draftName == requested)
      | _ => false
    if listed then .ok (caseRef, requested)
    else .error (draftNotAllowed "only drafts listed in this case review can be saved")
  | _ => .error (draftNotAllowed "this review surface does not allow draft saves")

def saveDraft (surface : ReviewSurface) (model : ReviewContents) (edit : DraftEdit) :
    TreeCommand (Except String SavedEdit) := do
  let (caseRef, draftName) ← Program.ofExcept (savedDraftTarget surface model edit.draftName)
  saveDraftInWorkspace host caseRef draftName edit

end Saving

def savedDocumentMismatch (message : String) : AppError :=
  { errorCode := "review_saved_document_mismatch", message }

section Recording
variable (host : PageHost)

namespace CaseReviewContents

/-- The hash of a case whose notes or drafts were saved. -/
def rehashed (contents : CaseReviewContents) : CaseReviewContents :=
  let hash := caseReviewBaseHashFromDocuments host.toReviewHost contents.collection
    contents.notes.document (contents.drafts.map (·.document))
  { contents with
    caseReviewBaseHash := hash
    stale := contents.collection.caseAgent.any (·.staleAt hash) }

def withDraft (contents : CaseReviewContents) (draftName : String)
    (draft : EditableReviewDocument DraftRenderDocument) : Result CaseReviewContents :=
  match contents.drafts.findIdx? (·.document.draftName == draftName) with
  | some i => .ok { contents with drafts := contents.drafts.set i draft }
  | none => .error (savedDocumentMismatch "saved draft is not part of this review")

end CaseReviewContents

/-- Advances the document that was just saved only, so that a change that the page has not seen
stays one that settlements meet. -/
def applySavedEditToModel (surface : ReviewSurface) (model : ReviewContents) (saved : SavedEdit) :
    Result ReviewContents :=
  match surface, model, saved.document with
  | .case _, .case contents, .notes document =>
    let contents := { contents with notes := ⟨document, saved.baseHash⟩ }
    .ok (.case (contents.rehashed host))
  | .notification _, .notification contents, .notes document =>
    let hash := notificationReviewBaseHashFromDocuments host.toReviewHost contents.collection
      document
    .ok (.notification { contents with
      notes := ⟨document, saved.baseHash⟩
      notificationReviewBaseHash := hash
      stale := contents.collection.notificationAgent.any (·.staleAt hash) })
  | .case _, .case contents, .draft document => do
    match saved.draftName with
    | none => throw (savedDocumentMismatch "saved draft has no name")
    | some draftName =>
      let contents ← contents.withDraft draftName ⟨document, saved.baseHash⟩
      return .case (contents.rehashed host)
  | .draft _ draftName, .draft _, .draft document =>
    if saved.draftName = some draftName then .ok (.draft ⟨document, saved.baseHash⟩)
    else .error (savedDocumentMismatch "saved document does not belong to this review surface")
  | _, _, _ => .error (savedDocumentMismatch "saved document does not belong to this review surface")

end Recording

/-- The fields of a settlement's form; a field that is not there is empty. -/
abbrev SettleFields := List (String × String)

def settleField (fields : SettleFields) (name : String) : String :=
  ((fields.find? (·.1 == name)).map (·.2)).getD ""

def nonEmpty (value : String) : Option String :=
  if trimmed value = "" then none else some (trimmed value)

def invalidSettleDecision (message : String) : AppError :=
  { errorCode := "invalid_settle_decision", message }

def requiredField (fields : SettleFields) (name : String) : Result String :=
  match nonEmpty (settleField fields name) with
  | some value => .ok value
  | none => .error (invalidSettleDecision s!"{name} is required for this decision")

/-- What a person decided, and the proposal that the decision answers. -/
structure Decision (α : Type) where
  outcome : HumanSuggestionOutcome
  basedOnAgentSuggestionUid : Option String := none
  suggestedAction : Option α := none

namespace Decision
variable (agent : Option (AgentSuggestion α)) (fields : SettleFields)

def decided (action : α) : Decision α := { outcome := .decided, suggestedAction := some action }

def accept (confirmed : α → Result Unit) : Result (Decision α) :=
  match agent with
  | none => .error (invalidSettleDecision "accept requires a current agent suggestion")
  | some agent => do
    confirmed agent.suggestedAction
    return ⟨.accepted, some agent.agentSuggestionUid, some agent.suggestedAction⟩

def reject : Result (Decision α) :=
  if (nonEmpty (settleField fields "reason")).isNone then
    .error (invalidSettleDecision "reject requires a reason")
  else .ok ⟨.rejected, agent.map (·.agentSuggestionUid), none⟩

def override (what : String) (action : α) : Result (Decision α) :=
  match agent with
  | none => .error (invalidSettleDecision s!"overriding to {what} requires a current agent suggestion")
  | some agent =>
    if (nonEmpty (settleField fields "reason")).isNone then
      .error (invalidSettleDecision "overriding a suggestion requires a reason")
    else .ok ⟨.changed, some agent.agentSuggestionUid, some action⟩

end Decision

def messageDecision (agent : Option MessageAgentSuggestion) (fields : SettleFields) :
    Result (Decision MessageSuggestedAction) :=
  match settleField fields "decision" with
  | "accept" => Decision.accept agent fun _ => .ok ()
  | "reject" => Decision.reject agent fields
  | "override_spam" => Decision.override agent fields "spam" .spam
  | "override_trash" => Decision.override agent fields "trash" .trash
  | "decide_case_create" => do
    let caseName ← requiredField fields "case_name"
    let group ← requiredField fields "group"
    return .decided (.caseCreate caseName group)
  | "decide_case_add" => do
    let caseRef ← requiredField fields "case_ref"
    return .decided (.caseAdd caseRef)
  | "decide_notification_create" => do
    let notificationName ← requiredField fields "notification_name"
    let summary ← requiredField fields "summary"
    return .decided (.notificationCreate notificationName summary)
  | "decide_notification_add" => do
    let notificationRef ← requiredField fields "notification_ref"
    let summary ← requiredField fields "summary"
    return .decided (.notificationAdd notificationRef summary)
  | "decide_spam" => .ok (.decided .spam)
  | "decide_trash" => .ok (.decided .trash)
  | _ => .error (invalidSettleDecision "choose a decision")

/-- What a person accepts with notes that are deleted has to be confirmed. -/
def notesDeletionConfirmed (fields : SettleFields) (kind : String) (allowNotes : Bool) :
    Result Unit :=
  ensure (!allowNotes || settleField fields "allow_notes_confirmed" == "true")
    { errorCode := s!"invalid_{kind}_decision"
      message := (s!"accepting {kind} deletion with allow_notes requires explicit notes " ++
        "deletion confirmation") }

def caseDecision (agent : Option CaseAgentSuggestion) (fields : SettleFields) :
    Result (Decision CaseSuggestedAction) :=
  match settleField fields "decision" with
  | "accept" => Decision.accept agent fun
    | .caseDelete allowNotes => notesDeletionConfirmed fields "case" allowNotes
    | _ => .ok ()
  | "reject" => Decision.reject agent fields
  | "decide_archive" => .ok (.decided .caseArchive)
  | "decide_unarchive" => do return .decided (.caseUnarchive (← requiredField fields "group"))
  | "decide_move" => do return .decided (.caseMove (← requiredField fields "group"))
  | "decide_rename" => do return .decided (.caseRename (← requiredField fields "case_name"))
  | "decide_tag" => do return .decided (.caseTag (← requiredField fields "tag"))
  | "decide_untag" => do return .decided (.caseUntag (← requiredField fields "tag"))
  | "decide_trash" => .ok (.decided .caseTrash)
  | "decide_delete" =>
    .ok (.decided (.caseDelete (settleField fields "decide_allow_notes" == "true")))
  | _ => .error (invalidSettleDecision "choose a decision")

def notificationDecision (agent : Option NotificationAgentSuggestion) (fields : SettleFields) :
    Result (Decision NotificationSuggestedAction) :=
  match settleField fields "decision" with
  | "accept" => Decision.accept agent fun
    | .notificationDelete allowNotes => notesDeletionConfirmed fields "notification" allowNotes
    | _ => .ok ()
  | "reject" => Decision.reject agent fields
  | "decide_rename" => do
    return .decided (.notificationRename (← requiredField fields "notification_name"))
  | "decide_delete" =>
    .ok (.decided (.notificationDelete (settleField fields "decide_allow_notes" == "true")))
  | _ => .error (invalidSettleDecision "choose a decision")

def reviewStale : AppError :=
  { errorCode := "review_stale"
    message := "the Agent suggestion changed after this review page was rendered" }

def ensureSuggestionRound (expected current : Option String) : Result Unit :=
  ensure (expected == current) reviewStale

section Settling
variable (host : PageHost)

/-- Settles one item with the hash and the suggestion round that the server keeps. -/
def settleItemInWorkspace [DecidableEq α] (item : SuggestedItem α ι)
    (currentAgent : WorkspaceTree → String → Result (Option (AgentSuggestion α)))
    (decide : Option (AgentSuggestion α) → SettleFields → Result (Decision α))
    (itemRef reviewBaseHash : String) (expectedAgentSuggestionUid : Option String)
    (fields : SettleFields) : TreeCommand (HumanSuggestion α) := do
  let tree ← acquireReviewWriteLock
  let agent ← Program.ofExcept (currentAgent tree itemRef)
  Program.ofExcept (ensureSuggestionRound expectedAgentSuggestionUid
    (agent.map (·.agentSuggestionUid)))
  let decision ← Program.ofExcept (decide agent fields)
  item.setHumanSuggestion host.toHost
    { itemRef
      basedOnAgentSuggestionUid := decision.basedOnAgentSuggestionUid
      reviewBaseHash
      outcome := decision.outcome
      suggestedAction := decision.suggestedAction
      reason := nonEmpty (settleField fields "reason") }

/-- The proposal for a message in triage, as its canonical metadata has it. -/
def currentMessageAgentSuggestion (tree : WorkspaceTree) (messageId : String) :
    Result (Option MessageAgentSuggestion) := do
  validateId host.toHost "message_id" messageId
  let _ ← triageMessage host.toReviewHost tree messageId
  let metadata ← tree.workspace.readMessageMetadataFile host.toHost messageId
  return metadata.bind (·.agentSuggestion)

def currentCaseAgentSuggestion (tree : WorkspaceTree) (caseRef : String) :
    Result (Option CaseAgentSuggestion) := do
  let caseUid ← resolveCaseRef host.toReviewHost tree caseRef
  let collection ← tree.caseRenderDocument host.toReviewHost caseUid
  return collection.caseAgent

def currentNotificationAgentSuggestion (tree : WorkspaceTree) (notificationRef : String) :
    Result (Option NotificationAgentSuggestion) := do
  let notificationUid ← resolveNotificationRef host.toReviewHost tree notificationRef
  let collection ← tree.notificationRenderDocument host.toReviewHost notificationUid
  return collection.notificationAgent

def settleMessageInWorkspace : String → String → Option String → SettleFields →
    TreeCommand MessageHumanSuggestion :=
  settleItemInWorkspace host (suggestedMessage host.toReviewHost)
    (currentMessageAgentSuggestion host) messageDecision

def settleCaseInWorkspace : String → String → Option String → SettleFields →
    TreeCommand CaseHumanSuggestion :=
  settleItemInWorkspace host (suggestedCase host.toReviewHost) (currentCaseAgentSuggestion host)
    caseDecision

def settleNotificationInWorkspace : String → String → Option String → SettleFields →
    TreeCommand NotificationHumanSuggestion :=
  settleItemInWorkspace host (suggestedNotification host.toReviewHost)
    (currentNotificationAgentSuggestion host) notificationDecision

def settleInvalid (message : String) : AppError :=
  { errorCode := "review_settle_invalid", message }

def TriageReviewContents.item? (contents : TriageReviewContents) (messageId : String) :
    Option TriageReviewItem :=
  contents.items.find? (·.document.message.message.messageId == messageId)

/-- Settles the item that a form names; what is told of the settlement besides is left out. -/
def settleFromFields (surface : ReviewSurface) (model : ReviewContents) (fields : SettleFields) :
    TreeCommand Unit :=
  match surface with
  | .triage => do
    let messageId ← Program.ofExcept (requiredField fields "message_id")
    match model with
    | .triage contents =>
      match contents.item? messageId with
      | none => Program.fail (settleInvalid "message_id is not part of this review")
      | some item => do
        let _ ← settleMessageInWorkspace host messageId item.messageReviewBaseHash
          item.expectedAgentSuggestionUid fields
    | _ => Program.fail reviewContentsMismatch
  | .case caseRef =>
    match model with
    | .case contents => do
      let _ ← settleCaseInWorkspace host caseRef contents.caseReviewBaseHash
        contents.expectedAgentSuggestionUid fields
    | _ => Program.fail reviewContentsMismatch
  | .notification notificationRef =>
    match model with
    | .notification contents => do
      let _ ← settleNotificationInWorkspace host notificationRef
        contents.notificationReviewBaseHash contents.expectedAgentSuggestionUid fields
    | _ => Program.fail reviewContentsMismatch
  | .draft _ _ => Program.fail (settleInvalid "this review surface has nothing to settle")

end Settling
end AgentFirstMail
