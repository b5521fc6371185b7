import AgentFirstMail.PushQueue.PlannedQueue
import AgentFirstMail.Review.Pages

namespace AgentFirstMail
open Effect TreeCommand

/-- An item as a page shows it: its documents without its own suggestions, and the suggestion
round. -/
structure ShownItem where
  document : ReviewDocument
  agentSuggestionUid : Option String

/-- The item that a settlement from a page is about. A review of a case or a notification has
one. -/
def ReviewContents.item? : ReviewContents → String → Option ShownItem
  | .triage contents, messageId => (contents.item? messageId).map fun item =>
      ⟨.message item.document.withoutSuggestions, item.expectedAgentSuggestionUid⟩
  | .case contents, _ => some ⟨.case contents.collection.withoutSuggestions contents.notes.document
      (contents.drafts.map (·.document)), contents.expectedAgentSuggestionUid⟩
  | .notification contents, _ => some ⟨.notification contents.collection.withoutSuggestions
      contents.notes.document, contents.expectedAgentSuggestionUid⟩
  | .draft _, _ => none

/-- An item as the workspace holds it now, and the hash that its proposal was made for. -/
structure CurrentItem extends ShownItem where
  proposedFor : Option String

section Current
variable (host : PageHost) (tree : WorkspaceTree)

def currentItem (surface : ReviewSurface) (messageId : String) : Result CurrentItem :=
  match surface with
  | .triage => do
    let document ← tree.triageTemplateDocument host.toReviewHost messageId
    let agent ← currentMessageAgentSuggestion host tree messageId
    return { document := .message document.withoutSuggestions
             agentSuggestionUid := agent.map (·.agentSuggestionUid)
             proposedFor := agent.map (·.reviewBaseHash) }
  | .case caseRef => do
    let caseUid ← resolveCaseRef host.toReviewHost tree caseRef
    let collection ← tree.caseRenderDocument host.toReviewHost caseUid
    let notes ← tree.caseNotesRenderDocument host.toReviewHost caseUid
    let drafts ← tree.draftRenderDocuments host.toReviewHost caseUid
    return { document := .case collection.withoutSuggestions notes drafts
             agentSuggestionUid := collection.caseAgent.map (·.agentSuggestionUid)
             proposedFor := collection.caseAgent.map (·.reviewBaseHash) }
  | .notification notificationRef => do
    let notificationUid ← resolveNotificationRef host.toReviewHost tree notificationRef
    let collection ← tree.notificationRenderDocument host.toReviewHost notificationUid
    let notes ← tree.notificationNotesRenderDocument notificationUid
    return { document := .notification collection.withoutSuggestions notes
             agentSuggestionUid := collection.notificationAgent.map (·.agentSuggestionUid)
             proposedFor := collection.notificationAgent.map (·.reviewBaseHash) }
  | .draft _ _ => .error (settleInvalid "this review surface has nothing to settle")

end Current

section Reading
variable {host : PageHost} {tree : WorkspaceTree}

theorem messageReviewBaseHash_eq_ok {host : ReviewHost} {messageId : String} {hash : String} :
    tree.messageReviewBaseHash host messageId = .ok hash ↔
      ∃ document, tree.triageTemplateDocument host messageId = .ok document ∧
        hash = host.fingerprint (.message document.withoutSuggestions) := by
  unfold WorkspaceTree.messageReviewBaseHash
  rw [Result.bind_eq_ok_iff]
  apply exists_congr
  intro document
  apply and_congr_right
  intro _
  exact ⟨fun h => (Except.ok.inj h).symm, fun h => by rw [h]; rfl⟩

theorem caseReviewBaseHash_eq_ok {host : ReviewHost} {caseUid hash : String} :
    tree.caseReviewBaseHash host caseUid = .ok hash ↔ ∃ collection notes drafts,
      tree.caseRenderDocument host caseUid = .ok collection ∧
        tree.caseNotesRenderDocument host caseUid = .ok notes ∧
          tree.draftRenderDocuments host caseUid = .ok drafts ∧
            hash = host.fingerprint (.case collection.withoutSuggestions notes drafts) := by
  constructor
  · intro h
    obtain ⟨collection, hcollection, h⟩ := Result.bind_ok h
    obtain ⟨notes, hnotes, h⟩ := Result.bind_ok h
    obtain ⟨drafts, hdrafts, h⟩ := Result.bind_ok h
    exact ⟨collection, notes, drafts, hcollection, hnotes, hdrafts, (Except.ok.inj h).symm⟩
  · rintro ⟨collection, notes, drafts, hcollection, hnotes, hdrafts, rfl⟩
    exact Result.bind_eq_ok_iff.mpr ⟨collection, hcollection, Result.bind_eq_ok_iff.mpr
      ⟨notes, hnotes, Result.bind_eq_ok_iff.mpr ⟨drafts, hdrafts, rfl⟩⟩⟩

theorem notificationReviewBaseHash_eq_ok {host : ReviewHost} {notificationUid hash : String} :
    tree.notificationReviewBaseHash host notificationUid = .ok hash ↔ ∃ collection notes,
      tree.notificationRenderDocument host notificationUid = .ok collection ∧
        tree.notificationNotesRenderDocument notificationUid = .ok notes ∧
          hash = host.fingerprint (.notification collection.withoutSuggestions notes) := by
  constructor
  · intro h
    obtain ⟨collection, hcollection, h⟩ := Result.bind_ok h
    obtain ⟨notes, hnotes, h⟩ := Result.bind_ok h
    exact ⟨collection, notes, hcollection, hnotes, (Except.ok.inj h).symm⟩
  · rintro ⟨collection, notes, hcollection, hnotes, rfl⟩
    exact Result.bind_eq_ok_iff.mpr ⟨collection, hcollection,
      Result.bind_eq_ok_iff.mpr ⟨notes, hnotes, rfl⟩⟩

end Reading

/-- The hashes that settlements are checked against are those of the documents. -/
inductive ReviewContents.Hashed (host : PageHost) : ReviewSurface → ReviewContents → Prop
  | triage {contents : TriageReviewContents} :
      (∀ item ∈ contents.items, item.messageReviewBaseHash =
        host.fingerprint (.message item.document.withoutSuggestions)) →
      Hashed host .triage (.triage contents)
  | case {caseRef : String} {contents : CaseReviewContents} :
      contents.caseReviewBaseHash = host.fingerprint (.case contents.collection.withoutSuggestions
        contents.notes.document (contents.drafts.map (·.document))) →
      Hashed host (.case caseRef) (.case contents)
  | notification {notificationRef : String} {contents : NotificationReviewContents} :
      contents.notificationReviewBaseHash = host.fingerprint
        (.notification contents.collection.withoutSuggestions contents.notes.document) →
      Hashed host (.notification notificationRef) (.notification contents)
  | draft {caseRef draftName : String} {draft : EditableReviewDocument DraftRenderDocument} :
      Hashed host (.draft caseRef draftName) (.draft draft)

/-- What a session reads of its surface. -/
inductive Built (host : PageHost) (tree : WorkspaceTree) : ReviewSurface → ReviewContents → Prop
  | triage {messageIds : List String} {truncated : Option TriageTruncation}
      {contents : TriageReviewContents} :
      buildTriageReviewContents host tree messageIds truncated = .ok contents →
      Built host tree .triage (.triage contents)
  | case {caseRef : String} {contents : CaseReviewContents} :
      buildCaseReviewContents host tree caseRef = .ok contents →
      Built host tree (.case caseRef) (.case contents)
  | notification {notificationRef : String} {contents : NotificationReviewContents} :
      buildNotificationReviewContents host tree notificationRef = .ok contents →
      Built host tree (.notification notificationRef) (.notification contents)
  | draft {caseRef draftName : String} {document : DraftRenderDocument} :
      tree.draftRenderDocument host caseRef draftName = .ok document →
      Built host tree (.draft caseRef draftName) (.draft (editableDraft host document))

section Building
variable {host : PageHost} {tree : WorkspaceTree} {surface : ReviewSurface}
  {contents : ReviewContents}

theorem Built.of_refreshed {current : ReviewContents}
    (h : refreshedReviewRenderDocument host tree surface current = .ok contents) :
    Built host tree surface contents := by
  cases surface with
  | triage =>
    cases current with
    | triage shown =>
      obtain ⟨built, hbuilt, h⟩ := Result.bind_ok h
      cases h
      exact .triage hbuilt
    | case _ => cases h
    | notification _ => cases h
    | draft _ => cases h
  | case caseRef =>
    obtain ⟨built, hbuilt, h⟩ := Result.bind_ok h
    cases h
    exact .case hbuilt
  | notification notificationRef =>
    obtain ⟨built, hbuilt, h⟩ := Result.bind_ok h
    cases h
    exact .notification hbuilt
  | draft caseRef draftName =>
    obtain ⟨document, hdocument, h⟩ := Result.bind_ok h
    cases h
    exact .draft hdocument

theorem triageReviewItem_eq_ok {messageId : String} {item : TriageReviewItem}
    (h : triageReviewItem host tree messageId = .ok item) :
    tree.triageTemplateDocument host.toReviewHost messageId = .ok item.document ∧
      item.messageReviewBaseHash =
        host.fingerprint (.message item.document.withoutSuggestions) ∧
      item.expectedAgentSuggestionUid =
        item.document.message.message.agentSuggestion.map (·.agentSuggestionUid) := by
  obtain ⟨document, hdocument, h⟩ := Result.bind_ok h
  obtain ⟨hash, hhash, h⟩ := Result.bind_ok h
  cases h
  obtain ⟨found, hfound, rfl⟩ := messageReviewBaseHash_eq_ok.mp hhash
  cases hdocument.symm.trans hfound
  exact ⟨hdocument, rfl, rfl⟩

theorem buildCaseReviewContents_eq_ok {caseRef : String} {built : CaseReviewContents}
    (h : buildCaseReviewContents host tree caseRef = .ok built) :
    ∃ caseUid notes drafts, resolveCaseRef host.toReviewHost tree caseRef = .ok caseUid ∧
      tree.caseRenderDocument host.toReviewHost caseUid = .ok built.collection ∧
      tree.caseNotesRenderDocument host.toReviewHost caseUid = .ok notes ∧
      tree.draftRenderDocuments host.toReviewHost caseUid = .ok drafts ∧
      built.caseReviewBaseHash = host.fingerprint
        (.case built.collection.withoutSuggestions notes drafts) ∧
      built.expectedAgentSuggestionUid =
        built.collection.caseAgent.map (·.agentSuggestionUid) ∧
      built.notes.document = notes ∧ built.drafts.map (·.document) = drafts := by
  obtain ⟨caseUid, huid, h⟩ := Result.bind_ok h
  obtain ⟨collection, hcollection, h⟩ := Result.bind_ok h
  obtain ⟨hash, hhash, h⟩ := Result.bind_ok h
  obtain ⟨notes, hnotes, h⟩ := Result.bind_ok h
  obtain ⟨drafts, hdrafts, h⟩ := Result.bind_ok h
  cases h
  obtain ⟨_, _, _, hsame, hnotes', hdrafts', rfl⟩ := caseReviewBaseHash_eq_ok.mp hhash
  cases hcollection.symm.trans hsame
  cases hnotes.symm.trans hnotes'
  cases hdrafts.symm.trans hdrafts'
  refine ⟨caseUid, notes, drafts, huid, hcollection, hnotes, hdrafts, rfl, rfl, rfl, ?_⟩
  rw [List.map_map]
  exact List.map_id drafts

theorem buildNotificationReviewContents_eq_ok {notificationRef : String}
    {built : NotificationReviewContents}
    (h : buildNotificationReviewContents host tree notificationRef = .ok built) :
    ∃ notificationUid notes,
      resolveNotificationRef host.toReviewHost tree notificationRef = .ok notificationUid ∧
      tree.notificationRenderDocument host.toReviewHost notificationUid = .ok built.collection ∧
      tree.notificationNotesRenderDocument notificationUid = .ok notes ∧
      built.notificationReviewBaseHash = host.fingerprint
        (.notification built.collection.withoutSuggestions notes) ∧
      built.expectedAgentSuggestionUid =
        built.collection.notificationAgent.map (·.agentSuggestionUid) ∧
      built.notes.document = notes := by
  obtain ⟨notificationUid, huid, h⟩ := Result.bind_ok h
  obtain ⟨collection, hcollection, h⟩ := Result.bind_ok h
  obtain ⟨hash, hhash, h⟩ := Result.bind_ok h
  obtain ⟨notes, hnotes, h⟩ := Result.bind_ok h
  cases h
  obtain ⟨_, _, hsame, hnotes', rfl⟩ := notificationReviewBaseHash_eq_ok.mp hhash
  cases hcollection.symm.trans hsame
  cases hnotes.symm.trans hnotes'
  exact ⟨notificationUid, notes, huid, hcollection, hnotes, rfl, rfl, rfl⟩

theorem Built.hashed (hbuilt : Built host tree surface contents) :
    contents.Hashed host surface := by
  cases hbuilt with
  | triage h =>
    obtain ⟨items, hitems, h⟩ := Result.bind_ok h
    cases h
    refine .triage fun item hmem => ?_
    obtain ⟨_, _, hitem⟩ := Lists.exists_of_forall₂ (Result.mapM_eq_ok_iff.mp hitems) hmem
    exact (triageReviewItem_eq_ok hitem).2.1
  | case h =>
    obtain ⟨_, _, _, _, _, _, _, hhash, _, rfl, rfl⟩ := buildCaseReviewContents_eq_ok h
    exact .case hhash
  | notification h =>
    obtain ⟨_, _, _, _, _, hhash, _, rfl⟩ := buildNotificationReviewContents_eq_ok h
    exact .notification hhash
  | draft h => exact .draft

end Building
end AgentFirstMail
