import AgentFirstMail.Cases.Archive
import AgentFirstMail.PushQueue.PlannedQueue

namespace AgentFirstMail

namespace Workspace
variable {w : Workspace}

theorem buildCaseIndex_eq_ok_iff :
    w.buildCaseIndex = .ok index ↔
      (∀ entry ∈ w.allCaseEntries, ensureStatusFitsTree entry.1 entry.2 = .ok ()) ∧
        index = w.allCaseEntries.map fun entry =>
          CaseIndexEntry.mk entry.1 entry.2.status entry.2.members := by
  unfold buildCaseIndex
  generalize w.allCaseEntries = entries
  rw [Result.mapM_eq_ok_iff]
  induction entries generalizing index with
  | nil => simp
  | cons entry rest ih =>
    rw [List.forall₂_cons_left_iff, List.forall_mem_cons, List.map_cons]
    constructor
    · rintro ⟨first, others, hfirst, hothers, rfl⟩
      obtain ⟨hfits, hrest⟩ := ih.mp hothers
      obtain ⟨hentry, hvalue⟩ := Result.seq_ok hfirst
      cases hvalue
      exact ⟨⟨hentry, hfits⟩, by rw [hrest]⟩
    · rintro ⟨⟨hentry, hfits⟩, rfl⟩
      exact ⟨_, _, Result.bind_unit_eq_ok_iff.mpr ⟨hentry, rfl⟩, ih.mpr ⟨hfits, rfl⟩, rfl⟩

/-- Nothing refers to a message but one case, its drafts and the queue's adding to a case. -/
structure Unreferenced (w : Workspace) (caseUid messageId : String) : Prop where
  cases : ∀ (other : String) (case_ : CaseRecord), other ≠ caseUid → w.cases[other]? = some case_ →
    case_.archivedDir = false → messageId ∉ case_.jsonStrings other
  drafts : ∀ (other : String) (case_ : CaseRecord), other ≠ caseUid →
    w.cases[other]? = some case_ → ∀ draft ∈ case_.drafts.toList,
      draft.2.frontmatter.replyToMessageId ≠ some messageId
  pushes : ∀ item ∈ w.readItems, messageId ∈ item.messageIds →
    item.message.any (·.action == .caseAdd) = true ∨ item.draft.map (·.caseUid) = some caseUid

theorem collectActiveCaseReferences_eq_nil {messageId : String} :
    w.collectActiveCaseReferences messageId = [] ↔
      ∀ (other : String) (case_ : CaseRecord), w.cases[other]? = some case_ →
        case_.archivedDir = false → messageId ∉ case_.jsonStrings other := by
  rw [collectActiveCaseReferences, List.filterMap_eq_nil_iff]
  constructor
  · intro hnone other case_ hget hactive hmem
    have hentry := hnone (other, case_) (mem_caseEntries.mpr ⟨hget, hactive⟩)
    rw [if_pos hmem] at hentry
    cases hentry
  · rintro hnone ⟨other, case_⟩ hmem
    obtain ⟨hget, hactive⟩ := mem_caseEntries.mp hmem
    exact if_neg (hnone other case_ hget hactive)

theorem collectDraftReferencesExceptCase_eq_nil {caseUid messageId : String} :
    w.collectDraftReferencesExceptCase messageId (some caseUid) = [] ↔
      ∀ (other : String) (case_ : CaseRecord), other ≠ caseUid → w.cases[other]? = some case_ →
        ∀ draft ∈ case_.drafts.toList, draft.2.frontmatter.replyToMessageId ≠ some messageId := by
  rw [collectDraftReferencesExceptCase, List.flatMap_eq_nil_iff]
  constructor
  · intro hnone other case_ hne hget draft hdraft hreply
    have hentry := hnone (other, case_)
      (List.mem_filter.mpr ⟨mem_allCaseEntries.mpr hget, by simpa using hne.symm⟩)
    have hnot := List.filterMap_eq_nil_iff.mp hentry draft hdraft
    rw [if_pos hreply] at hnot
    cases hnot
  · rintro hnone ⟨other, case_⟩ hmem
    obtain ⟨hentry, hne⟩ := List.mem_filter.mp hmem
    have hother : other ≠ caseUid := by
      rintro rfl
      simp at hne
    apply List.filterMap_eq_nil_iff.mpr
    intro draft hdraft
    exact if_neg (hnone other case_ hother (mem_allCaseEntries.mp hentry) draft hdraft)

theorem collectPushReferencesExceptCase_eq_nil {caseUid messageId : String} :
    w.collectPushReferencesExceptCase messageId none (some caseUid) = [] ↔
      ∀ item ∈ w.readItems, messageId ∈ item.messageIds →
        item.message.any (·.action == .caseAdd) = true ∨
          item.draft.map (·.caseUid) = some caseUid := by
  rw [collectPushReferencesExceptCase, List.filterMap_eq_nil_iff]
  apply forall_congr'
  intro item
  rw [mem_sortedItems]
  apply imp_congr_right
  intro _
  by_cases hadd : item.message.any (·.action == .caseAdd) = true
  · simp [hadd]
  · by_cases hdraft : item.draft.map (·.caseUid) = some caseUid
    · simp [hadd, hdraft]
    · simp [hadd, hdraft]

section Blockers
variable {caseUid messageId : String} {case_ : CaseRecord}

/-- What keeps a message of an archived case from being archived remotely is what refers to it
besides. -/
theorem archiveBlockers_eq_ok (hread : w.readMessageById messageId = .ok message)
    (hget : w.cases[caseUid]? = some case_) (harchived : case_.archivedDir = true)
    (hmember : messageId ∈ case_.members) :
    ∃ blockers, w.archiveBlockers messageId none (some caseUid) = .ok blockers ∧
      (blockers = [] ↔ w.Unreferenced caseUid messageId) := by
  obtain ⟨index, hindex, _⟩ := Result.bind_ok hread
  obtain ⟨_, _, hindex⟩ := Result.bind_ok hindex
  obtain ⟨_, _, hindex⟩ := Result.bind_ok hindex
  obtain ⟨_, hindex⟩ := Result.seq_ok hindex
  obtain ⟨cases, hcases, _⟩ := Result.bind_ok hindex
  obtain ⟨hfits, hentries⟩ := buildCaseIndex_eq_ok_iff.mp hcases
  have hstatus : case_.status.isActive = false := by
    have hfit := hfits (caseUid, case_) (mem_allCaseEntries.mpr hget)
    rw [ensureStatusFitsTree, if_pos harchived, ensure_eq_ok_iff, Bool.not_eq_true'] at hfit
    exact hfit
  have hreference : cases.hasArchivedReference messageId = true := by
    rw [hentries, CaseIndex.hasArchivedReference, List.any_map, List.any_eq_true]
    exact ⟨(caseUid, case_), mem_allCaseEntries.mpr hget, by simp [hstatus, hmember]⟩
  refine ⟨_, Result.bind_eq_ok_iff.mpr ⟨message, hread,
    Result.bind_eq_ok_iff.mpr ⟨cases, hcases, rfl⟩⟩, ?_⟩
  rw [hreference, Bool.or_true, if_pos rfl, List.nil_append, List.append_eq_nil_iff,
    List.append_eq_nil_iff, collectActiveCaseReferences_eq_nil,
    collectDraftReferencesExceptCase_eq_nil, collectPushReferencesExceptCase_eq_nil]
  constructor
  · rintro ⟨⟨hcases, hdrafts⟩, hpushes⟩
    exact ⟨fun other found _ => hcases other found, hdrafts, hpushes⟩
  · intro hunreferenced
    refine ⟨⟨?_, hunreferenced.drafts⟩, hunreferenced.pushes⟩
    intro other found hfound hactive
    by_cases heq : other = caseUid
    · subst heq
      cases hget.symm.trans hfound
      cases harchived.symm.trans hactive
    · exact hunreferenced.cases other found heq hfound hactive

theorem eligibleMessages_eq_ok {host : Host} (messageIds : List String)
    (hvalid : ∀ messageId ∈ messageIds, validateId host "message_id" messageId = .ok ())
    (hread : ∀ messageId ∈ messageIds, ∃ message, w.readMessageById messageId = .ok message)
    (hget : w.cases[caseUid]? = some case_) (harchived : case_.archivedDir = true)
    (hmember : ∀ messageId ∈ messageIds, messageId ∈ case_.members) :
    ∃ eligible, w.eligibleMessages host messageIds none (some caseUid) = .ok eligible ∧
      eligible.Sublist messageIds ∧ ∀ messageId, messageId ∈ eligible ↔
        messageId ∈ messageIds ∧ w.Unreferenced caseUid messageId := by
  suffices ∃ blockers, messageIds.mapM (fun messageId => do
        validateId host "message_id" messageId
        w.archiveBlockers messageId none (some caseUid)) = .ok blockers ∧
      (((messageIds.zip blockers).filter (·.2.isEmpty)).map (·.1)).Sublist messageIds ∧
      ∀ messageId, messageId ∈ ((messageIds.zip blockers).filter (·.2.isEmpty)).map (·.1) ↔
        messageId ∈ messageIds ∧ w.Unreferenced caseUid messageId by
    obtain ⟨blockers, hblockers, hspec⟩ := this
    exact ⟨_, Result.bind_eq_ok_iff.mpr ⟨blockers, hblockers, rfl⟩, hspec⟩
  induction messageIds with
  | nil => exact ⟨[], rfl, List.Sublist.refl _, fun messageId => by simp⟩
  | cons messageId rest ih =>
    obtain ⟨message, hmessage⟩ := hread messageId List.mem_cons_self
    obtain ⟨first, hfirst, hnil⟩ := archiveBlockers_eq_ok hmessage hget harchived
      (hmember messageId List.mem_cons_self)
    obtain ⟨others, hothers, hsublist, hrest⟩ := ih
      (fun other hmem => hvalid other (List.mem_cons_of_mem _ hmem))
      (fun other hmem => hread other (List.mem_cons_of_mem _ hmem))
      (fun other hmem => hmember other (List.mem_cons_of_mem _ hmem))
    refine ⟨first :: others, ?_, ?_, ?_⟩
    · rw [Result.mapM_eq_ok_iff]
      exact .cons (Result.bind_unit_eq_ok_iff.mpr ⟨hvalid messageId List.mem_cons_self, hfirst⟩)
        (Result.mapM_eq_ok_iff.mp hothers)
    · rw [List.zip_cons_cons, List.filter_cons]
      split
      · exact hsublist.cons_cons messageId
      · exact hsublist.cons messageId
    · intro other
      rw [List.zip_cons_cons, List.filter_cons, List.mem_cons, or_and_right, ← hrest]
      by_cases hempty : first = []
      · rw [if_pos (by simp [hempty]), List.map_cons, List.mem_cons]
        apply or_congr_left
        constructor
        · rintro rfl
          exact ⟨rfl, hnil.mp hempty⟩
        · exact (·.1)
      · rw [if_neg (by simp [hempty])]
        constructor
        · exact .inr
        · rintro (⟨rfl, hunreferenced⟩ | hmem)
          · exact (hempty (hnil.mpr hunreferenced)).elim
          · exact hmem

end Blockers
end Workspace
end AgentFirstMail
