import AgentFirstMail.Cases.Archive
import AgentFirstMail.Config.Defaults

namespace AgentFirstMail
open Effect Command

namespace Workspace
variable (w : Workspace) (pair : MergePair)

/-- The first write of a merge: the case that stays has the entries of both. -/
def withMergedMembers : Workspace :=
  w.alterCase pair.caseUid (·.withMembers pair.other.members.items)

def withMergedNotes (notes : Option String) : Workspace :=
  match notes with
  | none => w
  | some merged => w.alterCase pair.caseUid fun case_ => { case_ with notes := some merged }

def withMovedChildren (directory : CaseDirectory α) : Workspace :=
  (directory.children pair.other).keys.foldl
    (fun w name => w.moveChild directory pair.caseUid pair.otherCaseUid name) w

/-- Two cases put together, before the views are refreshed. -/
def mergedCases (notes : Option String) : Workspace :=
  ((((w.withMergedMembers pair).withMergedNotes pair notes).withMovedChildren pair
    .files).withMovedChildren pair .drafts).removeCase pair.otherCaseUid

end Workspace

/-- What refreshing the views after a merge comes to. -/
def mergeRefreshed (host : CaseHost) (w : Workspace) (pair : MergePair) : Result Unit := do
  messagesRefreshed host.toHost w pair.other.members.messageIds
  caseRefreshed host.toHost w pair.caseUid

section Running
variable {host : CaseHost} {caseRef otherCaseRef : String} {reason : Option String} {m : Process}
  {post : Nat → ProcessFact}
  {abort : AppError → ProcessFact}

theorem wp_mergeCaseNotes {pair : MergePair} {h : List RemoteEvent}
    {post : Unit → ProcessFact}
    (hpost : ∀ notes, mergedNotes host pair = .ok notes →
      post () h (m.onWorkspace (·.withMergedNotes pair notes)))
    (habort : ∀ error, mergedNotes host pair = .error error → abort error h m) :
    Program.wp Anywhere post abort (mergeCaseNotes host pair) h m := by
  apply wp_check_bind
  · intro notes hnotes
    cases notes with
    | none => exact hpost none hnotes
    | some merged => exact ⟨trivial, hpost (some merged) hnotes⟩
  · exact habort

/-- A merge stops at its checks, at the notes, at the views or at the audit log, or goes
through. -/
theorem wp_mergeCase
    (hchecks : ∀ error, mergeChecks host m.workspace caseRef otherCaseRef reason = .error error →
      abort error [] m)
    (hnotes : ∀ pair error, mergeChecks host m.workspace caseRef otherCaseRef reason = .ok pair →
      mergedNotes host pair = .error error →
      abort error [] (m.onWorkspace (·.withMergedMembers pair)))
    (hviews : ∀ pair notes error,
      mergeChecks host m.workspace caseRef otherCaseRef reason = .ok pair →
      mergedNotes host pair = .ok notes →
      mergeRefreshed host (m.workspace.mergedCases pair notes) pair = .error error →
      abort error [] (m.onWorkspace (·.mergedCases pair notes)))
    (haudit : ∀ pair notes error h,
      mergeChecks host m.workspace caseRef otherCaseRef reason = .ok pair →
      mergedNotes host pair = .ok notes →
      mergeRefreshed host (m.workspace.mergedCases pair notes) pair = .ok () →
      (∃ event ∈ h, ¬ event.Answered) →
      abort error h (m.onWorkspace (·.mergedCases pair notes)))
    (hpost : ∀ pair notes h audit,
      mergeChecks host m.workspace caseRef otherCaseRef reason = .ok pair →
      mergedNotes host pair = .ok notes →
      mergeRefreshed host (m.workspace.mergedCases pair notes) pair = .ok () →
      post pair.other.members.items.length h
        (m.onWorkspace fun w => { w.mergedCases pair notes with audit })) :
    Program.wp Anywhere post abort (mergeCase host caseRef otherCaseRef reason) [] m := by
  apply wp_workspace_bind.mpr
  apply wp_check_bind _ hchecks
  intro pair hpair
  apply wp_then
  refine ⟨trivial, ?_⟩
  apply wp_then
  apply wp_mergeCaseNotes _ fun error herror => hnotes pair error hpair herror
  intro notes hmerged
  apply wp_then
  apply wp_forEach_write
  apply wp_then
  apply wp_forEach_write
  apply wp_then
  refine ⟨trivial, ?_⟩
  have hviews := hviews pair notes
  have haudit := haudit pair notes
  have hpost := hpost pair notes
  apply wp_then
  apply (computes_refreshMessagesAfterRefChange _).wp
  · intro _ hmessages
    change messagesRefreshed host.toHost (m.workspace.mergedCases pair notes) _ = _ at hmessages
    rw [mergeRefreshed, hmessages] at hviews haudit hpost
    apply wp_then
    apply (computes_refreshCaseMessageViews pair.caseUid).wp
    · intro _ hcase
      apply wp_then
      apply wp_auditing
      · intro _ _
        trivial
      · intro h audit
        exact hpost h audit hpair hmerged hcase
      · intro error h hunanswered
        exact haudit error h hpair hmerged hcase hunanswered
    · intro error herror
      exact hviews error hpair hmerged herror
  · intro error herror
    change messagesRefreshed host.toHost (m.workspace.mergedCases pair notes) _ = _ at herror
    rw [mergeRefreshed, herror] at hviews
    exact hviews error hpair hmerged rfl

end Running

section Standing

/-- Where two cases stand while they are put together; all else is as it was. -/
structure Workspace.HoldsPair (w w' : Workspace) (caseUid otherCaseUid : String)
    (case_ other : CaseRecord) : Prop where
  case_ : w'.cases[caseUid]? = some case_
  other : w'.cases[otherCaseUid]? = some other
  rest : ∀ third : String, third ≠ caseUid → third ≠ otherCaseUid →
    w'.cases[third]? = w.cases[third]?
  same : w' = { w with cases := w'.cases }

variable {w w' : Workspace} {caseUid otherCaseUid : String} {case_ other : CaseRecord}

namespace Workspace.HoldsPair

theorem alter (hholds : w.HoldsPair w' caseUid otherCaseUid case_ other)
    (hne : caseUid ≠ otherCaseUid) (change : CaseRecord → CaseRecord) :
    w.HoldsPair (w'.alterCase caseUid change) caseUid otherCaseUid (change case_) other where
  case_ := alterCase_get hholds.case_
  other := (alterCase_get_ne hne.symm).trans hholds.other
  rest third hfirst hsecond := (alterCase_get_ne hfirst).trans (hholds.rest third hfirst hsecond)
  same := by
    rw [hholds.same]
    rfl

theorem moveChild (hholds : w.HoldsPair w' caseUid otherCaseUid case_ other)
    (hne : caseUid ≠ otherCaseUid) (directory : CaseDirectory α) (name : String) :
    w.HoldsPair (w'.moveChild directory caseUid otherCaseUid name) caseUid otherCaseUid
      (directory.withChildren case_
        (Indexing.transfer (directory.children case_, directory.children other) name).1)
      (directory.withChildren other
        (Indexing.transfer (directory.children case_, directory.children other) name).2) := by
  unfold Workspace.moveChild Indexing.transfer
  rw [hholds.other]
  dsimp only [Option.bind_some]
  cases (directory.children other)[name]? with
  | none =>
    change w.HoldsPair w' caseUid otherCaseUid
      (directory.withChildren case_ (directory.children case_))
      (directory.withChildren other (directory.children other))
    rw [directory.with_children, directory.with_children]
    exact hholds
  | some child =>
    refine ⟨?_, ?_, ?_, ?_⟩
    · exact (alterCase_get_ne hne).trans (alterCase_get hholds.case_)
    · exact alterCase_get ((alterCase_get_ne hne.symm).trans hholds.other)
    · intro third hfirst hsecond
      rw [alterCase_get_ne hsecond, alterCase_get_ne hfirst]
      exact hholds.rest third hfirst hsecond
    · rw [hholds.same]
      rfl

theorem moveChildren (hholds : w.HoldsPair w' caseUid otherCaseUid case_ other)
    (hne : caseUid ≠ otherCaseUid) (directory : CaseDirectory α) (names : List String) :
    w.HoldsPair
      (names.foldl (fun w name => w.moveChild directory caseUid otherCaseUid name) w')
      caseUid otherCaseUid
      (directory.withChildren case_ (names.foldl Indexing.transfer
        (directory.children case_, directory.children other)).1)
      (directory.withChildren other (names.foldl Indexing.transfer
        (directory.children case_, directory.children other)).2) := by
  induction names generalizing w' case_ other with
  | nil =>
    rw [List.foldl_nil, List.foldl_nil, directory.with_children, directory.with_children]
    exact hholds
  | cons name rest ih =>
    have hrest := ih (hholds.moveChild hne directory name)
    rw [directory.children_with, directory.children_with, directory.with_with,
      directory.with_with] at hrest
    exact hrest

end Workspace.HoldsPair
end Standing

section Entries
variable {members : Members} {messageId : String}

theorem Members.find?_mergeItem (item : CollectionItem) :
    (members.mergeItem item).find? messageId =
      (members.find? messageId).or ([item].find? (·.messageId == messageId)) := by
  unfold mergeItem
  split
  · rename_i hmem
    cases hfind : [item].find? (·.messageId == messageId) with
    | none => rw [Option.or_none]
    | some found =>
      have hsame : item.messageId = messageId := by
        obtain ⟨hid, hitem⟩ := List.find?_eq_some_iff_append.mp hfind
        simp only [List.find?_singleton] at hfind
        split at hfind
        · rename_i heq
          exact eq_of_beq heq
        · cases hfind
      obtain ⟨entry, hentry, hid⟩ := List.mem_map.mp hmem
      have hsome : (members.find? messageId).isSome :=
        List.find?_isSome.mpr ⟨entry, hentry, beq_iff_eq.mpr (hid.trans hsame)⟩
      obtain ⟨first, hfirst⟩ := Option.isSome_iff_exists.mp hsome
      rw [hfirst]
      rfl
  · exact List.find?_append

theorem Members.find?_mergeItems (items : List CollectionItem) :
    (members.mergeItems items).find? messageId =
      (members.find? messageId).or (items.find? (·.messageId == messageId)) := by
  unfold mergeItems
  induction items generalizing members with
  | nil => simp
  | cons item rest ih =>
    rw [List.foldl_cons, ih, find?_mergeItem, Option.or_assoc, ← List.find?_append]
    rfl

theorem Members.mem_iff_find? : messageId ∈ members ↔ (members.find? messageId).isSome := by
  change messageId ∈ members.items.map (·.messageId) ↔ _
  rw [Members.find?, List.find?_isSome, List.mem_map]
  simp

end Entries

/-- A case with everything that was in either of two. -/
structure MergePair.UnitedIn (pair : MergePair) (case_ : CaseRecord) : Prop where
  kept : case_ = { pair.primary with
    members := case_.members, drafts := case_.drafts, files := case_.files, notes := case_.notes }
  members : ∀ messageId,
    messageId ∈ case_.members ↔ messageId ∈ pair.primary.members ∨ messageId ∈ pair.other.members
  entries : ∀ messageId, case_.members.find? messageId =
    (pair.primary.members.find? messageId).or (pair.other.members.find? messageId)
  drafts : ∀ name : String, case_.drafts[name]? =
    pair.primary.drafts[name]?.or pair.other.drafts[name]?
  files : ∀ name : String, case_.files[name]? =
    pair.primary.files[name]?.or pair.other.files[name]?
  apart : ∀ name : String, (name ∈ pair.other.drafts → name ∉ pair.primary.drafts) ∧
    (name ∈ pair.other.files → name ∉ pair.primary.files)
  primaryNotes : ∀ text, pair.primary.notes = some text →
    ∃ notes, case_.notes = some notes ∧ text.toList <:+: notes.toList
  otherNotes : ∀ text, pair.other.notes = some text → Text.isBlank text = false →
    ∃ notes, case_.notes = some notes ∧ text.toList <:+: notes.toList

section Names
variable (host : Host) (caseUid : String)

/-- An action that was proposed for a message is to enter it in a case. -/
def MessageSuggestedAction.NamesCase (action : MessageSuggestedAction) : Prop :=
  ∃ caseRef, action = .caseAdd caseRef ∧ parseCaseRef host caseRef = .ok caseUid

/-- A message that its reply headers lead to a case, or that is proposed for it. -/
inductive MessageMetadata.NamesCase (metadata : MessageMetadata) : Prop
  | relationship (caseUids : List String) :
      metadata.caseUids = some caseUids → caseUid ∈ caseUids → NamesCase metadata
  | agent (suggestion : MessageAgentSuggestion) : metadata.agentSuggestion = some suggestion →
      suggestion.suggestedAction.NamesCase host caseUid → NamesCase metadata
  | human (suggestion : MessageHumanSuggestion) (action : MessageSuggestedAction) :
      metadata.humanSuggestion = some suggestion → suggestion.suggestedAction = some action →
      action.NamesCase host caseUid → NamesCase metadata

/-- What is stored outside of the file of a case, besides the audit log, and refers to it. -/
inductive Workspace.NamesCase (w : Workspace) : Prop
  | push (pushId : String) (item : PushItem) : w.pushItems[pushId]? = some item →
      (∃ draft, item.draft = some draft ∧ draft.caseUid = caseUid) ∨
        (∃ pending, item.auditPending = some pending ∧ pending.caseUid = some caseUid) →
      NamesCase w
  | draft (other : String) (case_ : CaseRecord) (name : String) (draft : DraftFile) :
      w.cases[other]? = some case_ → case_.drafts[name]? = some draft → isDraftName name = true →
      draft.frontmatter.caseUid = caseUid → NamesCase w
  | message (messageId : String) (record : MessageRecord) (metadata : MessageMetadata) :
      w.messages[messageId]? = some record → record.metadata = some metadata →
      metadata.NamesCase host caseUid → NamesCase w
  | transaction (transactionId root path : String) (transaction : TransactionRecord) :
      w.transactions[transactionId]? = some transaction → path ∈ transaction.paths →
      caseUidOfPath host root path = some caseUid → NamesCase w

end Names

/-- Two cases became one: all that refers to messages or drafts by the case that went refers to
the one that stays, and nothing else changed but the audit log. -/
structure Workspace.MergedInto (w w' : Workspace) (pair : MergePair) : Prop where
  survivor : ∃ case_, w'.cases[pair.caseUid]? = some case_ ∧ pair.UnitedIn case_
  removed : w'.cases[pair.otherCaseUid]? = none
  rest : ∀ third : String, third ≠ pair.caseUid → third ≠ pair.otherCaseUid →
    w'.cases[third]? = w.cases[third]?
  drafts : ∀ item ∈ w'.readItems, ∀ draft, item.draft = some draft →
    draft.caseUid ≠ pair.otherCaseUid
  same : w' = { w with cases := w'.cases, audit := w'.audit }

/-- The template that puts notes together leaves out nothing of them. -/
def CaseHost.KeepsNotes (host : CaseHost) : Prop :=
  ∀ primary otherCaseUid other notes, host.renderNotesMerge primary otherCaseUid other = .ok notes →
    primary.toList <:+: notes.toList ∧ other.toList <:+: notes.toList

/-- What is needed of two cases that can be merged: the case that goes has no notes to keep,
or the other one a notes file, all views can be refreshed and nothing that is stored elsewhere
names the case that goes. Where the notes are refused, the case that stays has all the messages
already. -/
def MergeReady (host : CaseHost) (w : Workspace) (pair : MergePair) : Prop :=
  match mergedNotes host pair with
  | .error _ => pair.primary.withMembers pair.other.members.items = pair.primary
  | .ok notes => mergeRefreshed host (w.mergedCases pair notes) pair = .ok () ∧
      ¬ w.NamesCase host.toHost pair.otherCaseUid

section Checks
variable {host : CaseHost} {caseRef otherCaseRef : String} {reason : Option String}
  {w : Workspace} {pair : MergePair}

/-- What the checks before a merge establish. -/
structure MergePair.Checked (w : Workspace) (pair : MergePair) : Prop where
  primary : w.cases[pair.caseUid]? = some pair.primary
  other : w.cases[pair.otherCaseUid]? = some pair.other
  distinct : pair.caseUid ≠ pair.otherCaseUid
  undrafted : pair.primary.localDraftNames = [] ∧ pair.other.localDraftNames = []
  outbound : w.outboundPushesForCase pair.otherCaseUid = []
  files : ∀ name ∈ pair.other.files, name ∉ pair.primary.files
  drafts : ∀ name ∈ pair.other.drafts, name ∉ pair.primary.drafts

theorem ensureNoNameConflicts_eq_ok {dest source : Std.ExtTreeMap String α} {label : String}
    (h : ensureNoNameConflicts dest source label = .ok ()) : ∀ name ∈ source, name ∉ dest := by
  intro name hmem
  have hname := Result.forM_eq_ok_iff.mp h name (Std.ExtTreeMap.mem_keys.mpr hmem)
  exact of_decide_eq_true (ensure_eq_ok_iff.mp hname)

theorem mergeChecks_checked (h : mergeChecks host w caseRef otherCaseRef reason = .ok pair) :
    pair.Checked w := by
  obtain ⟨_, _, h⟩ := Result.bind_ok h
  obtain ⟨⟨caseUid, primary⟩, hprimary, h⟩ := Result.bind_ok h
  obtain ⟨⟨otherCaseUid, other⟩, hother, h⟩ := Result.bind_ok h
  obtain ⟨hdistinct, h⟩ := Result.seq_ok h
  obtain ⟨hprimaryDrafts, h⟩ := Result.seq_ok h
  obtain ⟨hotherDrafts, h⟩ := Result.seq_ok h
  obtain ⟨_, h⟩ := Result.seq_ok h
  obtain ⟨houtbound, h⟩ := Result.seq_ok h
  obtain ⟨hfiles, h⟩ := Result.seq_ok h
  obtain ⟨hdrafts, h⟩ := Result.seq_ok h
  cases h
  refine ⟨(Workspace.resolveActiveCase_eq_ok hprimary).1,
    (Workspace.resolveActiveCase_eq_ok hother).1, ?_, ⟨?_, ?_⟩, ?_,
    ensureNoNameConflicts_eq_ok hfiles, ensureNoNameConflicts_eq_ok hdrafts⟩
  · exact bne_iff_ne.mp (ensure_eq_ok_iff.mp hdistinct)
  · exact List.isEmpty_iff.mp (ensure_eq_ok_iff.mp hprimaryDrafts)
  · exact List.isEmpty_iff.mp (ensure_eq_ok_iff.mp hotherDrafts)
  · have hnone := ensure_eq_ok_iff.mp houtbound
    rw [List.isEmpty_iff, List.map_eq_nil_iff] at hnone
    exact hnone

end Checks

section Merging
variable {host : CaseHost} {caseRef otherCaseRef : String} {reason : Option String}
  {w : Workspace} {pair : MergePair}

/-- The notes that a merge leaves hold those of both cases. -/
theorem mergedNotes_keeps (hkeeps : host.KeepsNotes) {notes : Option String}
    (hmerged : mergedNotes host pair = .ok notes) :
    (∀ text, pair.primary.notes = some text →
      ∃ left, notes.or pair.primary.notes = some left ∧ text.toList <:+: left.toList) ∧
    ∀ text, pair.other.notes = some text → Text.isBlank text = false →
      ∃ left, notes.or pair.primary.notes = some left ∧ text.toList <:+: left.toList := by
  unfold mergedNotes at hmerged
  split at hmerged
  · rename_i hother
    cases hmerged
    refine ⟨fun text htext => ⟨text, htext, List.infix_rfl⟩, fun text htext _ => ?_⟩
    cases hother.symm.trans htext
  · rename_i otherNotes hother
    split at hmerged
    · rename_i hblank
      cases hmerged
      refine ⟨fun text htext => ⟨text, htext, List.infix_rfl⟩, fun text htext hnotBlank => ?_⟩
      cases hother.symm.trans htext
      cases hblank.symm.trans hnotBlank
    · split at hmerged
      · cases hmerged
      · rename_i existing hexisting
        obtain ⟨merged, hrender, hmerged⟩ := Result.bind_ok hmerged
        cases hmerged
        obtain ⟨hfirst, hsecond⟩ := hkeeps _ _ _ _ hrender
        refine ⟨fun text htext => ⟨merged, rfl, ?_⟩, fun text htext _ => ⟨merged, rfl, ?_⟩⟩
        · cases hexisting.symm.trans htext
          exact hfirst
        · cases hother.symm.trans htext
          exact hsecond

theorem getElem?_or_comm {α : Type} {primary other : Std.ExtTreeMap String α}
    (hapart : ∀ name ∈ other, name ∉ primary) (name : String) :
    other[name]?.or primary[name]? = primary[name]?.or other[name]? := by
  cases hother : other[name]? with
  | none => rw [Option.none_or, Option.or_none]
  | some value =>
    have hnone : primary[name]? = none := by
      have hnot := hapart name (Indexing.mem_of_getElem? hother)
      rw [Std.ExtTreeMap.mem_iff_isSome_getElem?, Bool.not_eq_true,
        Option.isSome_eq_false_iff, Option.isNone_iff_eq_none] at hnot
      exact hnot
    rw [hnone]
    rfl

theorem MergePair.Checked.mergedInto (hchecked : pair.Checked w) (hkeeps : host.KeepsNotes)
    {notes : Option String} (hmerged : mergedNotes host pair = .ok notes) (audit : AuditLog) :
    w.MergedInto { w.mergedCases pair notes with audit } pair := by
  have hne := hchecked.distinct
  have hstart : w.HoldsPair w pair.caseUid pair.otherCaseUid pair.primary pair.other :=
    ⟨hchecked.primary, hchecked.other, fun _ _ _ => rfl, rfl⟩
  have hmembers := hstart.alter hne (·.withMembers pair.other.members.items)
  have hnotes : w.HoldsPair ((w.withMergedMembers pair).withMergedNotes pair notes) pair.caseUid
      pair.otherCaseUid { pair.primary.withMembers pair.other.members.items with
        notes := notes.or pair.primary.notes } pair.other := by
    cases notes with
    | none => exact hmembers
    | some text => exact hmembers.alter hne fun case_ => { case_ with notes := some text }
  have hfiles := hnotes.moveChildren hne .files pair.other.files.keys
  have hdrafts := hfiles.moveChildren hne .drafts pair.other.drafts.keys
  have hsame : w.mergedCases pair notes = { w with cases := (w.mergedCases pair notes).cases } :=
    congrArg (·.removeCase pair.otherCaseUid) hdrafts.same
  obtain ⟨hfirst, hsecond⟩ := mergedNotes_keeps hkeeps hmerged
  refine ⟨⟨_, (Indexing.getElem?_erase_ne hne).trans hdrafts.case_, ?_⟩,
    Std.ExtTreeMap.getElem?_erase_self, ?_, ?_, ?_⟩
  · refine ⟨rfl, ?_, ?_, ?_, ?_, ?_, hfirst, hsecond⟩
    · intro messageId
      rw [Members.mem_iff_find?, Members.mem_iff_find?, Members.mem_iff_find?]
      change ((pair.primary.members.mergeItems pair.other.members.items).find? messageId).isSome ↔ _
      rw [Members.find?_mergeItems, Option.isSome_or, Bool.or_eq_true]
      rfl
    · exact fun messageId => Members.find?_mergeItems pair.other.members.items
    · intro name
      exact (Indexing.getElem?_transfer_keys pair.primary.drafts pair.other.drafts name).trans
        (getElem?_or_comm hchecked.drafts name)
    · intro name
      exact (Indexing.getElem?_transfer_keys pair.primary.files pair.other.files name).trans
        (getElem?_or_comm hchecked.files name)
    · exact fun name => ⟨hchecked.drafts name, hchecked.files name⟩
  · intro third hthird hother
    exact (Indexing.getElem?_erase_ne hother).trans (hdrafts.rest third hthird hother)
  · intro item hitem draft hdraft hnames
    have hqueue : item ∈ w.readItems := by
      change item ∈ (w.mergedCases pair notes).pushItems.toList.map (·.2.stored) at hitem
      rw [hsame] at hitem
      exact hitem
    have hmem : item ∈ w.outboundPushesForCase pair.otherCaseUid := by
      apply (List.mem_insertionSort _).mpr
      apply List.mem_filter.mpr
      refine ⟨hqueue, ?_⟩
      rw [hdraft]
      exact beq_iff_eq.mpr hnames
    rw [hchecked.outbound] at hmem
    cases hmem
  · exact congrArg (fun w => { w with audit }) hsame

theorem CaseRecord.not_mem_drafts {case_ : CaseRecord} {name : String}
    (hnone : case_.localDraftNames = []) (hname : isDraftName name = true) : name ∉ case_.drafts := by
  intro hmem
  have hlocal : name ∈ case_.localDraftNames :=
    List.mem_filter.mpr ⟨Std.ExtTreeMap.mem_keys.mpr hmem, hname⟩
  rw [hnone] at hlocal
  cases hlocal

theorem Workspace.NamesCase.congr {w' : Workspace} {host : Host} {caseUid : String}
    (hnames : w.NamesCase host caseUid)
    (hsame : w' = { w with cases := w'.cases, audit := w'.audit })
    (hdrafts : ∀ (other : String) (case_ : CaseRecord) (name : String) draft,
      w.cases[other]? = some case_ →
      case_.drafts[name]? = some draft → isDraftName name = true →
      draft.frontmatter.caseUid = caseUid → w'.NamesCase host caseUid) :
    w'.NamesCase host caseUid := by
  cases hnames with
  | push pushId item hget hitem =>
    rw [hsame]
    exact .push pushId item hget hitem
  | message messageId record metadata hget hmetadata hnames =>
    rw [hsame]
    exact .message messageId record metadata hget hmetadata hnames
  | transaction transactionId root path transaction hget hpath hnames =>
    rw [hsame]
    exact .transaction transactionId root path transaction hget hpath hnames
  | draft other case_ name draft hget hdraft hname hcase =>
    exact hdrafts other case_ name draft hget hdraft hname hcase

/-- A merge changes nothing that names the case that goes. -/
theorem MergePair.Checked.namesCase_iff (hchecked : pair.Checked w) {w' : Workspace} {host : Host}
    (hmerged : w.MergedInto w' pair) :
    w'.NamesCase host pair.otherCaseUid ↔ w.NamesCase host pair.otherCaseUid := by
  obtain ⟨hprimary, hother⟩ := hchecked.undrafted
  have hback : w = { w' with cases := w.cases, audit := w.audit } := by rw [hmerged.same]
  constructor
  · intro hnames
    apply hnames.congr hback
    intro third case_ name draft hget hdraft hname hcase
    by_cases hfirst : third = pair.caseUid
    · obtain ⟨survivor, hsurvivor, hunited⟩ := hmerged.survivor
      rw [hfirst, hsurvivor] at hget
      cases hget
      rw [hunited.drafts name, Option.or_eq_some_iff] at hdraft
      rcases hdraft with hdraft | ⟨_, hdraft⟩
      · exact (CaseRecord.not_mem_drafts hprimary hname (Indexing.mem_of_getElem? hdraft)).elim
      · exact (CaseRecord.not_mem_drafts hother hname (Indexing.mem_of_getElem? hdraft)).elim
    · by_cases hsecond : third = pair.otherCaseUid
      · rw [hsecond, hmerged.removed] at hget
        cases hget
      · rw [hmerged.rest third hfirst hsecond] at hget
        exact .draft third case_ name draft hget hdraft hname hcase
  · intro hnames
    apply hnames.congr hmerged.same
    intro third case_ name draft hget hdraft hname hcase
    have hmem := Indexing.mem_of_getElem? hdraft
    by_cases hfirst : third = pair.caseUid
    · rw [hfirst, hchecked.primary] at hget
      cases hget
      exact (CaseRecord.not_mem_drafts hprimary hname hmem).elim
    · by_cases hsecond : third = pair.otherCaseUid
      · rw [hsecond, hchecked.other] at hget
        cases hget
        exact (CaseRecord.not_mem_drafts hother hname hmem).elim
      · rw [← hmerged.rest third hfirst hsecond] at hget
        exact .draft third case_ name draft hget hdraft hname hcase

end Merging

/-- A merge that is refused by what is stored changes nothing, and one that goes through loses
nothing. -/
structure MergeSafe (host : CaseHost) (caseRef otherCaseRef : String) (reason : Option String)
    (w : Workspace) : Prop where
  refused : ∀ (m : Process) (events : List RemoteEvent) (error : AppError) (m' : Process),
    m.workspace = w → Exec (mergeCase host caseRef otherCaseRef reason) m events (.failed error) m' →
    (∀ event ∈ events, event.Answered) → m'.workspace = w
  merged : ∀ (m : Process) (events : List RemoteEvent) (count : Nat) (m' : Process),
    m.workspace = w → Exec (mergeCase host caseRef otherCaseRef reason) m events (.returned count) m' →
    ∃ pair, mergeChecks host w caseRef otherCaseRef reason = .ok pair ∧
      w.MergedInto m'.workspace pair ∧
      ¬ m'.workspace.NamesCase host.toHost pair.otherCaseUid

section Safety
variable {host : CaseHost} {caseRef otherCaseRef : String} {reason : Option String}
  {w : Workspace} {pair : MergePair}

theorem Workspace.withMergedMembers_eq (hget : w.cases[pair.caseUid]? = some pair.primary)
    (hsame : pair.primary.withMembers pair.other.members.items = pair.primary) :
    w.withMergedMembers pair = w := by
  have hcases : (w.withMergedMembers pair).cases = w.cases := by
    apply Std.ExtTreeMap.ext_getElem?
    intro caseUid
    by_cases heq : caseUid = pair.caseUid
    · subst heq
      rw [hget, Workspace.withMergedMembers, Workspace.alterCase_get hget, hsame]
    · exact Workspace.alterCase_get_ne heq
  change { w with cases := (w.withMergedMembers pair).cases } = w
  rw [hcases]

/-- A merge that is ready stops at its checks or changes nothing when it stops later. -/
theorem wp_mergeCase_ready {m : Process} (hkeeps : host.KeepsNotes)
    (hready : ∀ pair, mergeChecks host m.workspace caseRef otherCaseRef reason = .ok pair →
      MergeReady host m.workspace pair) :
    Program.wp Anywhere
      (fun _ _ m' => ∃ pair, mergeChecks host m.workspace caseRef otherCaseRef reason = .ok pair ∧
        m.workspace.MergedInto m'.workspace pair ∧
        ¬ m'.workspace.NamesCase host.toHost pair.otherCaseUid)
      (fun _ h m' => (∀ event ∈ h, event.Answered) → m'.workspace = m.workspace)
      (mergeCase host caseRef otherCaseRef reason) [] m := by
  apply wp_mergeCase
  · exact fun _ _ _ => rfl
  · intro pair error hchecks hnotes _
    have hsame := hready pair hchecks
    unfold MergeReady at hsame
    rw [hnotes] at hsame
    exact Workspace.withMergedMembers_eq (mergeChecks_checked hchecks).primary hsame
  · intro pair notes error hchecks hnotes hviews _
    have hrefreshed := hready pair hchecks
    unfold MergeReady at hrefreshed
    rw [hnotes] at hrefreshed
    cases hviews.symm.trans hrefreshed.1
  · rintro pair notes error h _ _ _ ⟨event, hmem, hunanswered⟩ hanswered
    exact (hunanswered (hanswered event hmem)).elim
  · intro pair notes h audit hchecks hnotes _
    have hchecked := mergeChecks_checked hchecks
    have hmerged := hchecked.mergedInto hkeeps hnotes audit
    have hunnamed := hready pair hchecks
    unfold MergeReady at hunnamed
    rw [hnotes] at hunnamed
    refine ⟨pair, hchecks, hmerged, ?_⟩
    exact fun hnames => hunnamed.2 ((hchecked.namesCase_iff hmerged).mp hnames)

theorem wp_mergeCase_notes {m : Process} {error : AppError}
    (hchecks : mergeChecks host m.workspace caseRef otherCaseRef reason = .ok pair)
    (hnotes : mergedNotes host pair = .error error) :
    Program.wp Anywhere (fun _ _ _ => False)
      (fun _ h m' => h = [] ∧ m'.workspace = m.workspace.withMergedMembers pair)
      (mergeCase host caseRef otherCaseRef reason) [] m := by
  apply wp_mergeCase
  · intro _ herror
    cases hchecks.symm.trans herror
  · intro _ _ hpair _
    cases hchecks.symm.trans hpair
    exact ⟨rfl, rfl⟩
  · intro _ _ _ hpair hmerged _
    cases hchecks.symm.trans hpair
    cases hnotes.symm.trans hmerged
  · intro _ _ _ _ hpair hmerged _ _
    cases hchecks.symm.trans hpair
    cases hnotes.symm.trans hmerged
  · intro _ _ _ _ hpair hmerged _
    cases hchecks.symm.trans hpair
    cases hnotes.symm.trans hmerged

/-- A merge whose views cannot be refreshed ends after the other case is gone. -/
theorem wp_mergeCase_views {m : Process} {notes : Option String} {error : AppError}
    (hchecks : mergeChecks host m.workspace caseRef otherCaseRef reason = .ok pair)
    (hnotes : mergedNotes host pair = .ok notes)
    (hviews : mergeRefreshed host (m.workspace.mergedCases pair notes) pair = .error error) :
    Program.wp Anywhere (fun _ _ _ => False)
      (fun _ h m' => h = [] ∧ m'.workspace = m.workspace.mergedCases pair notes)
      (mergeCase host caseRef otherCaseRef reason) [] m := by
  apply wp_mergeCase
  · intro _ herror
    cases hchecks.symm.trans herror
  · intro _ _ hpair herror
    cases hchecks.symm.trans hpair
    cases hnotes.symm.trans herror
  · intro _ _ _ hpair hmerged _
    cases hchecks.symm.trans hpair
    cases hnotes.symm.trans hmerged
    exact ⟨rfl, rfl⟩
  · intro _ _ _ _ hpair hmerged hrefreshed _
    cases hchecks.symm.trans hpair
    cases hnotes.symm.trans hmerged
    cases hviews.symm.trans hrefreshed
  · intro _ _ _ _ hpair hmerged hrefreshed
    cases hchecks.symm.trans hpair
    cases hnotes.symm.trans hmerged
    cases hviews.symm.trans hrefreshed

/-- A merge that can refresh its views goes through when it is answered. -/
theorem wp_mergeCase_through {m : Process} {notes : Option String}
    (hchecks : mergeChecks host m.workspace caseRef otherCaseRef reason = .ok pair)
    (hnotes : mergedNotes host pair = .ok notes)
    (hviews : mergeRefreshed host (m.workspace.mergedCases pair notes) pair = .ok ()) :
    Program.wp Anywhere
      (fun _ _ m' => ∃ audit, m'.workspace = { m.workspace.mergedCases pair notes with audit })
      (fun _ h _ => ∃ event ∈ h, ¬ event.Answered)
      (mergeCase host caseRef otherCaseRef reason) [] m := by
  apply wp_mergeCase
  · intro _ herror
    cases hchecks.symm.trans herror
  · intro _ _ hpair herror
    cases hchecks.symm.trans hpair
    cases hnotes.symm.trans herror
  · intro _ _ _ hpair hmerged herror
    cases hchecks.symm.trans hpair
    cases hnotes.symm.trans hmerged
    cases hviews.symm.trans herror
  · exact fun _ _ _ _ _ _ _ hunanswered => hunanswered
  · intro _ _ _ audit hpair hmerged _
    cases hchecks.symm.trans hpair
    cases hnotes.symm.trans hmerged
    exact ⟨audit, rfl⟩

theorem MergeSafe.ready (hkeeps : host.KeepsNotes) (hsafe : MergeSafe host caseRef otherCaseRef reason w)
    (hchecks : mergeChecks host w caseRef otherCaseRef reason = .ok pair) :
    MergeReady host w pair := by
  have hchecked := mergeChecks_checked hchecks
  unfold MergeReady
  cases hnotes : mergedNotes host pair with
  | error error =>
    obtain ⟨_, _, m', hexec, rfl, hleft⟩ := Program.failing (storeError "") trivial
      (wp_mergeCase_notes (m := .start w) hchecks hnotes)
    have hsame := hsafe.refused (.start w) [] _ m' rfl hexec (List.forall_mem_nil _)
    have hget : (w.withMergedMembers pair).cases[pair.caseUid]? =
        some (pair.primary.withMembers pair.other.members.items) :=
      Workspace.alterCase_get hchecked.primary
    change m'.workspace = w.withMergedMembers pair at hleft
    rw [← hleft, hsame, hchecked.primary] at hget
    exact (Option.some.inj hget).symm
  | ok notes =>
    cases hviews : mergeRefreshed host (w.mergedCases pair notes) pair with
    | ok _ =>
      refine ⟨hviews, fun hnames => ?_⟩
      obtain ⟨events, count, m', hexec, audit, hleft⟩ := Program.returning anyReply trivial
        (wp_mergeCase_through (m := .start w) hchecks hnotes hviews)
      obtain ⟨found, hfound, _, hunnamed⟩ := hsafe.merged (.start w) events count m' rfl hexec
      cases hchecks.symm.trans hfound
      rw [hleft] at hunnamed
      have hmerged := hchecked.mergedInto hkeeps hnotes audit
      exact hunnamed ((hchecked.namesCase_iff hmerged).mpr hnames)
    | error error =>
      obtain ⟨_, _, m', hexec, rfl, hleft⟩ := Program.failing (storeError "") trivial
        (wp_mergeCase_views (m := .start w) hchecks hnotes hviews)
      have hsame := hsafe.refused (.start w) [] _ m' rfl hexec (List.forall_mem_nil _)
      have hgone : (w.mergedCases pair notes).cases[pair.otherCaseUid]? = none :=
        Std.ExtTreeMap.getElem?_erase_self
      change m'.workspace = w.mergedCases pair notes at hleft
      rw [← hleft, hsame, hchecked.other] at hgone
      cases hgone

theorem mergeCase_safe_iff (hkeeps : host.KeepsNotes) :
    MergeSafe host caseRef otherCaseRef reason w ↔
      ∀ pair, mergeChecks host w caseRef otherCaseRef reason = .ok pair → MergeReady host w pair := by
  constructor
  · exact fun hsafe pair hchecks => hsafe.ready hkeeps hchecks
  · intro hready
    refine ⟨?_, ?_⟩
    · rintro m events error m' rfl hexec hanswered
      exact (Program.wp_sound hexec trivial (wp_mergeCase_ready hkeeps hready)).2 hanswered
    · rintro m events count m' rfl hexec
      exact (Program.wp_sound hexec trivial (wp_mergeCase_ready hkeeps hready)).2

end Safety

section Losses

theorem plainCaseHost_keepsNotes : plainCaseHost.KeepsNotes := by
  intro primary otherCaseUid other notes hnotes
  cases hnotes
  have hchars : (s!"{primary}\n\n## Merged from {otherCaseUid}\n\n{other}").toList =
      primary.toList ++ ("\n\n## Merged from ".toList ++ otherCaseUid.toList ++ "\n\n".toList) ++
        other.toList := by
    simp [toString, String.toList_append]
  rw [hchars]
  exact ⟨⟨[], _, by rw [List.nil_append, List.append_assoc]⟩, ⟨_, [], by rw [List.append_nil]⟩⟩

/-- Two cases with a message each; only the second has a notes file. -/
def unequalNotes : Workspace where
  config := .default
  cases := ((∅ : Std.ExtTreeMap String CaseRecord).insert "c20240101001"
    { group := "support", dirName := "c20240101001-order", caseName := "order"
      members := (∅ : Members).upsertItem "message_1" none "" }).insert "c20240101002"
    { group := "support", dirName := "c20240101002-refund", caseName := "refund"
      members := (∅ : Members).upsertItem "message_2" none "", notes := some "context" }

def mergeUnequal : Trace Process Request Request.Reply AppError Nat Unit :=
  (mergeCase plainCaseHost "c20240101001" "c20240101002" none).trace
    (fun _ _ => (.error (storeError ""), ())) (.start unequalNotes) ()

/-- The merge is refused for want of a notes file, and a message is in both cases. -/
theorem mergeCase_not_safe :
    ¬ ∀ (host : CaseHost) (caseRef otherCaseRef : String) (reason : Option String)
        (w : Workspace), host.KeepsNotes → MergeSafe host caseRef otherCaseRef reason w := by
  intro hall
  have hexec := Program.trace_exec (fun _ _ => (.error (storeError ""), ()))
    (mergeCase plainCaseHost "c20240101001" "c20240101002" none) (.start unequalNotes) ()
  change Exec _ _ mergeUnequal.events mergeUnequal.outcome mergeUnequal.state at hexec
  have houtcome : mergeUnequal.outcome =
      .failed (notesMissing "cases/support/c20240101001-order/notes.md") := by decide +kernel
  have hevents : mergeUnequal.events = [] := by decide +kernel
  rw [houtcome, hevents] at hexec
  have hsafe := hall plainCaseHost "c20240101001" "c20240101002" none unequalNotes
    plainCaseHost_keepsNotes
  have hsame := hsafe.refused _ _ _ _ rfl hexec (List.forall_mem_nil _)
  have hmember := congrArg (fun w =>
    w.cases["c20240101001"]?.map (fun case_ => decide ("message_2" ∈ case_.members))) hsame
  exact absurd hmember (by decide +kernel)

theorem unequalNotes_safe_iff :
    MergeSafe plainCaseHost "c20240101001" "c20240101002" none unequalNotes ↔
      ∀ pair, mergeChecks plainCaseHost unequalNotes "c20240101001" "c20240101002" none = .ok pair →
        MergeReady plainCaseHost unequalNotes pair :=
  mergeCase_safe_iff plainCaseHost_keepsNotes

end Losses
end AgentFirstMail
