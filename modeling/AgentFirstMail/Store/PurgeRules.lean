import Mathlib.Data.List.Perm.Basic
import Mathlib.Data.List.ReduceOption
import AgentFirstMail.Config.Defaults
import AgentFirstMail.Store.Purge

namespace AgentFirstMail
open Chrono

namespace Workspace
variable {w : Workspace} {messageId : String}

theorem mem_foldlM_addNotified {notificationUid : String} {messageIds : List String}
    {out out' : Std.ExtTreeMap String String}
    (h : messageIds.foldlM (addNotified notificationUid) out = .ok out') :
    ∀ messageId, messageId ∈ out ∨ messageId ∈ messageIds → messageId ∈ out' := by
  induction messageIds generalizing out with
  | nil =>
    intro messageId hmem
    cases h
    exact hmem.resolve_right List.not_mem_nil
  | cons first rest ih =>
    rw [List.foldlM_cons] at h
    obtain ⟨next, hnext, h⟩ := Result.bind_ok h
    unfold addNotified at hnext
    split at hnext
    · cases hnext
    · cases hnext
      intro messageId hmem
      apply ih h
      rw [Std.ExtTreeMap.mem_insert, Std.LawfulEqCmp.compare_eq_iff_eq]
      rw [List.mem_cons] at hmem
      rcases hmem with hmem | rfl | hmem
      · exact .inl (.inr hmem)
      · exact .inl (.inl rfl)
      · exact .inr hmem

theorem mem_foldlM_notifications {entries : List (String × NotificationRecord)}
    {out out' : Std.ExtTreeMap String String} (h : entries.foldlM (fun out entry =>
      entry.2.members.messageIds.foldlM (addNotified entry.1) out) out = (.ok out' : Result _)) :
    ∀ messageId, (messageId ∈ out ∨ ∃ entry ∈ entries, messageId ∈ entry.2.members) →
      messageId ∈ out' := by
  induction entries generalizing out with
  | nil =>
    intro messageId hmem
    cases h
    rcases hmem with hmem | ⟨_, hentry, _⟩
    · exact hmem
    · cases hentry
  | cons first rest ih =>
    rw [List.foldlM_cons] at h
    obtain ⟨next, hnext, h⟩ := Result.bind_ok h
    intro messageId hmem
    apply ih h
    rcases hmem with hmem | ⟨entry, hentry, hmem⟩
    · exact .inl (mem_foldlM_addNotified hnext messageId (.inl hmem))
    · rcases List.mem_cons.mp hentry with rfl | hentry
      · exact .inl (mem_foldlM_addNotified hnext messageId (.inr hmem))
      · exact .inr ⟨entry, hentry, hmem⟩

/-- A message that is disposed of is in no notification. -/
theorem not_notified_of_disposed {index : OverlayIndex} {status : MessageStatus}
    (h : w.materializedOverlayIndex = .ok index)
    (hdisposed : index.dispositions[messageId]? = some status)
    {notificationUid : String} {record : NotificationRecord}
    (hrecord : w.notifications[notificationUid]? = some record) : messageId ∉ record.members := by
  intro hmem
  obtain ⟨dispositions, _, h⟩ := Result.bind_ok h
  obtain ⟨notifications, hnotifications, h⟩ := Result.bind_ok h
  obtain ⟨hdisjoint, h⟩ := Result.seq_ok h
  obtain ⟨cases_, _, h⟩ := Result.bind_ok h
  cases h
  have hentry : (messageId, status) ∈ dispositions.toList :=
    Std.ExtTreeMap.mem_toList_iff_getElem?_eq_some.mpr hdisposed
  have hnone := Result.forM_eq_ok_iff.mp hdisjoint _ hentry
  have hentry : (notificationUid, record) ∈ w.notifications.toList :=
    Std.ExtTreeMap.mem_toList_iff_getElem?_eq_some.mpr hrecord
  have hin : messageId ∈ notifications :=
    mem_foldlM_notifications hnotifications messageId (.inr ⟨_, hentry, hmem⟩)
  rw [Std.ExtTreeMap.mem_iff_isSome_getElem?] at hin
  obtain ⟨uid, huid⟩ := Option.isSome_iff_exists.mp hin
  dsimp only at hnone
  rw [huid] at hnone
  cases hnone

/-- Nothing refers to a message: no case file or queue record says its id anywhere, no draft answers
it, and it is in no notification. -/
structure Unmentioned (w : Workspace) (messageId : String) : Prop where
  cases : ∀ (caseUid : String) (case_ : CaseRecord), w.cases[caseUid]? = some case_ →
    messageId ∉ case_.jsonStrings caseUid
  members : ∀ (caseUid : String) (case_ : CaseRecord), w.cases[caseUid]? = some case_ →
    messageId ∉ case_.members
  drafts : ∀ (caseUid draftName : String) (case_ : CaseRecord) (draft : DraftFile),
    w.cases[caseUid]? = some case_ → case_.drafts[draftName]? = some draft →
    draft.frontmatter.replyToMessageId ≠ some messageId
  notifications : ∀ (notificationUid : String) (record : NotificationRecord),
    w.notifications[notificationUid]? = some record → messageId ∉ record.members
  pushItems : ∀ (pushId : String) (item : PushItem), w.pushItems[pushId]? = some item →
    messageId ∉ item.stored.jsonStrings

end Workspace

namespace CaseRecord

theorem mem_jsonStrings {case_ : CaseRecord} (h : messageId ∈ case_.members) (caseUid : String) :
    messageId ∈ case_.jsonStrings caseUid := by
  obtain ⟨item, hitem, rfl⟩ := List.mem_map.mp h
  have hmem : item.messageId ∈ case_.members.items.flatMap fun item =>
      [item.messageId, item.addedRfc3339] ++ item.summary.toList :=
    List.mem_flatMap.mpr ⟨item, hitem, List.mem_cons_self⟩
  simp only [jsonStrings, List.mem_append]
  exact .inl (.inl (.inr hmem))

end CaseRecord

namespace OverlayIndex
variable {index : OverlayIndex} {messageId : String}

theorem disposed_of_projectedStatus {origin : Option String} {disposition : PurgeDisposition}
    (h : index.projectedStatus messageId origin = disposition.status) :
    index.dispositions[messageId]? = some disposition.status := by
  have hstatus : index.status messageId = disposition.status := by
    unfold projectedStatus at h
    split at h
    · split at h <;> cases disposition <;> cases h
    · exact h
  unfold status at hstatus
  split at hstatus
  · rename_i hdisposed
    rw [hdisposed, hstatus]
  · cases disposition <;> cases hstatus
  · split at hstatus
    · cases disposition <;> cases hstatus
    · split at hstatus <;> cases disposition <;> cases hstatus

end OverlayIndex

namespace PurgeTree
variable {host : PurgeHost} {tree : PurgeTree} {context : MaterializationContext}
  {targets : List PurgeDisposition}

theorem readMessage_presents {message : MessageFile} {messageId : String}
    (h : tree.readMessage host.toProjectionHost context messageId = .ok message) :
    ∃ read, message.toMessageBase = tree.present context read := by
  obtain ⟨_, h⟩ := Result.seq_ok h
  split at h
  · obtain ⟨_, h⟩ := Result.seq_ok h
    obtain ⟨_, h⟩ := Result.seq_ok h
    obtain ⟨prior, _, h⟩ := Result.bind_ok h
    obtain ⟨found, _, h⟩ := Result.bind_ok h
    cases found with
    | none => cases h
    | some metadata =>
      obtain ⟨parsed, _, h⟩ := Result.bind_ok h
      cases h
      exact ⟨_, rfl⟩
  · unfold WorkspaceTree.readProjection at h
    split at h
    · cases h
    · obtain ⟨message, _, h⟩ := Result.bind_ok h
      cases h
      exact ⟨_, rfl⟩

theorem selectMessage_eq_some {dispositions : Std.ExtTreeMap String (MessageStatus × String)}
    {messageId : String} {selected : AgedMessage host}
    (h : tree.selectMessage host targets context dispositions messageId = .ok (some selected)) :
    ∃ message, tree.readMessage host.toProjectionHost context messageId = .ok message ∧
      message.messageId = selected.messageId ∧ selected.disposition ∈ targets ∧
      message.workspace.status = selected.disposition.status ∧
      messagePurgeAgeTime host message dispositions[messageId]? = .ok selected.ageBasis := by
  obtain ⟨message, hread, h⟩ := Result.bind_ok h
  split at h
  · cases h
  · rename_i disposition hfind
    obtain ⟨ageBasis, hage, h⟩ := Result.bind_ok h
    cases h
    have hstatus := List.find?_some hfind
    exact ⟨message, hread, rfl, List.mem_of_find?_eq_some hfind,
      (of_decide_eq_true hstatus).symm, hage⟩

/-- Every message of the selected dispositions, with its age, in the order of their file names. -/
def selectedMessages (host : PurgeHost) (tree : PurgeTree) (targets : List PurgeDisposition) :
    Result (List (AgedMessage host)) := do
  let context ← tree.materializationContext host.toProjectionHost
  let dispositions ← tree.workspace.disposedByMessage
  let found ← tree.messageJsonPaths.mapM (tree.selectMessage host targets context dispositions)
  return found.reduceOption

theorem foldlM_surveyMessage {dispositions : Std.ExtTreeMap String (MessageStatus × String)}
    {cutoff : DateTime host.limits} {messageIds : List String} {survey survey' : PurgeSurvey host} :
    messageIds.foldlM (tree.surveyMessage host targets context dispositions cutoff) survey =
        .ok survey' ↔
      ∃ found, messageIds.mapM (tree.selectMessage host targets context dispositions) = .ok found ∧
        survey' = found.reduceOption.foldl (·.add cutoff) survey := by
  induction messageIds generalizing survey with
  | nil =>
    constructor
    · intro h
      cases h
      exact ⟨[], rfl, rfl⟩
    · intro ⟨found, hfound, h⟩
      cases hfound
      exact congrArg Except.ok h.symm
  | cons messageId rest ih =>
    rw [List.foldlM_cons, List.mapM_cons, Result.bind_eq_ok_iff]
    constructor
    · intro ⟨next, hnext, h⟩
      obtain ⟨found, hfound, rfl⟩ := ih.mp h
      obtain ⟨selected, hselected, hnext⟩ := Result.bind_ok hnext
      refine ⟨selected :: found, ?_, ?_⟩
      · rw [hselected, hfound]
        rfl
      · cases selected <;> cases hnext <;> rfl
    · intro ⟨all, hall, h⟩
      obtain ⟨selected, hselected, hall⟩ := Result.bind_ok hall
      obtain ⟨found, hfound, hall⟩ := Result.bind_ok hall
      cases hall
      refine ⟨selected.elim survey (survey.add cutoff ·), ?_, ih.mpr ⟨found, hfound, ?_⟩⟩
      · rw [surveyMessage, hselected]
        cases selected <;> rfl
      · cases selected <;> exact h

end PurgeTree

theorem PurgeSurvey.foldl_add {cutoff : DateTime host.limits} {messages : List (AgedMessage host)}
    {survey : PurgeSurvey host} :
    messages.foldl (·.add cutoff) survey =
      { skipped := survey.skipped ++
          (messages.filter (·.isRecent cutoff)).map (·.skipped "recent")
        aged := survey.aged ++ messages.filter (!·.isRecent cutoff) } := by
  induction messages generalizing survey with
  | nil => simp
  | cons message rest ih =>
    rw [List.foldl_cons, ih]
    cases hrecent : message.isRecent cutoff <;> simp [add, hrecent]

namespace PurgeTree
variable {host : PurgeHost} {tree : PurgeTree} {context : MaterializationContext}
  {targets : List PurgeDisposition} {cutoff : DateTime host.limits}

theorem purgeCandidate_eq_ok {message : AgedMessage host} {candidate : PurgeCandidate}
    (h : tree.purgeCandidate host message = .ok candidate) :
    candidate.messageId = message.messageId ∧ candidate.disposition = message.disposition ∧
      candidate.ageBasisRfc3339 = host.toRfc3339 message.ageBasis := by
  obtain ⟨artifacts, _, h⟩ := Result.bind_ok h
  cases h
  exact ⟨rfl, rfl, rfl⟩

theorem foldlM_chooseMessage {referenced : List String} {messages : List (AgedMessage host)}
    {choice choice' : PurgeChoice} :
    messages.foldlM (tree.chooseMessage host referenced) choice = .ok choice' ↔
      ∃ candidates, (messages.filter (·.messageId ∉ referenced)).mapM (tree.purgeCandidate host) =
          .ok candidates ∧
        choice' = {
          candidates := choice.candidates ++ candidates
          skipped := choice.skipped ++
            (messages.filter (·.messageId ∈ referenced)).map (·.skipped "referenced") } := by
  induction messages generalizing choice with
  | nil =>
    constructor
    · intro h
      cases h
      exact ⟨[], rfl, by simp⟩
    · intro ⟨candidates, hcandidates, h⟩
      cases hcandidates
      rw [h]
      simp [pure, Except.pure]
  | cons message rest ih =>
    rw [List.foldlM_cons, Result.bind_eq_ok_iff]
    by_cases hmem : message.messageId ∈ referenced
    · have hstep : tree.chooseMessage host referenced choice message = .ok
          { choice with skipped := choice.skipped ++ [message.skipped "referenced"] } :=
        if_pos hmem
      simp [hstep, ih, hmem]
    · have hstep : tree.chooseMessage host referenced choice message = (do
          let candidate ← tree.purgeCandidate host message
          return { choice with candidates := choice.candidates ++ [candidate] }) := if_neg hmem
      rw [hstep, List.filter_cons_of_pos (by simpa using hmem),
        List.filter_cons_of_neg (by simpa using hmem), List.mapM_cons]
      constructor
      · intro ⟨next, hnext, h⟩
        obtain ⟨candidate, hcandidate, hnext⟩ := Result.bind_ok hnext
        cases hnext
        obtain ⟨candidates, hcandidates, h⟩ := ih.mp h
        refine ⟨candidate :: candidates, ?_, ?_⟩
        · rw [hcandidate, hcandidates]
          rfl
        · rw [h]
          simp
      · intro ⟨all, hall, h⟩
        obtain ⟨candidate, hcandidate, hall⟩ := Result.bind_ok hall
        obtain ⟨candidates, hcandidates, hall⟩ := Result.bind_ok hall
        cases hall
        refine ⟨{ choice with candidates := choice.candidates ++ [candidate] }, ?_,
          ih.mpr ⟨candidates, hcandidates, ?_⟩⟩
        · rw [hcandidate]
          rfl
        · rw [h]
          simp

/-- Whether a message is old enough and nothing refers to it. -/
def isDue (host : PurgeHost) (tree : PurgeTree) (context : MaterializationContext)
    (cutoff : DateTime host.limits) (message : AgedMessage host) : Bool :=
  (tree.messageReferences host context message.messageId).isEmpty && !message.isRecent cutoff

theorem referencedMessageIds_eq (messageIds : List String)
    (hcontext : tree.materializationContext host.toProjectionHost = .ok context) :
    tree.referencedMessageIds host messageIds = .ok (messageIds.filter fun messageId =>
      !(tree.messageReferences host context messageId).isEmpty) := by
  unfold referencedMessageIds
  split
  · rename_i hempty
    rw [List.isEmpty_iff.mp hempty]
    rfl
  · rw [hcontext]
    rfl

theorem decide_mem_filter_messageIds {f : String → Bool} {messages : List (AgedMessage host)}
    {message : AgedMessage host} (h : message ∈ messages) :
    decide (message.messageId ∈ (messages.map (·.messageId)).filter f) = f message.messageId := by
  cases hf : f message.messageId with
  | true => exact decide_eq_true (List.mem_filter.mpr ⟨List.mem_map_of_mem h, hf⟩)
  | false =>
    apply decide_eq_false
    intro hmem
    have htrue := (List.mem_filter.mp hmem).2
    rw [hf] at htrue
    cases htrue

theorem filter_mem_messageIds (f : String → Bool) (messages : List (AgedMessage host)) :
    (messages.filter fun message => message.messageId ∈ (messages.map (·.messageId)).filter f) =
      messages.filter fun message => f message.messageId :=
  List.filter_congr fun _ hmem => decide_mem_filter_messageIds hmem

theorem filter_not_mem_messageIds (f : String → Bool) (messages : List (AgedMessage host)) :
    (messages.filter fun message => message.messageId ∉ (messages.map (·.messageId)).filter f) =
      messages.filter fun message => !f message.messageId := by
  apply List.filter_congr
  intro message hmem
  rw [decide_not, decide_mem_filter_messageIds hmem]

/-- A plan is made of the messages that are due, and skips the others. -/
theorem planUntil_eq_ok {days : UInt64} {workspaceUid workspacePath : String} {plan : PurgePlan} :
    tree.planUntil host targets days workspaceUid workspacePath cutoff = .ok plan ↔
      ∃ context selected candidates,
        tree.materializationContext host.toProjectionHost = .ok context ∧
        tree.selectedMessages host targets = .ok selected ∧
        (selected.filter (tree.isDue host context cutoff)).mapM (tree.purgeCandidate host) =
          .ok candidates ∧
        plan = PurgeChoice.plan host targets days workspaceUid workspacePath {
          candidates
          skipped := (selected.filter (·.isRecent cutoff)).map (·.skipped "recent") ++
            ((selected.filter (!·.isRecent cutoff)).filter fun message =>
              !(tree.messageReferences host context message.messageId).isEmpty).map
                (·.skipped "referenced") } := by
  constructor
  · intro h
    obtain ⟨context, hcontext, h⟩ := Result.bind_ok h
    obtain ⟨dispositions, hdispositions, h⟩ := Result.bind_ok h
    obtain ⟨survey, hsurvey, h⟩ := Result.bind_ok h
    obtain ⟨referenced, hids, h⟩ := Result.bind_ok h
    obtain ⟨choice, hchoice, h⟩ := Result.bind_ok h
    cases h
    obtain ⟨found, hfound, rfl⟩ := foldlM_surveyMessage.mp hsurvey
    rw [PurgeSurvey.foldl_add] at hids hchoice
    rw [referencedMessageIds_eq _ hcontext] at hids
    cases hids
    obtain ⟨candidates, hcandidates, rfl⟩ := foldlM_chooseMessage.mp hchoice
    refine ⟨context, found.reduceOption, candidates, hcontext, ?_, ?_, ?_⟩
    · exact Result.bind_eq_ok_iff.mpr ⟨context, hcontext, Result.bind_eq_ok_iff.mpr
        ⟨dispositions, hdispositions, Result.bind_eq_ok_iff.mpr ⟨found, hfound, rfl⟩⟩⟩
    · rw [← hcandidates, filter_not_mem_messageIds]
      simp only [List.nil_append, Bool.not_not, List.filter_filter]
      rfl
    · rw [filter_mem_messageIds]
      rfl
  · intro ⟨context, selected, candidates, hcontext, hselected, hcandidates, hplan⟩
    obtain ⟨context', hcontext', h⟩ := Result.bind_ok hselected
    cases hcontext.symm.trans hcontext'
    obtain ⟨dispositions, hdispositions, h⟩ := Result.bind_ok h
    obtain ⟨found, hfound, h⟩ := Result.bind_ok h
    cases h
    have hsurvey := (@foldlM_surveyMessage host tree context targets dispositions cutoff
      tree.messageJsonPaths {} _).mpr ⟨found, hfound, rfl⟩
    rw [PurgeSurvey.foldl_add] at hsurvey
    refine Result.bind_eq_ok_iff.mpr ⟨context, hcontext, Result.bind_eq_ok_iff.mpr
      ⟨dispositions, hdispositions, Result.bind_eq_ok_iff.mpr ⟨_, hsurvey,
      Result.bind_eq_ok_iff.mpr ⟨_, referencedMessageIds_eq _ hcontext,
      Result.bind_eq_ok_iff.mpr ⟨_, foldlM_chooseMessage.mpr ⟨candidates, ?_, rfl⟩, ?_⟩⟩⟩⟩⟩
    · rw [← hcandidates, filter_not_mem_messageIds]
      simp only [List.nil_append, Bool.not_not, List.filter_filter]
      rfl
    · rw [hplan, filter_mem_messageIds]
      rfl

theorem disposed_of_selected {selected : List (AgedMessage host)} {message : AgedMessage host}
    (h : tree.selectedMessages host targets = .ok selected) (hmem : message ∈ selected)
    (hcontext : tree.materializationContext host.toProjectionHost = .ok context) :
    context.overlays.dispositions[message.messageId]? = some message.disposition.status := by
  obtain ⟨context', hcontext', h⟩ := Result.bind_ok h
  cases hcontext.symm.trans hcontext'
  obtain ⟨dispositions, _, h⟩ := Result.bind_ok h
  obtain ⟨found, hfound, h⟩ := Result.bind_ok h
  cases h
  have hsome : some message ∈ found := List.reduceOption_mem_iff.mp hmem
  obtain ⟨messageId, _, hselect⟩ := Lists.exists_of_forall₂ (Result.mapM_eq_ok_iff.mp hfound) hsome
  obtain ⟨read, hread, hid, _, hstatus, _⟩ := selectMessage_eq_some hselect
  obtain ⟨presented, hpresented⟩ := readMessage_presents hread
  rw [hpresented, WorkspaceTree.present_status] at hstatus
  rw [← hid, hpresented, WorkspaceTree.present_messageId]
  exact OverlayIndex.disposed_of_projectedStatus hstatus

/-- A message that is due for a purge is referred to by nothing. -/
theorem unreferenced_of_isDue {selected : List (AgedMessage host)} {message : AgedMessage host}
    (h : tree.selectedMessages host targets = .ok selected) (hmem : message ∈ selected)
    (hcontext : tree.materializationContext host.toProjectionHost = .ok context)
    (hdue : tree.isDue host context cutoff message = true) :
    tree.workspace.Unmentioned message.messageId := by
  obtain ⟨hrefs, _⟩ := Bool.and_eq_true_iff.mp hdue
  have hnone := List.isEmpty_iff.mp hrefs
  unfold messageReferences at hnone
  obtain ⟨hothers, _⟩ := List.append_eq_nil_iff.mp hnone
  obtain ⟨hothers, hpushes⟩ := List.append_eq_nil_iff.mp hothers
  obtain ⟨hcases, hdrafts⟩ := List.append_eq_nil_iff.mp hothers
  have hunnamed : ∀ (caseUid : String) (case_ : CaseRecord),
      tree.workspace.cases[caseUid]? = some case_ →
      message.messageId ∉ case_.jsonStrings caseUid := by
    intro caseUid case_ hcase hstring
    have hentry := List.filterMap_eq_nil_iff.mp hcases _ (Workspace.mem_allCaseEntries.mpr hcase)
    rw [if_pos hstring] at hentry
    cases hentry
  constructor
  case cases => exact hunnamed
  case members =>
    intro caseUid case_ hcase hmember
    exact hunnamed caseUid case_ hcase (case_.mem_jsonStrings hmember caseUid)
  case drafts =>
    intro caseUid draftName case_ draft hcase hdraft hreply
    have hentries := List.flatMap_eq_nil_iff.mp hdrafts _
      (List.mem_filter.mpr ⟨Workspace.mem_allCaseEntries.mpr hcase, rfl⟩)
    have hentry := List.filterMap_eq_nil_iff.mp hentries _
      (Std.ExtTreeMap.mem_toList_iff_getElem?_eq_some.mpr hdraft)
    rw [if_pos hreply] at hentry
    cases hentry
  case notifications =>
    intro notificationUid record hrecord
    obtain ⟨_, _, hfound⟩ := Result.bind_ok hcontext
    obtain ⟨_, _, hfound⟩ := Result.bind_ok hfound
    obtain ⟨overlays, hoverlays, hfound⟩ := Result.bind_ok hfound
    cases hfound
    exact Workspace.not_notified_of_disposed hoverlays
      (disposed_of_selected h hmem hcontext) hrecord
  case pushItems =>
    intro pushId item hitem hstring
    have hqueued := Workspace.mem_sortedItems.mpr (Workspace.mem_readItems.mpr
      ⟨pushId, item, hitem, rfl⟩)
    have hentry := List.filterMap_eq_nil_iff.mp hpushes _ hqueued
    rw [if_neg (by simp), if_neg (by simp [Workspace.messagePushActionIsAllowed]),
      if_pos hstring] at hentry
    cases hentry

/-- The candidates of a plan are the messages that are due. -/
theorem mem_candidates {days : UInt64} {workspaceUid workspacePath : String} {plan : PurgePlan}
    (h : tree.planUntil host targets days workspaceUid workspacePath cutoff = .ok plan)
    {candidate : PurgeCandidate} : candidate ∈ plan.candidates ↔
      ∃ context selected message,
        tree.materializationContext host.toProjectionHost = .ok context ∧
        tree.selectedMessages host targets = .ok selected ∧ message ∈ selected ∧
        tree.isDue host context cutoff message = true ∧
        tree.purgeCandidate host message = .ok candidate := by
  obtain ⟨context, selected, candidates, hcontext, hselected, hcandidates, rfl⟩ :=
    planUntil_eq_ok.mp h
  have hall := Result.mapM_eq_ok_iff.mp hcandidates
  change candidate ∈ candidates.insertionSort _ ↔ _
  rw [List.mem_insertionSort]
  constructor
  · intro hmem
    obtain ⟨message, hmessage, hcandidate⟩ := Lists.exists_of_forall₂ hall hmem
    obtain ⟨hmessage, hdue⟩ := List.mem_filter.mp hmessage
    exact ⟨context, selected, message, hcontext, hselected, hmessage, hdue, hcandidate⟩
  · intro ⟨context', selected', message, hcontext', hselected', hmessage, hdue, hcandidate⟩
    cases hcontext.symm.trans hcontext'
    cases hselected.symm.trans hselected'
    obtain ⟨other, hother, heq⟩ := Lists.exists_of_forall₂ hall.flip (List.mem_filter.mpr ⟨hmessage, hdue⟩)
    cases hcandidate.symm.trans heq
    exact hother

theorem map_key_of_mapM {messages : List (AgedMessage host)} {candidates : List PurgeCandidate}
    (h : List.Forall₂ (fun message candidate =>
      tree.purgeCandidate host message = .ok candidate) messages candidates) :
    candidates.map (fun candidate => (candidate.messageId, candidate.disposition)) =
      messages.map fun message => (message.messageId, message.disposition) := by
  induction h with
  | nil => rfl
  | cons hfirst _ ih =>
    obtain ⟨hid, hdisposition, _⟩ := purgeCandidate_eq_ok hfirst
    rw [List.map_cons, List.map_cons, ih, hid, hdisposition]

theorem perm_selected (context : MaterializationContext) (cutoff : DateTime host.limits)
    (selected : List (AgedMessage host)) :
    (selected.filter (tree.isDue host context cutoff) ++
      (selected.filter (·.isRecent cutoff) ++
        (selected.filter (!·.isRecent cutoff)).filter fun message =>
          !(tree.messageReferences host context message.messageId).isEmpty)).Perm selected := by
  have haged := List.filter_append_perm
    (fun message => (tree.messageReferences host context message.messageId).isEmpty)
    (selected.filter (!·.isRecent cutoff))
  have hall := List.filter_append_perm (·.isRecent cutoff) selected
  rw [List.filter_filter] at haged
  exact (List.perm_append_comm_assoc _ _ _).trans ((haged.append_left _).trans hall)

theorem planUntil_places {days : UInt64} {workspaceUid workspacePath : String} {plan : PurgePlan}
    (h : tree.planUntil host targets days workspaceUid workspacePath cutoff = .ok plan) :
    ∃ selected, tree.selectedMessages host targets = .ok selected ∧
      (plan.candidates.map (fun candidate => (candidate.messageId, candidate.disposition)) ++
        plan.skipped.map fun skipped => (skipped.messageId, skipped.disposition)).Perm
        (selected.map fun message => (message.messageId, message.disposition)) := by
  obtain ⟨context, selected, candidates, _, hselected, hcandidates, rfl⟩ := planUntil_eq_ok.mp h
  refine ⟨selected, hselected, ?_⟩
  have hkeys := map_key_of_mapM (Result.mapM_eq_ok_iff.mp hcandidates)
  have hselection : (selected.filter (tree.isDue host context cutoff) ++
      (selected.filter (·.isRecent cutoff) ++
        (selected.filter (!·.isRecent cutoff)).filter fun message =>
          !(tree.messageReferences host context message.messageId).isEmpty)).Perm selected :=
    perm_selected context cutoff selected
  have hperm := hselection.map fun message => (message.messageId, message.disposition)
  apply ((List.perm_insertionSort _ _).map _).append ((List.perm_insertionSort _ _).map _) |>.trans
  rw [hkeys, List.map_append, List.map_map, List.map_map]
  rw [List.map_append, List.map_append] at hperm
  exact hperm

/-- What a plan for messages of that many days owes. -/
structure PlansByAge (host : PurgeHost) (tree : PurgeTree) (targets : List PurgeDisposition)
    (days : UInt64) (now : DateTime host.limits) (plan : PurgePlan) : Prop where
  places : ∃ selected, tree.selectedMessages host targets = .ok selected ∧
    (plan.candidates.map (fun candidate => (candidate.messageId, candidate.disposition)) ++
      plan.skipped.map fun skipped => (skipped.messageId, skipped.disposition)).Perm
      (selected.map fun message => (message.messageId, message.disposition))
  aged : ∀ candidate ∈ plan.candidates, ∃ selected message,
    tree.selectedMessages host targets = .ok selected ∧ message ∈ selected ∧
    candidate.messageId = message.messageId ∧ candidate.disposition = message.disposition ∧
    candidate.ageBasisRfc3339 = host.toRfc3339 message.ageBasis ∧
    message.ageBasis.nanos + days.toNat * nanosPerDay ≤ now.nanos
  unreferenced : ∀ candidate ∈ plan.candidates, tree.workspace.Unmentioned candidate.messageId
  fewer : ∀ fewer ≤ days, ∀ plan',
    tree.buildPurgePlan host targets fewer now = .ok (.ok plan') →
    plan.candidates ⊆ plan'.candidates

/-- No number of days makes the planning of a purge panic, and what is planned is by age. -/
structure PurgesByAge (host : PurgeHost) (tree : PurgeTree) (targets : List PurgeDisposition)
    (days : UInt64) (now : DateTime host.limits) : Prop where
  ends : ∃ result, tree.buildPurgePlan host targets days now = .ok result
  plans : ∀ plan, tree.buildPurgePlan host targets days now = .ok (.ok plan) →
    tree.PlansByAge host targets days now plan

/-- Some selected message is due at the cutoff, and the files of each that is can be listed. -/
def Purges (host : PurgeHost) (tree : PurgeTree) (targets : List PurgeDisposition)
    (cutoff : DateTime host.limits) : Prop :=
  ∃ context selected, tree.materializationContext host.toProjectionHost = .ok context ∧
    tree.selectedMessages host targets = .ok selected ∧
    (∃ message ∈ selected, tree.isDue host context cutoff message = true) ∧
    ∀ message ∈ selected, tree.isDue host context cutoff message = true →
      ∃ artifacts, tree.purgeArtifacts host message.messageId = .ok artifacts

/-- There is a time that many days ago; or so many days lead to a later time instead, up to which
nothing can be purged; or the workspace is not known, and nothing is counted. -/
inductive DaysFit (host : PurgeHost) (tree : PurgeTree) (targets : List PurgeDisposition)
    (days : UInt64) (now : DateTime host.limits) : Prop where
  | unidentified (error : AppError) (h : host.workspaceUid = .error error)
  | unplaced (error : AppError) (h : host.workspacePath = .error error)
  | before (hdays : days.toNat ≤ host.limits.maxDays)
      (hfirst : host.limits.first ≤ now.nanos - days.toNat * nanosPerDay)
  | after (later : Nat) (hlater : days.toNat + later = 2 ^ 64) (hdays : later ≤ host.limits.maxDays)
      (cutoff : DateTime host.limits) (hcutoff : cutoff.nanos = now.nanos + later * nanosPerDay)
      (hnone : ¬ tree.Purges host targets cutoff)

theorem toInt_toInt64_of_lt {days : UInt64} (h : days.toNat < 2 ^ 63) :
    days.toInt64.toInt = days.toNat := by
  change days.toBitVec.toInt = _
  rw [BitVec.toInt_eq_toNat_cond, if_pos (by change 2 * days.toNat < _; omega)]
  rfl

theorem toInt_toInt64_of_add {days : UInt64} {later : Nat} (h : 2 ^ 63 ≤ days.toNat)
    (hlater : days.toNat + later = 2 ^ 64) : days.toInt64.toInt = -(later : Int) := by
  change days.toBitVec.toInt = _
  rw [BitVec.toInt_eq_toNat_cond, if_neg (by change ¬ 2 * days.toNat < _; omega)]
  change (days.toNat : Int) - _ = _
  omega

section
variable {days : UInt64} {now : DateTime host.limits}

/-- A plan is built for a cutoff that many days ago, as the days are counted. -/
theorem buildPurgePlan_eq_ok {workspaceUid workspacePath : String} {result : Result PurgePlan}
    (huid : host.workspaceUid = .ok workspaceUid) (hpath : host.workspacePath = .ok workspacePath) :
    tree.buildPurgePlan host targets days now = .ok result ↔
      ∃ cutoff : DateTime host.limits, days.toInt64.toInt.natAbs ≤ host.limits.maxDays ∧
        cutoff.nanos = now.nanos - days.toInt64.toInt * nanosPerDay ∧
        tree.planUntil host targets days workspaceUid workspacePath cutoff = result := by
  rw [buildPurgePlan, huid, hpath]
  dsimp only
  cases hsub : now.subDays days.toInt64.toInt with
  | error text =>
    constructor
    · intro h
      cases h
    · intro ⟨cutoff, hdays, hcutoff, _⟩
      rw [DateTime.subDays_eq_ok.mpr ⟨hdays, hcutoff⟩] at hsub
      cases hsub
  | ok earlier =>
    obtain ⟨hdays, hearlier⟩ := DateTime.subDays_eq_ok.mp hsub
    constructor
    · intro h
      cases h
      exact ⟨earlier, hdays, hearlier, rfl⟩
    · intro ⟨cutoff, hdays, hcutoff, h⟩
      rw [DateTime.subDays_eq_ok.mpr ⟨hdays, hcutoff⟩] at hsub
      cases hsub
      exact congrArg Except.ok h

theorem candidates_subset {days fewer : UInt64} {workspaceUid workspacePath : String}
    {cutoff cutoff' : DateTime host.limits} {plan plan' : PurgePlan}
    (h : tree.planUntil host targets days workspaceUid workspacePath cutoff = .ok plan)
    (h' : tree.planUntil host targets fewer workspaceUid workspacePath cutoff' = .ok plan')
    (hle : cutoff.nanos ≤ cutoff'.nanos) : plan.candidates ⊆ plan'.candidates := by
  intro candidate hmem
  obtain ⟨context, selected, message, hcontext, hselected, hmessage, hdue, hcandidate⟩ :=
    (mem_candidates h).mp hmem
  refine (mem_candidates h').mpr
    ⟨context, selected, message, hcontext, hselected, hmessage, ?_, hcandidate⟩
  obtain ⟨hrefs, hold⟩ := Bool.and_eq_true_iff.mp hdue
  apply Bool.and_eq_true_iff.mpr ⟨hrefs, ?_⟩
  simp only [AgedMessage.isRecent, Bool.not_eq_true', decide_eq_false_iff_not, not_lt] at hold ⊢
  exact le_trans hold hle

theorem planUntil_candidate {workspaceUid workspacePath : String} {plan : PurgePlan}
    (h : tree.planUntil host targets days workspaceUid workspacePath cutoff = .ok plan)
    {candidate : PurgeCandidate} (hmem : candidate ∈ plan.candidates) :
    (∃ selected message, tree.selectedMessages host targets = .ok selected ∧ message ∈ selected ∧
      candidate.messageId = message.messageId ∧ candidate.disposition = message.disposition ∧
      candidate.ageBasisRfc3339 = host.toRfc3339 message.ageBasis ∧
      message.ageBasis.nanos ≤ cutoff.nanos) ∧
    tree.workspace.Unmentioned candidate.messageId := by
  obtain ⟨context, selected, message, hcontext, hselected, hmessage, hdue, hcandidate⟩ :=
    (mem_candidates h).mp hmem
  obtain ⟨hid, hdisposition, hage⟩ := purgeCandidate_eq_ok hcandidate
  have hold := (Bool.and_eq_true_iff.mp hdue).2
  simp only [AgedMessage.isRecent, Bool.not_eq_true', decide_eq_false_iff_not, not_lt] at hold
  refine ⟨⟨selected, message, hselected, hmessage, hid, hdisposition, hage, hold⟩, ?_⟩
  rw [hid]
  exact unreferenced_of_isDue hselected hmessage hcontext hdue

theorem purges_of_candidate {workspaceUid workspacePath : String} {plan : PurgePlan}
    (h : tree.planUntil host targets days workspaceUid workspacePath cutoff = .ok plan)
    {candidate : PurgeCandidate} (hmem : candidate ∈ plan.candidates) :
    tree.Purges host targets cutoff := by
  obtain ⟨context, selected, message, hcontext, hselected, hmessage, hdue, _⟩ :=
    (mem_candidates h).mp hmem
  refine ⟨context, selected, hcontext, hselected, ⟨message, hmessage, hdue⟩, ?_⟩
  intro other hother hdue'
  obtain ⟨context', selected', candidates, hcontext', hselected', hcandidates, _⟩ :=
    planUntil_eq_ok.mp h
  cases hcontext.symm.trans hcontext'
  cases hselected.symm.trans hselected'
  obtain ⟨_, _, hcandidate⟩ := Lists.exists_of_forall₂ (Result.mapM_eq_ok_iff.mp hcandidates).flip
    (List.mem_filter.mpr ⟨hother, hdue'⟩)
  obtain ⟨artifacts, hartifacts, _⟩ := Result.bind_ok hcandidate
  exact ⟨artifacts, hartifacts⟩

theorem exists_candidate_of_purges (h : tree.Purges host targets cutoff) (days : UInt64)
    (workspaceUid workspacePath : String) :
    ∃ plan candidate, tree.planUntil host targets days workspaceUid workspacePath cutoff =
      .ok plan ∧ candidate ∈ plan.candidates := by
  obtain ⟨context, selected, hcontext, hselected, ⟨message, hmessage, hdue⟩, hartifacts⟩ := h
  have hcandidate : ∀ message ∈ selected.filter (tree.isDue host context cutoff),
      ∃ candidate, tree.purgeCandidate host message = .ok candidate := by
    intro message hmem
    obtain ⟨hmessage, hdue⟩ := List.mem_filter.mp hmem
    obtain ⟨artifacts, hfiles⟩ := hartifacts message hmessage hdue
    exact ⟨_, Result.bind_eq_ok_iff.mpr ⟨artifacts, hfiles, rfl⟩⟩
  obtain ⟨candidates, hcandidates⟩ := Result.exists_mapM hcandidate
  have hplan := (@planUntil_eq_ok host tree targets cutoff days workspaceUid workspacePath _).mpr
    ⟨context, selected, candidates, hcontext, hselected, hcandidates, rfl⟩
  obtain ⟨candidate, hcandidate⟩ := hcandidate message (List.mem_filter.mpr ⟨hmessage, hdue⟩)
  exact ⟨_, candidate, hplan, (mem_candidates hplan).mpr
    ⟨context, selected, message, hcontext, hselected, hmessage, hdue, hcandidate⟩⟩

/-- A plan for a cutoff that many days ago is by age. -/
theorem plansByAge_of_before {workspaceUid workspacePath : String} {plan : PurgePlan}
    (huid : host.workspaceUid = .ok workspaceUid) (hpath : host.workspacePath = .ok workspacePath)
    (hdays : days.toNat ≤ host.limits.maxDays)
    (hcutoff : cutoff.nanos = now.nanos - days.toNat * nanosPerDay)
    (h : tree.planUntil host targets days workspaceUid workspacePath cutoff = .ok plan) :
    tree.PlansByAge host targets days now plan := by
  have hlt := host.limits.days_lt
  constructor
  case places => exact planUntil_places h
  case aged =>
    intro candidate hmem
    obtain ⟨selected, message, hselected, hmessage, hid, hdisposition, hage, hold⟩ :=
      (planUntil_candidate h hmem).1
    refine ⟨selected, message, hselected, hmessage, hid, hdisposition, hage, ?_⟩
    rw [hcutoff] at hold
    omega
  case unreferenced =>
    intro candidate hmem
    exact (planUntil_candidate h hmem).2
  case fewer =>
    intro fewer hfewer plan' hplan'
    obtain ⟨cutoff', _, hcutoff', h'⟩ := (buildPurgePlan_eq_ok huid hpath).mp hplan'
    have hnat : fewer.toNat ≤ days.toNat := UInt64.le_iff_toNat_le.mp hfewer
    rw [toInt_toInt64_of_lt (by omega)] at hcutoff'
    apply candidates_subset h h'
    rw [hcutoff, hcutoff']
    have hproduct : (fewer.toNat : Int) * nanosPerDay ≤ days.toNat * nanosPerDay :=
      Int.mul_le_mul_of_nonneg_right (Int.ofNat_le.mpr hnat) (by decide)
    omega

theorem plansByAge_of_none {workspaceUid workspacePath : String} {plan : PurgePlan}
    (h : tree.planUntil host targets days workspaceUid workspacePath cutoff = .ok plan)
    (hnone : ¬ tree.Purges host targets cutoff) : tree.PlansByAge host targets days now plan := by
  have hempty : ∀ candidate, candidate ∉ plan.candidates := by
    intro candidate hmem
    exact hnone (purges_of_candidate h hmem)
  constructor
  case places => exact planUntil_places h
  case aged =>
    intro candidate hmem
    exact absurd hmem (hempty candidate)
  case unreferenced =>
    intro candidate hmem
    exact absurd hmem (hempty candidate)
  case fewer =>
    intro _ _ _ _ candidate hmem
    exact absurd hmem (hempty candidate)

theorem not_plansByAge_of_candidate {plan : PurgePlan} {candidate : PurgeCandidate}
    (hdays : 2 ^ 63 ≤ days.toNat) (hmem : candidate ∈ plan.candidates) :
    ¬ tree.PlansByAge host targets days now plan := by
  intro h
  obtain ⟨selected, message, _, _, _, _, _, hage⟩ := h.aged candidate hmem
  have hspan := host.limits.span
  have hafter := message.ageBasis.after
  have hbefore := now.before
  have hproduct : 2 ^ 63 * nanosPerDay ≤ (days.toNat : Int) * nanosPerDay :=
    Int.mul_le_mul_of_nonneg_right (by exact_mod_cast hdays) (by decide)
  omega

end

/-- The planning of a purge goes by age exactly where the number of days fits. -/
theorem purgesByAge_iff (host : PurgeHost) (tree : PurgeTree) (targets : List PurgeDisposition)
    (days : UInt64) (now : DateTime host.limits) :
    tree.PurgesByAge host targets days now ↔ tree.DaysFit host targets days now := by
  have hlimit := host.limits.days_lt
  cases huid : host.workspaceUid with
  | error error =>
    have hbuild (days : UInt64) :
        tree.buildPurgePlan host targets days now = .ok (.error error) := by
      rw [buildPurgePlan, huid]
    refine ⟨fun _ => .unidentified error huid, fun _ => ⟨⟨_, hbuild days⟩, ?_⟩⟩
    intro plan hplan
    cases (hbuild days).symm.trans hplan
  | ok workspaceUid =>
  cases hpath : host.workspacePath with
  | error error =>
    have hbuild (days : UInt64) :
        tree.buildPurgePlan host targets days now = .ok (.error error) := by
      rw [buildPurgePlan, huid, hpath]
    refine ⟨fun _ => .unplaced error hpath, fun _ => ⟨⟨_, hbuild days⟩, ?_⟩⟩
    intro plan hplan
    cases (hbuild days).symm.trans hplan
  | ok workspacePath =>
  constructor
  · intro h
    obtain ⟨result, hresult⟩ := h.ends
    obtain ⟨cutoff, hdays, hcutoff, hplan⟩ := (buildPurgePlan_eq_ok huid hpath).mp hresult
    by_cases hsmall : days.toNat < 2 ^ 63
    · rw [toInt_toInt64_of_lt hsmall] at hdays hcutoff
      exact .before hdays (hcutoff ▸ cutoff.after)
    · have hlt := days.toNat_lt
      obtain ⟨later, hlater⟩ := Nat.exists_eq_add_of_le (Nat.le_of_lt hlt)
      rw [toInt_toInt64_of_add (Nat.le_of_not_lt hsmall) hlater.symm] at hdays hcutoff
      rw [Int.natAbs_neg, Int.natAbs_natCast] at hdays
      rw [Int.neg_mul, Int.sub_neg] at hcutoff
      refine .after later hlater.symm hdays cutoff hcutoff ?_
      intro hpurges
      obtain ⟨plan, candidate, hplan', hmem⟩ :=
        exists_candidate_of_purges hpurges days workspaceUid workspacePath
      cases hplan.symm.trans hplan'
      exact not_plansByAge_of_candidate (Nat.le_of_not_lt hsmall) hmem (h.plans plan hresult)
  · intro hfit
    cases hfit with
    | unidentified error h => cases huid.symm.trans h
    | unplaced error h => cases hpath.symm.trans h
    | before hdays hfirst =>
      have hsigned := @toInt_toInt64_of_lt days (by omega)
      have hlast : now.nanos - days.toNat * nanosPerDay ≤ host.limits.last := by
        have hproduct : 0 ≤ (days.toNat : Int) * nanosPerDay :=
          Int.mul_nonneg (Int.natCast_nonneg _) (by decide)
        have hbefore := now.before
        omega
      constructor
      case ends =>
        refine ⟨_, (buildPurgePlan_eq_ok huid hpath).mpr ⟨⟨_, hfirst, hlast⟩, ?_, ?_, rfl⟩⟩
        · rw [hsigned]
          exact hdays
        · rw [hsigned]
      case plans =>
        intro plan hplan
        obtain ⟨cutoff, _, hcutoff, hplan⟩ := (buildPurgePlan_eq_ok huid hpath).mp hplan
        rw [hsigned] at hcutoff
        exact plansByAge_of_before huid hpath hdays hcutoff hplan
    | after later hlater hdays cutoff hcutoff hnone =>
      have hsigned := @toInt_toInt64_of_add days later (by omega) hlater
      have hsame : ∀ {cutoff' : DateTime host.limits},
          cutoff'.nanos = now.nanos - days.toInt64.toInt * nanosPerDay →
          cutoff'.nanos = cutoff.nanos := by
        intro cutoff' h
        rw [h, hcutoff, hsigned, Int.neg_mul, Int.sub_neg]
      constructor
      case ends =>
        refine ⟨_, (buildPurgePlan_eq_ok huid hpath).mpr ⟨cutoff, ?_, ?_, rfl⟩⟩
        · rw [hsigned, Int.natAbs_neg, Int.natAbs_natCast]
          exact hdays
        · rw [hcutoff, hsigned, Int.neg_mul, Int.sub_neg]
      case plans =>
        intro plan hplan
        obtain ⟨cutoff', _, hcutoff', hplan⟩ := (buildPurgePlan_eq_ok huid hpath).mp hplan
        cases DateTime.ext (hsame hcutoff')
        exact plansByAge_of_none hplan hnone

end PurgeTree

/-- The longest duration in days, and the first and the last date, that chrono has. -/
def chronoLimits : Limits where
  maxDays := 106751991167
  first := -8334601228800 * 10 ^ 9
  last := 8210266876799 * 10 ^ 9 + 999999999
  days_lt := by decide
  span := by decide

/-- Noon of the day on which the message below was discarded. -/
def noon : DateTime chronoLimits := ⟨1789992000 * 10 ^ 9, by decide, by decide⟩

/-- A host that knows one time, which is three hours before noon. -/
def morningHost : PurgeHost where
  toHost := plainHost
  parseMail _ := some {}
  native _ := .error { errorCode := "native_message_invalid", message := "" }
  cloudflareDirection := .inbound
  matchIdentities := .ok fun _ => {}
  safeAttachmentFilename _ name := name
  limits := chronoLimits
  workspaceUid := .ok "w1"
  workspacePath := .ok "/mail"
  parseRfc3339 text :=
    if text = "2026-09-21T09:00:00Z" then .ok ⟨1789981200 * 10 ^ 9, by decide, by decide⟩
    else .error "input contains invalid characters"
  toRfc3339 _ := "2026-09-21T09:00:00Z"
  contentHash _ := "blake3"
  fingerprint _ := "blake3"

def discardedToday : PurgeTree where
  workspace :=
    { config := .default
      messages := (∅ : Std.ExtTreeMap String MessageRecord).insert "m1"
        { eml := some [], metadata := some {} }
      trashed := (∅ : Members).upsertItem "m1" none "2026-09-21T09:00:00Z" }
  projections := (∅ : Std.ExtTreeMap String ProjectionFile).insert "m1"
    (.message { messageId := "m1" })

/-- The largest signed number of days panics, and the largest unsigned one purges what was
discarded on the same day. -/
theorem not_purgesByAge_discardedToday :
    ¬ discardedToday.PurgesByAge morningHost [.trash] 9223372036854775807 noon ∧
      ¬ discardedToday.PurgesByAge morningHost [.trash] 18446744073709551615 noon := by
  constructor
  · intro h
    obtain ⟨result, hresult⟩ := h.ends
    have hpanics : discardedToday.buildPurgePlan morningHost [.trash] 9223372036854775807 noon =
        .error "TimeDelta::days out of bounds" := by rfl
    cases hpanics.symm.trans hresult
  · intro h
    have hids : (discardedToday.buildPurgePlan morningHost [.trash] 18446744073709551615
        noon).toOption.bind (·.toOption.map (·.candidates.map (·.messageId))) = some ["m1"] := by
      decide +kernel
    cases hbuild : discardedToday.buildPurgePlan morningHost [.trash] 18446744073709551615 noon with
    | error text =>
      rw [hbuild] at hids
      cases hids
    | ok result =>
      rw [hbuild] at hids
      cases result with
      | error error => cases hids
      | ok plan =>
        have hmap : plan.candidates.map (·.messageId) = ["m1"] := Option.some.inj hids
        have hmem : "m1" ∈ plan.candidates.map (·.messageId) := by
          rw [hmap]
          exact List.mem_singleton_self _
        obtain ⟨candidate, hcandidate, _⟩ := List.mem_map.mp hmem
        exact PurgeTree.not_plansByAge_of_candidate (by decide) hcandidate (h.plans plan hbuild)

end AgentFirstMail
