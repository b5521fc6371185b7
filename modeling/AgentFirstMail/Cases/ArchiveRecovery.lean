import AgentFirstMail.Cases.ArchiveProgress

namespace AgentFirstMail
open Effect Command

/-- The views of a case and of its messages can be made all the way into the archive. -/
structure CaseHost.RendersArchiving (host : CaseHost) (w : Workspace) (caseUid : String)
    (case_ : CaseRecord) : Prop where
  cache : ∀ s, w.Archiving s caseUid case_ → ∀ messageId ∈ case_.members,
    host.clearPendingCache s [messageId] = .ok ()
  messages : ∀ s, w.Archiving s caseUid case_ → ∀ messageId ∈ case_.members,
    host.renderMessageViews s [messageId] = .ok ()
  cases : ∀ s, w.Archiving s caseUid case_ → host.renderCaseViews s caseUid = .ok ()

/-- Workspaces that differ in the queue records of some messages only. -/
structure Workspace.Repushed (s s' : Workspace) (messageIds : List String) : Prop where
  same : s' = { s with pushItems := s'.pushItems }
  kept : ∀ pushId, (∀ messageId ∈ messageIds, pushId ≠ messagePushId messageId) →
    s'.pushItems[pushId]? = s.pushItems[pushId]?

namespace Workspace.Repushed
variable {s s' : Workspace}

theorem refl (s : Workspace) (messageIds : List String) : s.Repushed s messageIds :=
  ⟨rfl, fun _ _ => rfl⟩

theorem of_key {messageId : String} {pushItems : Std.ExtTreeMap String PushItem}
    (hkept : ∀ pushId, pushId ≠ messagePushId messageId →
      pushItems[pushId]? = s.pushItems[pushId]?) :
    s.Repushed { s with pushItems } [messageId] :=
  ⟨rfl, fun pushId hother => hkept pushId (hother messageId List.mem_cons_self)⟩

theorem cons {s'' : Workspace} {messageId : String} {rest : List String}
    (hfirst : s.Repushed s' [messageId]) (hrest : s'.Repushed s'' rest) :
    s.Repushed s'' (messageId :: rest) where
  same := by
    rw [hrest.same, hfirst.same]
  kept pushId hother := by
    rw [hrest.kept pushId fun messageId hmem => hother messageId (List.mem_cons_of_mem _ hmem)]
    exact hfirst.kept pushId fun found hmem =>
      hother found (by rw [List.mem_singleton.mp hmem]; exact List.mem_cons_self)

theorem cases (hrepushed : s.Repushed s' messageIds) : s'.cases = s.cases := by
  rw [hrepushed.same]

theorem kept_message (hrepushed : s.Repushed s' messageIds) {messageId : String}
    (hnot : messageId ∉ messageIds) :
    s'.pushItems[messagePushId messageId]? = s.pushItems[messagePushId messageId]? := by
  apply hrepushed.kept
  intro other hmem heq
  exact hnot (by rwa [messagePushId_injective heq])

end Workspace.Repushed

section Completing
variable {host : CaseHost} {w : Workspace} {caseUid : String} {case_ : CaseRecord}
  {h : List RemoteEvent} {m : Process}

/-- Wherever a command is cut off, the case is on its way into the archive. -/
abbrev OnTheWay (w : Workspace) (caseUid : String) (case_ : CaseRecord) :
    ProcessFact :=
  fun _ m => w.Archiving m.workspace caseUid case_

theorem wp_deleteItems {messageId : String} (items : List PushItem)
    (hitems : ∀ item ∈ items, item.pushId = messagePushId messageId)
    (harchiving : w.Archiving m.workspace caseUid case_) (hmember : messageId ∈ case_.members)
    (hfree : w.Unreferenced caseUid messageId)
    {post : Unit → ProcessFact}
    {abort : AppError → ProcessFact}
    (hpost : w.Archiving (items.foldl (fun s item => s.deleteItem item.pushId) m.workspace) caseUid
        case_ →
      post () h (m.onWorkspace fun s => items.foldl (fun s item => s.deleteItem item.pushId) s)) :
    Program.wp (OnTheWay w caseUid case_) post abort
      (Program.forEach items fun item => writeWorkspace (·.deleteItem item.pushId)) h m := by
  induction items generalizing m with
  | nil => exact hpost harchiving
  | cons item rest ih =>
    rw [List.forall_mem_cons] at hitems
    have hnext : w.Archiving (m.onWorkspace (·.deleteItem item.pushId)).workspace caseUid case_ := by
      change w.Archiving (m.workspace.deleteItem item.pushId) caseUid case_
      rw [hitems.1]
      exact harchiving.deleteItem hmember hfree
    apply wp_then
    exact ⟨hnext, ih hitems.2 hnext hpost⟩

/-- What is queued for adding a free message to a case is all that is queued for it. -/
theorem removable_of_unreferenced {s : Workspace} {messageId : String} (hfiled : s.Filed)
    (hfree : s.Unreferenced caseUid messageId)
    (hunstarted : ∀ item, s.pushItems[messagePushId messageId]? = some item →
      item.hasStartedEffects = false) :
    ∃ items, removableMessagePushes s messageId .caseAdd = .ok items ∧
      (∀ item ∈ items, item.pushId = messagePushId messageId) ∧
      ∀ item, s.pushItems[messagePushId messageId]? = some item → item.stored ∈ items := by
  have hitems : ∀ item ∈ s.readItems, (item.message.any fun message =>
      message.messageId == messageId && message.action == .caseAdd) = true →
      item.pushId = messagePushId messageId ∧ item.hasStartedEffects = false := by
    intro item hmem hof
    obtain ⟨pushId, record, hget, rfl⟩ := Workspace.mem_readItems.mp hmem
    obtain ⟨message, hmessage, hof⟩ := (Option.any_eq_true _ _).mp hof
    rw [Bool.and_eq_true, beq_iff_eq, beq_iff_eq] at hof
    have hkey := hfiled.of_message hget hmessage
    rw [hof.1] at hkey
    subst hkey
    exact ⟨hfiled.pushId _ record hget, hunstarted record hget⟩
  refine ⟨s.readItems.filter fun item => item.message.any fun message =>
    message.messageId == messageId && message.action == .caseAdd, ?_, ?_, ?_⟩
  · refine removableMessagePushes_eq_ok_iff.mpr ⟨rfl, fun item hmem => ?_⟩
    obtain ⟨hmem, hof⟩ := List.mem_filter.mp hmem
    exact (hitems item hmem hof).2
  · intro item hmem
    obtain ⟨hmem, hof⟩ := List.mem_filter.mp hmem
    exact (hitems item hmem hof).1
  · intro item hget
    obtain ⟨message, hmessage, hid, haction⟩ := hfree.caseAdd hfiled hget
    refine List.mem_filter.mpr ⟨Workspace.mem_readItems.mpr ⟨_, item, hget, rfl⟩, ?_⟩
    rw [Workspace.stored_message, hmessage]
    simp [hid, haction]

theorem wp_takeBackCaseAdd {messageId : String}
    (hviews : host.RendersArchiving w caseUid case_) (hfiled : w.Filed)
    (harchiving : w.Archiving m.workspace caseUid case_) (hmember : messageId ∈ case_.members)
    (hfree : w.Unreferenced caseUid messageId) (hnew : ¬ m.workspace.QueuedAfresh messageId)
    (hunstarted : ∀ item, w.pushItems[messagePushId messageId]? = some item →
      item.hasStartedEffects = false)
    {post : Unit → ProcessFact}
    {abort : AppError → ProcessFact}
    (hpost : ∀ s, w.Archiving s caseUid case_ → m.workspace.Repushed s [messageId] →
      s.pushItems[messagePushId messageId]? = none → post () h { m with workspace := s }) :
    Program.wp (OnTheWay w caseUid case_) post abort (takeBackCaseAdd host messageId) h m := by
  have hsfree := harchiving.unreferenced_iff hfiled |>.mpr ⟨hfree, hnew⟩
  have hsfiled := harchiving.filed hfiled
  obtain ⟨items, hremovable, hids, hall⟩ := removable_of_unreferenced hsfiled hsfree <| by
    intro item hget
    rcases harchiving.record hget with hold | ⟨other, _, _, heq, now, enqueueSeq, rfl⟩
    · exact hunstarted item hold
    · rw [messagePushId_injective heq] at hnew
      exact (hnew ⟨now, enqueueSeq, by rwa [heq] at hget⟩).elim
  apply wp_then
  apply wp_workspace_bind.mpr
  apply wp_then
  rw [hremovable]
  apply wp_then
  apply wp_deleteItems items hids harchiving hmember hfree
  intro hdeleted
  have hkeys : ∀ pushId, pushId ∈ items.map (·.pushId) → pushId = messagePushId messageId := by
    intro pushId hmem
    obtain ⟨item, hitem, rfl⟩ := List.mem_map.mp hmem
    exact hids item hitem
  have hdone := hpost _ hdeleted ?repushed ?gone
  · simp only [Program.pure_eq, Program.wp_ret]
    split
    · apply wp_workspace_bind.mpr
      have hcleared : host.clearPendingCache (m.onWorkspace fun s =>
          items.foldl (fun s item => s.deleteItem item.pushId) s).workspace [messageId] = .ok () :=
        hviews.cache _ hdeleted messageId hmember
      rw [hcleared]
      exact hdone
    · exact hdone
  case repushed =>
    refine ⟨?_, ?_⟩
    · generalize m.workspace = s
      clear hremovable hids hall hdeleted hkeys
      induction items generalizing s with
      | nil => rfl
      | cons item rest ih => exact ih (s.deleteItem item.pushId)
    · intro pushId hother
      rw [Workspace.deleteItems_get, if_neg]
      exact fun hmem => hother messageId List.mem_cons_self (hkeys pushId hmem)
  case gone =>
    rw [Workspace.deleteItems_get]
    split
    · rfl
    · rename_i hnot
      cases hget : m.workspace.pushItems[messagePushId messageId]? with
      | none => rfl
      | some item =>
        have hmem := List.mem_map_of_mem (f := (·.pushId)) (hall item hget)
        rw [PushItem.stored_pushId, hsfiled.pushId _ item hget] at hmem
        exact (hnot hmem).elim

/-- What archiving is to leave in the queue for a message that nothing else refers to. -/
def ArchiveSettled (w s : Workspace) (messageId : String) : Prop :=
  w.Notifies messageId ∧ s.QueuedAfresh messageId ∨
    ¬ w.Notifies messageId ∧ s.pushItems[messagePushId messageId]? = none

/-- A message whose adding to the case can be taken back. -/
structure TakesBack (w s : Workspace) (caseUid : String) (case_ : CaseRecord) (messageId : String) :
    Prop where
  member : messageId ∈ case_.members
  free : w.Unreferenced caseUid messageId
  new : ¬ s.QueuedAfresh messageId
  unstarted : ∀ item, w.pushItems[messagePushId messageId]? = some item →
    item.hasStartedEffects = false

theorem wp_takeBackCaseAdds (hviews : host.RendersArchiving w caseUid case_) (hfiled : w.Filed)
    {messageIds : List String} (harchiving : w.Archiving m.workspace caseUid case_)
    (hmessages : ∀ messageId ∈ messageIds, TakesBack w m.workspace caseUid case_ messageId)
    {post : Unit → ProcessFact}
    {abort : AppError → ProcessFact}
    (hpost : ∀ s, w.Archiving s caseUid case_ → m.workspace.Repushed s messageIds →
      (∀ messageId ∈ messageIds, s.pushItems[messagePushId messageId]? = none) →
      post () h { m with workspace := s }) :
    Program.wp (OnTheWay w caseUid case_) post abort
      (Program.forEach messageIds (takeBackCaseAdd host)) h m := by
  induction messageIds generalizing m with
  | nil => exact hpost m.workspace harchiving (.refl _ _) (List.forall_mem_nil _)
  | cons messageId rest ih =>
    obtain ⟨hfirst, hrest⟩ := List.forall_mem_cons.mp hmessages
    apply wp_then
    apply wp_takeBackCaseAdd hviews hfiled harchiving hfirst.member hfirst.free hfirst.new
      hfirst.unstarted
    intro s hnext hrepushed hnone
    apply ih (m := { m with workspace := s }) hnext
    · intro other hmem
      have hother := hrest other hmem
      refine ⟨hother.member, hother.free, ?_, hother.unstarted⟩
      rintro ⟨now, enqueueSeq, hget⟩
      by_cases heq : other = messageId
      · subst heq
        cases hnone.symm.trans hget
      · rw [hrepushed.kept_message (by simpa using heq)] at hget
        exact hother.new ⟨now, enqueueSeq, hget⟩
    · intro s' hlast hothers hgone
      refine hpost s' hlast (hrepushed.cons hothers) ?_
      intro other hmem
      by_cases hagain : other ∈ rest
      · exact hgone other hagain
      · rw [hothers.kept_message hagain, (List.mem_cons.mp hmem).resolve_right hagain]
        exact hnone

theorem archiveAction_places {messageId : String} {places : List PushLocation}
    {steps : List ActionStep} (haction : w.archiveAction messageId = .ok (places, steps)) :
    ∀ place ∈ places, place.messageId = messageId := by
  obtain ⟨locations, hlocations, haction⟩ := Result.bind_ok haction
  obtain ⟨⟨selected, found⟩, hselected, haction⟩ := Result.bind_ok haction
  cases haction
  have hnone : ∀ steps, none = some steps → ArchiveSteps w.config steps := fun _ h => by cases h
  exact places_of_subset (Workspace.remoteLocations_allOf hlocations)
    (selectArchiveLocations_spec hnone hselected).1

/-- For a message without a queue record a new one is made, if there is work to be done. -/
theorem wp_queueArchive {messageId : String} {places : List PushLocation}
    {steps : List ActionStep} (hfiled : w.Filed)
    (harchiving : w.Archiving m.workspace caseUid case_) (hmember : messageId ∈ case_.members)
    (hfree : w.Unreferenced caseUid messageId)
    (haction : w.archiveAction messageId = .ok (places, steps))
    (hnone : m.workspace.pushItems[messagePushId messageId]? = none)
    {post : List String → ProcessFact}
    {abort : AppError → ProcessFact}
    (hpost : ∀ s pushIds, w.Archiving s caseUid case_ → m.workspace.Repushed s [messageId] →
      ArchiveSettled w s messageId → post pushIds h { m with workspace := s }) :
    Program.wp (OnTheWay w caseUid case_) post abort
      (queueActionSteps host.toHost .notification [messageId] places steps) h m := by
  unfold queueActionSteps
  split
  · rename_i hidle
    refine hpost m.workspace [] harchiving (.refl _ _) (.inr ⟨?_, hnone⟩)
    rintro ⟨_, _, hfound, hplaces, hsteps⟩
    cases haction.symm.trans hfound
    simp [hplaces, hsteps] at hidle
  · rename_i hwork
    simp only [List.isEmpty_cons, Bool.false_or, Bool.or_eq_true, List.isEmpty_iff, not_or] at hwork
    have hnotifies : w.Notifies messageId := ⟨places, steps, haction, hwork.2, hwork.1⟩
    have hqueued : [messageId].filter (fun messageId => places.any (·.messageId == messageId)) =
        [messageId] := by
      obtain ⟨place, hplace⟩ := List.exists_mem_of_ne_nil places hwork.2
      rw [List.filter_eq_self]
      intro other hmem
      rw [List.mem_singleton.mp hmem, List.any_eq_true]
      exact ⟨place, hplace, beq_iff_eq.mpr (archiveAction_places haction place hplace)⟩
    have hfind : m.workspace.findMessageItem messageId = none := by
      apply List.find?_eq_none.mpr
      intro item hmem hof
      obtain ⟨pushId, record, hget, rfl⟩ := Workspace.mem_readItems.mp hmem
      obtain ⟨message, hmessage, hid⟩ := (Option.any_eq_true _ _).mp hof
      have hkey := (harchiving.filed hfiled).of_message hget hmessage
      rw [eq_of_beq hid] at hkey
      subst hkey
      cases hnone.symm.trans hget
    rw [hqueued]
    apply wp_then
    apply wp_then
    apply wp_workspace_bind.mpr
    rw [hfind]
    have hnext := harchiving.writeItem hmember hfree hnotifies host.now m.workspace.nextEnqueueSeq
    refine ⟨hnext, hpost _ _ hnext (.of_key fun _ hne => Indexing.getElem?_insert_ne hne)
      (.inl ⟨hnotifies, _, _, Std.ExtTreeMap.getElem?_insert_self⟩)⟩

theorem wp_queueArchives (hfiled : w.Filed)
    {actions : List (String × List PushLocation × List ActionStep)}
    (harchiving : w.Archiving m.workspace caseUid case_)
    (hdistinct : (actions.map (·.1)).Nodup)
    (hactions : ∀ action ∈ actions, action.1 ∈ case_.members ∧ w.Unreferenced caseUid action.1 ∧
      w.archiveAction action.1 = .ok action.2 ∧
      m.workspace.pushItems[messagePushId action.1]? = none)
    {post : Unit → ProcessFact}
    {abort : AppError → ProcessFact}
    (hpost : ∀ s, w.Archiving s caseUid case_ → m.workspace.Repushed s (actions.map (·.1)) →
      (∀ messageId ∈ actions.map (·.1), ArchiveSettled w s messageId) →
      post () h { m with workspace := s }) :
    Program.wp (OnTheWay w caseUid case_) post abort
      (Program.forEach actions fun action => do
        let _ ← queueActionSteps host.toHost .notification [action.1] action.2.1 action.2.2) h m := by
  induction actions generalizing m with
  | nil => exact hpost m.workspace harchiving (.refl _ _) (List.forall_mem_nil _)
  | cons action rest ih =>
    obtain ⟨messageId, places, steps⟩ := action
    rw [List.map_cons, List.nodup_cons] at hdistinct
    obtain ⟨⟨hmember, hfree, haction, hnone⟩, hrest⟩ := List.forall_mem_cons.mp hactions
    apply wp_then
    apply wp_then
    apply wp_queueArchive hfiled harchiving hmember hfree haction hnone
    intro s pushIds hnext hrepushed hsettled
    apply ih (m := { m with workspace := s }) hnext hdistinct.2
    · intro other hmem
      obtain ⟨hother, hothers, hplanned, hget⟩ := hrest other hmem
      refine ⟨hother, hothers, hplanned, ?_⟩
      change s.pushItems[messagePushId other.1]? = none
      rw [hrepushed.kept_message, hget]
      rw [List.mem_singleton]
      rintro rfl
      exact hdistinct.1 (List.mem_map_of_mem (f := (·.1)) hmem)
    · intro s' hlast hothers hdone
      refine hpost s' hlast (hrepushed.cons hothers) ?_
      rw [List.map_cons, List.forall_mem_cons]
      refine ⟨?_, hdone⟩
      unfold ArchiveSettled Workspace.QueuedAfresh
      rw [hothers.kept_message hdistinct.1]
      exact hsettled

theorem archiveActions_eq_ok {s : Workspace} {messageIds : List String}
    (hactions : ∀ messageId ∈ messageIds, ∃ action, s.archiveAction messageId = .ok action) :
    ∃ actions, s.archiveActions messageIds = .ok actions ∧ actions.map (·.1) = messageIds ∧
      ∀ action ∈ actions, s.archiveAction action.1 = .ok action.2 := by
  induction messageIds with
  | nil => exact ⟨[], rfl, rfl, List.forall_mem_nil _⟩
  | cons messageId rest ih =>
    obtain ⟨⟨action, haction⟩, hrest⟩ := List.forall_mem_cons.mp hactions
    obtain ⟨actions, hok, hids, hall⟩ := ih hrest
    refine ⟨(messageId, action) :: actions, ?_, by rw [List.map_cons, hids], ?_⟩
    · exact Result.mapM_eq_ok_iff.mpr (.cons
        (Result.bind_eq_ok_iff.mpr ⟨action, haction, rfl⟩) (Result.mapM_eq_ok_iff.mp hok))
    · exact List.forall_mem_cons.mpr ⟨haction, hall⟩

/-- The messages of a case can be read, and what nothing else refers to can be archived: its
archive action is known, and adding it to the case has not started. -/
structure CanArchive (host : Host) (w : Workspace) (caseUid : String) (case_ : CaseRecord) : Prop where
  valid : ∀ messageId ∈ case_.members, validateId host "message_id" messageId = .ok ()
  reads : ∀ messageId ∈ case_.members, ∃ message, w.readMessageById messageId = .ok message
  actions : ∀ messageId ∈ case_.members, w.Unreferenced caseUid messageId →
    ∃ action, w.archiveAction messageId = .ok action
  unstarted : ∀ messageId ∈ case_.members, w.Unreferenced caseUid messageId →
    ∀ item, w.pushItems[messagePushId messageId]? = some item → item.hasStartedEffects = false

theorem Workspace.Archiving.eligible {s : Workspace} (harchiving : w.Archiving s caseUid case_)
    (hfiled : w.Filed)
    (hvalid : ∀ messageId ∈ case_.members, validateId host.toHost "message_id" messageId = .ok ())
    (hreads : ∀ messageId ∈ case_.members, ∃ message, w.readMessageById messageId = .ok message) :
    ∃ eligible, s.eligibleMessages host.toHost case_.members.messageIds none (some caseUid) =
        .ok eligible ∧ eligible.Nodup ∧ ∀ messageId, messageId ∈ eligible ↔
          messageId ∈ case_.members ∧ w.Unreferenced caseUid messageId ∧
            ¬ s.QueuedAfresh messageId := by
  obtain ⟨status, _, hcases⟩ := harchiving.renamed
  have hget : s.cases[caseUid]? = some { case_ with archivedDir := true, status } := by
    rw [hcases, Std.ExtTreeMap.getElem?_insert_self]
  obtain ⟨eligible, heligible, hsublist, hmem⟩ := Workspace.eligibleMessages_eq_ok
    case_.members.messageIds hvalid
    (fun messageId hmember => by
      obtain ⟨message, hread⟩ := hreads messageId hmember
      obtain ⟨found, hfound, _⟩ := harchiving.readMessageById hread
      exact ⟨found, hfound⟩) hget rfl (fun _ hmember => hmember)
  refine ⟨eligible, heligible, case_.members.nodup.sublist hsublist, ?_⟩
  intro messageId
  rw [hmem, harchiving.unreferenced_iff hfiled]
  rfl

theorem wp_queueArchiveForArchivedMessages (hviews : host.RendersArchiving w caseUid case_)
    (hfiled : w.Filed)
    (hcan : CanArchive host.toHost w caseUid case_)
    (harchiving : w.Archiving m.workspace caseUid case_)
    {post : Unit → ProcessFact}
    {abort : AppError → ProcessFact}
    (hpost : ∀ s, w.Archiving s caseUid case_ → s.cases = m.workspace.cases →
      (∀ messageId ∈ case_.members, w.Unreferenced caseUid messageId →
        ArchiveSettled w s messageId) → post () h { m with workspace := s }) :
    Program.wp (OnTheWay w caseUid case_) post abort
      (queueArchiveForArchivedMessages host case_.members.messageIds none (some caseUid)) h m := by
  obtain ⟨eligible, heligible, hdistinct, hmem⟩ := harchiving.eligible hfiled hcan.valid hcan.reads
  have hactions : ∀ messageId ∈ eligible, ∃ action,
      m.workspace.archiveAction messageId = .ok action := by
    intro messageId helected
    obtain ⟨hmember, hfree, _⟩ := (hmem messageId).mp helected
    obtain ⟨message, hread⟩ := hcan.reads messageId hmember
    rw [harchiving.archiveAction_eq hread]
    exact hcan.actions messageId hmember hfree
  obtain ⟨actions, hplanned, hids, hall⟩ := archiveActions_eq_ok hactions
  apply wp_workspace_bind.mpr
  apply wp_then
  rw [heligible]
  apply wp_then
  rw [hplanned]
  apply wp_then
  apply wp_takeBackCaseAdds hviews hfiled harchiving
  · intro messageId helected
    obtain ⟨hmember, hfree, hnew⟩ := (hmem messageId).mp helected
    exact ⟨hmember, hfree, hnew, hcan.unstarted messageId hmember hfree⟩
  intro s hcleared hremoved hnone
  apply wp_queueArchives (m := { m with workspace := s }) hfiled hcleared (by rwa [hids])
  · intro action haction
    have helected : action.1 ∈ eligible := by
      rw [← hids]
      exact List.mem_map_of_mem haction
    obtain ⟨hmember, hfree, _⟩ := (hmem action.1).mp helected
    obtain ⟨message, hread⟩ := hcan.reads action.1 hmember
    refine ⟨hmember, hfree, ?_, hnone action.1 helected⟩
    rw [← harchiving.archiveAction_eq hread]
    exact hall action haction
  intro s' hlast hqueued hsettled
  rw [hids] at hqueued hsettled
  refine hpost s' hlast (hqueued.cases.trans hremoved.cases) ?_
  intro messageId hmember hfree
  by_cases helected : messageId ∈ eligible
  · exact hsettled messageId helected
  · have hold : m.workspace.QueuedAfresh messageId := by
      by_contra hnew
      exact helected ((hmem messageId).mpr ⟨hmember, hfree, hnew⟩)
    have hnotifies : w.Notifies messageId := by
      rcases harchiving.progress messageId hmember hfree with hsame | hgone | hprogress
      · obtain ⟨now, enqueueSeq, hget⟩ := hold
        exact (hfree.not_queuedAfresh hfiled ⟨now, enqueueSeq, hsame.symm.trans hget⟩).elim
      · obtain ⟨now, enqueueSeq, hget⟩ := hold
        cases hgone.symm.trans hget
      · exact hprogress.1
    refine .inl ⟨hnotifies, ?_⟩
    obtain ⟨now, enqueueSeq, hget⟩ := hold
    refine ⟨now, enqueueSeq, ?_⟩
    rw [hqueued.kept_message helected]
    exact (hremoved.kept_message helected).trans hget

/-- The queue holds a draft of the case, or the archiving of one of its messages. -/
def Workspace.ArchiveWorkQueued (s : Workspace) (caseUid : String) (case_ : CaseRecord) : Prop :=
  ∃ item ∈ s.readItems, item.draft.any (·.caseUid == caseUid) = true ∨
    ∃ messageId ∈ case_.members, messageId ∈ item.messageIds ∧
      item.displayKind = "message.notification" ∧ item.localStageAtLeast .pendingCleared = false

theorem readMessageById_pending {s : Workspace} {messageId : String}
    (hread : s.readMessageById messageId = .ok message) :
    message.pending.any (·.kind == "message.notification") = true ↔
      ∃ item ∈ s.readItems, messageId ∈ item.messageIds ∧
        item.displayKind = "message.notification" ∧
        item.localStageAtLeast .pendingCleared = false := by
  obtain ⟨index, hindex, hread⟩ := Result.bind_ok hread
  obtain ⟨_, _, _, _, _, _, _, _, _, hpending⟩ := Workspace.readMessageUnder_eq_ok hread
  have hpushes : index.pendingPush = s.pendingPushes := by
    obtain ⟨_, _, hindex⟩ := Result.bind_ok hindex
    obtain ⟨_, _, hindex⟩ := Result.bind_ok hindex
    obtain ⟨_, hindex⟩ := Result.seq_ok hindex
    obtain ⟨_, _, hindex⟩ := Result.bind_ok hindex
    cases hindex
    rfl
  rw [hpending, OverlayIndex.pending, hpushes, Workspace.pendingPushes, List.any_eq_true]
  constructor
  · rintro ⟨push, hmem, hkind⟩
    obtain ⟨entry, hentry, hpush⟩ := List.mem_filterMap.mp hmem
    obtain ⟨item, hitem, hnamed⟩ := List.mem_flatMap.mp hentry
    obtain ⟨hitem, hstage⟩ := List.mem_filter.mp hitem
    obtain ⟨other, hother, rfl⟩ := List.mem_map.mp hnamed
    split at hpush
    · rename_i heq
      cases hpush
      subst heq
      exact ⟨item, Workspace.mem_sortedItems.mp hitem, hother, eq_of_beq hkind,
        (Bool.not_eq_true' _).mp hstage⟩
    · cases hpush
  · rintro ⟨item, hitem, hid, hkind, hstage⟩
    refine ⟨⟨item.pushId, item.displayKind⟩, ?_, beq_iff_eq.mpr hkind⟩
    refine List.mem_filterMap.mpr ⟨(messageId, ⟨item.pushId, item.displayKind⟩), ?_, if_pos rfl⟩
    refine List.mem_flatMap.mpr ⟨item, ?_, List.mem_map_of_mem hid⟩
    exact List.mem_filter.mpr ⟨Workspace.mem_sortedItems.mpr hitem, (Bool.not_eq_true' _).mpr hstage⟩

theorem anyPendingNotification_eq_ok {s : Workspace} {messageIds : List String}
    (hreads : ∀ messageId ∈ messageIds, ∃ message, s.readMessageById messageId = .ok message) :
    ∃ pending, s.anyPendingNotification messageIds = .ok pending ∧
      (pending = true ↔ ∃ messageId ∈ messageIds, ∃ item ∈ s.readItems,
        messageId ∈ item.messageIds ∧ item.displayKind = "message.notification" ∧
          item.localStageAtLeast .pendingCleared = false) := by
  induction messageIds with
  | nil => exact ⟨false, rfl, by simp⟩
  | cons messageId rest ih =>
    obtain ⟨⟨message, hread⟩, hrest⟩ := List.forall_mem_cons.mp hreads
    obtain ⟨pending, hpending, hany⟩ := ih hrest
    rw [Workspace.anyPendingNotification, hread]
    simp only [List.exists_mem_cons_iff, ← readMessageById_pending hread]
    by_cases hqueued : (message.pending.any (·.kind == "message.notification")) = true
    · exact ⟨true, if_pos hqueued, fun _ => .inl hqueued, fun _ => rfl⟩
    · refine ⟨pending, (if_neg hqueued).trans hpending, ?_⟩
      rw [hany]
      exact (or_iff_right hqueued).symm

theorem caseHasPendingArchiveWork_eq_ok (caseUid : String) {s : Workspace}
    (hreads : ∀ messageId ∈ case_.members, ∃ message, s.readMessageById messageId = .ok message) :
    ∃ pending, s.caseHasPendingArchiveWork caseUid case_.members.messageIds = .ok pending ∧
      (pending = true ↔ s.ArchiveWorkQueued caseUid case_) := by
  obtain ⟨pending, hpending, hany⟩ := anyPendingNotification_eq_ok hreads
  unfold Workspace.caseHasPendingArchiveWork
  split
  · rename_i hdraft
    obtain ⟨item, hitem, hof⟩ := List.any_eq_true.mp hdraft
    exact ⟨true, rfl, fun _ => ⟨item, hitem, .inl hof⟩, fun _ => rfl⟩
  · rename_i hdraft
    refine ⟨pending, hpending, ?_⟩
    rw [hany]
    constructor
    · rintro ⟨messageId, hmember, item, hitem, hqueued⟩
      exact ⟨item, hitem, .inr ⟨messageId, hmember, hqueued⟩⟩
    · rintro ⟨item, hitem, hof | ⟨messageId, hmember, hqueued⟩⟩
      · exact (hdraft (List.any_eq_true.mpr ⟨item, hitem, hof⟩)).elim
      · exact ⟨messageId, hmember, item, hitem, hqueued⟩

/-- The workspace that archiving a case comes to: the case lies in the archive, with a status
that tells whether work on it is left in the queue; for each of its messages that nothing else
refers to the queue holds one archive push if there is something to do, and nothing besides;
and everything else is as before. -/
structure Workspace.ArchivedFrom (w s : Workspace) (caseUid : String) (case_ : CaseRecord) :
    Prop where
  renamed : ∃ status : CaseStatus,
    s.cases = w.cases.insert caseUid { case_ with archivedDir := true, status } ∧
      (status = .archiving ∧ s.ArchiveWorkQueued caseUid case_ ∨
        (∃ archivedRfc3339, status = .archived archivedRfc3339) ∧
          ¬ s.ArchiveWorkQueued caseUid case_)
  queued : ∀ messageId ∈ case_.members, w.Unreferenced caseUid messageId →
    w.Notifies messageId → s.QueuedAfresh messageId
  single : ∀ messageId ∈ case_.members, w.Unreferenced caseUid messageId →
    ∀ item ∈ s.readItems, item.message.map (·.messageId) = some messageId →
      w.Notifies messageId ∧ item.pushId = messagePushId messageId ∧
        item.message.map (·.action) = some .notification
  kept : ∀ pushId, (∀ messageId ∈ case_.members, w.Unreferenced caseUid messageId →
    pushId ≠ messagePushId messageId) → s.pushItems[pushId]? = w.pushItems[pushId]?
  same : s = { w with cases := s.cases, pushItems := s.pushItems }

theorem Workspace.Archiving.archivedFrom {s : Workspace}
    (harchiving : w.Archiving s caseUid case_) (hfiled : w.Filed)
    (hsettled : ∀ messageId ∈ case_.members, w.Unreferenced caseUid messageId →
      ArchiveSettled w s messageId)
    (hrenamed : ∃ status : CaseStatus,
      s.cases = w.cases.insert caseUid { case_ with archivedDir := true, status } ∧
        (status = .archiving ∧ s.ArchiveWorkQueued caseUid case_ ∨
          (∃ archivedRfc3339, status = .archived archivedRfc3339) ∧
            ¬ s.ArchiveWorkQueued caseUid case_)) :
    w.ArchivedFrom s caseUid case_ where
  renamed := hrenamed
  queued messageId hmember hfree hnotifies := by
    rcases hsettled messageId hmember hfree with ⟨_, hqueued⟩ | ⟨hidle, _⟩
    · exact hqueued
    · exact (hidle hnotifies).elim
  single messageId hmember hfree item hitem hof := by
    obtain ⟨pushId, record, hget, rfl⟩ := mem_readItems.mp hitem
    obtain ⟨message, hmessage, hid⟩ := Option.map_eq_some_iff.mp hof
    have hkey := (harchiving.filed hfiled).of_message hget hmessage
    rw [hid] at hkey
    subst hkey
    rcases hsettled messageId hmember hfree with ⟨hnotifies, now, enqueueSeq, hqueued⟩ | ⟨_, hnone⟩
    · cases hqueued.symm.trans hget
      exact ⟨hnotifies, rfl, rfl⟩
    · cases hnone.symm.trans hget
  kept := harchiving.kept
  same := harchiving.same

theorem messagesRefreshed_ok (hviews : host.RendersArchiving w caseUid case_)
    (hcan : CanArchive host.toHost w caseUid case_) {s : Workspace}
    (harchiving : w.Archiving s caseUid case_) :
    messagesRefreshed host.toHost s case_.members.messageIds = .ok () := by
  apply Result.forM_eq_ok_iff.mpr
  intro messageId hmember
  obtain ⟨message, hread⟩ := hcan.reads messageId hmember
  obtain ⟨found, hfound, _⟩ := harchiving.readMessageById hread
  exact Result.bind_unit_eq_ok_iff.mpr ⟨hcan.valid messageId hmember,
    Result.bind_eq_ok_iff.mpr ⟨found, hfound, hviews.messages s harchiving messageId hmember⟩⟩

theorem caseRefreshed_ok {s : Workspace} {case_ : CaseRecord}
    (hviews : host.renderCaseViews s caseUid = .ok ())
    (hget : s.cases[caseUid]? = some case_)
    (hreads : ∀ messageId ∈ case_.members, ∃ message, s.readMessageById messageId = .ok message) :
    caseRefreshed host.toHost s caseUid = .ok () := by
  refine Result.bind_eq_ok_iff.mpr ⟨case_, Workspace.findCase_eq_ok_iff.mpr hget, ?_⟩
  refine Result.bind_unit_eq_ok_iff.mpr ⟨Result.forM_eq_ok_iff.mpr ?_, hviews⟩
  intro messageId hmember
  obtain ⟨message, hread⟩ := hreads messageId hmember
  exact Result.bind_eq_ok_iff.mpr ⟨message, hread, rfl⟩

/-- The status of a case in the archive; the time it was archived at first stays. -/
def archivedSince (now : String) : CaseStatus → CaseStatus
  | .archived archivedRfc3339 => .archived archivedRfc3339
  | _ => .archived now

theorem updateCaseArchiveState_eq (now : String) (case_ : CaseRecord) :
    updateCaseArchiveState now case_ = { case_ with status := archivedSince now case_.status } := by
  unfold updateCaseArchiveState archivedSince
  cases case_.status <;> rfl

theorem archivedSince_archived (now : String) (status : CaseStatus) :
    ∃ archivedRfc3339, archivedSince now status = .archived archivedRfc3339 := by
  cases status with
  | archived archivedRfc3339 => exact ⟨archivedRfc3339, rfl⟩
  | active => exact ⟨now, rfl⟩
  | archiving => exact ⟨now, rfl⟩

theorem archivedSince_isActive (now : String) (status : CaseStatus) :
    (archivedSince now status).isActive = false := by
  obtain ⟨_, hstatus⟩ := archivedSince_archived now status
  rw [hstatus]
  rfl

/-- Archiving is finished from wherever it stopped. -/
theorem wp_completeCaseArchiveWorkspace (hviews : host.RendersArchiving w caseUid case_)
    (hfiled : w.Filed)
    (hcan : CanArchive host.toHost w caseUid case_)
    (harchiving : w.Archiving m.workspace caseUid case_)
    {post : Bool → ProcessFact}
    {abort : AppError → ProcessFact}
    (hpost : ∀ s pending, w.Archiving s caseUid case_ → w.ArchivedFrom s caseUid case_ →
      post pending h { m with workspace := s }) :
    Program.wp (OnTheWay w caseUid case_) post abort
      (completeCaseArchiveWorkspace host caseUid case_.members.messageIds) h m := by
  have hreads : ∀ s, w.Archiving s caseUid case_ → ∀ messageId ∈ case_.members,
      ∃ message, s.readMessageById messageId = .ok message := by
    intro s hs messageId hmember
    obtain ⟨message, hread⟩ := hcan.reads messageId hmember
    obtain ⟨found, hfound, _⟩ := hs.readMessageById hread
    exact ⟨found, hfound⟩
  apply wp_then
  apply (computes_refreshMessagesAfterRefChange _).wp
  · intro _ _
    apply wp_then
    apply (computes_refreshCaseMessageViews caseUid).wp
    · intro _ _
      apply wp_then
      apply wp_queueArchiveForArchivedMessages hviews hfiled hcan harchiving
      intro s hqueued _ hsettled
      obtain ⟨pending, hpending, hwork⟩ := caseHasPendingArchiveWork_eq_ok caseUid
        (hreads s hqueued)
      apply wp_workspace_bind.mpr
      apply wp_then
      change Program.wp _ _ _ (Program.ofExcept (s.caseHasPendingArchiveWork _ _)) _ _
      rw [hpending]
      cases pending with
      | true =>
        obtain ⟨_, hcases⟩ := hqueued.cases_alterCase
          (fun case_ => { case_ with status := .archiving }) (fun _ => .archiving) (fun _ => rfl)
        have hnext := hqueued.alterCase (fun case_ => { case_ with status := .archiving })
          (fun _ => .archiving) (fun _ => rfl) (fun _ => rfl)
        exact ⟨hnext, hpost _ true hnext (hnext.archivedFrom hfiled hsettled
          ⟨_, hcases, .inl ⟨rfl, hwork.mp rfl⟩⟩)⟩
      | false =>
        obtain ⟨found, hcases⟩ := hqueued.cases_alterCase _ _
          (updateCaseArchiveState_eq host.now)
        have hnext := hqueued.alterCase _ _ (updateCaseArchiveState_eq host.now)
          (archivedSince_isActive host.now)
        have hidle : ¬ s.ArchiveWorkQueued caseUid case_ := fun h => nomatch hwork.mpr h
        exact ⟨hnext, hpost _ false hnext (hnext.archivedFrom hfiled hsettled
          ⟨_, hcases, .inr ⟨archivedSince_archived host.now found, hidle⟩⟩)⟩
    · intro error herror
      obtain ⟨status, _, hcases⟩ := harchiving.renamed
      have hget : m.workspace.cases[caseUid]? = some { case_ with archivedDir := true, status } := by
        rw [hcases, Std.ExtTreeMap.getElem?_insert_self]
      rw [caseRefreshed_ok (hviews.cases _ harchiving) hget (hreads m.workspace harchiving)] at herror
      cases herror
  · intro error herror
    rw [messagesRefreshed_ok hviews hcan harchiving] at herror
    cases herror

end Completing
end AgentFirstMail
