import AgentFirstMail.PushQueue.Sessions

namespace AgentFirstMail
open Effect Command
variable {context : PushExecutionContext} {start : PushPosition} {remaining : List PushItem}
  {planned : PlannedItems} {steps steps' : Option (List ActionStep)} {attempt attempt' : Attempt}
  {h h' : List RemoteEvent} {m m' : Process} {w : Workspace}

abbrev pushIds (items : List PushItem) : List String := items.map (·.pushId)

section Frame

/-- The effects that were asked for belong to some items. -/
def AskedFor (h : List RemoteEvent) (owners : List String) : Prop :=
  ∀ event ∈ h, ∀ site, event.request.site? = some site → site.pushId ∈ owners

theorem AskedFor.mono {owners more : List String} (hasked : AskedFor h owners)
    (hsub : owners ⊆ more) : AskedFor h more :=
  fun event hmem site hsite => hsub (hasked event hmem site hsite)

theorem AskedFor.append {owners : List String} {event : RemoteEvent} (hasked : AskedFor h owners)
    (hevent : ∀ site, event.request.site? = some site → site.pushId ∈ owners) :
    AskedFor (h ++ [event]) owners := by
  intro other hmem
  rcases List.mem_append.mp hmem with hold | hnew
  · exact hasked other hold
  · rw [List.mem_singleton.mp hnew]
    exact hevent

/-- What work on an item leaves alone: its id, the records of the other items, and the effects
that only other items may ask for. -/
structure ItemFrame (h : List RemoteEvent) (m : Process) (h' : List RemoteEvent) (m' : Process) :
    Prop where
  pushId : m'.item.pushId = m.item.pushId
  others : ∀ pushId : String, pushId ≠ m.item.pushId →
    m'.workspace.pushItems[pushId]? = m.workspace.pushItems[pushId]?
  asked : ∀ owners, m.item.pushId ∈ owners → AskedFor h owners → AskedFor h' owners

namespace ItemFrame

theorem quiet (hitem : m'.item.pushId = m.item.pushId)
    (hpush : m'.workspace.pushItems = m.workspace.pushItems) : ItemFrame h m h m' where
  pushId := hitem
  others pushId _ := by rw [hpush]
  asked _ _ hasked := hasked

theorem save {change : PushItem → PushItem} (hitem : (change m.item).pushId = m.item.pushId) :
    ItemFrame h m h (m.save change) where
  pushId := hitem
  others pushId hne := by
    have hother : (change m.item).pushId ≠ pushId := by
      rw [hitem]
      exact hne.symm
    change (m.workspace.pushItems.insert (change m.item).pushId _)[pushId]? = _
    rw [Std.ExtTreeMap.getElem?_insert, if_neg]
    rw [Std.LawfulEqCmp.compare_eq_iff_eq]
    exact hother
  asked _ _ hasked := hasked

theorem delete : ItemFrame h m h (m.onWorkspace (·.deleteItem m.item.pushId)) where
  pushId := rfl
  others pushId hne := by
    change (m.workspace.pushItems.erase m.item.pushId)[pushId]? = _
    rw [Std.ExtTreeMap.getElem?_erase, if_neg]
    rw [Std.LawfulEqCmp.compare_eq_iff_eq]
    exact hne.symm
  asked _ _ hasked := hasked

theorem request {event : RemoteEvent}
    (hsite : ∀ site, event.request.site? = some site → site.pushId = m.item.pushId) :
    ItemFrame h m (h ++ [event]) m where
  pushId := rfl
  others _ _ := rfl
  asked owners howner hasked := by
    apply hasked.append
    intro site heq
    rw [hsite site heq]
    exact howner

end ItemFrame

/-- Every transition of an item stays within its frame. -/
theorem ItemTransition.frame
    (ht : ItemTransition context steps attempt h m steps' attempt' h' m') :
    ItemFrame h m h' m' := by
  cases ht with
  | ask event hnone =>
    apply ItemFrame.request
    intro site hsite
    cases hnone.symm.trans hsite
  | setFlags index step place reply =>
    apply ItemFrame.request
    intro site heq
    cases heq
  | call index step unit event hstate hsite =>
    apply ItemFrame.request
    intro site heq
    cases hsite.symm.trans heq
    rfl
  | move index step mailboxId source target rfc822MessageId reply =>
    apply ItemFrame.request
    intro site heq
    cases heq
    rfl
  | name eventId =>
    apply ItemFrame.request
    intro site heq
    cases heq
  | begin | resetLegacy => exact .save PushItem.freeze_pushId
  | arm | succeed | fail | failUnknown | settle | advance | keepAudit | bookkeep => exact .save rfl
  | delete => exact .delete
  | cache | resolve | receipt | assignAudit => exact .quiet rfl rfl
  | relocate | flags | recoverRelocate | writeEvidence | writeMetadata | appendToCase
  | removeDraft | removeDraftState | report | reportSuccess | newline | archiveCase =>
    exact .quiet rfl rfl

end Frame

section Queue

theorem Process.not_mem_of_record? (hgone : m.record? = none) :
    m.item.pushId ∉ m.workspace.pushItems := by
  intro hmem
  rw [Std.ExtTreeMap.mem_iff_isSome_getElem?] at hmem
  change m.record?.isSome = true at hmem
  rw [hgone] at hmem
  cases hmem

namespace Workspace

/-- The records of some items are as they were planned. -/
def Keeps (w : Workspace) (items : List PushItem) : Prop :=
  ∀ item ∈ items, w.pushItems[item.pushId]? = some item.stored

/-- The queue has no other records than those under some ids. -/
def QueuedWithin (w : Workspace) (ids : List String) : Prop :=
  ∀ pushId : String, pushId ∈ w.pushItems → pushId ∈ ids

theorem mem_writeItem {item : PushItem} {pushId : String} :
    pushId ∈ (w.writeItem item).pushItems ↔ pushId = item.pushId ∨ pushId ∈ w.pushItems := by
  change pushId ∈ w.pushItems.insert item.pushId _ ↔ _
  rw [Std.ExtTreeMap.mem_insert, Std.LawfulEqCmp.compare_eq_iff_eq, eq_comm]

theorem mem_deleteItem {other pushId : String} :
    pushId ∈ (w.deleteItem other).pushItems ↔ pushId ≠ other ∧ pushId ∈ w.pushItems := by
  change pushId ∈ w.pushItems.erase other ↔ _
  rw [Std.ExtTreeMap.mem_erase, Ne, Std.LawfulEqCmp.compare_eq_iff_eq, eq_comm, Ne]

theorem Keeps.writeItem {items : List PushItem} {item : PushItem} (hkeeps : w.Keeps items)
    (hnew : item.pushId ∉ pushIds items) : (w.writeItem item).Keeps (items ++ [item]) := by
  intro other hmem
  rcases List.mem_append.mp hmem with hold | hlast
  · have hne : item.pushId ≠ other.pushId := by
      intro heq
      apply hnew
      rw [heq]
      exact List.mem_map_of_mem hold
    change (w.pushItems.insert item.pushId _)[other.pushId]? = _
    rw [Std.ExtTreeMap.getElem?_insert, if_neg]
    · exact hkeeps other hold
    · rw [Std.LawfulEqCmp.compare_eq_iff_eq]
      exact hne
  · rw [List.mem_singleton.mp hlast]
    exact writeItem_get w item

theorem Keeps.deleteItem {items : List PushItem} {pushId : String} (hkeeps : w.Keeps items)
    (hother : pushId ∉ pushIds items) : (w.deleteItem pushId).Keeps items := by
  intro item hmem
  have hne : pushId ≠ item.pushId := by
    intro heq
    apply hother
    rw [heq]
    exact List.mem_map_of_mem hmem
  change (w.pushItems.erase pushId)[item.pushId]? = _
  rw [Std.ExtTreeMap.getElem?_erase, if_neg]
  · exact hkeeps item hmem
  · rw [Std.LawfulEqCmp.compare_eq_iff_eq]
    exact hne

theorem Keeps.frame {items : List PushItem} (hkeeps : m.workspace.Keeps items)
    (hother : m.item.pushId ∉ pushIds items) (hframe : ItemFrame h m h' m') :
    m'.workspace.Keeps items := by
  intro item hmem
  rw [hframe.others item.pushId]
  · exact hkeeps item hmem
  · intro heq
    apply hother
    rw [← heq]
    exact List.mem_map_of_mem hmem

theorem QueuedWithin.frame {ids : List String} (hwithin : m.workspace.QueuedWithin ids)
    (hin : m.item.pushId ∈ ids) (hframe : ItemFrame h m h' m') :
    m'.workspace.QueuedWithin ids := by
  intro pushId hmem
  by_cases heq : pushId = m.item.pushId
  · rw [heq]
    exact hin
  · apply hwithin
    rw [Std.ExtTreeMap.mem_iff_isSome_getElem?] at hmem ⊢
    rw [← hframe.others pushId heq]
    exact hmem

end Workspace

/-- Where a push stands: the items that are left are in the queue as they were planned, and
besides them only the one it works on and those that are still to be removed. -/
def PushPhase.Stands (w : Workspace) (planned : PlannedItems) (h : List RemoteEvent)
    (m : Process) : PushPhase → Prop
  | idle => h = [] ∧ m = .start w
  | reconciling items writes deletes => h = [] ∧ items = planned.items ∧ ∃ written removed,
      items = written ++ writes ∧ planned.skipped = removed ++ deletes ∧
        m.workspace.Keeps written ∧ m.workspace.QueuedWithin (pushIds (items ++ deletes))
  | between remaining => ∃ done, planned.items = done ++ remaining ∧
      m.workspace.Keeps remaining ∧ m.workspace.QueuedWithin (pushIds remaining) ∧
        AskedFor h (pushIds done)
  | serving _ _ remaining => ∃ done item, planned.items = done ++ item :: remaining ∧
      m.item.pushId = item.pushId ∧ m.workspace.Keeps remaining ∧
        m.workspace.QueuedWithin (pushIds (item :: remaining)) ∧
          AskedFor h (pushIds (done ++ [item]))

/-- The plan of a workspace, with one item for each queue record at most. -/
structure PlannedItems.Exact (planned : PlannedItems) (context : PushExecutionContext)
    (w : Workspace) : Prop where
  resolved : resolvePlannedItems context w = .ok planned
  distinct : (pushIds (planned.items ++ planned.skipped)).Nodup
  within : w.QueuedWithin (pushIds (planned.items ++ planned.skipped))

namespace PlannedItems.Exact
variable {done : List PushItem} {item : PushItem}

theorem split (hexact : planned.Exact context w) (hitems : planned.items = done ++ item :: rest) :
    item.pushId ∉ pushIds done ∧ item.pushId ∉ pushIds rest ∧
      item.pushId ∉ pushIds planned.skipped := by
  have hdistinct := hexact.distinct
  rw [hitems, pushIds, List.append_assoc, List.cons_append, List.map_append, List.map_cons,
    List.nodup_middle, List.nodup_cons, ← List.map_append, List.map_append,
    List.map_append] at hdistinct
  simp only [List.mem_append, not_or] at hdistinct
  exact ⟨hdistinct.1.1, hdistinct.1.2.1, hdistinct.1.2.2⟩

theorem step (hexact : planned.Exact context w) {position next : PushPosition}
    (hstands : position.phase.Stands w planned position.history position.state)
    (ht : PushTransition context position next) :
    next.phase.Stands w planned next.history next.state := by
  cases ht with
  | plan resolved _ _ hresolved =>
    obtain ⟨hstart, rfl⟩ := hstands
    cases hexact.resolved.symm.trans hresolved
    exact ⟨hstart, rfl, [], [], rfl, rfl, fun _ hmem => (List.not_mem_nil hmem).elim,
      hexact.within⟩
  | reconcileWrite item writes =>
    obtain ⟨hstart, rfl, written, removed, hwrites, hdeletes, hkeeps, hwithin⟩ := hstands
    refine ⟨hstart, rfl, written ++ [item], removed, ?_, hdeletes, ?_, ?_⟩
    · rw [List.append_assoc, List.singleton_append]
      exact hwrites
    · exact hkeeps.writeItem (hexact.split hwrites).1
    · intro pushId hmem
      rcases Workspace.mem_writeItem.mp hmem with heq | hold
      · rw [heq, hwrites]
        simp
      · exact hwithin pushId hold
  | reconcileDelete item deletes =>
    obtain ⟨hstart, rfl, written, removed, hwrites, hdeletes, hkeeps, hwithin⟩ := hstands
    rw [List.append_nil] at hwrites
    refine ⟨hstart, rfl, written, removed ++ [item], ?_, ?_, ?_, ?_⟩
    · rw [List.append_nil]
      exact hwrites
    · rw [List.append_assoc, List.singleton_append]
      exact hdeletes
    · apply hkeeps.deleteItem
      have hdistinct := hexact.distinct
      rw [hdeletes, hwrites, pushIds, List.map_append, List.nodup_append'] at hdistinct
      apply List.disjoint_right.mp hdistinct.2.2
      simp
    · intro pushId hmem
      obtain ⟨hne, hold⟩ := Workspace.mem_deleteItem.mp hmem
      have hin := hwithin pushId hold
      simp only [pushIds, List.map_append, List.map_cons, List.mem_append, List.mem_cons] at hin ⊢
      rcases hin with hitem | heq | hlater
      · exact .inl hitem
      · exact (hne heq).elim
      · exact .inr hlater
  | reconciled =>
    obtain ⟨hstart, rfl, written, removed, hwrites, _, hkeeps, hwithin⟩ := hstands
    rw [List.append_nil] at hwrites hwithin
    rw [← hwrites] at hkeeps
    refine ⟨[], rfl, hkeeps, hwithin, ?_⟩
    rw [hstart]
    intro event hmem
    cases hmem
  | pick item remaining =>
    obtain ⟨done, hitems, hkeeps, hwithin, hasked⟩ := hstands
    refine ⟨done, item, hitems, rfl, ?_, hwithin, ?_⟩
    · exact fun other hmem => hkeeps other (List.mem_cons_of_mem _ hmem)
    · apply hasked.mono
      simp
  | serve ht =>
    obtain ⟨done, item, hitems, hid, hkeeps, hwithin, hasked⟩ := hstands
    have hframe := ht.frame
    refine ⟨done, item, hitems, hframe.pushId.trans hid, ?_, ?_, ?_⟩
    · apply hkeeps.frame _ hframe
      rw [hid]
      exact (hexact.split hitems).2.1
    · apply hwithin.frame _ hframe
      rw [hid]
      simp
    · apply hframe.asked _ _ hasked
      rw [hid]
      simp
  | finish change hgone =>
    obtain ⟨done, item, hitems, hid, hkeeps, hwithin, hasked⟩ := hstands
    refine ⟨done ++ [item], ?_, hkeeps, ?_, hasked⟩
    · rw [List.append_assoc, List.singleton_append]
      exact hitems
    · intro pushId hmem
      rcases List.mem_cons.mp (hwithin pushId hmem) with heq | hrest
      · have heq : pushId = item.pushId := heq
        rw [heq, ← hid] at hmem
        exact (Process.not_mem_of_record? hgone hmem).elim
      · exact hrest

end PlannedItems.Exact

/-- Planning sorts the queue into the items it runs and those it drops. -/
theorem planItems_perm {items : List PushItem} (hconfig : context.config.validate = .ok ())
    (hitems : ∀ item ∈ items, PushItem.Consistent item ∧ item.stored = item)
    (hplan : planItems context w items = .ok planned) :
    (pushIds (planned.items ++ planned.skipped)).Perm (pushIds items) := by
  induction items generalizing planned with
  | nil =>
    cases hplan
    exact .refl _
  | cons item rest ih =>
    obtain ⟨found, hfound, hplan⟩ := Result.bind_ok hplan
    obtain ⟨others, hothers, hplan⟩ := Result.bind_ok hplan
    have hrest := ih (fun item hmem => hitems item (List.mem_cons_of_mem _ hmem)) hothers
    obtain ⟨hconsistent, hstored⟩ := hitems item List.mem_cons_self
    cases found with
    | some found =>
      cases hplan
      have hid := (planItem_planned hconfig hconsistent hstored hfound).resumes.pushId
      have hfirst := hrest.cons found.pushId
      rw [pushIds, pushIds, List.map_cons, ← hid]
      exact hfirst
    | none =>
      cases hplan
      have hfirst := hrest.cons item.pushId
      rw [pushIds, List.map_append, List.map_cons]
      apply List.perm_middle.trans
      rw [← List.map_append]
      exact hfirst

theorem Workspace.pushIds_sortedItems (hqueue : w.QueueConsistent) :
    (pushIds w.sortedItems).Perm w.pushItems.keys := by
  have hids : pushIds w.readItems = w.pushItems.keys := by
    rw [pushIds, readItems, List.map_map, ← Std.ExtTreeMap.map_fst_toList_eq_keys]
    apply List.map_congr_left
    intro entry hmem
    have hget := Std.ExtTreeMap.mem_toList_iff_getElem?_eq_some.mp hmem
    exact (hqueue entry.1 entry.2 hget).pushId
  rw [← hids]
  exact (List.perm_insertionSort _ _).map _

theorem resolvePlannedItems_exact (hconfig : context.config.validate = .ok ())
    (hqueue : w.QueueConsistent) (hresolved : resolvePlannedItems context w = .ok planned) :
    planned.Exact context w := by
  obtain ⟨found, hfound, hsorted⟩ := Result.bind_ok hresolved
  cases hsorted
  have hitems : ∀ item ∈ w.sortedItems, item.Consistent ∧ item.stored = item := by
    intro item hmem
    obtain ⟨pushId, record, hget, rfl⟩ :=
      Workspace.mem_readItems.mp (Workspace.mem_sortedItems.mp hmem)
    exact ⟨(hqueue pushId record hget).consistent.stored, rfl⟩
  have hperm : (pushIds (orderItemsForDependencies found.items ++ found.skipped)).Perm
      w.pushItems.keys := by
    have hordered := (orderItemsForDependencies_perm found.items).append_right found.skipped
    exact (hordered.map _).trans
      ((planItems_perm hconfig hitems hfound).trans (w.pushIds_sortedItems hqueue))
  refine ⟨hresolved, ?_, ?_⟩
  · exact hperm.nodup_iff.mpr Std.ExtTreeMap.nodup_keys
  · intro pushId hmem
    exact hperm.mem_iff.mpr (Std.ExtTreeMap.mem_keys.mpr hmem)

end Queue

section Account

/-- A push stops after the first item that failed or is still to be audited, and only there. -/
inductive PushStop : List PushSuccess → List PushFailure → List PushItem → Prop
  | finished : (∀ success ∈ pushed, success.auditPending = false) → PushStop pushed [] []
  | failed (failure : PushFailure) :
      (∀ success ∈ pushed, success.auditPending = false) →
      PushStop pushed [failure] unattempted
  | auditPending (success : PushSuccess) :
      (∀ earlier ∈ pushed, earlier.auditPending = false) → success.auditPending = true →
      PushStop (pushed ++ [success]) [] unattempted

theorem PushStop.cons {pushed : List PushSuccess} {failed : List PushFailure}
    {unattempted : List PushItem} {success : PushSuccess} (hstop : PushStop pushed failed unattempted)
    (haudited : success.auditPending = false) : PushStop (success :: pushed) failed unattempted := by
  cases hstop with
  | finished hall => exact .finished (List.forall_mem_cons.mpr ⟨haudited, hall⟩)
  | failed failure hall => exact .failed failure (List.forall_mem_cons.mpr ⟨haudited, hall⟩)
  | @auditPending pushed _ last hall hpending =>
    have hearlier : ∀ earlier ∈ success :: pushed, earlier.auditPending = false :=
      List.forall_mem_cons.mpr ⟨haudited, hall⟩
    exact .auditPending last hearlier hpending

/-- What a push over some items has added to its report, and the queue it leaves. -/
structure LoopAccount (items : List PushItem) (summary summary' : PushSummary)
    (pushed : List PushSuccess) (failed : List PushFailure) (unattempted : List PushItem)
    (w : Workspace) : Prop where
  succeededItems : summary'.succeededItems = summary.succeededItems ++ pushed
  failures : summary'.failures = summary.failures ++ failed
  partition : pushIds items = pushed.map (·.pushId) ++ failed.map (·.pushId) ++ pushIds unattempted
  suffix : unattempted <:+ items
  pushedCount : summary'.pushedCount = summary.pushedCount + pushed.length
  failedCount : summary'.failedCount = summary.failedCount + failed.length
  auditPendingCount : summary'.auditPendingCount =
    summary.auditPendingCount + (pushed.filter (·.auditPending)).length
  unattemptedCount : summary'.unattemptedCount = unattempted.length
  stop : PushStop pushed failed unattempted
  stopped : summary'.stoppedAfterFailure = true ↔
    failed ≠ [] ∨ ∃ success ∈ pushed, success.auditPending = true
  untouched : w.Keeps unattempted
  queue : ∀ pushId : String, pushId ∈ w.pushItems ↔
    pushId ∈ pushIds unattempted ∨ pushId ∈ failed.map (·.pushId) ∨
      ∃ success ∈ pushed, success.auditPending = true ∧ success.pushId = pushId

theorem PushPhase.Stands.serving {done rest : List PushItem} {item : PushItem}
    (hstands : (PushPhase.serving steps attempt rest).Stands w planned h m)
    (hitems : planned.items = done ++ item :: rest) :
    m.item.pushId = item.pushId ∧ m.workspace.Keeps rest ∧
      m.workspace.QueuedWithin (pushIds (item :: rest)) ∧ AskedFor h (pushIds (done ++ [item])) := by
  obtain ⟨done', item', hitems', hid, hkeeps, hwithin, hasked⟩ := hstands
  have hsplit : (done' ++ [item']) ++ rest = (done ++ [item]) ++ rest := by
    rw [List.append_assoc, List.append_assoc, List.singleton_append, List.singleton_append,
      ← hitems, ← hitems']
  have hsame := List.append_cancel_right hsplit
  obtain ⟨rfl, hlast⟩ := List.append_inj' hsame rfl
  cases hlast
  exact ⟨hid, hkeeps, hwithin, hasked⟩

theorem Kept.queue {rest : List PushItem} {item : PushItem}
    (hkept : Kept context start rest h m) (hid : m.item.pushId = item.pushId)
    (hkeeps : m.workspace.Keeps rest) (hwithin : m.workspace.QueuedWithin (pushIds (item :: rest)))
    (pushId : String) :
    pushId ∈ m.workspace.pushItems ↔ pushId ∈ pushIds rest ∨ pushId = m.item.pushId := by
  constructor
  · intro hmem
    rcases List.mem_cons.mp (hwithin pushId hmem) with heq | hrest
    · exact .inr (heq.trans hid.symm)
    · exact .inl hrest
  · intro hcases
    rw [Std.ExtTreeMap.mem_iff_isSome_getElem?]
    rcases hcases with hrest | rfl
    · obtain ⟨other, hmem, rfl⟩ := List.mem_map.mp hrest
      rw [hkeeps other hmem]
      rfl
    · exact hkept.record

namespace LoopAccount
variable {summary summary' : PushSummary} {item item' : PushItem} {rest : List PushItem}

theorem nil (hunattempted : summary.unattemptedCount = 0)
    (hgoing : summary.stoppedAfterFailure = false) (hwithin : w.QueuedWithin []) :
    LoopAccount [] summary summary [] [] [] w := by
  constructor
  case suffix => exact List.suffix_refl []
  case stop => exact .finished fun _ hmem => (List.not_mem_nil hmem).elim
  case untouched => exact fun _ hmem => (List.not_mem_nil hmem).elim
  case queue =>
    intro pushId
    constructor
    · intro hmem
      exact .inl (hwithin pushId hmem)
    · intro hcases
      simp at hcases
  all_goals simp [hunattempted, hgoing]

/-- The push stops at an item that is still to be audited. -/
theorem stop_auditPending (hid : item'.pushId = item.pushId) (hpending : item'.auditPending.isSome)
    (hkeeps : w.Keeps rest)
    (hqueue : ∀ pushId, pushId ∈ w.pushItems ↔ pushId ∈ pushIds rest ∨ pushId = item'.pushId) :
    LoopAccount (item :: rest) summary
      { (summary.addPushed item').addAuditPending with unattemptedCount := rest.length }
      [pushSuccessValue item'] [] rest w := by
  constructor
  case suffix => exact List.suffix_cons item rest
  case stop =>
    have hstop : PushStop ([] ++ [pushSuccessValue item']) [] rest :=
      .auditPending _ (fun _ hmem => (List.not_mem_nil hmem).elim) hpending
    exact hstop
  case untouched => exact hkeeps
  case queue =>
    intro pushId
    rw [hqueue]
    simp only [List.map_nil, List.not_mem_nil, false_or, List.mem_singleton, exists_eq_left,
      pushSuccessValue, hpending, true_and]
    exact or_congr_right eq_comm
  all_goals simp [PushSummary.addPushed, PushSummary.addAuditPending, pushSuccessValue, hpending, hid]

/-- The push stops at an item that failed. -/
theorem stop_failed {error : AppError} (hid : item'.pushId = item.pushId) (hkeeps : w.Keeps rest)
    (hqueue : ∀ pushId, pushId ∈ w.pushItems ↔ pushId ∈ pushIds rest ∨ pushId = item.pushId) :
    LoopAccount (item :: rest) summary
      { summary.addFailed item' error with unattemptedCount := rest.length }
      [] [pushFailureValue item' error (partiallyApplied item')] rest w := by
  constructor
  case suffix => exact List.suffix_cons item rest
  case stop => exact .failed _ fun _ hmem => (List.not_mem_nil hmem).elim
  case untouched => exact hkeeps
  case queue =>
    intro pushId
    rw [hqueue]
    simp [pushFailureValue, hid]
  all_goals simp [PushSummary.addFailed, pushFailureValue, hid]

/-- What the push does with the rest is added to an item that it finished. -/
theorem cons {pushed : List PushSuccess} {failed : List PushFailure} {unattempted : List PushItem}
    (haccount : LoopAccount rest (summary.addPushed item') summary' pushed failed unattempted w)
    (hid : item'.pushId = item.pushId) (haudited : (pushSuccessValue item').auditPending = false) :
    LoopAccount (item :: rest) summary summary' (pushSuccessValue item' :: pushed) failed
      unattempted w := by
  constructor
  case succeededItems =>
    rw [haccount.succeededItems, PushSummary.addPushed, List.append_assoc]
    rfl
  case failures => exact haccount.failures
  case partition =>
    rw [pushIds, List.map_cons, ← pushIds, haccount.partition]
    simp [pushSuccessValue, hid]
  case suffix => exact haccount.suffix.trans (List.suffix_cons item rest)
  case pushedCount =>
    have hcount := haccount.pushedCount
    change _ = summary.pushedCount + 1 + pushed.length at hcount
    rw [hcount, List.length_cons, Nat.add_assoc, Nat.add_comm 1]
  case failedCount => exact haccount.failedCount
  case auditPendingCount =>
    rw [haccount.auditPendingCount, List.filter_cons_of_neg (by simp [haudited])]
    rfl
  case unattemptedCount => exact haccount.unattemptedCount
  case stop => exact haccount.stop.cons haudited
  case stopped =>
    rw [haccount.stopped]
    simp [haudited]
  case untouched => exact haccount.untouched
  case queue =>
    intro pushId
    rw [haccount.queue]
    simp [haudited]

end LoopAccount

/-- A push accounts for every item it was given. -/
theorem PushEnding.account {done items : List PushItem} {summary summary' : PushSummary}
    (hstands : ∀ phase h m, At context start phase h m → phase.Stands w planned h m)
    (hended : PushEnding context start summary items h₁ m₁ summary' h m)
    (hitems : planned.items = done ++ items) (hunattempted : summary.unattemptedCount = 0)
    (hgoing : summary.stoppedAfterFailure = false) :
    ∃ pushed failed unattempted,
      LoopAccount items summary summary' pushed failed unattempted m.workspace ∧
      AskedFor h (pushIds done ++ pushed.map (·.pushId) ++ failed.map (·.pushId)) := by
  induction hended generalizing done with
  | finished hat =>
    obtain ⟨done', hdone, _, hwithin, hasked⟩ := hstands _ _ _ hat
    have hsame : done' = done := List.append_cancel_right (hdone.symm.trans hitems)
    rw [hsame] at hasked
    exact ⟨[], [], [], .nil hunattempted hgoing hwithin, by simpa using hasked⟩
  | @stopped rest summary summary' h m item _ _ hended =>
    cases hended with
    | auditPending hkept hpending =>
      obtain ⟨steps, hat⟩ := hkept.at_
      obtain ⟨hid, hkeeps, hwithin, hasked⟩ := (hstands _ _ _ hat).serving hitems
      refine ⟨[pushSuccessValue m.item], [], rest,
        .stop_auditPending hid hpending hkeeps (hkept.queue hid hkeeps hwithin), ?_⟩
      simpa [pushSuccessValue, hid] using hasked
    | failed failing error hkept hfailing =>
      obtain ⟨steps, hat⟩ := hkept.at_
      obtain ⟨hid, hkeeps, hwithin, hasked⟩ := (hstands _ _ _ hat).serving hitems
      have hfailed : failing.pushId = item.pushId := hfailing.symm.trans hid
      have hqueue := hkept.queue hid hkeeps hwithin
      rw [hid] at hqueue
      refine ⟨[], [pushFailureValue failing error (partiallyApplied failing)], rest,
        .stop_failed hfailed hkeeps hqueue, ?_⟩
      simpa [pushFailureValue, hfailed] using hasked
  | @next rest summary summary' h m summary'' h' m' item _ _ hended hrest ih =>
    cases hended with
    | pushed hfinished =>
      obtain ⟨steps, served, hserved, hsame⟩ := hfinished.served
      obtain ⟨hid, _⟩ := (hstands _ _ _ hserved).serving hitems
      have hpushed : m.item.pushId = item.pushId := hsame.symm.trans hid
      have haudited : (pushSuccessValue m.item).auditPending = false := by
        rw [pushSuccessValue, hfinished.audited]
        rfl
      have hitems' : planned.items = (done ++ [item]) ++ rest := by
        rw [List.append_assoc, List.singleton_append]
        exact hitems
      have hgoing' : (summary.addPushed m.item).stoppedAfterFailure = false := by
        rw [PushSummary.addPushed, hfinished.audited]
        rfl
      obtain ⟨pushed, failed, unattempted, haccount, hasked⟩ := ih hitems' hunattempted hgoing'
      refine ⟨pushSuccessValue m.item :: pushed, failed, unattempted, haccount.cons hpushed haudited, ?_⟩
      simpa [pushSuccessValue, hpushed] using hasked

/-- The planned items that a push did not come to. -/
def PushSummary.unattempted (summary : PushSummary) (plan : List PushItem) : List PushItem :=
  plan.drop (summary.pushedCount + summary.failedCount)

/-- A report of a push over a plan, with the queue that the push leaves. -/
structure PushAccount (plan : List PushItem) (summary : PushSummary) (events : List RemoteEvent)
    (w : Workspace) : Prop where
  distinct : (pushIds plan).Nodup
  partition : pushIds plan = summary.succeededItems.map (·.pushId) ++
    summary.failures.map (·.pushId) ++ pushIds (summary.unattempted plan)
  pushedCount : summary.pushedCount = summary.succeededItems.length
  failedCount : summary.failedCount = summary.failures.length
  auditPendingCount :
    summary.auditPendingCount = (summary.succeededItems.filter (·.auditPending)).length
  unattemptedCount : summary.unattemptedCount = (summary.unattempted plan).length
  stop : PushStop summary.succeededItems summary.failures (summary.unattempted plan)
  stopped : summary.stoppedAfterFailure = true ↔
    summary.failures ≠ [] ∨ ∃ success ∈ summary.succeededItems, success.auditPending = true
  untouched : w.Keeps (summary.unattempted plan)
  asked : AskedFor events
    (summary.succeededItems.map (·.pushId) ++ summary.failures.map (·.pushId))
  queue : ∀ pushId : String, pushId ∈ w.pushItems ↔
    pushId ∈ pushIds (summary.unattempted plan) ∨ pushId ∈ summary.failures.map (·.pushId) ∨
      ∃ success ∈ summary.succeededItems, success.auditPending = true ∧ success.pushId = pushId

theorem LoopAccount.unattempted_eq {plan unattempted : List PushItem} {summary : PushSummary}
    {removed : List String}
    (haccount : LoopAccount plan { reconciledRemovedPushIds := removed } summary
      pushed failed unattempted w) : summary.unattempted plan = unattempted := by
  obtain ⟨before, rfl⟩ := haccount.suffix
  have hlength := congrArg List.length haccount.partition
  have hpushed := haccount.pushedCount
  have hfailed := haccount.failedCount
  have hbefore : before.length = summary.pushedCount + summary.failedCount := by
    simp only [pushIds, List.length_map, List.length_append] at hlength
    change _ = 0 + _ at hpushed hfailed
    omega
  rw [PushSummary.unattempted, ← hbefore, List.drop_left]

theorem PlannedItems.Exact.stands (hexact : planned.Exact context w)
    (hat : At context ⟨.idle, [], .start w⟩ phase h m) : phase.Stands w planned h m := by
  have hstart : PushPhase.idle.Stands w planned [] (.start w) := ⟨rfl, rfl⟩
  exact hat.invariant hstart fun _ _ hposition ht => hexact.step hposition ht

theorem PushEnds.account {host : Host} (hqueue : w.QueueConsistent)
    (hends : PushEnds host w confirmed ⟨.idle, [], .start w⟩ summary h m) :
    ∃ plan, resolvePushPlan ⟨host, w.config⟩ w = .ok plan ∧ plan.planId = confirmed ∧
      PushAccount plan.items summary h m.workspace := by
  obtain ⟨plan, hplan, hconfirmed, hvalid, _, _, _, hended⟩ := hends
  obtain ⟨planned, hplanned, hitems, hskipped⟩ := resolvePushPlan_planned hplan
  have hexact := resolvePlannedItems_exact hvalid hqueue hplanned
  obtain ⟨pushed, failed, unattempted, haccount, hasked⟩ :=
    hended.account (fun _ _ _ => hexact.stands) (hitems.symm.trans (List.nil_append _).symm) rfl rfl
  have hleft := haccount.unattempted_eq
  have hpushed : summary.succeededItems = pushed := haccount.succeededItems
  have hfailed : summary.failures = failed := haccount.failures
  subst hpushed hfailed hleft
  refine ⟨plan, hplan, hconfirmed, ?_⟩
  constructor
  case distinct =>
    have hdistinct := hexact.distinct
    rw [pushIds, List.map_append, ← hitems] at hdistinct
    exact hdistinct.of_append_left
  case partition => exact haccount.partition
  case pushedCount => exact haccount.pushedCount.trans (Nat.zero_add _)
  case failedCount => exact haccount.failedCount.trans (Nat.zero_add _)
  case auditPendingCount => exact haccount.auditPendingCount.trans (Nat.zero_add _)
  case unattemptedCount => exact haccount.unattemptedCount
  case stop => exact haccount.stop
  case stopped => exact haccount.stopped
  case untouched => exact haccount.untouched
  case asked => exact hasked
  case queue => exact haccount.queue

/-- A confirmed push that returns accounts for each item of its plan exactly once. -/
theorem pushConfirmed_account {host : Host} {w₀ : Workspace} (hempty : w₀.pushItems = ∅)
    (hrun : Run QueueSession w₀ history w)
    (hexec : Exec (pushConfirmed host confirmed) (.start w) events (.returned summary) process) :
    ∃ plan, resolvePushPlan ⟨host, w.config⟩ w = .ok plan ∧ plan.planId = confirmed ∧
      PushAccount plan.items summary events process.workspace := by
  have hqueue := queueConsistent_of_run (queueConsistent_of_empty hempty) hrun
  have hends : PushEnds host w confirmed ⟨.idle, [], .start w⟩ summary ([] ++ events) process :=
    pushConfirmed_ends hqueue hexec
  exact hends.account hqueue

/-- The push of the queued spam, whose second step fails. -/
def spamPush : Result PushSummary × Process × Unit :=
  reviewedPush plainHost flagsThenGone spamQueued ()

theorem pushConfirmed_account_spamHalfway : ∃ summary events plan, spamPush.1 = .ok summary ∧
    summary.failures.map (·.pushId) = [messagePushId "m"] ∧
    resolvePushPlan ⟨plainHost, spamQueued.config⟩ spamQueued = .ok plan ∧
    plan.planId = reviewedPlan plainHost spamQueued ∧
    PushAccount plan.items summary events spamPush.2.1.workspace := by
  obtain ⟨queueing, hqueued⟩ := Program.run_exec flagsThenGone queueSpam (.start spamFiled) ()
  have hrun : Run QueueSession spamFiled ([] ++ queueing) spamQueued :=
    .next .start (.command (.queueActionSteps _ _ _ _ _) hqueued)
  have hreport : (spamPush.1.toOption.map fun summary => summary.failures.map (·.pushId)) =
      some [messagePushId "m"] := by decide +kernel
  cases hsummary : spamPush.1 with
  | error error =>
    rw [hsummary] at hreport
    cases hreport
  | ok summary =>
    rw [hsummary] at hreport
    obtain ⟨events, hexec⟩ := reviewedPush_exec hsummary
    obtain ⟨plan, hplan, hconfirmed, haccount⟩ := pushConfirmed_account rfl hrun hexec
    exact ⟨summary, events, plan, rfl, Option.some.inj hreport, hplan, hconfirmed, haccount⟩

end Account

end AgentFirstMail
