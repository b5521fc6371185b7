import AgentFirstMail.PushQueue.Consistency

namespace AgentFirstMail

theorem nextIndependent_eq_some (h : nextIndependent remaining = some next) :
    ∃ before after, remaining = before ++ next :: after ∧
      remaining.erase next = before ++ after ∧
      ∀ blocked ∈ before, ∃ item ∈ remaining, itemMustRunBefore item blocked = true := by
  unfold nextIndependent at h
  rw [Option.or_eq_some_iff] at h
  cases h with
  | inl hfind =>
    obtain ⟨hfree, before, after, rfl, hbefore⟩ := List.find?_eq_some_iff_append.mp hfind
    refine ⟨before, after, rfl, ?_, ?_⟩
    · have hnot : next ∉ before := by
        intro hmem
        have hblocked := hbefore next hmem
        rw [hfree] at hblocked
        cases hblocked
      rw [List.erase_append_right _ hnot, List.erase_cons_head]
    · intro blocked hmem
      have hany := hbefore blocked hmem
      rw [Bool.not_not, List.any_eq_true] at hany
      exact hany
  | inr hhead =>
    obtain ⟨after, rfl⟩ := List.head?_eq_some_iff.mp hhead.2
    exact ⟨[], after, rfl, by rw [List.erase_cons_head, List.nil_append], by simp⟩

theorem nextIndependent_isSome (h : remaining ≠ []) : (nextIndependent remaining).isSome = true := by
  cases remaining with
  | nil => exact (h rfl).elim
  | cons item rest => simp [nextIndependent]

theorem orderFrom_perm (h : remaining.length = fuel) : (orderFrom fuel remaining).Perm remaining := by
  induction fuel generalizing remaining with
  | zero => exact .refl _
  | succ fuel ih =>
    have hne : remaining ≠ [] := by
      intro hnil
      rw [hnil] at h
      cases h
    obtain ⟨next, hnext⟩ := Option.isSome_iff_exists.mp (nextIndependent_isSome hne)
    obtain ⟨before, after, rfl, herase, _⟩ := nextIndependent_eq_some hnext
    have hlength : (before ++ after).length = fuel := by
      simp only [List.length_append, List.length_cons] at h ⊢
      omega
    rw [orderFrom, hnext]
    simp only [herase]
    exact (List.Perm.cons next (ih hlength)).trans List.perm_middle.symm

theorem orderItemsForDependencies_perm (items : List PushItem) :
    (orderItemsForDependencies items).Perm items := orderFrom_perm rfl

theorem orderFrom_subset : orderFrom fuel remaining ⊆ remaining := by
  induction fuel generalizing remaining with
  | zero => exact List.Subset.refl _
  | succ fuel ih =>
    rw [orderFrom]
    cases hnext : nextIndependent remaining with
    | none => exact List.nil_subset _
    | some next =>
      obtain ⟨before, after, hsplit, _, _⟩ := nextIndependent_eq_some hnext
      apply List.cons_subset.mpr
      refine ⟨by rw [hsplit]; simp, ?_⟩
      exact List.Subset.trans ih List.erase_subset

/-- The planned items are those of some of the queued ones, in the same order. -/
theorem planItems_planned (hconfig : context.config.validate = .ok ())
    (hitems : ∀ item ∈ items, PushItem.Consistent item ∧ item.stored = item)
    (h : planItems context w items = .ok planned) :
    (∃ records, records.Sublist items ∧
      List.Forall₂ PushItem.PlannedFrom planned.items records) ∧
    (∀ item ∈ items, (∃ found ∈ planned.items, found.PlannedFrom item) ∨ item ∈ planned.skipped) := by
  induction items generalizing planned with
  | nil =>
    cases h
    exact ⟨⟨[], .slnil, .nil⟩, by simp⟩
  | cons item rest ih =>
    obtain ⟨found, hfound, h⟩ := Result.bind_ok h
    obtain ⟨others, hothers, h⟩ := Result.bind_ok h
    obtain ⟨⟨records, hsub, hrecords⟩, hcover⟩ :=
      ih (fun item hmem => hitems item (List.mem_cons_of_mem _ hmem)) hothers
    obtain ⟨hconsistent, hstored⟩ := hitems item List.mem_cons_self
    cases found with
    | some found =>
      cases h
      have hplanned := planItem_planned hconfig hconsistent hstored hfound
      refine ⟨⟨item :: records, hsub.cons_cons item, .cons hplanned hrecords⟩, ?_⟩
      intro other hmem
      cases List.mem_cons.mp hmem with
      | inl heq =>
        rw [heq]
        exact .inl ⟨found, List.mem_cons_self, hplanned⟩
      | inr hrest =>
        cases hcover other hrest with
        | inl hfound =>
          obtain ⟨found, hin, hplanned⟩ := hfound
          exact .inl ⟨found, List.mem_cons_of_mem _ hin, hplanned⟩
        | inr hskipped => exact .inr hskipped
    | none =>
      cases h
      refine ⟨⟨records, hsub.cons item, hrecords⟩, ?_⟩
      intro other hmem
      cases List.mem_cons.mp hmem with
      | inl heq =>
        rw [heq]
        exact .inr List.mem_cons_self
      | inr hrest =>
        cases hcover other hrest with
        | inl hfound => exact .inl hfound
        | inr hskipped => exact .inr (List.mem_cons_of_mem _ hskipped)

theorem planItems_skipped (h : planItems context w items = .ok planned) :
    ∀ item ∈ planned.skipped, item ∈ items ∧ item.hasStartedEffects = false := by
  induction items generalizing planned with
  | nil =>
    cases h
    exact List.forall_mem_nil _
  | cons item rest ih =>
    obtain ⟨found, hfound, h⟩ := Result.bind_ok h
    obtain ⟨others, hothers, h⟩ := Result.bind_ok h
    have hrest : ∀ skipped ∈ others.skipped,
        skipped ∈ item :: rest ∧ skipped.hasStartedEffects = false := by
      intro skipped hmem
      obtain ⟨hskipped, hunstarted⟩ := ih hothers skipped hmem
      exact ⟨List.mem_cons_of_mem _ hskipped, hunstarted⟩
    cases found with
    | some found =>
      cases h
      exact hrest
    | none =>
      cases h
      exact List.forall_mem_cons.mpr ⟨⟨List.mem_cons_self, planItem_none hfound⟩, hrest⟩

theorem PushItem.Consistent.stored {item : PushItem} (h : item.Consistent) :
    item.stored.Consistent :=
  h.resumes ⟨rfl, rfl, rfl, rfl, rfl, .inl rfl⟩

theorem Workspace.QueueConsistent.record {w : Workspace} {item : PushItem}
    (hqueue : w.QueueConsistent) (hmem : item ∈ w.readItems) :
    ∃ record, w.pushItems[item.pushId]? = some record ∧ record.stored = item := by
  obtain ⟨pushId, record, hget, rfl⟩ := Workspace.mem_readItems.mp hmem
  refine ⟨record, ?_, rfl⟩
  rw [PushItem.stored_pushId, (hqueue pushId record hget).pushId]
  exact hget

/-- What a plan makes of a consistent queue. -/
structure PlannedItems.Of (planned : PlannedItems) (w : Workspace) : Prop where
  items : ∀ item ∈ planned.items, ∃ record, w.pushItems[item.pushId]? = some record ∧
    item.PlannedFrom record.stored
  skipped : ∀ item ∈ planned.skipped, item.hasStartedEffects = false ∧
    ∃ record, w.pushItems[item.pushId]? = some record ∧ record.stored = item
  covered : ∀ (pushId : String), pushId ∈ w.pushItems →
    (∃ item ∈ planned.items, item.pushId = pushId) ∨ ∃ item ∈ planned.skipped, item.pushId = pushId

theorem resolvePlannedItems_of {w : Workspace} (hconfig : context.config.validate = .ok ())
    (hqueue : w.QueueConsistent) (h : resolvePlannedItems context w = .ok planned) :
    planned.Of w := by
  obtain ⟨found, hfound, h⟩ := Result.bind_ok h
  cases h
  have hitems : ∀ item ∈ w.sortedItems, item.Consistent ∧ item.stored = item := by
    intro item hmem
    obtain ⟨pushId, record, hget, rfl⟩ :=
      Workspace.mem_readItems.mp (Workspace.mem_sortedItems.mp hmem)
    exact ⟨(hqueue pushId record hget).consistent.stored, rfl⟩
  have hkeyed : ∀ item ∈ w.sortedItems, ∃ record, w.pushItems[item.pushId]? = some record ∧
      record.stored = item := by
    intro item hmem
    exact hqueue.record (Workspace.mem_sortedItems.mp hmem)
  obtain ⟨⟨records, hsub, hrecords⟩, hcover⟩ := planItems_planned hconfig hitems hfound
  have hperm := orderItemsForDependencies_perm found.items
  refine ⟨?_, ?_, ?_⟩
  · intro item hmem
    obtain ⟨record, hin, hplanned⟩ := Lists.exists_of_forall₂ hrecords.flip (hperm.mem_iff.mp hmem)
    obtain ⟨kept, hget, rfl⟩ := hkeyed record (hsub.subset hin)
    refine ⟨kept, ?_, hplanned⟩
    rw [hplanned.resumes.pushId]
    exact hget
  · intro item hmem
    obtain ⟨hskipped, hunstarted⟩ := planItems_skipped hfound item hmem
    exact ⟨hunstarted, hkeyed item hskipped⟩
  · intro pushId hmem
    obtain ⟨record, hget⟩ := Std.ExtTreeMap.mem_iff_isSome_getElem?.mp hmem |> Option.isSome_iff_exists.mp
    have hsorted : record.stored ∈ w.sortedItems :=
      Workspace.mem_sortedItems.mpr (Workspace.mem_readItems.mpr ⟨pushId, record, hget, rfl⟩)
    have hid : record.stored.pushId = pushId := (hqueue pushId record hget).pushId
    cases hcover _ hsorted with
    | inl hplanned =>
      obtain ⟨item, hin, hitem⟩ := hplanned
      exact .inl ⟨item, hperm.mem_iff.mpr hin, hitem.resumes.pushId.trans hid⟩
    | inr hskipped => exact .inr ⟨_, hskipped, hid⟩

end AgentFirstMail
