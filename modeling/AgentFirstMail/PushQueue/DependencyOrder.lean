import Mathlib.Logic.Relation
import AgentFirstMail.PushQueue.PlannedQueue

namespace AgentFirstMail

/-- A plan is one of a draft or one of a message. -/
def PushItem.PlannedOnce (item : PushItem) : Prop :=
  item.outbound = none ∨ item.messageAction = none

/-- Nothing that is left has to run before the item. -/
def independent (remaining : List PushItem) (candidate : PushItem) : Bool :=
  !remaining.any (itemMustRunBefore · candidate)

/-- An item of a plan has to run before another one. -/
def Precedes (items : List PushItem) (item candidate : PushItem) : Prop :=
  item ∈ items ∧ candidate ∈ items ∧ itemMustRunBefore item candidate = true

/-- The rounds of the ordering: what is in order so far, and what is left. -/
inductive OrderStage (items : List PushItem) : List PushItem → List PushItem → Prop
  | start : OrderStage items [] items
  | next : OrderStage items ordered remaining → nextIndependent remaining = some next →
      OrderStage items (ordered ++ [next]) (remaining.erase next)

/-- The order of a plan: no item is lost, none runs before one it waits for, no cycle keeps a
round from finding a first item, and items that are free in one round stay as they came. -/
structure DependencyOrdered (items ordered : List PushItem) : Prop where
  perm : ordered.Perm items
  before : ordered.Pairwise fun first second => itemMustRunBefore second first = false
  acyclic : ∀ item, ¬ Relation.TransGen (Precedes items) item item
  first : ∀ done remaining, OrderStage items done remaining → remaining ≠ [] →
    ∃ next ∈ remaining, remaining.find? (independent remaining) = some next
  stable : ∀ done remaining, OrderStage items done remaining →
    remaining.Sublist items ∧ ∃ rest, ordered = done ++ rest ∧
      (remaining.filter (independent remaining)).Sublist rest

section Dependencies
variable {item candidate : PushItem} {items remaining : List PushItem}

theorem isSome_of_itemMustRunBefore (h : itemMustRunBefore item candidate = true) :
    item.outbound.isSome = true ∧ candidate.messageAction.isSome = true := by
  unfold itemMustRunBefore at h
  split at h
  · rename_i houtbound haction
    rw [houtbound, haction]
    exact ⟨rfl, rfl⟩
  · cases h

theorem itemMustRunBefore_blocker (hplanned : item.PlannedOnce)
    (h : itemMustRunBefore item candidate = true) (other : PushItem) :
    itemMustRunBefore other item = false := by
  rw [Bool.eq_false_iff]
  intro hother
  have houtbound := (isSome_of_itemMustRunBefore h).1
  have haction := (isSome_of_itemMustRunBefore hother).2
  cases hplanned with
  | inl hnone =>
    rw [hnone] at houtbound
    cases houtbound
  | inr hnone =>
    rw [hnone] at haction
    cases haction

theorem Precedes.acyclic (hplanned : ∀ item ∈ items, item.PlannedOnce) (item : PushItem) :
    ¬ Relation.TransGen (Precedes items) item item := by
  intro hcycle
  obtain ⟨other, hfirst, _⟩ := Relation.TransGen.head'_iff.mp hcycle
  obtain ⟨last, _, hlast⟩ := Relation.TransGen.tail'_iff.mp hcycle
  have hfree := itemMustRunBefore_blocker (hplanned item hfirst.1) hfirst.2.2 last
  rw [hlast.2.2] at hfree
  cases hfree

theorem independent_eq_true :
    independent remaining candidate = true ↔
      ∀ item ∈ remaining, itemMustRunBefore item candidate = false := by
  rw [independent, Bool.not_eq_true', List.any_eq_false]
  exact forall₂_congr fun _ _ => Bool.eq_false_iff.symm

theorem independent_of_subset {fewer : List PushItem} (hsub : fewer ⊆ remaining)
    (h : independent remaining candidate = true) : independent fewer candidate = true :=
  independent_eq_true.mpr fun item hmem => independent_eq_true.mp h item (hsub hmem)

theorem exists_independent (hplanned : ∀ item ∈ remaining, item.PlannedOnce)
    (hne : remaining ≠ []) : ∃ next ∈ remaining, independent remaining next = true := by
  obtain ⟨head, rest, rfl⟩ := List.exists_cons_of_ne_nil hne
  cases hfree : independent (head :: rest) head with
  | true => exact ⟨head, List.mem_cons_self, hfree⟩
  | false =>
    rw [independent, Bool.not_eq_false', List.any_eq_true] at hfree
    obtain ⟨item, hmem, hmust⟩ := hfree
    refine ⟨item, hmem, independent_eq_true.mpr fun other _ => ?_⟩
    exact itemMustRunBefore_blocker (hplanned item hmem) hmust other

theorem nextIndependent_eq_find? (hplanned : ∀ item ∈ remaining, item.PlannedOnce)
    (hne : remaining ≠ []) : ∃ next ∈ remaining, nextIndependent remaining = some next ∧
      remaining.find? (independent remaining) = some next := by
  obtain ⟨free, hmem, hfree⟩ := exists_independent hplanned hne
  obtain ⟨next, hnext⟩ := Option.isSome_iff_exists.mp
    (List.find?_isSome.mpr ⟨free, hmem, hfree⟩)
  refine ⟨next, List.mem_of_find?_eq_some hnext, ?_, hnext⟩
  change (remaining.find? (independent remaining)).or remaining.head? = some next
  rw [hnext]
  rfl

theorem filter_independent_erase {next : PushItem}
    (h : remaining.find? (independent remaining) = some next) :
    (remaining.filter (independent remaining)).Sublist
      (next :: (remaining.erase next).filter (independent (remaining.erase next))) := by
  obtain ⟨hfree, before, after, hsplit, hbefore⟩ := List.find?_eq_some_iff_append.mp h
  have hnone : before.filter (independent remaining) = [] := by
    rw [List.filter_eq_nil_iff]
    intro blocked hmem hindependent
    have hblocked := hbefore blocked hmem
    rw [hindependent] at hblocked
    cases hblocked
  have hnot : next ∉ before := by
    intro hmem
    have hblocked := hbefore next hmem
    rw [hfree] at hblocked
    cases hblocked
  have herase : remaining.erase next = before ++ after := by
    rw [hsplit, List.erase_append_right _ hnot, List.erase_cons_head]
  have hfilter : remaining.filter (independent remaining) =
      next :: after.filter (independent remaining) := by
    conv_lhs => rw [hsplit]
    rw [List.filter_append, ← hsplit, hnone, List.nil_append, List.filter_cons_of_pos hfree]
  rw [hfilter]
  apply List.Sublist.cons_cons
  have hmore : (after.filter (independent remaining)).Sublist
      (after.filter (independent (remaining.erase next))) :=
    List.monotone_filter_right after fun item h =>
      independent_of_subset List.erase_subset h
  apply hmore.trans
  conv_rhs => rw [herase]
  rw [List.filter_append, ← herase]
  exact List.sublist_append_right _ _

end Dependencies

section Order
variable {items remaining : List PushItem}

theorem orderFrom_before (hplanned : ∀ item ∈ remaining, item.PlannedOnce)
    (hlength : remaining.length = fuel) : (orderFrom fuel remaining).Pairwise
      fun first second => itemMustRunBefore second first = false := by
  induction fuel generalizing remaining with
  | zero =>
    rw [List.eq_nil_of_length_eq_zero hlength]
    exact .nil
  | succ fuel ih =>
    obtain ⟨next, hmem, hnext, hfind⟩ := nextIndependent_eq_find? hplanned
      (List.ne_nil_of_length_eq_add_one hlength)
    have hfree := independent_eq_true.mp (List.find?_some hfind)
    have hrest : (remaining.erase next).length = fuel := by
      rw [List.length_erase_of_mem hmem, hlength]
      rfl
    rw [orderFrom, hnext]
    refine List.pairwise_cons.mpr ⟨fun other hother => ?_, ?_⟩
    · exact hfree other (List.mem_of_mem_erase (orderFrom_subset hother))
    · exact ih (fun item hitem => hplanned item (List.mem_of_mem_erase hitem)) hrest

theorem filter_independent_orderFrom (hplanned : ∀ item ∈ remaining, item.PlannedOnce)
    (hlength : remaining.length = fuel) :
    (remaining.filter (independent remaining)).Sublist (orderFrom fuel remaining) := by
  induction fuel generalizing remaining with
  | zero =>
    rw [List.eq_nil_of_length_eq_zero hlength]
    exact .slnil
  | succ fuel ih =>
    obtain ⟨next, hmem, hnext, hfind⟩ := nextIndependent_eq_find? hplanned
      (List.ne_nil_of_length_eq_add_one hlength)
    have hrest : (remaining.erase next).length = fuel := by
      rw [List.length_erase_of_mem hmem, hlength]
      rfl
    rw [orderFrom, hnext]
    refine (filter_independent_erase hfind).trans (List.Sublist.cons_cons next ?_)
    exact ih (fun item hitem => hplanned item (List.mem_of_mem_erase hitem)) hrest

theorem OrderStage.sublist {ordered : List PushItem} (h : OrderStage items ordered remaining) :
    remaining.Sublist items := by
  induction h with
  | start => exact List.Sublist.refl _
  | next _ _ ih => exact List.erase_sublist.trans ih

theorem OrderStage.orderFrom {ordered : List PushItem} (h : OrderStage items ordered remaining) :
    orderItemsForDependencies items = ordered ++ orderFrom remaining.length remaining := by
  induction h with
  | start => rfl
  | @next ordered remaining next _ hnext ih =>
    obtain ⟨before, after, hsplit, herase, _⟩ := nextIndependent_eq_some hnext
    have hlength : remaining.length = (remaining.erase next).length + 1 := by
      rw [herase, hsplit]
      simp only [List.length_append, List.length_cons]
      omega
    rw [ih, hlength, AgentFirstMail.orderFrom, hnext, List.append_assoc, List.singleton_append]

theorem orderItemsForDependencies_ordered (hplanned : ∀ item ∈ items, item.PlannedOnce) :
    DependencyOrdered items (orderItemsForDependencies items) where
  perm := orderItemsForDependencies_perm items
  before := orderFrom_before hplanned rfl
  acyclic := Precedes.acyclic hplanned
  first done remaining hstage hne := by
    obtain ⟨next, hmem, _, hfind⟩ := nextIndependent_eq_find?
      (fun item hitem => hplanned item (hstage.sublist.subset hitem)) hne
    exact ⟨next, hmem, hfind⟩
  stable done remaining hstage := by
    refine ⟨hstage.sublist, _, hstage.orderFrom, ?_⟩
    exact filter_independent_orderFrom
      (fun item hitem => hplanned item (hstage.sublist.subset hitem)) rfl

end Order

section Plans
variable {context : PushExecutionContext} {w : Workspace} {item planned : PushItem}

theorem hydrateAuditPendingPlan_plannedOnce {pending : PushAuditPending}
    (hstored : item.stored = item) (h : hydrateAuditPendingPlan item pending = .ok planned) :
    planned.PlannedOnce := by
  unfold hydrateAuditPendingPlan at h
  split at h
  · split at h
    · cases h
    · cases h
      right
      rw [← hstored]
      rfl
  · split at h
    · cases h
    · cases h
      left
      rw [← hstored]
      rfl

theorem planMessageItem_plannedOnce {config : MailConfig} {message : MessagePush}
    (hstored : item.stored = item) (h : planMessageItem w config item message = .ok (some planned)) :
    planned.PlannedOnce := by
  obtain ⟨action, _, h⟩ := Result.bind_ok h
  cases action with
  | none =>
    obtain ⟨_, _, h⟩ := Result.bind_ok h
    cases h
  | some action =>
    obtain ⟨kept, hkept, h⟩ := Result.bind_ok h
    obtain ⟨raws, _, h⟩ := Result.bind_ok h
    cases h
    left
    change kept.plannedOutbound = none
    rw [(resetProgressIfPlanChanged_resumes hkept).2.1, ← hstored]
    rfl

theorem planDraftItem_plannedOnce {draft : DraftPush} (hstored : item.stored = item)
    (h : planDraftItem context w item draft = .ok (some planned)) : planned.PlannedOnce := by
  right
  obtain ⟨frontmatter, _, h⟩ := Result.bind_ok h
  cases frontmatter with
  | none =>
    dsimp only at h
    split at h
    · cases h
      rw [← hstored]
      rfl
    · obtain ⟨_, _, h⟩ := Result.bind_ok h
      cases h
  | some frontmatter =>
    dsimp only at h
    cases hintent : frontmatter.syncIntent with
    | none =>
      rw [hintent] at h
      obtain ⟨_, _, h⟩ := Result.bind_ok h
      cases h
    | some action =>
      rw [hintent] at h
      obtain ⟨outbound, houtbound, h⟩ := Result.bind_ok h
      cases h
      obtain ⟨steps, _, houtbound⟩ := Result.bind_ok houtbound
      obtain ⟨kept, hkept, houtbound⟩ := Result.bind_ok houtbound
      obtain ⟨prepared, _, houtbound⟩ := Result.bind_ok houtbound
      cases houtbound
      change kept.plannedMessageAction = none
      rw [(resetProgressIfPlanChanged_resumes hkept).2.2.1, ← hstored]
      rfl

theorem planItem_plannedOnce (hstored : item.stored = item)
    (h : planItem context w item = .ok (some planned)) : planned.PlannedOnce := by
  unfold planItem at h
  split at h
  · obtain ⟨hydrated, hhydrated, h⟩ := Result.bind_ok h
    cases h
    exact hydrateAuditPendingPlan_plannedOnce hstored hhydrated
  · exact planMessageItem_plannedOnce hstored h
  · exact planDraftItem_plannedOnce hstored h

theorem planItems_plannedOnce {items : List PushItem} {found : PlannedItems}
    (hstored : ∀ item ∈ items, item.stored = item) (h : planItems context w items = .ok found) :
    ∀ item ∈ found.items, item.PlannedOnce := by
  induction items generalizing found with
  | nil =>
    cases h
    exact List.forall_mem_nil _
  | cons item rest ih =>
    obtain ⟨planned, hplanned, h⟩ := Result.bind_ok h
    obtain ⟨others, hothers, h⟩ := Result.bind_ok h
    have hrest := ih (fun item hmem => hstored item (List.mem_cons_of_mem _ hmem)) hothers
    cases planned with
    | none =>
      cases h
      exact hrest
    | some planned =>
      cases h
      exact List.forall_mem_cons.mpr
        ⟨planItem_plannedOnce (hstored item List.mem_cons_self) hplanned, hrest⟩

theorem stored_of_mem_sortedItems (h : item ∈ w.sortedItems) : item.stored = item := by
  obtain ⟨_, record, _, rfl⟩ := Workspace.mem_readItems.mp (Workspace.mem_sortedItems.mp h)
  rfl

end Plans

/-- The order of any list of planned items is one that respects what they wait for, and the
items of every plan are planned in such a way. -/
theorem dependencyOrdered_plan :
    (∀ items : List PushItem, (∀ item ∈ items, item.PlannedOnce) →
      DependencyOrdered items (orderItemsForDependencies items)) ∧
    ∀ (context : PushExecutionContext) (w : Workspace) (plan : PlannedItems),
      resolvePlannedItems context w = .ok plan → ∃ found, planItems context w w.sortedItems =
        .ok found ∧ plan.items = orderItemsForDependencies found.items ∧
          DependencyOrdered found.items plan.items := by
  refine ⟨fun items => orderItemsForDependencies_ordered, fun context w plan h => ?_⟩
  obtain ⟨found, hfound, h⟩ := Result.bind_ok h
  cases h
  refine ⟨found, hfound, rfl, orderItemsForDependencies_ordered ?_⟩
  exact planItems_plannedOnce (fun item => stored_of_mem_sortedItems) hfound

def queuedMove : PushItem where
  pushId := "push_move"
  enqueueSeq := 1
  payload := .message { messageId := "message_1", action := .spam }
  plannedMessageAction := some
    { action := .spam, messageIds := ["message_1"], locations := [], steps := [] }
  createdRfc3339 := ""
  updatedRfc3339 := ""

def queuedReply : PushItem where
  pushId := "push_reply"
  enqueueSeq := 2
  payload := .draft { caseUid := "c20240101001", draftName := "reply" }
  plannedOutbound := some { action := .send, caseUid := "c20240101001", draftName := "reply"
                            replyToMessageId := some "message_1" }
  createdRfc3339 := ""
  updatedRfc3339 := ""

theorem dependencyOrdered_reply :
    (orderItemsForDependencies [queuedMove, queuedReply]).map (·.pushId) =
        ["push_reply", "push_move"] ∧
      DependencyOrdered [queuedMove, queuedReply]
        (orderItemsForDependencies [queuedMove, queuedReply]) := by
  refine ⟨by decide +kernel, dependencyOrdered_plan.1 _ ?_⟩
  exact List.forall_mem_cons.mpr ⟨.inl rfl, List.forall_mem_cons.mpr ⟨.inr rfl,
    List.forall_mem_nil _⟩⟩

end AgentFirstMail
