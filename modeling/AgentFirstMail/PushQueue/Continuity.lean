import AgentFirstMail.PushQueue.Accounting

namespace AgentFirstMail
open Effect Command

/-- What a queue record is for. -/
inductive PushTarget where
  | draft (caseUid draftName : String)
  | message (messageId : String)

namespace PushItem

def target (item : PushItem) : PushTarget :=
  match item.payload with
  | .draft draft => .draft draft.caseUid draft.draftName
  | .message message => .message message.messageId

/-- The action that a message item was frozen with. -/
def snapshot? (item : PushItem) : Option MessageActionPush :=
  item.message.bind (·.messageActionSnapshot)

/-- The name, the number and the target of a queue record do not change. -/
structure SameIdentity (later item : PushItem) : Prop where
  pushId : later.pushId = item.pushId
  enqueueSeq : later.enqueueSeq = item.enqueueSeq
  target : later.target = item.target

/-- How far a record is past its steps: the stages it reached stay reached, its audit identity
stays its own, and attempts are counted on. -/
structure Advances (later item : PushItem) : Prop where
  stages : ∀ stage, item.localStageAtLeast stage = true → later.localStageAtLeast stage = true
  audit : ∀ pending, item.auditPending = some pending →
    ∃ lastError, later.auditPending = some { pending with lastError }
  attempts : item.attemptCount ≤ later.attemptCount

/-- What a push leaves of a queue record: the same action, the snapshot and the steps it was
started with, everything that has succeeded, as it is recorded, and what was reached since. -/
structure Continues (later item : PushItem) : Prop where
  identity : later.SameIdentity item
  action : later.message.map (·.action) = item.message.map (·.action)
  frozen : ∀ action, item.snapshot? = some action → later.snapshot? = some action
  started : item.hasStartedEffects = true → later.hasStartedEffects = true
  labels : item.hasStartedEffects = true → item.labels <+: later.labels
  succeeded : ∀ (i : Nat) state, item.stepStates[i]? = some state → state.status = .succeeded →
    later.stepStates[i]? = some state
  advances : later.Advances item

variable {item later : PushItem}

theorem SameIdentity.refl (item : PushItem) : item.SameIdentity item := ⟨rfl, rfl, rfl⟩

theorem SameIdentity.stored (item : PushItem) : item.stored.SameIdentity item := ⟨rfl, rfl, rfl⟩

theorem SameIdentity.trans {last : PushItem} (hsecond : last.SameIdentity later)
    (hfirst : later.SameIdentity item) : last.SameIdentity item :=
  ⟨hsecond.pushId.trans hfirst.pushId, hsecond.enqueueSeq.trans hfirst.enqueueSeq,
    hsecond.target.trans hfirst.target⟩

theorem SameIdentity.of_payload (hpushId : later.pushId = item.pushId)
    (hseq : later.enqueueSeq = item.enqueueSeq) (hpayload : later.payload = item.payload) :
    later.SameIdentity item := by
  refine ⟨hpushId, hseq, ?_⟩
  unfold PushItem.target
  rw [hpayload]

namespace Advances

theorem of_eq (hstage : later.localStage = item.localStage)
    (haudit : later.auditPending = item.auditPending)
    (hcount : item.attemptCount ≤ later.attemptCount) : later.Advances item where
  stages stage hreached := by
    rw [localStageAtLeast, hstage]
    exact hreached
  audit pending hpending := ⟨pending.lastError, haudit.trans hpending⟩
  attempts := hcount

theorem trans {last : PushItem} (hsecond : last.Advances later) (hfirst : later.Advances item) :
    last.Advances item where
  stages stage hreached := hsecond.stages stage (hfirst.stages stage hreached)
  audit pending hpending := by
    obtain ⟨_, hmiddle⟩ := hfirst.audit pending hpending
    obtain ⟨lastError, hlast⟩ := hsecond.audit _ hmiddle
    exact ⟨lastError, hlast⟩
  attempts := Nat.le_trans hfirst.attempts hsecond.attempts

theorem stage {stage : PushLocalStage} {updatedRfc3339 : String}
    (hnot : item.localStageAtLeast stage = false) :
    PushItem.Advances { item with localStage := some stage, updatedRfc3339 } item where
  stages reached hreached := by
    unfold localStageAtLeast at *
    cases hitem : item.localStage with
    | none =>
      rw [hitem] at hreached
      cases hreached
    | some current =>
      rw [hitem, Option.any_some, decide_eq_true_eq] at hreached
      rw [hitem, Option.any_some, decide_eq_false_iff_not] at hnot
      rw [Option.any_some, decide_eq_true_eq]
      omega
  audit pending hpending := ⟨pending.lastError, hpending⟩
  attempts := Nat.le_refl _

end Advances

namespace Continues

theorem of_eq (hidentity : later.SameIdentity item) (hpayload : later.payload = item.payload)
    (hstates : later.stepStates = item.stepStates)
    (hstarted : item.hasStartedEffects = true → later.hasStartedEffects = true)
    (hadvances : later.Advances item) :
    later.Continues item where
  identity := hidentity
  action := by rw [PushItem.message, PushItem.message, hpayload]
  frozen action hsnapshot := by
    rw [snapshot?, PushItem.message, hpayload]
    exact hsnapshot
  started := hstarted
  labels _ := by
    have hlabels : later.labels = item.labels := by rw [PushItem.labels, PushItem.labels, hstates]
    exact ⟨[], (List.append_nil _).trans hlabels.symm⟩
  succeeded i state hget _ := by
    rw [hstates]
    exact hget
  advances := hadvances

theorem refl (item : PushItem) : item.Continues item :=
  .of_eq (.refl item) rfl rfl id (.of_eq rfl rfl (Nat.le_refl _))

theorem trans {last : PushItem} (hsecond : last.Continues later) (hfirst : later.Continues item) :
    last.Continues item where
  identity := hsecond.identity.trans hfirst.identity
  action := hsecond.action.trans hfirst.action
  frozen action hsnapshot := hsecond.frozen action (hfirst.frozen action hsnapshot)
  started hstarted := hsecond.started (hfirst.started hstarted)
  labels hstarted := (hfirst.labels hstarted).trans (hsecond.labels (hfirst.started hstarted))
  succeeded i state hget hstatus :=
    hsecond.succeeded i state (hfirst.succeeded i state hget hstatus) hstatus
  advances := hsecond.advances.trans hfirst.advances

theorem stored : item.stored.Continues item :=
  .of_eq (.stored item) rfl rfl id (.of_eq rfl rfl (Nat.le_refl _))

/-- Planning drops steps only from a record that was not started. -/
theorem of_planned (hplanned : later.PlannedFrom item) : later.Continues item := by
  have hresumes := hplanned.resumes
  have hadvances : later.Advances item :=
    .of_eq hresumes.localStage hresumes.auditPending (Nat.le_of_eq hplanned.attemptCount.symm)
  have hidentity : later.SameIdentity item :=
    .of_payload hresumes.pushId hresumes.enqueueSeq hresumes.payload
  rcases hresumes.stepStates with hsame | ⟨hnil, hnot⟩
  · refine of_eq hidentity hresumes.payload hsame ?_ hadvances
    rw [hresumes.hasStartedEffects]
    exact id
  · refine ⟨hidentity, ?_, ?_, ?_, ?_, ?_, hadvances⟩
    · rw [PushItem.message, PushItem.message, hresumes.payload]
    · intro action hsnapshot
      rw [snapshot?, PushItem.message, hresumes.payload]
      exact hsnapshot
    · intro hstarted
      cases hnot.symm.trans hstarted
    · intro hstarted
      cases hnot.symm.trans hstarted
    · intro i state hget hstatus
      have hstarted := hasStartedEffects_of_get hget
        (started_of_status (by rw [hstatus]; simp))
      cases hnot.symm.trans hstarted

variable {steps : List ActionStep} {step : ActionStep} {index : Nat} {state : PushStepState}
  {change : PushStepState → PushStepState}

/-- A step that is not finished may change its state. -/
theorem changeStep (hindexed : Indexed item.stepStates) (hget : item.stepStates[index]? = some state)
    (hunfinished : state.status ≠ .succeeded) (hlabel : (change state).label = state.label)
    (hstarted : state.started = true → (change state).started = true) :
    (item.modifyStepState index change).Continues item where
  identity := ⟨rfl, rfl, rfl⟩
  action := rfl
  frozen _ hsnapshot := hsnapshot
  started hitem := by
    have hcases : item.hasStartedSteps = true ∨
        (item.localStage.isSome || item.auditPending.isSome) = true := by
      rw [hasStartedEffects, Bool.or_assoc, Bool.or_eq_true] at hitem
      exact hitem
    rcases hcases with hsteps | hrest
    · obtain ⟨found, hmem, hfound⟩ := List.any_eq_true.mp hsteps
      obtain ⟨i, hi, rfl⟩ := List.getElem_of_mem hmem
      by_cases heq : index = i
      · subst heq
        rw [List.getElem?_eq_getElem hi] at hget
        cases hget
        exact hasStartedEffects_of_get
          (modifyStepState_get change hindexed (List.getElem?_eq_getElem hi)) (hstarted hfound)
      · have hother : (item.modifyStepState index change).stepStates[i]? = item.stepStates[i]? :=
          modifyStepState_get_ne hindexed heq
        rw [List.getElem?_eq_getElem hi] at hother
        exact hasStartedEffects_of_get hother hfound
    · rw [hasStartedEffects, Bool.or_assoc, Bool.or_eq_true]
      exact .inr hrest
  labels _ := by
    have hlabels : (item.modifyStepState index change).labels = item.labels := by
      rw [PushItem.labels, PushItem.labels, modifyStepState_stepStates hindexed,
        labels_modify hget hlabel]
    exact ⟨[], (List.append_nil _).trans hlabels.symm⟩
  succeeded i found hfound hstatus := by
    by_cases heq : index = i
    · subst heq
      cases hget.symm.trans hfound
      exact (hunfinished hstatus).elim
    · rw [modifyStepState_get_ne hindexed heq]
      exact hfound
  advances := .of_eq rfl rfl (Nat.le_refl _)

theorem recolor (hindexed : Indexed item.stepStates) (hres : item.Resolved steps)
    (hstep : steps[index]? = some step) (hcurrent : item.Attempts index state)
    (hchange : Recolors step change) : (item.modifyStepState index change).Continues item := by
  have hlabel := hres.label hcurrent.get hstep
  apply changeStep hindexed hcurrent.get hcurrent.unfinished
  · exact (hchange.label state hlabel).trans hlabel.symm
  · exact hchange.started state

theorem touch (hcontinues : later.Continues item) {now : String} {lastError : Option String} :
    PushItem.Continues { later with updatedRfc3339 := now, lastError } item := by
  have hlater : PushItem.Continues { later with updatedRfc3339 := now, lastError } later :=
    .of_eq (.of_payload rfl rfl rfl) rfl rfl id (.of_eq rfl rfl (Nat.le_refl _))
  exact hlater.trans hcontinues

theorem freeze (item : PushItem) : item.freezeMessageActionSnapshot.Continues item := by
  cases hpayload : item.payload with
  | draft draft =>
    rw [freeze_of_draft hpayload]
    exact refl item
  | message message =>
    rw [freeze_of_message hpayload]
    refine ⟨⟨rfl, rfl, ?_⟩, ?_, ?_, fun hstarted => hstarted, fun _ => List.prefix_rfl,
      fun i state hget _ => hget, .of_eq rfl rfl (Nat.le_refl _)⟩
    · unfold PushItem.target
      rw [hpayload]
    · unfold PushItem.message
      rw [hpayload]
      rfl
    · intro action hsnapshot
      have hqueued : message.messageActionSnapshot = some action := by
        rw [snapshot?, message_eq_some.mpr hpayload] at hsnapshot
        exact hsnapshot
      change message.messageActionSnapshot.or item.plannedMessageAction = some action
      rw [hqueued, Option.some_or]

theorem markStepPending (hindexed : Indexed item.stepStates) (hres : item.Resolved steps)
    (hstep : steps[index]? = some step) (hnext : item.Next index) :
    (item.markStepPending index step now).Continues item := by
  obtain ⟨state, hget⟩ := hres.exists_state hstep
  have hlabel := hres.label hget hstep
  have hchange := recolors_markPending step now
  have hstates : item.freezeMessageActionSnapshot.stepStates = item.stepStates :=
    freeze_stepStates
  have hmarked : (item.freezeMessageActionSnapshot.modifyStepState index
      (·.markPending step now)).Continues item.freezeMessageActionSnapshot := by
    apply changeStep
    · rw [hstates]
      exact hindexed
    · rw [hstates]
      exact hget
    · exact hnext.unfinished state hget
    · exact (hchange.label state hlabel).trans hlabel.symm
    · exact hchange.started state
  exact (hmarked.trans (freeze item)).touch

end Continues
end PushItem

/-- Why a record is gone: nothing of it was started, or every step of what it had come to was done
and its success is in the audit log. -/
inductive PushItem.Ended (w : Workspace) (item : PushItem) : Prop
  | unstarted : item.hasStartedEffects = false → Ended w item
  | finished (last : PushItem) (pending : PushAuditPending) :
      last.Continues item → (∀ state ∈ last.stepStates, state.status = .succeeded) →
      last.auditPending = some pending →
      (∃ event ∈ w.audit.events, event.eventId = pending.eventId) → Ended w item

theorem PushItem.Ended.mono {w w' : Workspace} {item : PushItem} (hleft : item.Ended w)
    (haudit : w.audit.events ⊆ w'.audit.events) : item.Ended w' := by
  cases hleft with
  | unstarted hnot => exact .unstarted hnot
  | finished last pending hlast hdone hpending hevent =>
    obtain ⟨event, hmem, hid⟩ := hevent
    exact .finished last pending hlast hdone hpending ⟨event, haudit hmem, hid⟩

section Serving
variable {context : PushExecutionContext} {steps steps' : Option (List ActionStep)}
  {attempt attempt' : Attempt} {h h' : List RemoteEvent} {m m' : Process}

theorem Serves.resolve_continues {resolved : List ActionStep} {item : PushItem}
    (hserves : Serves none item) (haudit : item.auditPending = none)
    (hto : item.ResolvesTo config w resolved) :
    (item.ensureStepStates resolved).Continues item where
  identity := ⟨rfl, rfl, rfl⟩
  action := rfl
  frozen _ hsnapshot := hsnapshot
  started hstarted := by
    rw [hserves.resolve_hasStartedEffects haudit hto]
    exact hstarted
  labels _ := by
    rw [hserves.resolve_labels haudit hto]
    exact hserves.leads_resolve haudit hto
  succeeded i state hget _ := by
    rw [hserves.resolve_stepStates haudit hto]
    rw [List.getElem?_append_left (List.getElem?_eq_some_iff.mp hget).1]
    exact hget
  advances := .of_eq rfl rfl (Nat.le_refl _)

/-- Every transition of an item continues it. -/
theorem ItemTransition.continues (hs : Serving steps attempt m)
    (ht : ItemTransition context steps attempt h m steps' attempt' h' m') :
    m'.item.Continues m.item := by
  have hindexed := hs.serves.consistent.steps.indexed
  cases ht with
  | resolve resolved hnone hto => exact hs.serves.resolve_continues hnone hto
  | begin index step hstep hbefore hunfinished =>
    exact .markStepPending hindexed (hs.serves.resolved _ rfl) hstep
      (hs.serves.next hbefore hunfinished)
  | resetLegacy index step hstep hbefore hunknown =>
    obtain ⟨state, hcurrent, _⟩ := hs.unknown hunknown
    apply PushItem.Continues.touch
    exact .markStepPending hindexed (hs.serves.resolved _ rfl) hstep
      (hs.serves.next_of_attempts hcurrent)
  | arm index step hstep =>
    obtain ⟨state, hcurrent⟩ := hs.current rfl
    exact (PushItem.Continues.recolor hindexed (hs.serves.resolved _ rfl) hstep hcurrent
      (PushItem.recolors_markRemoteOutcomeUnknown step none _)).touch
  | receipt index step receipt hstep hindex =>
    obtain ⟨state, hcurrent⟩ := hs.current hindex
    exact .recolor hindexed (hs.serves.resolved _ rfl) hstep hcurrent
      (PushItem.recolors_sendReceipt step receipt)
  | succeed index step hstep hindex =>
    obtain ⟨state, hcurrent⟩ := hs.current hindex
    exact (PushItem.Continues.recolor hindexed (hs.serves.resolved _ rfl) hstep hcurrent
      (PushItem.recolors_markSucceeded step _)).touch
  | fail index step error hstep =>
    obtain ⟨state, hcurrent⟩ := hs.current rfl
    exact (PushItem.Continues.recolor hindexed (hs.serves.resolved _ rfl) hstep hcurrent
      (PushItem.recolors_markFailed step error _)).touch
  | failUnknown index step error hstep hindex =>
    obtain ⟨state, hcurrent⟩ := hs.current hindex
    exact (PushItem.Continues.recolor hindexed (hs.serves.resolved _ rfl) hstep hcurrent
      (PushItem.recolors_markRemoteOutcomeUnknown step (some error) _)).touch
  | settle index step hstep hunknown =>
    obtain ⟨state, hcurrent, _⟩ := hs.unknown hunknown
    exact (PushItem.Continues.recolor hindexed (hs.serves.resolved _ rfl) hstep hcurrent
      (PushItem.recolors_markSucceeded step _)).touch
  | advance stage hnot =>
    refine .of_eq (.of_payload rfl rfl rfl) rfl rfl ?_ (.stage hnot)
    intro _
    change (_ || (some stage).isSome || _) = true
    rw [Option.isSome_some, Bool.or_true, Bool.true_or]
  | assignAudit eventId hnone =>
    refine .of_eq (.of_payload rfl rfl rfl) rfl rfl ?_ ⟨fun _ hreached => hreached, ?_, Nat.le_refl _⟩
    · intro _
      exact Bool.or_true _
    · intro pending hpending
      cases hnone.symm.trans hpending
  | keepAudit error =>
    refine .of_eq (.of_payload rfl rfl rfl) rfl rfl ?_ ⟨fun _ hreached => hreached, ?_, Nat.le_refl _⟩
    · intro hstarted
      change (_ || _ || (m.item.auditPending.map _).isSome) = true
      rw [Option.isSome_map]
      exact hstarted
    · intro pending hpending
      change ∃ lastError, m.item.auditPending.map _ = _
      rw [hpending]
      exact ⟨some error.toString, rfl⟩
  | bookkeep error =>
    exact .of_eq (.of_payload rfl rfl rfl) rfl rfl id (.of_eq rfl rfl (Nat.le_succ _))
  | ask | cache | setFlags | call | move | relocate | flags | recoverRelocate | writeEvidence
  | writeMetadata | appendToCase | removeDraft | removeDraftState | name | report | reportSuccess
  | newline | delete | archiveCase => exact .refl _

end Serving

namespace Workspace
variable {related : PushItem → PushItem → Prop} {w w' w₀ : Workspace}

/-- Every record of a later queue comes from the one that was there under its id. -/
def QueueFrom (related : PushItem → PushItem → Prop) (w w' : Workspace) : Prop :=
  ∀ (pushId : String) later, w'.pushItems[pushId]? = some later →
    ∃ item, w.pushItems[pushId]? = some item ∧ related later item

/-- A planned or served item comes from the record under its id. -/
def ItemFrom (related : PushItem → PushItem → Prop) (w : Workspace) (later : PushItem) : Prop :=
  ∃ item, w.pushItems[later.pushId]? = some item ∧ related later item

theorem QueueFrom.refl (hrefl : ∀ item, related item item) (w : Workspace) :
    w.QueueFrom related w := fun _ item hget => ⟨item, hget, hrefl item⟩

theorem QueueFrom.congr (hfrom : w₀.QueueFrom related w) (hpush : w'.pushItems = w.pushItems) :
    w₀.QueueFrom related w' := by
  intro pushId later hget
  rw [hpush] at hget
  exact hfrom pushId later hget

theorem QueueFrom.mono {weaker : PushItem → PushItem → Prop} (hfrom : w.QueueFrom related w')
    (himp : ∀ later item, related later item → weaker later item) : w.QueueFrom weaker w' := by
  intro pushId later hget
  obtain ⟨item, hitem, hrelated⟩ := hfrom pushId later hget
  exact ⟨item, hitem, himp later item hrelated⟩

theorem QueueFrom.writeItem {item : PushItem} (hfrom : w₀.QueueFrom related w)
    (hitem : w₀.ItemFrom related item.stored) : w₀.QueueFrom related (w.writeItem item) := by
  intro pushId later hget
  change (w.pushItems.insert item.pushId item.stored)[pushId]? = some later at hget
  rw [Std.ExtTreeMap.getElem?_insert] at hget
  split at hget
  · rename_i heq
    cases hget
    rw [Std.LawfulEqCmp.compare_eq_iff_eq] at heq
    subst heq
    exact hitem
  · exact hfrom pushId later hget

theorem QueueFrom.deleteItem (hfrom : w₀.QueueFrom related w) (pushId : String) :
    w₀.QueueFrom related (w.deleteItem pushId) := by
  intro other later hget
  change (w.pushItems.erase pushId)[other]? = some later at hget
  rw [Std.ExtTreeMap.getElem?_erase] at hget
  split at hget
  · cases hget
  · exact hfrom other later hget

/-- What a push leaves of a queue. -/
abbrev QueueContinues (w w' : Workspace) : Prop := w.QueueFrom PushItem.Continues w'

/-- Every record that is gone from a later queue had come to an end. -/
def RecordsEnded (w w' : Workspace) : Prop :=
  ∀ (pushId : String) item, w.pushItems[pushId]? = some item → w'.pushItems[pushId]? = none →
    item.Ended w'

namespace RecordsEnded

theorem of_kept (hkept : ∀ (pushId : String) item, w.pushItems[pushId]? = some item →
    w'.pushItems[pushId]?.isSome) : w.RecordsEnded w' := by
  intro pushId item hget hgone
  have hsome := hkept pushId item hget
  rw [hgone] at hsome
  cases hsome

theorem refl (w : Workspace) : w.RecordsEnded w :=
  of_kept fun _ _ hget => Option.isSome_of_eq_some hget

theorem congr (hleft : w₀.RecordsEnded w) (hpush : w'.pushItems = w.pushItems)
    (haudit : w.audit.events ⊆ w'.audit.events) : w₀.RecordsEnded w' := by
  intro pushId item hget hgone
  rw [hpush] at hgone
  exact (hleft pushId item hget hgone).mono haudit

theorem writeItem (hleft : w₀.RecordsEnded w) (item : PushItem) :
    w₀.RecordsEnded (w.writeItem item) := by
  intro pushId record hget hgone
  change (w.pushItems.insert item.pushId item.stored)[pushId]? = none at hgone
  rw [Std.ExtTreeMap.getElem?_insert] at hgone
  split at hgone
  · cases hgone
  · exact (hleft pushId record hget hgone).mono (List.Subset.refl _)

theorem deleteItem {pushId : String} (hleft : w₀.RecordsEnded w)
    (hended : ∀ item, w₀.pushItems[pushId]? = some item → item.Ended w) :
    w₀.RecordsEnded (w.deleteItem pushId) := by
  intro other item hget hgone
  change (w.pushItems.erase pushId)[other]? = none at hgone
  rw [Std.ExtTreeMap.getElem?_erase] at hgone
  split at hgone
  · rename_i heq
    rw [Std.LawfulEqCmp.compare_eq_iff_eq] at heq
    subst heq
    exact (hended item hget).mono (List.Subset.refl _)
  · exact (hleft other item hget hgone).mono (List.Subset.refl _)

end RecordsEnded

theorem ItemFrom.continues {item later : PushItem}
    (hitem : w.ItemFrom PushItem.Continues item) (hlater : later.Continues item) :
    w.ItemFrom PushItem.Continues later := by
  obtain ⟨record, hget, hcontinues⟩ := hitem
  refine ⟨record, ?_, hlater.trans hcontinues⟩
  rw [hlater.identity.pushId]
  exact hget

end Workspace

section Push
variable {context : PushExecutionContext} {steps steps' : Option (List ActionStep)}
  {attempt attempt' : Attempt} {h h' : List RemoteEvent} {m m' : Process} {w : Workspace}

theorem ItemTransition.queueFrom {kept : PushItem → PushItem → Prop}
    (ht : ItemTransition context steps attempt h m steps' attempt' h' m')
    (hitem : w.ItemFrom kept m'.item.stored) (hqueue : w.QueueFrom kept m.workspace) :
    w.QueueFrom kept m'.workspace := by
  cases ht with
  | begin | resetLegacy | arm | succeed | fail | failUnknown | settle | advance | keepAudit
  | bookkeep => exact hqueue.writeItem hitem
  | delete => exact hqueue.deleteItem _
  | ask | cache | resolve | setFlags | call | move | receipt | name | assignAudit => exact hqueue
  | relocate | flags | recoverRelocate | writeEvidence | writeMetadata | appendToCase
  | removeDraft | removeDraftState | report | reportSuccess | newline | archiveCase =>
    exact hqueue.congr rfl

/-- The items of a push come from the queue it started with. -/
def PushPhase.From (related : PushItem → PushItem → Prop) (w : Workspace) (m : Process) :
    PushPhase → Prop
  | idle => m.workspace = w
  | reconciling items writes _ => (∀ item ∈ items, w.ItemFrom related item) ∧ writes ⊆ items
  | between remaining => ∀ item ∈ remaining, w.ItemFrom related item
  | serving _ _ remaining => w.ItemFrom related m.item ∧
      ∀ item ∈ remaining, w.ItemFrom related item

/-- How the queue and the items of a push come from the queue it started with. -/
structure PushFrom (kept related : PushItem → PushItem → Prop) (w : Workspace)
    (position : PushPosition) : Prop where
  queue : w.QueueFrom kept position.state.workspace
  phase : position.phase.From related w position.state

/-- What is kept of the items is what their transitions and their records keep. -/
theorem PushFrom.step {kept related : PushItem → PushItem → Prop}
    (hplan : ∀ planned, resolvePlannedItems context w = .ok planned →
      ∀ item ∈ planned.items, w.ItemFrom related item)
    (hstored : ∀ item record, related item record → kept item.stored record)
    (hserve : ∀ steps attempt h m steps' attempt' h' m', Serving steps attempt m →
      ItemTransition context steps attempt h m steps' attempt' h' m' →
      w.ItemFrom related m.item → w.ItemFrom related m'.item)
    {position next : PushPosition} (hconsistent : PushConsistent position)
    (hfrom : PushFrom kept related w position) (ht : PushTransition context position next) :
    PushFrom kept related w next := by
  have hrecord : ∀ item, w.ItemFrom related item → w.ItemFrom kept item.stored := by
    intro item ⟨record, hget, hrelated⟩
    exact ⟨record, hget, hstored item record hrelated⟩
  obtain ⟨hqueue, hphase⟩ := hfrom
  cases ht with
  | plan planned _ _ hplanned =>
    have hsame : _ = w := hphase
    rw [hsame] at hplanned
    exact ⟨hqueue, hplan planned hplanned, List.Subset.refl _⟩
  | reconcileWrite item writes =>
    obtain ⟨hitems, hsubset⟩ := hphase
    have hitem := hitems item (hsubset List.mem_cons_self)
    exact ⟨hqueue.writeItem (hrecord item hitem), hitems, (List.cons_subset.mp hsubset).2⟩
  | reconcileDelete item deletes => exact ⟨hqueue.deleteItem _, hphase⟩
  | reconciled => exact ⟨hqueue, hphase.1⟩
  | pick item remaining =>
    obtain ⟨hitem, hrest⟩ := List.forall_mem_cons.mp hphase
    exact ⟨hqueue, hitem, hrest⟩
  | serve ht =>
    have hitem := hserve _ _ _ _ _ _ _ _ hconsistent.phase.1 ht hphase.1
    exact ⟨ht.queueFrom (hrecord _ hitem) hqueue, hitem, hphase.2⟩
  | finish change => exact ⟨hqueue, hphase.2⟩

theorem PlannedItems.Of.itemFrom {planned : PlannedItems} (hof : planned.Of w) :
    ∀ item ∈ planned.items, w.ItemFrom PushItem.Continues item := by
  intro item hmem
  obtain ⟨record, hget, hplanned⟩ := hof.items item hmem
  exact ⟨record, hget, (PushItem.Continues.of_planned hplanned).trans .stored⟩

/-- The queue and the items of a push continue the queue it started with. -/
abbrev PushContinues (w : Workspace) (position : PushPosition) : Prop :=
  PushFrom PushItem.Continues PushItem.Continues w position

theorem PushContinues.step (hconfig : context.config.validate = .ok ())
    (hqueue : w.QueueConsistent) {position next : PushPosition}
    (hconsistent : PushConsistent position) (hcontinues : PushContinues w position)
    (ht : PushTransition context position next) : PushContinues w next := by
  apply PushFrom.step _ _ _ hconsistent hcontinues ht
  · intro planned hplanned
    exact (resolvePlannedItems_of hconfig hqueue hplanned).itemFrom
  · intro item record hitem
    exact PushItem.Continues.stored.trans hitem
  · intro _ _ _ _ _ _ _ _ hs ht hitem
    exact hitem.continues (ht.continues hs)

theorem pushContinues_of_reaches (hconfig : context.config.validate = .ok ())
    (hqueue : w.QueueConsistent)
    (hreaches : Reaches (PushTransition context) ⟨.idle, history, .start w⟩ phase h m) :
    PushContinues w ⟨phase, h, m⟩ := by
  have hstep : ∀ position next, PushConsistent position ∧ PushContinues w position →
      PushTransition context position next → PushConsistent next ∧ PushContinues w next := by
    intro position next hheld ht
    exact ⟨hheld.1.step hconfig ht, hheld.2.step hconfig hqueue hheld.1 ht⟩
  refine (hreaches.invariant ?_ hstep).2
  exact ⟨⟨hqueue, trivial⟩, .refl .refl w, rfl⟩

/-- A record is deleted only when its item is done and audited. -/
theorem ItemTransition.recordsEnded (hs : Serving steps attempt m)
    (ht : ItemTransition context steps attempt h m steps' attempt' h' m')
    (hitem : w.ItemFrom PushItem.Continues m.item) (hleft : w.RecordsEnded m.workspace) :
    w.RecordsEnded m'.workspace := by
  cases ht with
  | begin | resetLegacy | arm | succeed | fail | failUnknown | settle | advance | keepAudit
  | bookkeep => exact hleft.writeItem _
  | delete pending hpending hevent =>
    apply hleft.deleteItem
    intro item hget
    obtain ⟨record, hrecord, hcontinues⟩ := hitem
    cases hrecord.symm.trans hget
    have hkept := hs.auditKept (by simp)
    have hstage : m.item.localStage.isSome := by
      rw [hkept.mp (Option.isSome_of_eq_some hpending)]
      rfl
    exact .finished m.item pending hcontinues (hs.serves.consistent.finished hstage) hpending
      hevent
  | ask | cache | resolve | setFlags | call | move | receipt | name | assignAudit => exact hleft
  | report | reportSuccess =>
    refine hleft.congr ?_ ?_
    · rfl
    · change _ ⊆ (m.workspace.audit.appendRecord _).events
      simp
  | newline =>
    refine hleft.congr ?_ ?_
    · rfl
    · change _ ⊆ m.workspace.audit.appendNewline.events
      simp
  | relocate | flags | recoverRelocate | writeEvidence | writeMetadata | appendToCase
  | removeDraft | removeDraftState | archiveCase => exact hleft.congr rfl (List.Subset.refl _)

/-- The records that a plan leaves out had not begun. -/
def PushPhase.Discards (w : Workspace) : PushPhase → Prop
  | reconciling _ _ deletes => ∀ item ∈ deletes, item.hasStartedEffects = false ∧
      ∃ record, w.pushItems[item.pushId]? = some record ∧ record.stored = item
  | idle | between _ | serving .. => True

/-- What is gone from the queue that a push started with. -/
structure PushDiscards (w : Workspace) (position : PushPosition) : Prop where
  ended : w.RecordsEnded position.state.workspace
  phase : position.phase.Discards w

theorem PushDiscards.step (hconfig : context.config.validate = .ok ()) (hqueue : w.QueueConsistent)
    {position next : PushPosition} (hconsistent : PushConsistent position)
    (hcontinues : PushContinues w position) (hends : PushDiscards w position)
    (ht : PushTransition context position next) : PushDiscards w next := by
  obtain ⟨hleft, hphase⟩ := hends
  cases ht with
  | plan planned _ _ hplanned =>
    have hsame : _ = w := hcontinues.phase
    rw [hsame] at hplanned
    exact ⟨hleft, (resolvePlannedItems_of hconfig hqueue hplanned).skipped⟩
  | reconcileWrite item writes => exact ⟨hleft.writeItem item, hphase⟩
  | reconcileDelete item deletes =>
    obtain ⟨⟨hnot, record, hrecord, hstored⟩, hrest⟩ := List.forall_mem_cons.mp hphase
    refine ⟨hleft.deleteItem ?_, hrest⟩
    intro found hget
    cases hrecord.symm.trans hget
    subst hstored
    exact .unstarted hnot
  | reconciled | pick => exact ⟨hleft, trivial⟩
  | serve ht =>
    exact ⟨ht.recordsEnded hconsistent.phase.1 hcontinues.phase.1 hleft, trivial⟩
  | finish => exact ⟨hleft, trivial⟩

theorem pushDiscards_of_reaches (hconfig : context.config.validate = .ok ())
    (hqueue : w.QueueConsistent)
    (hreaches : Reaches (PushTransition context) ⟨.idle, history, .start w⟩ phase h m) :
    PushDiscards w ⟨phase, h, m⟩ := by
  have hstep : ∀ position next,
      (PushConsistent position ∧ PushContinues w position) ∧ PushDiscards w position →
      PushTransition context position next →
      (PushConsistent next ∧ PushContinues w next) ∧ PushDiscards w next := by
    intro position next ⟨⟨hconsistent, hcontinues⟩, hends⟩ ht
    have hnext := hcontinues.step hconfig hqueue hconsistent ht
    exact ⟨⟨hconsistent.step hconfig ht, hnext⟩,
      hends.step hconfig hqueue hconsistent hcontinues ht⟩
  refine (hreaches.invariant ?_ hstep).2
  exact ⟨⟨⟨hqueue, trivial⟩, .refl .refl w, rfl⟩, .refl w, trivial⟩

theorem PushSession.recordsEnded {w' : Workspace} (hqueue : w.QueueConsistent)
    (hsession : PushSession w events w') : w.RecordsEnded w' := by
  apply hsession.reached hqueue (.refl w)
  intro context hvalid phase h m hat
  exact (pushDiscards_of_reaches hvalid hqueue hat).ended

theorem PushSession.queueContinues {w' : Workspace} (hqueue : w.QueueConsistent)
    (hsession : PushSession w events w') : w.QueueContinues w' := by
  apply hsession.reached hqueue (.refl .refl w)
  intro context hvalid phase h m hat
  exact (pushContinues_of_reaches hvalid hqueue hat).queue

end Push
end AgentFirstMail
