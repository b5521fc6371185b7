import AgentFirstMail.PushQueue.Lifecycle
import AgentFirstMail.PushQueue.PlannedQueue
import AgentFirstMail.PushQueue.StepChange

namespace AgentFirstMail
open Effect

/-- A step is recorded as started with an unknown outcome. -/
def PushItem.OutcomeUnknown (item : PushItem) (index : Nat) : Prop :=
  ∃ state, item.stepStates[index]? = some state ∧ state.status = .remoteOutcomeUnknown ∧
    state.startedRfc3339.isSome

/-- Memory and disk both say that a step was started and that its outcome is unknown. -/
structure Process.Armed (process : Process) (index : Nat) : Prop where
  memory : process.item.OutcomeUnknown index
  disk : ∃ record, process.record? = some record ∧ record.OutcomeUnknown index

/-- What holds of the item in memory while it is served. -/
structure Serves (steps : Option (List ActionStep)) (item : PushItem) : Prop where
  consistent : item.Consistent
  planned : item.Planned
  leads : steps = none → item.Leads
  resolved : ∀ resolved, steps = some resolved → item.Resolved resolved

/-- What an attempt says of the process. -/
structure Process.Follows (m : Process) (attempt : Attempt) : Prop where
  auditKept : attempt ≠ .assigned → m.item.AuditKept
  assigned : attempt = .assigned → m.item.auditPending.isSome ∧ m.item.localStage.isSome
  current : ∀ index, attempt.index? = some index → ∃ state, m.item.Attempts index state
  armed : ∀ index, attempt.index? = some index → attempt.isArmed = true → m.Armed index

namespace Workspace

theorem QueueConsistent.writeItem {w : Workspace} (h : w.QueueConsistent)
    (hitem : item.Consistent) (haudit : item.AuditKept) :
    (w.writeItem item).QueueConsistent := by
  intro pushId record hget
  change (w.pushItems.insert item.pushId item.stored)[pushId]? = some record at hget
  rw [Std.ExtTreeMap.getElem?_insert] at hget
  split at hget
  · rename_i heq
    cases hget
    rw [Std.LawfulEqCmp.compare_eq_iff_eq] at heq
    exact ⟨heq, hitem.stored, haudit⟩
  · exact h pushId record hget

theorem QueueConsistent.deleteItem {w : Workspace} (h : w.QueueConsistent) (pushId : String) :
    (w.deleteItem pushId).QueueConsistent := by
  intro other record hget
  change (w.pushItems.erase pushId)[other]? = some record at hget
  rw [Std.ExtTreeMap.getElem?_erase] at hget
  split at hget
  · cases hget
  · exact h other record hget

theorem QueueConsistent.congr {w w' : Workspace} (h : w.QueueConsistent)
    (hpush : w'.pushItems = w.pushItems) : w'.QueueConsistent := by
  intro pushId record hget
  rw [hpush] at hget
  exact h pushId record hget

theorem writeItem_get (w : Workspace) (item : PushItem) :
    (w.writeItem item).pushItems[item.pushId]? = some item.stored :=
  Std.ExtTreeMap.getElem?_insert_self

end Workspace

theorem Process.record?_save {m : Process} {change : PushItem → PushItem} :
    (m.save change).record? = some (change m.item).stored := by
  exact Workspace.writeItem_get m.workspace (change m.item)

namespace Process.Follows
variable {m : Process} {attempt : Attempt}

theorem resting (h : m.item.AuditKept) : m.Follows .resting where
  auditKept _ := h
  assigned heq := nomatch heq
  current _ heq := nomatch heq
  armed _ heq := nomatch heq

theorem named (h : m.item.AuditKept) : m.Follows (.named eventId) where
  auditKept _ := h
  assigned heq := nomatch heq
  current _ heq := nomatch heq
  armed _ heq := nomatch heq

theorem recording (h : m.item.AuditKept) : m.Follows .recording where
  auditKept _ := h
  assigned heq := nomatch heq
  current _ heq := nomatch heq
  armed _ heq := nomatch heq

theorem congr {m' : Process} (h : m.Follows attempt) (hitem : m'.item = m.item)
    (hrecord : m'.record? = m.record?) : m'.Follows attempt := by
  refine ⟨?_, ?_, ?_, ?_⟩
  · rw [hitem]
    exact h.auditKept
  · rw [hitem]
    exact h.assigned
  · rw [hitem]
    exact h.current
  · intro index hindex harmed
    obtain ⟨hmemory, hdisk⟩ := h.armed index hindex harmed
    refine ⟨?_, ?_⟩
    · rw [hitem]
      exact hmemory
    · rw [hrecord]
      exact hdisk

theorem onWorkspace {change : Workspace → Workspace} (h : m.Follows attempt)
    (hpush : (change m.workspace).pushItems = m.workspace.pushItems) :
    (m.onWorkspace change).Follows attempt := by
  have hitem : (m.onWorkspace change).item = m.item := rfl
  apply h.congr hitem
  change (change m.workspace).pushItems[m.item.pushId]? = _
  rw [hpush]
  rfl

theorem goOn (h : m.Follows attempt) (hindex : attempt.index? = some index)
    (harmed : attempt.isArmed = true) (hnext : next.index? = some index)
    (hnot : next ≠ .assigned) : m.Follows next where
  auditKept _ := by
    apply h.auditKept
    intro heq
    rw [heq] at hindex
    cases hindex
  assigned heq := (hnot heq).elim
  current other hother := by
    rw [hnext] at hother
    cases hother
    exact h.current index hindex
  armed other hother _ := by
    rw [hnext] at hother
    cases hother
    exact h.armed index hindex harmed

end Process.Follows

namespace Serves
variable {steps : Option (List ActionStep)} {item other : PushItem}

/-- Timestamps, counters and errors do not matter. -/
theorem congr (h : Serves steps item) (hresumes : other.Resumes item)
    (hstates : other.stepStates = item.stepStates)
    (houtbound : other.plannedOutbound = item.plannedOutbound)
    (haction : other.plannedMessageAction = item.plannedMessageAction)
    (hmessage : other.plannedOutboundMessage = item.plannedOutboundMessage) :
    Serves steps other where
  consistent := h.consistent.resumes hresumes
  planned := by
    apply h.planned.congr hresumes.pushId hresumes.payload houtbound haction hmessage
    rw [hresumes.auditPending]
    exact id
  leads heq := by
    obtain ⟨hleads, hdraft⟩ := h.leads heq
    rw [PushItem.labels, ← hstates] at hleads hdraft
    refine ⟨?_, ?_⟩
    · rw [hresumes.auditPending, haction]
      exact hleads
    · rw [hresumes.auditPending, hresumes.localStage, houtbound]
      exact hdraft
  resolved resolved heq := by
    obtain ⟨hlabels, hsingle, hsteps⟩ := h.resolved resolved heq
    refine ⟨?_, hsingle, ?_⟩
    · rw [PushItem.labels, hstates]
      exact hlabels
    · rw [haction]
      exact hsteps

theorem changeStep {resolved : List ActionStep} (h : Serves (some resolved) item)
    (hstep : resolved[index]? = some step) (hcurrent : item.Attempts index state)
    (hchange : PushItem.Recolors step change) :
    Serves (some resolved) (item.modifyStepState index change) where
  consistent := h.consistent.changeStep (h.resolved _ rfl) hstep hcurrent hchange
  planned := h.planned.changeStep
  leads heq := nomatch heq
  resolved other heq := by
    cases heq
    exact (h.resolved _ rfl).changeStep h.consistent.steps.indexed hstep hchange

theorem markStepPending {resolved : List ActionStep} (h : Serves (some resolved) item)
    (haudit : item.AuditKept) (hstep : resolved[index]? = some step) (hnext : item.Next index) :
    Serves (some resolved) (item.markStepPending index step now) where
  consistent := h.consistent.markStepPending h.planned haudit (h.resolved _ rfl) hstep hnext
  planned := h.planned.markStepPending
  leads heq := nomatch heq
  resolved other heq := by
    cases heq
    exact (h.resolved _ rfl).markStepPending h.consistent.steps.indexed hstep

theorem next {resolved : List ActionStep} (h : Serves (some resolved) item)
    (hbefore : ∀ earlier < index, item.stepSucceeded earlier = true)
    (hunfinished : item.stepSucceeded index = false) : item.Next index where
  before i state hlt hget := by
    obtain ⟨found, hfound, hstatus⟩ :=
      (PushItem.stepHasStatus_iff h.consistent.steps.indexed).mp (hbefore i hlt)
    rw [hget] at hfound
    cases hfound
    exact hstatus
  unfinished state hget hstatus := by
    have hsucceeded : item.stepSucceeded index = true :=
      (PushItem.stepHasStatus_iff h.consistent.steps.indexed).mpr ⟨state, hget, hstatus⟩
    rw [hunfinished] at hsucceeded
    cases hsucceeded

theorem next_of_attempts {resolved : List ActionStep} (h : Serves (some resolved) item)
    (hcurrent : item.Attempts index state) :
    item.Next index where
  before := h.consistent.steps.before_started hcurrent.get hcurrent.started
  unfinished found hget := by
    rw [hcurrent.get] at hget
    cases hget
    exact hcurrent.unfinished

theorem localStage_none (h : Serves steps item) (hcurrent : item.Attempts index state) :
    item.localStage = none :=
  h.consistent.localStage_none (List.mem_of_getElem? hcurrent.get) hcurrent.unfinished

theorem leads_resolve {resolved : List ActionStep} (h : Serves none item)
    (haudit : item.auditPending = none) (hto : item.ResolvesTo config w resolved) :
    item.labels <+: resolved.map (·.label) := by
  have hleads := h.leads rfl
  cases hto with
  | message action _ haction hsteps =>
    rw [← hsteps]
    exact hleads.message action haudit haction
  | draft outbound _ houtbound hstage hsteps =>
    rw [← hsteps]
    exact hleads.draft outbound haudit hstage houtbound
  | refiltered outbound _ houtbound hstage hsteps =>
    have hnil := hleads.draft outbound haudit hstage houtbound
    rw [hsteps, List.map_nil, List.prefix_nil] at hnil
    rw [hnil]
    exact List.nil_prefix

end Serves

namespace PushItem
variable {item : PushItem} {resolved : List ActionStep}

theorem message_eq_some {message : MessagePush} :
    item.message = some message ↔ item.payload = .message message := by
  unfold PushItem.message
  split <;> simp_all

theorem ResolvesTo.kinds (hto : item.ResolvesTo config w resolved) :
    (∃ message action, item.payload = .message message ∧
      item.plannedMessageAction = some action ∧ action.steps = resolved) ∨
    ∃ draft, item.payload = .draft draft ∧ item.localStage = none := by
  cases hpayload : item.payload with
  | message message =>
    cases hto with
    | message action _ haction hsteps => exact .inl ⟨message, action, rfl, haction, hsteps⟩
    | draft outbound hkind => simp [PushItem.kind, hpayload] at hkind
    | refiltered outbound hkind => simp [PushItem.kind, hpayload] at hkind
  | draft draft =>
    right
    refine ⟨draft, rfl, ?_⟩
    cases hto with
    | message action hkind => simp [PushItem.kind, hpayload] at hkind
    | draft outbound _ _ hstage => exact hstage
    | refiltered outbound _ _ hstage => exact hstage

theorem Planned.single (h : item.Planned) (hconfig : config.validate = .ok ())
    (haudit : item.auditPending = none) (hto : item.ResolvesTo config w resolved) :
    ∀ step ∈ resolved, step.opCount = 1 := by
  cases h with
  | reported hpending =>
    rw [haudit] at hpending
    cases hpending
  | message message action hpayload _ haction hfor =>
    cases hto.kinds with
    | inl hmessage =>
      obtain ⟨_, other, _, hother, hsteps⟩ := hmessage
      cases haction.symm.trans hother
      rw [← hsteps]
      exact hfor.single
    | inr hdraft =>
      obtain ⟨draft, hdraft, _⟩ := hdraft
      cases hpayload.symm.trans hdraft
  | draft draft outbound hpayload haction houtbound _ hsingle =>
    cases hto with
    | message other _ hother => cases haction.symm.trans hother
    | draft other _ hother _ hsteps =>
      cases houtbound.symm.trans hother
      rw [← hsteps]
      exact hsingle
    | refiltered other _ _ _ _ hfilter =>
      exact filterReplyToSteps_single (configuredOutboundSteps_single hconfig _) hfilter

theorem Planned.action_steps (h : item.Planned) (haudit : item.auditPending = none)
    (hto : item.ResolvesTo config w resolved) :
    ∀ action, item.plannedMessageAction = some action → action.steps = resolved := by
  intro action heq
  cases hto.kinds with
  | inl hmessage =>
    obtain ⟨_, other, _, hother, hsteps⟩ := hmessage
    cases heq.symm.trans hother
    exact hsteps
  | inr hdraft =>
    obtain ⟨draft, hpayload, _⟩ := hdraft
    cases h with
    | reported hpending =>
      rw [haudit] at hpending
      cases hpending
    | message message other hother => cases hpayload.symm.trans hother
    | draft other outbound _ hnone => cases hnone.symm.trans heq

theorem Consistent.labels_of_frozen {message : MessagePush} {frozen : MessageActionPush}
    (h : item.Consistent) (hplanned : item.Planned)
    (haudit : item.auditPending = none) (hto : item.ResolvesTo config w resolved)
    (hmessage : item.message = some message)
    (hsnapshot : message.messageActionSnapshot = some frozen) :
    item.labels = resolved.map (·.label) := by
  have hpayload := message_eq_some.mp hmessage
  rw [((h.frozen message hmessage).action frozen hsnapshot).2]
  cases hplanned with
  | reported hpending =>
    rw [haudit] at hpending
    cases hpending
  | message other action hother houtbound haction hfor hagrees =>
    cases hpayload.symm.trans hother
    have hsteps := (Planned.message message action hother houtbound haction hfor hagrees).action_steps
      haudit hto action haction
    rw [hagrees frozen hsnapshot, hsteps]
  | draft draft outbound hother => cases hpayload.symm.trans hother

theorem Consistent.labels_of_stage (h : item.Consistent) (hplanned : item.Planned)
    (haudit : item.auditPending = none) (hto : item.ResolvesTo config w resolved)
    (hstage : item.localStage.isSome) : item.labels = resolved.map (·.label) := by
  cases hto.kinds with
  | inl hmessage =>
    obtain ⟨message, action, hpayload, _⟩ := hmessage
    have hmessage := message_eq_some.mpr hpayload
    have hstarted := (h.frozen message hmessage).started
    have heffects : item.hasStartedEffects = true := by
      rw [hasStartedEffects, hstage, Bool.or_true, Bool.true_or]
    rw [heffects] at hstarted
    obtain ⟨frozen, hsnapshot⟩ := Option.isSome_iff_exists.mp hstarted.symm
    exact h.labels_of_frozen hplanned haudit hto hmessage hsnapshot
  | inr hdraft =>
    obtain ⟨draft, _, hnone⟩ := hdraft
    rw [hnone] at hstage
    cases hstage

end PushItem

theorem unstarted_plannedFrom (start : Nat) (steps : List ActionStep) :
    ∀ state ∈ plannedFrom start steps, state.started = false := by
  intro state hmem
  obtain ⟨index, step, rfl⟩ := mem_plannedFrom hmem
  rfl

namespace Serves
variable {item : PushItem} {resolved : List ActionStep}

theorem resolve_stepStates (h : Serves none item) (haudit : item.auditPending = none)
    (hto : item.ResolvesTo config w resolved) :
    (item.ensureStepStates resolved).stepStates = item.stepStates ++
      plannedFrom item.stepStates.length (resolved.drop item.stepStates.length) := by
  apply PushItem.ensureStepStates_stepStates h.consistent.steps.indexed
  have hlength := (h.leads_resolve haudit hto).length_le
  rw [PushItem.labels, List.length_map, List.length_map] at hlength
  exact hlength

theorem resolve_labels (h : Serves none item) (haudit : item.auditPending = none)
    (hto : item.ResolvesTo config w resolved) :
    (item.ensureStepStates resolved).labels = resolved.map (·.label) := by
  have happend := List.prefix_iff_eq_append.mp (h.leads_resolve haudit hto)
  rw [PushItem.labels, List.length_map, ← List.map_drop] at happend
  rw [PushItem.labels, h.resolve_stepStates haudit hto, List.map_append, labels_plannedFrom]
  exact happend

theorem resolve_hasStartedEffects (h : Serves none item) (haudit : item.auditPending = none)
    (hto : item.ResolvesTo config w resolved) :
    (item.ensureStepStates resolved).hasStartedEffects = item.hasStartedEffects := by
  have hnone : (plannedFrom item.stepStates.length
      (resolved.drop item.stepStates.length)).any PushStepState.started = false := by
    rw [List.any_eq_false]
    intro state hmem
    rw [unstarted_plannedFrom _ _ state hmem]
    exact Bool.false_ne_true
  change ((item.ensureStepStates resolved).stepStates.any PushStepState.started ||
    item.localStage.isSome || item.auditPending.isSome) =
    (item.stepStates.any PushStepState.started || item.localStage.isSome ||
      item.auditPending.isSome)
  rw [h.resolve_stepStates haudit hto, List.any_append, hnone, Bool.or_false]

theorem resolve_consistent (h : Serves none item) (haudit : item.auditPending = none)
    (hto : item.ResolvesTo config w resolved) :
    (item.ensureStepStates resolved).Consistent where
  steps := by
    rw [h.resolve_stepStates haudit hto]
    exact h.consistent.steps.append (indexed_plannedFrom _ _) (unstarted_plannedFrom _ _)
  finished := by
    intro hstage
    have hlabels := h.consistent.labels_of_stage h.planned haudit hto hstage
    have hlength := congrArg List.length hlabels
    rw [PushItem.labels, List.length_map, List.length_map] at hlength
    have hdrop : resolved.drop item.stepStates.length = [] := List.drop_eq_nil_of_le hlength.ge
    rw [h.resolve_stepStates haudit hto, hdrop, plannedFrom, List.zipIdx_nil, List.map_nil,
      List.append_nil]
    exact h.consistent.finished hstage
  frozen := by
    intro message hmessage
    have hfrozen := h.consistent.frozen message hmessage
    refine ⟨hfrozen.pushId, ?_, ?_⟩
    · rw [h.resolve_hasStartedEffects haudit hto, hfrozen.started]
    · intro action hsnapshot
      obtain ⟨hfor, hlabels⟩ := hfrozen.action action hsnapshot
      refine ⟨hfor, ?_⟩
      rw [h.resolve_labels haudit hto, ← hlabels]
      exact (h.consistent.labels_of_frozen h.planned haudit hto hmessage hsnapshot).symm

theorem resolve (h : Serves none item) (hconfig : config.validate = .ok ())
    (haudit : item.auditPending = none) (hto : item.ResolvesTo config w resolved) :
    Serves (some resolved) (item.ensureStepStates resolved) where
  consistent := h.resolve_consistent haudit hto
  planned := h.planned.congr rfl rfl rfl rfl rfl id
  leads heq := nomatch heq
  resolved other heq := by
    cases heq
    exact ⟨h.resolve_labels haudit hto, h.planned.single hconfig haudit hto,
      h.planned.action_steps haudit hto⟩

end Serves
end AgentFirstMail
