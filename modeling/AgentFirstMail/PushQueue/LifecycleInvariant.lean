import AgentFirstMail.PushQueue.Serving

namespace AgentFirstMail
open Effect
variable {context : PushExecutionContext} {steps steps' : Option (List ActionStep)}
  {attempt attempt' : Attempt} {h h' : List RemoteEvent} {m m' : Process}

/-- What holds while an item is served. -/
structure Serving (steps : Option (List ActionStep)) (attempt : Attempt) (m : Process) : Prop where
  serves : Serves steps m.item
  follows : m.Follows attempt
  queue : m.workspace.QueueConsistent

namespace Serving

theorem auditKept (hs : Serving steps attempt m) (hne : attempt ≠ .assigned) :
    m.item.AuditKept := hs.follows.auditKept hne

theorem onWorkspace (change : Workspace → Workspace) (hs : Serving steps attempt m)
    (hpush : (change m.workspace).pushItems = m.workspace.pushItems) :
    Serving steps attempt (m.onWorkspace change) :=
  ⟨hs.serves, hs.follows.onWorkspace hpush, hs.queue.congr hpush⟩

theorem save {change : PushItem → PushItem} (hs : Serving steps attempt m)
    (hserves : Serves steps' (change m.item)) (haudit : (change m.item).AuditKept) :
    Serving steps' .resting (m.save change) :=
  ⟨hserves, .resting haudit, hs.queue.writeItem hserves.consistent haudit⟩

theorem saveCurrent {change : PushItem → PushItem} (hs : Serving steps attempt m)
    (hserves : Serves steps' (change m.item)) (haudit : (change m.item).AuditKept)
    (hcurrent : (change m.item).Attempts index state)
    (harmed : armed = true → (change m.item).OutcomeUnknown index) :
    Serving steps' (.attempting index armed) (m.save change) := by
  refine ⟨hserves, ⟨fun _ => haudit, fun heq => (nomatch heq), ?_, ?_⟩,
    hs.queue.writeItem hserves.consistent haudit⟩
  · intro other heq
    cases heq
    exact ⟨state, hcurrent⟩
  · intro other heq hflag
    cases heq
    exact ⟨harmed hflag, _, Process.record?_save, harmed hflag⟩

theorem current (hs : Serving steps attempt m) (hindex : attempt.index? = some index) :
    ∃ state, m.item.Attempts index state := hs.follows.current index hindex

theorem changeStep {resolved : List ActionStep} {now : String} {lastError : Option String}
    (hs : Serving (some resolved) attempt m) (haudit : m.item.AuditKept)
    (hstep : resolved[index]? = some step) (hcurrent : m.item.Attempts index state)
    (hchange : PushItem.Recolors step change) :
    Serving (some resolved) .resting (m.save fun item =>
      { item.modifyStepState index change with updatedRfc3339 := now, lastError }) := by
  apply hs.save
  · exact (hs.serves.changeStep hstep hcurrent hchange).congr ⟨rfl, rfl, rfl, rfl, rfl, .inl rfl⟩
      rfl rfl rfl rfl
  · exact haudit

theorem unknown (hs : Serving (some resolved) attempt m)
    (hunknown : m.item.stepRemoteOutcomeUnknown index = true) :
    ∃ state, m.item.Attempts index state ∧ state.status = .remoteOutcomeUnknown :=
  PushItem.attempts_of_unknown hs.serves.consistent.steps.indexed hunknown

theorem ne_assigned (hindex : attempt.index? = some index) : attempt ≠ .assigned := by
  intro heq
  rw [heq] at hindex
  cases hindex

/-- Local finalization moves on from a finished stage. -/
theorem advance (hs : Serving steps attempt m) (stage : PushLocalStage)
    (hbefore : m.item.localStageAtLeast stage = false) (hready : StageReady steps attempt m stage) :
    Serving steps .resting (m.save fun item =>
      { item with localStage := some stage, updatedRfc3339 := now }) := by
  have hstage : stage ≠ .remoteSucceeded → m.item.localStage.isSome := by
    intro hne
    cases stage with
    | remoteSucceeded => exact (hne rfl).elim
    | outboundRecorded => exact hready.2.1
    | draftRemoved => exact PushItem.localStage_of_atLeast hready.2
    | pendingCleared => exact hready.2.1
    | auditPending => exact (hs.follows.assigned hready).2
  have hfinished : ∀ state ∈ m.item.stepStates, state.status = .succeeded := by
    by_cases hfirst : stage = .remoteSucceeded
    · subst hfirst
      exact hready.2.2
    · exact hs.serves.consistent.finished (hstage hfirst)
  have hstarted : ∀ message, m.item.message = some message → m.item.hasStartedEffects = true := by
    intro message hmessage
    by_cases hfirst : stage = .remoteSucceeded
    · subst hfirst
      obtain ⟨resolved, hsteps⟩ := Option.isSome_iff_exists.mp hready.2.1
      have hres := hs.serves.resolved resolved hsteps
      have haudit := hs.auditKept (by rw [hready.1]; simp)
      cases hnone : m.item.localStage with
      | some current =>
        rw [PushItem.hasStartedEffects, hnone, Option.isSome_some, Bool.or_true, Bool.true_or]
      | none =>
        obtain ⟨action, haction, hfor, _⟩ := hs.serves.planned.snapshot haudit hnone
          (PushItem.message_eq_some.mp hmessage)
        have hlength := hres.length
        rw [← hres.action action haction] at hlength
        cases hstates : m.item.stepStates with
        | nil =>
          rw [hstates, List.length_nil] at hlength
          exact (hfor.steps (List.length_eq_zero_iff.mp hlength.symm)).elim
        | cons state rest =>
          have hmem : state ∈ m.item.stepStates := by
            rw [hstates]
            exact List.mem_cons_self
          apply PushItem.started_of_mem hmem
          apply PushItem.started_of_status
          rw [hfinished state hmem]
          intro heq
          cases heq
    · rw [PushItem.hasStartedEffects, hstage hfirst, Bool.or_true, Bool.true_or]
  apply hs.save
  · refine ⟨⟨hs.serves.consistent.steps, fun _ => hfinished, ?_⟩, ?_, ?_, ?_⟩
    · intro message hmessage
      have hfrozen := hs.serves.consistent.frozen message hmessage
      refine ⟨hfrozen.pushId, ?_, hfrozen.action⟩
      rw [← hfrozen.started, hstarted message hmessage, PushItem.hasStartedEffects,
        Option.isSome_some, Bool.or_true, Bool.true_or]
    · exact hs.serves.planned.congr rfl rfl rfl rfl rfl id
    · intro heq
      exact ⟨(hs.serves.leads heq).message, fun outbound _ hnone => by cases hnone⟩
    · intro resolved heq
      obtain ⟨hlabels, hsingle, haction⟩ := hs.serves.resolved resolved heq
      exact ⟨hlabels, hsingle, haction⟩
  · by_cases hlast : stage = .auditPending
    · subst hlast
      exact ⟨fun _ => rfl, fun _ => (hs.follows.assigned hready).1⟩
    · have hrest : attempt = .resting := by
        cases stage with
        | auditPending => exact (hlast rfl).elim
        | remoteSucceeded | outboundRecorded | draftRemoved | pendingCleared => exact hready.1
      have haudit := hs.auditKept (by rw [hrest]; simp)
      constructor
      · intro hpending
        rw [PushItem.localStageAtLeast, haudit.mp hpending] at hbefore
        cases stage <;> simp [PushLocalStage.rank] at hbefore
      · intro heq
        exact (hlast (Option.some.inj heq)).elim

theorem receipt {resolved : List ActionStep} {receipt : SendReceipt}
    (hs : Serving (some resolved) attempt m) (hstep : resolved[index]? = some step)
    (hindex : attempt.index? = some index) :
    Serving (some resolved) attempt (m.onItem (·.modifyStepState index fun state =>
      { state with sendReceipt := some receipt })) := by
  obtain ⟨state, hcurrent⟩ := hs.current hindex
  have hget := PushItem.modifyStepState_get (fun state : PushStepState =>
    { state with sendReceipt := some receipt }) hs.serves.consistent.steps.indexed hcurrent.get
  refine ⟨hs.serves.changeStep hstep hcurrent (PushItem.recolors_sendReceipt step receipt),
    ⟨hs.follows.auditKept, hs.follows.assigned, ?_, ?_⟩, hs.queue⟩
  · intro other hother
    rw [hindex] at hother
    cases hother
    exact ⟨_, hget, hcurrent.started, hcurrent.unfinished⟩
  · intro other hother harmed
    rw [hindex] at hother
    cases hother
    obtain ⟨⟨found, hfound, hstatus, hstarted⟩, hdisk⟩ := hs.follows.armed index hindex harmed
    rw [hcurrent.get] at hfound
    cases hfound
    exact ⟨⟨_, hget, hstatus, hstarted⟩, hdisk⟩

theorem assignAudit {pending : PushAuditPending} (hs : Serving steps (.named eventId) m)
    (hstage : m.item.localStageAtLeast .pendingCleared = true) :
    Serving steps .assigned (m.onItem fun item => { item with auditPending := some pending }) := by
  have hsome := PushItem.localStage_of_atLeast hstage
  have hstarted : m.item.hasStartedEffects = true := by
    rw [PushItem.hasStartedEffects, hsome, Bool.or_true, Bool.true_or]
  refine ⟨⟨⟨hs.serves.consistent.steps, hs.serves.consistent.finished, ?_⟩, .reported rfl, ?_, ?_⟩,
    ⟨fun hne => (hne rfl).elim, fun _ => ⟨rfl, hsome⟩, fun _ heq => (by cases heq),
      fun _ heq => (by cases heq)⟩, hs.queue⟩
  · intro message hmessage
    have hfrozen := hs.serves.consistent.frozen message hmessage
    refine ⟨hfrozen.pushId, ?_, hfrozen.action⟩
    rw [← hfrozen.started, hstarted]
    exact Bool.or_true _
  · intro _
    exact ⟨fun _ hnone => (by cases hnone), fun _ hnone => (by cases hnone)⟩
  · intro resolved heq
    obtain ⟨hlabels, hsingle, haction⟩ := hs.serves.resolved resolved heq
    exact ⟨hlabels, hsingle, haction⟩

theorem keepAudit {change : PushAuditPending → PushAuditPending} {lastError : Option String}
    (hs : Serving steps .resting m) (hpending : m.item.auditPending.isSome) :
    Serving steps .resting (m.save fun item =>
      { item with auditPending := item.auditPending.map change, lastError }) := by
  obtain ⟨pending, hsome⟩ := Option.isSome_iff_exists.mp hpending
  have hmap : (m.item.auditPending.map change).isSome = m.item.auditPending.isSome :=
    Option.isSome_map
  apply hs.save
  · refine ⟨⟨hs.serves.consistent.steps, hs.serves.consistent.finished, ?_⟩, .reported ?_, ?_, ?_⟩
    · intro message hmessage
      have hfrozen := hs.serves.consistent.frozen message hmessage
      refine ⟨hfrozen.pushId, ?_, hfrozen.action⟩
      rw [← hfrozen.started]
      change (_ || _ || (m.item.auditPending.map change).isSome) = _
      rw [hmap]
      rfl
    · exact hmap.trans hpending
    · intro _
      refine ⟨fun action hnone => ?_, fun outbound hnone => ?_⟩
      · change m.item.auditPending.map change = none at hnone
        rw [hsome] at hnone
        cases hnone
      · change m.item.auditPending.map change = none at hnone
        rw [hsome] at hnone
        cases hnone
    · intro resolved heq
      obtain ⟨hlabels, hsingle, haction⟩ := hs.serves.resolved resolved heq
      exact ⟨hlabels, hsingle, haction⟩
  · change (m.item.auditPending.map change).isSome ↔ m.item.localStage = _
    rw [hmap]
    exact hs.auditKept (by simp)

/-- Every transition keeps what holds while an item is served. -/
theorem step (hconfig : context.config.validate = .ok ()) (hs : Serving steps attempt m)
    (ht : ItemTransition context steps attempt h m steps' attempt' h' m') :
    Serving steps' attempt' m' := by
  cases ht with
  | ask | setFlags => exact hs
  | cache mailboxes => exact ⟨hs.serves, hs.follows.congr rfl rfl, hs.queue⟩
  | resolve resolved hnone hto =>
    exact ⟨hs.serves.resolve hconfig hnone hto, .resting (hs.auditKept (by simp)), hs.queue⟩
  | begin index step hstep hbefore hunfinished hknown =>
    have hindexed := hs.serves.consistent.steps.indexed
    obtain ⟨state, hget⟩ := (hs.serves.resolved _ rfl).exists_state hstep
    have hcurrent : (m.item.markStepPending index step context.host.now).Attempts index
        (state.markPending step context.host.now) :=
      PushItem.attempts_markStepPending hindexed hget
    refine hs.saveCurrent ?_ ?_ hcurrent ?_
    · exact hs.serves.markStepPending (hs.auditKept (by simp)) hstep (hs.serves.next hbefore hunfinished)
    · exact (hs.auditKept (by simp)).markStepPending
    · intro heq
      cases heq
  | resetLegacy index step hstep hbefore hunknown hlegacy =>
    obtain ⟨state, hcurrent, _⟩ := hs.unknown hunknown
    apply hs.save
    · exact (hs.serves.markStepPending (hs.auditKept (by simp)) hstep (hs.serves.next_of_attempts hcurrent)).congr
        ⟨rfl, rfl, rfl, rfl, rfl, .inl rfl⟩ rfl rfl rfl rfl
    · have hkept : (m.item.markStepPending index step context.host.now).AuditKept :=
        (hs.auditKept (by simp)).markStepPending
      exact hkept
  | arm index step hstep =>
    obtain ⟨state, hcurrent⟩ := hs.current rfl
    have hget := PushItem.modifyStepState_get (·.markRemoteOutcomeUnknown step none
      context.host.now) hs.serves.consistent.steps.indexed hcurrent.get
    apply hs.saveCurrent
    · exact (hs.serves.changeStep hstep hcurrent
        (PushItem.recolors_markRemoteOutcomeUnknown step none _)).congr
          ⟨rfl, rfl, rfl, rfl, rfl, .inl rfl⟩ rfl rfl rfl rfl
    · exact hs.auditKept (by simp)
    · exact ⟨hget, rfl, fun heq => nomatch heq⟩
    · exact fun _ => ⟨_, hget, rfl, rfl⟩
  | call index step unit event hstate hsite hwhole =>
    refine ⟨hs.serves, hs.follows.goOn rfl rfl ?_ ?_, hs.queue⟩
    · split <;> rfl
    · split <;> simp
  | move index step mailboxId source target rfc822MessageId reply =>
    refine ⟨hs.serves, hs.follows.goOn rfl rfl ?_ ?_, hs.queue⟩
    · unfold Attempt.afterMove
      split
      · rfl
      · split <;> rfl
      · rfl
    · unfold Attempt.afterMove
      split
      · simp
      · split <;> simp
      · simp
  | relocate index source target locations =>
    have hnext := hs.onWorkspace (·.setMessageRemote source.messageId locations) rfl
    exact ⟨hnext.serves, hnext.follows.goOn rfl rfl rfl (by simp), hnext.queue⟩
  | flags index step place flags => exact hs.onWorkspace _ rfl
  | receipt index step receipt hstep hindex => exact hs.receipt hstep hindex
  | succeed index step hstep hindex =>
    obtain ⟨state, hcurrent⟩ := hs.current hindex
    exact hs.changeStep (hs.auditKept (ne_assigned hindex)) hstep hcurrent
      (PushItem.recolors_markSucceeded step _)
  | fail index step error hstep =>
    obtain ⟨state, hcurrent⟩ := hs.current rfl
    exact hs.changeStep (hs.auditKept (by simp)) hstep hcurrent (PushItem.recolors_markFailed step error _)
  | failUnknown index step error hstep hindex =>
    obtain ⟨state, hcurrent⟩ := hs.current hindex
    exact hs.changeStep (hs.auditKept (ne_assigned hindex)) hstep hcurrent
      (PushItem.recolors_markRemoteOutcomeUnknown step (some error) _)
  | recoverRelocate index messageId locations => exact hs.onWorkspace _ rfl
  | settle index step hstep hunknown =>
    obtain ⟨state, hcurrent, _⟩ := hs.unknown hunknown
    exact hs.changeStep (hs.auditKept (by simp)) hstep hcurrent (PushItem.recolors_markSucceeded step _)
  | advance stage hbefore hready => exact hs.advance stage hbefore hready
  | writeEvidence prepared rfc822MessageId => exact hs.onWorkspace _ rfl
  | writeMetadata prepared => exact hs.onWorkspace _ rfl
  | appendToCase prepared caseUid summary => exact hs.onWorkspace _ rfl
  | removeDraft outbound => exact hs.onWorkspace _ rfl
  | removeDraftState outbound => exact hs.onWorkspace _ rfl
  | name eventId => exact ⟨hs.serves, .named (hs.auditKept (by simp)), hs.queue⟩
  | assignAudit eventId hnone hstage => exact hs.assignAudit hstage
  | report event hkind =>
    have hnext := hs.onWorkspace (·.appendAuditRecord event) rfl
    exact ⟨hnext.serves, .recording (hs.auditKept (by simp)), hnext.queue⟩
  | reportSuccess pending log =>
    have hnext := hs.onWorkspace (·.appendAuditRecord (succeededEvent m.item pending)) rfl
    exact ⟨hnext.serves, .recording (hs.auditKept (by simp)), hnext.queue⟩
  | newline =>
    have hnext := hs.onWorkspace (·.appendAuditNewline) rfl
    exact ⟨hnext.serves, .resting (hs.auditKept (by simp)), hnext.queue⟩
  | delete pending => exact ⟨hs.serves, .resting (hs.auditKept (by simp)), hs.queue.deleteItem _⟩
  | archiveCase caseUid => exact hs.onWorkspace _ rfl
  | keepAudit error hpending => exact hs.keepAudit hpending
  | bookkeep error hnone =>
    apply hs.save
    · exact hs.serves.congr ⟨rfl, rfl, rfl, rfl, rfl, .inl rfl⟩ rfl rfl rfl rfl
    · exact hs.auditKept (by simp)

end Serving

/-- A planned item that was not picked yet. -/
structure PushItem.Ready (item : PushItem) : Prop where
  consistent : item.Consistent
  auditKept : item.AuditKept
  planned : item.Planned
  leads : item.Leads

/-- What holds of a process in each phase of a push. -/
def PushPhase.Holds (m : Process) : PushPhase → Prop
  | idle => True
  | reconciling items writes _ => (∀ item ∈ items, item.Ready) ∧ writes ⊆ items
  | between remaining => ∀ item ∈ remaining, item.Ready
  | serving steps attempt remaining =>
    Serving steps attempt m ∧ ∀ item ∈ remaining, item.Ready

structure PushConsistent (position : PushPosition) : Prop where
  queue : position.state.workspace.QueueConsistent
  phase : position.phase.Holds position.state

theorem PlannedItems.Of.ready {planned : PlannedItems} {w : Workspace} (h : planned.Of w)
    (hqueue : w.QueueConsistent) : ∀ item ∈ planned.items, item.Ready := by
  intro item hmem
  obtain ⟨record, hget, hplanned⟩ := h.items item hmem
  have hrecord := hqueue item.pushId record hget
  have hkept : record.stored.AuditKept := hrecord.auditKept
  exact ⟨hrecord.consistent.stored.resumes hplanned.resumes,
    PushItem.AuditKept.resumes hkept hplanned.resumes,
    hplanned.planned, hplanned.leads⟩

theorem PushConsistent.step (hconfig : context.config.validate = .ok ())
    {position next : PushPosition} (hp : PushConsistent position)
    (ht : PushTransition context position next) : PushConsistent next := by
  obtain ⟨hqueue, hphase⟩ := hp
  cases ht with
  | plan planned hsame hvalid hplanned =>
    have hof := resolvePlannedItems_of hconfig hqueue hplanned
    exact ⟨hqueue, hof.ready hqueue, List.Subset.refl _⟩
  | reconcileWrite item writes =>
    obtain ⟨hready, hsubset⟩ := hphase
    have hitem := hready item (hsubset List.mem_cons_self)
    exact ⟨hqueue.writeItem hitem.consistent hitem.auditKept, hready,
      (List.cons_subset.mp hsubset).2⟩
  | reconcileDelete item deletes => exact ⟨hqueue.deleteItem _, hphase⟩
  | reconciled => exact ⟨hqueue, hphase.1⟩
  | pick item remaining =>
    obtain ⟨hitem, hrest⟩ := List.forall_mem_cons.mp hphase
    have hserves : Serves none item :=
      ⟨hitem.consistent, hitem.planned, fun _ => hitem.leads, fun _ heq => nomatch heq⟩
    exact ⟨hqueue, ⟨hserves, .resting hitem.auditKept, hqueue⟩, hrest⟩
  | serve ht =>
    have hnext := hphase.1.step hconfig ht
    exact ⟨hnext.queue, hnext, hphase.2⟩
  | finish change => exact ⟨hqueue, hphase.2⟩

theorem pushConsistent_of_reaches (hconfig : context.config.validate = .ok ()) {w : Workspace}
    (hqueue : w.QueueConsistent)
    (hreaches : Reaches (PushTransition context) ⟨.idle, history, .start w⟩ phase h m) :
    PushConsistent ⟨phase, h, m⟩ :=
  hreaches.invariant ⟨hqueue, trivial⟩ fun _ _ hp ht => hp.step hconfig ht

end AgentFirstMail
