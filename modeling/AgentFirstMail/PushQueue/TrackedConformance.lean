import AgentFirstMail.PushQueue.ExecuteConformance

namespace AgentFirstMail
open Effect Command
variable {context : PushExecutionContext} {start : PushPosition} {remaining : List PushItem}
  {steps : Option (List ActionStep)} {resolved : List ActionStep} {attempt : Attempt}
  {index : Nat} {step : ActionStep} {armed : Bool} {h : List RemoteEvent} {m : Process}
  {abort : AppError → ProcessFact}

/-- The item rests between two of its steps. -/
structure Rests (context : PushExecutionContext) (start : PushPosition)
    (steps : Option (List ActionStep)) (remaining : List PushItem) (h : List RemoteEvent)
    (m : Process) : Prop where
  at_ : At context start (.serving steps .resting remaining) h m
  unreported : m.item.auditPending = none

/-- How serving an item may fail: it rests, and it is not to be reported as finished. -/
def ItemAborts (context : PushExecutionContext) (start : PushPosition)
    (remaining : List PushItem) : AppError → ProcessFact :=
  fun _ h m => ∃ steps, Rests context start steps remaining h m

/-- The steps before one of the item's steps succeeded. -/
structure Ran (context : PushExecutionContext) (start : PushPosition)
    (resolved : List ActionStep) (remaining : List PushItem) (index : Nat)
    (h : List RemoteEvent) (m : Process) : Prop where
  rests : Rests context start (some resolved) remaining h m
  before : ∀ earlier < index, m.item.stepSucceeded earlier = true

theorem Ran.aborts (hran : Ran context start resolved remaining index h m) (error : AppError) :
    ItemAborts context start remaining error h m := ⟨_, hran.rests⟩

theorem PushItem.Consistent.succeeded_before {item : PushItem} (hitem : item.Consistent)
    (hget : item.stepStates[index]? = some state) (hstarted : state.started = true) :
    ∀ earlier < index, item.stepSucceeded earlier = true := by
  intro earlier hlt
  have hlength := (List.getElem?_eq_some_iff.mp hget).1
  have hearlier : item.stepStates[earlier]? = some item.stepStates[earlier] :=
    List.getElem?_eq_getElem (by omega)
  apply (PushItem.stepHasStatus_iff hitem.steps.indexed).mpr
  exact ⟨_, hearlier, hitem.steps.before_started hget hstarted earlier _ hlt hearlier⟩

theorem PushItem.Consistent.succeeded_upTo {item : PushItem} (hitem : item.Consistent)
    (hsucceeded : item.stepSucceeded index = true) :
    ∀ earlier < index + 1, item.stepSucceeded earlier = true := by
  intro earlier hlt
  by_cases heq : earlier = index
  · rw [heq]
    exact hsucceeded
  · obtain ⟨state, hget, hstatus⟩ :=
      (PushItem.stepHasStatus_iff hitem.steps.indexed).mp hsucceeded
    apply hitem.succeeded_before hget _ earlier (by omega)
    apply PushItem.started_of_status
    rw [hstatus]
    intro hpending
    cases hpending

theorem wp_persistStepSucceeded
    {post : Unit → ProcessFact}
    (hsound : Sound context start)
    (hat : At context start (.serving (some resolved) attempt remaining) h m)
    (ht : ∀ change, change = (fun item : PushItem =>
        { item.markStepSucceeded index step context.host.now with
          updatedRfc3339 := context.host.now, lastError := none }) →
      ItemTransition context (some resolved) attempt h m (some resolved) .resting h
        (m.save change))
    (hcurrent : m.item.Attempts index state) (hunreported : m.item.auditPending = none)
    (hpost : ∀ m', Ran context start resolved remaining (index + 1) h m' → post () h m') :
    Program.wp (Path context start) post abort (persistStepSucceeded context index step) h m := by
  apply wp_saveItem hat (ht _ rfl)
  intro hnext
  have hitem := (hsound.serving hnext).serves.consistent
  apply hpost
  refine ⟨⟨hnext, hunreported⟩, hitem.succeeded_upTo ?_⟩
  apply (PushItem.stepHasStatus_iff hitem.steps.indexed).mpr
  exact ⟨_, PushItem.modifyStepState_get _ (hsound.serving hat).serves.consistent.steps.indexed
    hcurrent.get, rfl⟩

theorem wp_refreshAfterSuccessfulStep
    (hran : Ran context start resolved remaining index h m) :
    Program.wp (Path context start)
      (fun _ h' m' => Ran context start resolved remaining index h' m')
      (ItemAborts context start remaining) (refreshAfterSuccessfulStep context step) h m := by
  unfold refreshAfterSuccessfulStep
  apply wp_currentItem_bind.mpr
  apply wp_workspace_bind.mpr
  apply wp_check_bind
  · intro messageIds _
    unfold refreshMessagePushViews
    split
    · exact hran
    · apply wp_workspace_bind.mpr
      apply wp_check
      · intro _ _
        exact hran
      · intro error _
        exact hran.aborts error
  · intro error _
    exact hran.aborts error

section Attempts

theorem wp_persistStepError {error : AppError}
    {post : Unit → ProcessFact}
    (hsound : Sound context start) (hstep : resolved[index]? = some step)
    (haborts : StepAborts context start resolved remaining index error h m) :
    Program.wp (Path context start) post (ItemAborts context start remaining)
      (persistStepError context index step error) h m := by
  obtain ⟨attempt, hat, hindex, hnotApplied, hlegacy⟩ := haborts
  have hs := hsound.serving hat
  have hunreported := hs.auditPending_none hindex
  unfold persistStepError
  apply wp_currentItem_bind.mpr
  split
  · rename_i huncertain
    have hunknown := (Bool.and_eq_true_iff.mp huncertain).1
    apply wp_then
    apply wp_saveItem hat (.failUnknown index step error hstep hindex hunknown hlegacy)
    intro hnext
    exact ⟨_, hnext, hunreported⟩
  · rename_i hcertain
    have hattempting : ∃ armed, attempt = .attempting index armed := by
      cases hnotApplied with
      | inl hattempting => exact hattempting
      | inr happlied =>
        -- an attempt that applied something has its unknown outcome on disk
        by_contra hnot
        have harmed : attempt.isArmed = true := by
          cases attempt with
          | attempting other armed =>
            cases hindex
            exact (hnot ⟨armed, rfl⟩).elim
          | moving | applied => rfl
          | resting | named | assigned | recording => cases hindex
        obtain ⟨state, hget, hstatus, _⟩ := (hs.follows.armed index hindex harmed).memory
        have hunknown : m.item.stepRemoteOutcomeUnknown index = true :=
          (PushItem.stepHasStatus_iff hs.serves.consistent.steps.indexed).mpr ⟨state, hget, hstatus⟩
        apply hcertain
        rw [hunknown, happlied]
        rfl
    obtain ⟨armed, rfl⟩ := hattempting
    apply wp_then
    apply wp_saveItem hat (.fail index step error hstep)
    intro hnext
    exact ⟨_, hnext, hunreported⟩

/-- What an executor of one step has to do. -/
def Executes (context : PushExecutionContext) (start : PushPosition)
    (resolved : List ActionStep) (remaining : List PushItem) (execute : StepExecutor) : Prop :=
  ∀ index step armed h m, resolved[index]? = some step →
    At context start (.serving (some resolved) (.attempting index armed) remaining) h m →
    Program.wp (Path context start) (StepDone context start resolved remaining index)
      (StepAborts context start resolved remaining index) (execute context index step) h m

theorem wp_attemptStep {execute : StepExecutor} (hsound : Sound context start)
    (hexecute : Executes context start resolved remaining execute)
    (hstep : resolved[index]? = some step)
    (hran : Ran context start resolved remaining index h m)
    (hunfinished : m.item.stepSucceeded index = false)
    (hknown : m.item.stepRemoteOutcomeUnknown index = false) :
    Program.wp (Path context start)
      (fun _ h' m' => Ran context start resolved remaining (index + 1) h' m')
      (ItemAborts context start remaining) (attemptStep context execute index step) h m := by
  unfold attemptStep
  apply wp_then
  apply wp_saveItem hran.rests.at_ (.begin index step hstep hran.before hunfinished hknown)
  intro hbegun
  apply wp_then
  apply Program.wp_tryCatch.mpr
  apply Program.wp_mono (hexecute index step false _ _ hstep hbegun)
  · intro _ h' m' hdone
    obtain ⟨attempt, hat, hindex⟩ := hdone
    have hs := hsound.serving hat
    obtain ⟨state, hcurrent⟩ := hs.current hindex
    apply wp_then
    apply wp_persistStepSucceeded hsound hat _ hcurrent (hs.auditPending_none hindex)
    · intro m'' hran
      exact wp_refreshAfterSuccessfulStep hran
    · intro change heq
      rw [heq]
      exact .succeed index step hstep hindex
  · intro error h' m' haborts
    exact wp_persistStepError hsound hstep haborts

end Attempts
section Recovery

/-- What a recovery ends in: it recorded the step as succeeded, or it left the item alone. -/
def Recovered (context : PushExecutionContext) (start : PushPosition)
    (resolved : List ActionStep) (remaining : List PushItem) (index : Nat) (recovered : Bool)
    (h : List RemoteEvent) (m : Process) : Prop :=
  if recovered then Ran context start resolved remaining (index + 1) h m
  else Ran context start resolved remaining index h m

theorem Ran.at_same {h' : List RemoteEvent} {m' : Process}
    (hran : Ran context start resolved remaining index h m)
    (hat : At context start (.serving (some resolved) .resting remaining) h' m')
    (hsame : m.Same m') : Ran context start resolved remaining index h' m' := by
  refine ⟨⟨hat, ?_⟩, ?_⟩
  · rw [hsame.item]
    exact hran.rests.unreported
  · rw [hsame.item]
    exact hran.before

theorem wp_settle {post : Unit → ProcessFact}
    (hsound : Sound context start) (hstep : resolved[index]? = some step)
    (hran : Ran context start resolved remaining index h m)
    (hunknown : m.item.stepRemoteOutcomeUnknown index = true)
    (hpost : ∀ m', Ran context start resolved remaining (index + 1) h m' → post () h m') :
    Program.wp (Path context start) post abort (persistStepSucceeded context index step) h m := by
  obtain ⟨state, hcurrent, _⟩ := (hsound.serving hran.rests.at_).unknown hunknown
  apply wp_persistStepSucceeded hsound hran.rests.at_ _ hcurrent hran.rests.unreported hpost
  intro change heq
  rw [heq]
  exact .settle index step hstep hunknown

theorem wp_recoverFileSend (hsound : Sound context start) (hstep : resolved[index]? = some step)
    (hran : Ran context start resolved remaining index h m)
    (hunknown : m.item.stepRemoteOutcomeUnknown index = true) :
    Program.wp (Path context start) (Recovered context start resolved remaining index)
      (ItemAborts context start remaining)
      (recoverRemoteOutcomeUnknownFileSend context index step) h m := by
  unfold recoverRemoteOutcomeUnknownFileSend
  apply wp_currentItem_bind.mpr
  apply wp_workspace_bind.mpr
  apply wp_check_bind
  · intro prepared _
    apply wp_then
    apply wp_perform_quiet hran.rests.at_ rfl rfl (by simp)
    · intro confirmed h' hnext
      have hran' := hran.at_same hnext (.refl m)
      cases confirmed with
      | false => exact hran'
      | true =>
        apply wp_then
        apply wp_settle hsound hstep hran' hunknown
        intro m' hsettled
        exact hsettled
    · intro error h' hnext _
      exact (hran.at_same hnext (.refl m)).aborts error
  · intro error _
    exact hran.aborts error

theorem wp_findByMessageId {host : Host} {folder rfc822MessageId : String}
    {post : Option RemoteLocation → ProcessFact}
    (hran : Ran context start resolved remaining index h m)
    (hpost : ∀ found h', Ran context start resolved remaining index h' m → post found h' m) :
    Program.wp (Path context start) post (ItemAborts context start remaining)
      (findByMessageId host folder rfc822MessageId) h m := by
  unfold findByMessageId
  apply wp_then
  apply wp_quiet hran.rests.at_ rfl rfl (by simp)
  intro reply h' hnext _
  have hran' := hran.at_same hnext (.refl m)
  cases reply with
  | ok found => exact hpost _ h' hran'
  | error error =>
    dsimp only
    split
    · exact hpost _ h' hran'
    · exact hran'.aborts error

theorem wp_holdsAll {host : Host} {folder : String} {messageIds : List String}
    {post : Bool → ProcessFact}
    (hran : Ran context start resolved remaining index h m)
    (hpost : ∀ held h', Ran context start resolved remaining index h' m → post held h' m) :
    Program.wp (Path context start) post (ItemAborts context start remaining)
      (holdsAll host folder messageIds) h m := by
  induction messageIds generalizing h with
  | nil => exact hpost true h hran
  | cons messageId rest ih =>
    rw [holdsAll]
    apply wp_then
    apply wp_findByMessageId hran
    intro found h' hran'
    split
    · exact ih hran'
    · exact hpost false h' hran'

theorem wp_recoverAppend {mailboxId : String} (hsound : Sound context start)
    (hstep : resolved[index]? = some step)
    (hran : Ran context start resolved remaining index h m)
    (hunknown : m.item.stepRemoteOutcomeUnknown index = true) :
    Program.wp (Path context start) (Recovered context start resolved remaining index)
      (ItemAborts context start remaining)
      (recoverRemoteOutcomeUnknownAppend context index step mailboxId) h m := by
  unfold recoverRemoteOutcomeUnknownAppend
  apply wp_then
  apply wp_remoteMailboxFolder hran.rests.at_
  · intro folder h' m' hnext hsame _
    have hran' := hran.at_same hnext hsame
    apply wp_currentItem_bind.mpr
    apply wp_workspace_bind.mpr
    apply wp_check_bind
    · intro messageIds _
      split
      · exact hran'
      · apply wp_then
        apply wp_holdsAll hran'
        intro held h'' hran''
        cases held with
        | false => exact hran''
        | true =>
          apply wp_then
          apply wp_settle hsound hstep hran'' (by rw [hsame.item]; exact hunknown)
          intro m'' hsettled
          exact hsettled
    · intro error _
      exact hran'.aborts error
  · intro error h' m' hnext hsame _
    exact (hran.at_same hnext hsame).aborts error

/-- A place that is recorded keeps its message from being taken for moved. -/
theorem reconcileMoveSources_sources {w : Workspace} {messageIds : List String}
    (h : reconcileMoveSources w locations messageIds = .ok (some reconciled)) :
    (∀ move ∈ reconciled, move.message.messageId ∈ messageIds) ∧
    ∀ place ∈ locations, place.messageId ∈ messageIds →
      ∀ location ∈ w.activeLocations place.messageId, location.matchesPush place = false := by
  induction messageIds generalizing reconciled with
  | nil =>
    cases h
    exact ⟨by simp, by simp⟩
  | cons messageId rest ih =>
    obtain ⟨message, hmessage, h⟩ := Result.bind_ok h
    obtain ⟨_, hid, hremote⟩ := Workspace.mem_of_readMessageById hmessage
    dsimp only at h
    split at h
    · cases h
    · rename_i hnone
      obtain ⟨others, hothers, h⟩ := Result.bind_ok h
      cases others with
      | none => cases h
      | some others =>
        cases h
        obtain ⟨hmoves, hplaces⟩ := ih hothers
        refine ⟨?_, ?_⟩
        · intro move hmem
          cases List.mem_cons.mp hmem with
          | inl heq =>
            rw [heq, hid]
            exact List.mem_cons_self
          | inr hrest => exact List.mem_cons_of_mem _ (hmoves move hrest)
        · intro place hplace hmem location hlocation
          cases List.mem_cons.mp hmem with
          | inr hrest => exact hplaces place hplace hrest location hlocation
          | inl heq =>
            by_contra hmatches
            rw [Bool.not_eq_false] at hmatches
            apply hnone
            unfold hasActivePlannedSource
            rw [List.any_eq_true]
            refine ⟨location, ?_, List.any_eq_true.mpr ⟨place, ?_, hmatches⟩⟩
            · rw [Message.activeLocations, hremote, ← heq]
              exact hlocation
            · exact List.mem_filter.mpr ⟨hplace, beq_iff_eq.mpr heq⟩

/-- What a verified move has to relocate are messages of the item. -/
theorem reconcileMoveSources_messages {w : Workspace}
    (hlocations : actionLocations w item step = .ok locations)
    (hids : ∀ messageId, messageId ∈ messageIds ↔
      messageId ∈ item.messageIds ++ locations.map (·.messageId))
    (h : reconcileMoveSources w locations messageIds = .ok (some reconciled)) :
    ∀ move ∈ reconciled,
      move.message.messageId ∈ item.messageIds ++ item.locations.map (·.messageId) := by
  obtain ⟨hmoves, hplaces⟩ := reconcileMoveSources_sources h
  intro move hmove
  have hmem := (hids _).mp (hmoves move hmove)
  unfold actionLocations at hlocations
  split at hlocations
  · obtain ⟨replyTo, _, hlocations⟩ := Result.bind_ok hlocations
    cases List.mem_append.mp hmem with
    | inl hitem => exact List.mem_append_left _ hitem
    | inr hplace =>
      -- a place of the replied-to message is one it is at now
      obtain ⟨place, hin, hid⟩ := List.mem_map.mp hplace
      obtain ⟨heq, location, hlocation, hmatches⟩ :=
        messageRemoteLocationsAny_known hlocations place hin
      rw [← heq] at hlocation
      have hno := hplaces place hin
        ((hids _).mpr (List.mem_append_right _ (List.mem_map_of_mem hin))) location hlocation
      rw [hmatches] at hno
      cases hno
  · cases hlocations
    exact hmem

theorem wp_locateMovedMessage {host : Host} {folder rfc822MessageId : String} {message : Message}
    {post : Option RemoteLocation → ProcessFact}
    (hran : Ran context start resolved remaining index h m)
    (hpost : ∀ found h', Ran context start resolved remaining index h' m → post found h' m) :
    Program.wp (Path context start) post (ItemAborts context start remaining)
      (locateMovedMessage host folder message rfc822MessageId) h m := by
  unfold locateMovedMessage
  split
  · exact hpost _ h hran
  · exact wp_findByMessageId hran hpost

theorem wp_locateMovedMessages {host : Host} {folder : String} {moves : List ReconciledMove}
    {post : Option (List (ReconciledMove × RemoteLocation)) →
      ProcessFact}
    (hran : Ran context start resolved remaining index h m)
    (hpost : ∀ located h', Ran context start resolved remaining index h' m →
      (∀ found, located = some found → found.map (·.1) = moves) → post located h' m) :
    Program.wp (Path context start) post (ItemAborts context start remaining)
      (locateMovedMessages host folder moves) h m := by
  induction moves generalizing h post with
  | nil =>
    apply hpost _ h hran
    intro found heq
    cases heq
    rfl
  | cons move rest ih =>
    rw [locateMovedMessages]
    split
    · exact hran.aborts _
    · apply wp_then
      apply wp_locateMovedMessage hran
      intro found h' hran'
      cases found with
      | none => exact hpost none h' hran' (fun _ heq => nomatch heq)
      | some location =>
        apply wp_then
        apply ih hran'
        intro located h'' hran'' hlocated
        apply hpost _ h'' hran''
        intro found heq
        obtain ⟨others, hothers, rfl⟩ := Option.map_eq_some_iff.mp heq
        rw [List.map_cons, hlocated others hothers]

theorem wp_relocateRecoveredMove {recovered : ReconciledMove × RemoteLocation}
    (hran : Ran context start resolved remaining index h m)
    (hunknown : m.item.stepRemoteOutcomeUnknown index = true)
    (hmem : recovered.1.message.messageId ∈ m.item.messageIds ++ m.item.locations.map (·.messageId)) :
    Program.wp (Path context start)
      (fun _ h' m' => Ran context start resolved remaining index h' m' ∧ m'.item = m.item)
      (ItemAborts context start remaining) (relocateRecoveredMove recovered) h m := by
  unfold relocateRecoveredMove
  apply wp_workspace_bind.mpr
  apply wp_check_bind
  · intro message hmessage
    obtain ⟨_, hid, _⟩ := Workspace.mem_of_readMessageById hmessage
    unfold relocateMessage
    dsimp only
    split
    · exact ⟨hran, rfl⟩
    · apply wp_workspace_bind.mpr
      apply wp_check_bind
      · intro _ _
        rw [hid]
        apply wp_writeWorkspace hran.rests.at_ (.recoverRelocate index _ _ hunknown hmem)
        intro hnext
        exact ⟨⟨⟨hnext, hran.rests.unreported⟩, hran.before⟩, rfl⟩
      · intro error _
        exact hran.aborts error
  · intro error _
    exact hran.aborts error

theorem mem_sortedIds {ids : List String} :
    messageId ∈ ids.eraseDups.insertionSort (· ≤ ·) ↔ messageId ∈ ids := by
  rw [List.mem_insertionSort, List.mem_eraseDups]

theorem wp_recoverMove {mailboxId : String} (hsound : Sound context start)
    (hstep : resolved[index]? = some step)
    (hran : Ran context start resolved remaining index h m)
    (hunknown : m.item.stepRemoteOutcomeUnknown index = true) :
    Program.wp (Path context start) (Recovered context start resolved remaining index)
      (ItemAborts context start remaining)
      (recoverRemoteOutcomeUnknownMove context index step mailboxId) h m := by
  unfold recoverRemoteOutcomeUnknownMove
  apply wp_currentItem_bind.mpr
  apply wp_workspace_bind.mpr
  apply wp_check_bind
  · intro locations hlocations
    dsimp only
    split
    · exact hran
    · apply wp_check_bind
      · intro reconciled hreconciled
        cases reconciled with
        | none => exact hran
        | some moves =>
          have hmoves := reconcileMoveSources_messages hlocations
            (fun messageId => mem_sortedIds) hreconciled
          apply wp_then
          apply wp_remoteMailboxFolder hran.rests.at_
          · intro folder h' m' hnext hsame _
            have hran' := hran.at_same hnext hsame
            apply wp_then
            apply wp_locateMovedMessages hran'
            intro located h'' hran'' hlocated
            cases located with
            | none => exact hran''
            | some found =>
              have hfound := hlocated found rfl
              have hitem : ∀ entry ∈ found, entry.1.message.messageId ∈
                  m'.item.messageIds ++ m'.item.locations.map (·.messageId) := by
                intro entry hmem
                rw [hsame.item]
                apply hmoves
                rw [← hfound]
                exact List.mem_map_of_mem hmem
              have hunknown' : m'.item.stepRemoteOutcomeUnknown index = true := by
                rw [hsame.item]
                exact hunknown
              have hloop : Program.wp (Path context start)
                  (fun _ h m => Ran context start resolved remaining index h m ∧
                    m.item = m'.item)
                  (ItemAborts context start remaining)
                  (Program.forEach found relocateRecoveredMove) h'' m' := by
                apply Program.wp_forEach
                · exact ⟨hran'', rfl⟩
                · intro entry hmem h m hat
                  obtain ⟨hat, hsame⟩ := hat
                  apply Program.wp_mono (wp_relocateRecoveredMove hat ?_ ?_)
                  · intro _ _ _ hdone
                    exact ⟨hdone.1, hdone.2.trans hsame⟩
                  · intro _ _ _ habort
                    exact habort
                  · rw [hsame]
                    exact hunknown'
                  · rw [hsame]
                    exact hitem entry hmem
              apply Program.wp_seq hloop
              intro _ h m hdone
              apply wp_then
              apply wp_settle hsound hstep hdone.1 (by rw [hdone.2]; exact hunknown')
              intro m hsettled
              exact hsettled
          · intro error h' m' hnext hsame _
            exact (hran.at_same hnext hsame).aborts error
      · intro error _
        exact hran.aborts error
  · intro error _
    exact hran.aborts error

theorem wp_recoverRemoteOutcomeUnknownStep (hsound : Sound context start)
    (hstep : resolved[index]? = some step)
    (hran : Ran context start resolved remaining index h m)
    (hunknown : m.item.stepRemoteOutcomeUnknown index = true) :
    Program.wp (Path context start) (Recovered context start resolved remaining index)
      (ItemAborts context start remaining)
      (recoverRemoteOutcomeUnknownStep context index step) h m := by
  unfold recoverRemoteOutcomeUnknownStep
  apply wp_currentItem_bind.mpr
  split
  · exact wp_recoverFileSend hsound hstep hran hunknown
  · split
    · exact wp_recoverAppend hsound hstep hran hunknown
    · split
      · exact wp_recoverMove hsound hstep hran hunknown
      · exact hran
    · exact hran

theorem wp_settleUnknownStep (hsound : Sound context start)
    (hstep : resolved[index]? = some step)
    (hran : Ran context start resolved remaining index h m)
    (hunknown : m.item.stepRemoteOutcomeUnknown index = true) :
    Program.wp (Path context start)
      (fun _ h' m' => Ran context start resolved remaining (index + 1) h' m')
      (ItemAborts context start remaining) (settleUnknownStep context index step) h m := by
  unfold settleUnknownStep
  apply Program.wp_seq (wp_recoverRemoteOutcomeUnknownStep hsound hstep hran hunknown)
  intro recovered h' m' hrecovered
  cases recovered with
  | true => exact wp_refreshAfterSuccessfulStep hrecovered
  | false => exact Ran.aborts hrecovered _

end Recovery

section Loop

theorem wp_executeTrackedStep {execute : StepExecutor} (hsound : Sound context start)
    (hexecute : Executes context start resolved remaining execute)
    (hstep : resolved[index]? = some step)
    (hran : Ran context start resolved remaining index h m) :
    Program.wp (Path context start)
      (fun _ h' m' => Ran context start resolved remaining (index + 1) h' m')
      (ItemAborts context start remaining) (executeTrackedStep context execute index step) h m := by
  have hrest : ∀ h m, Ran context start resolved remaining index h m →
      m.item.stepSucceeded index = false →
      Program.wp (Path context start)
        (fun _ h' m' => Ran context start resolved remaining (index + 1) h' m')
        (ItemAborts context start remaining)
        (do
          let item ← currentItem
          if item.stepRemoteOutcomeUnknown index then settleUnknownStep context index step
          else attemptStep context execute index step) h m := by
    intro h m hran hunfinished
    apply wp_currentItem_bind.mpr
    split
    · rename_i hunknown
      exact wp_settleUnknownStep hsound hstep hran hunknown
    · rename_i hknown
      exact wp_attemptStep hsound hexecute hstep hran hunfinished (Bool.eq_false_iff.mpr hknown)
  unfold executeTrackedStep
  apply wp_currentItem_bind.mpr
  split
  · rename_i hsucceeded
    have hnext : Ran context start resolved remaining (index + 1) h m :=
      ⟨hran.rests, (hsound.serving hran.rests.at_).serves.consistent.succeeded_upTo hsucceeded⟩
    split
    · exact wp_refreshAfterSuccessfulStep hnext
    · exact hnext
  · rename_i hunfinished
    have hunfinished : m.item.stepSucceeded index = false := Bool.eq_false_iff.mpr hunfinished
    have hs := hsound.serving hran.rests.at_
    have hindexed := hs.serves.consistent.steps.indexed
    obtain ⟨state, hget⟩ := (hs.serves.resolved _ rfl).exists_state hstep
    split
    · rename_i hlegacy
      obtain ⟨hunknown, hlegacy⟩ := Bool.and_eq_true_iff.mp hlegacy
      apply wp_then
      apply wp_saveItem hran.rests.at_ (.resetLegacy index step hstep hran.before hunknown hlegacy)
      intro hreset
      have hitem := (hsound.serving hreset).serves.consistent
      have hcurrent : (m.item.markStepPending index step context.host.now).Attempts index
          (state.markPending step context.host.now) :=
        PushItem.attempts_markStepPending hindexed hget
      apply hrest
      · refine ⟨⟨hreset, ?_⟩, hitem.succeeded_before hcurrent.get hcurrent.started⟩
        change m.item.freezeMessageActionSnapshot.auditPending = none
        rw [PushItem.freeze_auditPending]
        exact hran.rests.unreported
      · by_contra hsucceeded
        rw [Bool.not_eq_false] at hsucceeded
        obtain ⟨found, hfound, hstatus⟩ :=
          (PushItem.stepHasStatus_iff hitem.steps.indexed).mp hsucceeded
        have hsame : some (state.markPending step context.host.now) = some found :=
          hcurrent.get.symm.trans hfound
        cases hsame
        exact hcurrent.unfinished hstatus
    · exact hrest h m hran hunfinished

theorem wp_executeStepsFrom {execute : StepExecutor} {rest : List ActionStep}
    (hsound : Sound context start)
    (hexecute : Executes context start resolved remaining execute)
    (hrest : resolved.drop index = rest)
    (hran : Ran context start resolved remaining index h m) :
    Program.wp (Path context start)
      (fun _ h' m' => Ran context start resolved remaining resolved.length h' m')
      (ItemAborts context start remaining) (executeStepsFrom context execute index rest) h m := by
  induction rest generalizing index h m with
  | nil =>
    have hle := List.drop_eq_nil_iff.mp hrest
    exact ⟨hran.rests, fun earlier hlt => hran.before earlier (Nat.lt_of_lt_of_le hlt hle)⟩
  | cons step rest ih =>
    have hstep : resolved[index]? = some step := by
      rw [← List.head?_drop, hrest]
      rfl
    have hlater : resolved.drop (index + 1) = rest := by
      rw [← List.tail_drop, hrest]
      rfl
    rw [executeStepsFrom]
    apply Program.wp_seq (wp_executeTrackedStep hsound hexecute hstep hran)
    intro _ h' m' hnext
    exact ih hlater hnext

theorem wp_executeTrackedSteps {execute : StepExecutor} (hsound : Sound context start)
    (hexecute : Executes context start resolved remaining execute)
    (hrests : Rests context start none remaining h m)
    (hto : m.item.ResolvesTo context.config m.workspace resolved) :
    Program.wp (Path context start)
      (fun _ h' m' => Ran context start resolved remaining resolved.length h' m')
      (ItemAborts context start remaining) (executeTrackedSteps context resolved execute) h m := by
  unfold executeTrackedSteps
  apply wp_then
  apply wp_modifyItem hrests.at_ (.resolve resolved hrests.unreported hto)
  intro hresolved
  apply wp_executeStepsFrom hsound hexecute rfl
  exact ⟨⟨hresolved, hrests.unreported⟩, fun earlier hlt => (Nat.not_lt_zero _ hlt).elim⟩

/-- The remote work of an item is done: it has a local stage, or all its steps succeeded. -/
structure Pushed (context : PushExecutionContext) (start : PushPosition)
    (steps : Option (List ActionStep)) (remaining : List PushItem) (h : List RemoteEvent)
    (m : Process) : Prop where
  rests : Rests context start steps remaining h m
  done : m.item.localStage = none →
    steps.isSome ∧ ∀ state ∈ m.item.stepStates, state.status = .succeeded

theorem Ran.pushed (hsound : Sound context start)
    (hran : Ran context start resolved remaining resolved.length h m) :
    Pushed context start (some resolved) remaining h m where
  rests := hran.rests
  done _ := by
    refine ⟨rfl, ?_⟩
    intro state hmem
    have hs := (hsound.serving hran.rests.at_).serves
    obtain ⟨index, hlt, hget⟩ := List.getElem_of_mem hmem
    have hbound := hlt
    rw [(hs.resolved _ rfl).length] at hbound
    obtain ⟨found, hfound, hstatus⟩ := (PushItem.stepHasStatus_iff hs.consistent.steps.indexed).mp
      (hran.before index hbound)
    rw [List.getElem?_eq_getElem hlt, hget] at hfound
    cases hfound
    exact hstatus

theorem wp_pushOutbound {draft : DraftPush} (hsound : Sound context start)
    (hrests : Rests context start none remaining h m) (hdraft : m.item.payload = .draft draft) :
    Program.wp (Path context start)
      (fun _ h' m' => ∃ steps, Pushed context start steps remaining h' m')
      (ItemAborts context start remaining) (pushOutbound context) h m := by
  have hkind : m.item.kind = "draft" := by
    rw [PushItem.kind, hdraft]
  unfold pushOutbound
  apply wp_currentItem_bind.mpr
  apply wp_workspace_bind.mpr
  apply wp_check_bind
  · intro outbound houtbound
    have houtbound : m.item.outbound = some outbound := by
      unfold outboundOf at houtbound
      split at houtbound
      · cases houtbound
        assumption
      · cases houtbound
    split
    · rename_i hstage
      refine ⟨none, hrests, ?_⟩
      intro hnone
      rw [hnone] at hstage
      cases hstage
    · rename_i hnone
      rw [Option.not_isSome_iff_eq_none] at hnone
      apply wp_check_bind
      · intro resolved hresolved
        have hto : m.item.ResolvesTo context.config m.workspace resolved := by
          split at hresolved
          · rename_i hempty
            exact .refiltered outbound hkind houtbound hnone (List.isEmpty_iff.mp hempty) hresolved
          · cases hresolved
            exact .draft outbound hkind houtbound hnone rfl
        apply wp_check_bind
        · intro _ _
          apply wp_check_bind
          · intro _ _
            apply Program.wp_mono (wp_executeTrackedSteps hsound ?_ hrests hto)
            · intro _ h' m' hran
              exact ⟨_, hran.pushed hsound⟩
            · intro _ _ _ habort
              exact habort
            · intro index step armed h' m' hstep hat
              exact wp_executeOutboundStep hsound hat hstep
          · intro error _
            exact ⟨none, hrests⟩
        · intro error _
          exact ⟨none, hrests⟩
      · intro error _
        exact ⟨none, hrests⟩
  · intro error _
    exact ⟨none, hrests⟩

theorem wp_pushActionSteps {message : MessagePush} (hsound : Sound context start)
    (hrests : Rests context start none remaining h m)
    (hmessage : m.item.payload = .message message) :
    Program.wp (Path context start)
      (fun _ h' m' => ∃ steps, Pushed context start steps remaining h' m')
      (ItemAborts context start remaining) (pushActionSteps context) h m := by
  have hkind : m.item.kind = "message" := by
    rw [PushItem.kind, hmessage]
  unfold pushActionSteps
  apply wp_currentItem_bind.mpr
  apply wp_workspace_bind.mpr
  split
  · exact ⟨none, hrests⟩
  · rename_i action haction
    apply wp_check_bind
    · intro _ _
      apply Program.wp_mono
        (wp_executeTrackedSteps hsound ?_ hrests (.message action hkind haction rfl))
      · intro _ h' m' hran
        exact ⟨_, hran.pushed hsound⟩
      · intro _ _ _ habort
        exact habort
      · intro index step armed h' m' hstep hat
        exact wp_executeMessageStep hsound hat hstep
    · intro error _
      exact ⟨none, hrests⟩

end Loop
end AgentFirstMail
