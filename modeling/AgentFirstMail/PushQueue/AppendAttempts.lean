import AgentFirstMail.Config.Defaults
import AgentFirstMail.Effect.Confined
import AgentFirstMail.Effect.Zoom
import AgentFirstMail.PushQueue.Tracked
import AgentFirstMail.Store.Keeping

namespace AgentFirstMail
open Effect Command

namespace PushItem

theorem modifyStep_find? {change : PushStepState → PushStepState}
    (hindex : ∀ state, (change state).index = state.index) (index : Nat)
    (states : List PushStepState) :
    (modifyStep index change states).find? (·.index == index) =
      (states.find? (·.index == index)).map change := by
  induction states with
  | nil => rfl
  | cons state rest ih =>
    rw [modifyStep]
    by_cases heq : state.index = index
    · rw [if_pos heq, List.find?_cons_of_pos (by simp [hindex, heq]),
        List.find?_cons_of_pos (by simp [heq])]
      rfl
    · rw [if_neg heq, List.find?_cons_of_neg (by simp [heq]),
        List.find?_cons_of_neg (by simp [heq]), ih]

theorem stepState?_modifyStepState {item : PushItem} {index : Nat}
    {change : PushStepState → PushStepState}
    (hindex : ∀ state, (change state).index = state.index) :
    (item.modifyStepState index change).stepState? index =
      (item.stepState? index).map change := modifyStep_find? hindex index item.stepStates

theorem stepState?_markStepPending {item : PushItem} {index : Nat} {state : PushStepState}
    (h : item.stepState? index = some state) (step : ActionStep) (now : String) :
    (item.markStepPending index step now).stepState? index = some (state.markPending step now) := by
  have hfrozen : item.freezeMessageActionSnapshot.stepState? index = some state := by
    unfold freezeMessageActionSnapshot
    split
    · exact h
    · exact h
  have hmarked : (item.markStepPending index step now).stepState? index =
      (item.freezeMessageActionSnapshot.stepState? index).map (·.markPending step now) :=
    stepState?_modifyStepState fun _ => rfl
  rw [hmarked, hfrozen]
  rfl

theorem stepHasStatus_of_stepState? {item : PushItem} {index : Nat} {state : PushStepState}
    (h : item.stepState? index = some state) : item.stepHasStatus index state.status = true := by
  apply List.any_eq_true.mpr
  refine ⟨state, List.mem_of_find?_eq_some h, ?_⟩
  rw [List.find?_some h, beq_self_eq_true]
  rfl

end PushItem

/-- A step of the item at work has a status, in memory and in the queue. -/
structure StepRecorded (index : Nat) (status : PushStepStatus) (m : Process) : Prop where
  memory : ∃ state, m.item.stepState? index = some state ∧ state.status = status
  queue : m.workspace.pushItems[m.item.pushId]? = some m.item.stored

/-- The status of a step that a later command reads. -/
def persistedStatus (index : Nat) (m : Process) : Option PushStepStatus :=
  (m.workspace.pushItems[m.item.pushId]?).bind fun item =>
    (item.stepState? index).map (·.status)

namespace StepRecorded
variable {index : Nat} {status : PushStepStatus} {m : Process}

theorem persisted (h : StepRecorded index status m) : persistedStatus index m = some status := by
  obtain ⟨state, hstate, rfl⟩ := h.memory
  rw [persistedStatus, h.queue]
  exact congrArg (Option.map (·.status)) hstate

theorem save {change : PushItem → PushItem} {state : PushStepState}
    (h : (change m.item).stepState? index = some state) :
    StepRecorded index state.status (m.save change) where
  memory := ⟨state, h, rfl⟩
  queue := Std.ExtTreeMap.getElem?_insert_self

theorem mark (change : PushStepState → PushStepState) {state : PushStepState}
    {touch : PushItem → PushItem} (hstate : m.item.stepState? index = some state)
    (hindex : ∀ state, (change state).index = state.index)
    (htouch : ∀ item, (touch item).stepState? index =
      (item.modifyStepState index change).stepState? index) :
    StepRecorded index (change state).status (m.save touch) := by
  apply save
  rw [htouch, PushItem.stepState?_modifyStepState hindex, hstate]
  rfl

end StepRecorded

namespace RemoteEvent

/-- A message was appended. -/
def appended : RemoteEvent → Bool
  | ⟨.appendMessage .., _, some (.ok _)⟩ => true
  | _ => false

/-- A call failed with the word that it was not started. -/
def refusedBeforeCall (event : RemoteEvent) : Bool :=
  match event.reply with
  | some (.error error) => error.details.any (·.remoteCallsStarted == some false)
  | _ => false

end RemoteEvent

/-- Some message was appended. -/
def Appended (h : List RemoteEvent) : Prop := ∃ event ∈ h, RemoteEvent.appended event = true

/-- Some call failed with the word that it was not started. -/
def RefusedBeforeCall (h : List RemoteEvent) : Prop :=
  ∃ event ∈ h, RemoteEvent.refusedBeforeCall event = true

section Marks
variable {index : Nat} {m : Process}

theorem stepRecorded_persistRemoteOutcomeUnknown (context : PushExecutionContext) (step : ActionStep)
    {state : PushStepState} (hstate : m.item.stepState? index = some state) :
    StepRecorded index .remoteOutcomeUnknown (m.save fun item =>
      { item.markStepRemoteOutcomeUnknown index step none context.host.now with
        updatedRfc3339 := context.host.now, lastError := none }) :=
  StepRecorded.mark (·.markRemoteOutcomeUnknown step none context.host.now) hstate
    (fun _ => rfl) fun _ => rfl

end Marks

section Tags

theorem appended_concat {h : List RemoteEvent} {event : RemoteEvent} :
    Appended (h ++ [event]) ↔ Appended h ∨ RemoteEvent.appended event = true := by
  simp [Appended, or_and_right, exists_or]

theorem refusedBeforeCall_concat {h : List RemoteEvent} {event : RemoteEvent} :
    RefusedBeforeCall (h ++ [event]) ↔
      RefusedBeforeCall h ∨ RemoteEvent.refusedBeforeCall event = true := by
  simp [RefusedBeforeCall, or_and_right, exists_or]

theorem not_refusedBeforeCall_ok {h : List RemoteEvent} (hnone : ¬ RefusedBeforeCall h)
    (request : Request) (m : Process) (value : request.Reply) :
    ¬ RefusedBeforeCall (h ++ [⟨request, m, some (.ok value)⟩]) := by
  rw [refusedBeforeCall_concat]
  rintro (hbefore | hnow)
  · exact hnone hbefore
  · cases hnow

/-- An error is read as one of a call that was not started. -/
def AppError.NotStarted (error : AppError) : Prop :=
  error.details.any (·.remoteCallsStarted == some false) = true

theorem remoteEffectNotApplied_rejectionAfterAppliedEffect (error : AppError) :
    remoteEffectNotApplied (rejectionAfterAppliedEffect error) = true ↔ error.NotStarted := by
  rw [remoteEffectNotApplied, rejectionAfterAppliedEffect, AppError.NotStarted]
  cases error.details with
  | none => exact Iff.rfl
  | some details => simp

end Tags

section Appends
variable {context : PushExecutionContext} {index : Nat} {step : ActionStep} {folder : String}
  {h : List RemoteEvent} {m : Process}

/-- What an attempt at an append keeps while it runs: once a message was appended, the outcome is
recorded as unknown. -/
def AppendNoted (index : Nat) : ProcessFact :=
  fun h m => Appended h → StepRecorded index .remoteOutcomeUnknown m

/-- What an attempt that failed leaves: nobody told that a call was not started unless the error
does. -/
def AppendFailed (index : Nat) (error : AppError) :
    ProcessFact :=
  fun h m => Appended h → StepRecorded index .remoteOutcomeUnknown m ∧
    (remoteEffectNotApplied error = true ↔ RefusedBeforeCall h)

theorem remoteEffectNotApplied_appendedRaw {w : Workspace} {item : PushItem} {messageId : String}
    {error : AppError} (h : appendedRaw w item messageId = .error error) :
    remoteEffectNotApplied error = false := by
  unfold appendedRaw at h
  split at h
  · cases h
  · split at h
    · cases h
    · cases h
      rfl

theorem wp_appendMessages_applied (messageIds : List String)
    (hrecorded : StepRecorded index .remoteOutcomeUnknown m) (hnone : ¬ RefusedBeforeCall h) :
    Program.wp (AppendNoted index)
      (fun _ h m => StepRecorded index .remoteOutcomeUnknown m ∧ ¬ RefusedBeforeCall h)
      (AppendFailed index)
      (appendMessages context index step folder true messageIds) h m := by
  induction messageIds generalizing h with
  | nil => exact ⟨hrecorded, hnone⟩
  | cons messageId rest ih =>
    rw [appendMessages]
    apply wp_currentItem_bind.mpr
    apply wp_workspace_bind.mpr
    apply wp_check_bind
    · intro raw _
      apply wp_then
      apply Program.wp_ask
      · exact fun _ => hrecorded
      · exact fun _ _ => hrecorded
      intro reply
      cases reply with
      | ok value =>
        exact ih (not_refusedBeforeCall_ok hnone _ _ value)
      | error error =>
        intro _
        refine ⟨hrecorded, ?_⟩
        rw [if_pos rfl, remoteEffectNotApplied_rejectionAfterAppliedEffect,
          refusedBeforeCall_concat, or_iff_right hnone]
        rfl
    · intro error herror _
      refine ⟨hrecorded, ?_⟩
      rw [remoteEffectNotApplied_appendedRaw herror]
      exact ⟨fun heq => (nomatch heq), fun h => (hnone h).elim⟩

/-- Nothing was appended before the first message, whose outcome is unknown from before it is
sent. -/
theorem wp_appendMessages_noted {state : PushStepState} (messageIds : List String)
    (hstate : m.item.stepState? index = some state) (hfirst : ¬ Appended h)
    (hnone : ¬ RefusedBeforeCall h) :
    Program.wp (AppendNoted index)
      (fun _ h m => (Appended h → StepRecorded index .remoteOutcomeUnknown m) ∧
        (∃ state, m.item.stepState? index = some state) ∧ ¬ RefusedBeforeCall h)
      (AppendFailed index)
      (appendMessages context index step folder false messageIds) h m := by
  cases messageIds with
  | nil => exact ⟨fun happ => (hfirst happ).elim, ⟨state, hstate⟩, hnone⟩
  | cons messageId rest =>
    rw [appendMessages]
    apply wp_currentItem_bind.mpr
    apply wp_workspace_bind.mpr
    apply wp_check_bind
    · intro raw _
      have hrecorded := stepRecorded_persistRemoteOutcomeUnknown context step hstate
      apply wp_then
      apply Program.wp_write.mpr
      refine ⟨fun _ => hrecorded, ?_⟩
      apply wp_then
      apply Program.wp_ask
      · exact fun _ => hrecorded
      · exact fun _ _ => hrecorded
      intro reply
      cases reply with
      | ok value =>
        apply Program.wp_mono (wp_appendMessages_applied rest hrecorded
          (not_refusedBeforeCall_ok hnone _ _ value))
        · intro _ _ _ hdone
          obtain ⟨state, hstate, _⟩ := hdone.1.memory
          exact ⟨fun _ => hdone.1, ⟨state, hstate⟩, hdone.2⟩
        · exact fun _ _ _ => id
      | error error =>
        intro happ
        rw [appended_concat] at happ
        rcases happ with hbefore | hnow
        · exact (hfirst hbefore).elim
        · cases hnow
    · intro error _ happ
      exact (hfirst happ).elim

theorem not_appended_concat (hfirst : ¬ Appended h) {event : RemoteEvent}
    (hevent : RemoteEvent.appended event = false) : ¬ Appended (h ++ [event]) := by
  rw [appended_concat, hevent]
  exact fun happ => happ.elim hfirst fun heq => (nomatch heq)

theorem wp_remoteMailboxFolder_append (config : MailConfig) (mailboxId : String)
    (hfirst : ¬ Appended h) (hnone : ¬ RefusedBeforeCall h) :
    Program.wp (AppendNoted index)
      (fun _ h' m' => m'.item = m.item ∧ ¬ Appended h' ∧ ¬ RefusedBeforeCall h')
      (AppendFailed index) (remoteMailboxFolder config mailboxId) h m := by
  apply wp_check_bind
  · intro mailbox _
    have hcached : Program.wp (AppendNoted index)
        (fun _ h' m' => m'.item = m.item ∧ ¬ Appended h' ∧ ¬ RefusedBeforeCall h')
        (AppendFailed index) cachedMailboxes h m := by
      apply wp_then
      apply Program.wp_read.mpr
      split
      · exact ⟨rfl, hfirst, hnone⟩
      · have hasked (reply : Option (Except AppError (List MailboxInfo))) :
            ¬ Appended (h ++ [⟨.listMailboxes, m, reply⟩]) := not_appended_concat hfirst rfl
        apply wp_then
        refine ⟨fun happ => (hasked none happ).elim, fun reply =>
          ⟨fun happ => (hasked (some reply) happ).elim, ?_⟩⟩
        cases reply with
        | ok boxes =>
          refine ⟨fun happ => (hasked (some (.ok boxes)) happ).elim, rfl, hasked _, ?_⟩
          exact not_refusedBeforeCall_ok hnone .listMailboxes m boxes
        | error error => exact fun happ => (hasked (some (.error error)) happ).elim
    apply Program.wp_seq hcached
    intro boxes h' m' hsame
    apply wp_check
    · exact fun _ _ => hsame
    · exact fun _ _ happ => (hsame.2.1 happ).elim
  · exact fun _ _ happ => (hfirst happ).elim

theorem ActionStep.append_of_opCount (hcount : step.opCount = 1) {mailboxId : String}
    (happend : step.appendToMailboxId = some mailboxId) :
    step.addFlags.isEmpty = true ∧ step.moveToMailboxId = none ∧ step.isSend = false ∧
      step.fileSend.isSome = false := by
  rw [ActionStep.opCount, happend] at hcount
  rw [ActionStep.isSend]
  revert hcount
  cases step.addFlags.isEmpty <;> cases step.moveToMailboxId <;>
    cases step.smtpSend.isSome <;> cases step.fileSend.isSome <;>
    cases step.cloudflareSend.isSome <;> simp

/-- An append step does nothing but append. -/
theorem wp_executeMessageStep_append {mailboxId : String} {state : PushStepState}
    (hcount : step.opCount = 1) (happend : step.appendToMailboxId = some mailboxId)
    (hstate : m.item.stepState? index = some state) (hfirst : ¬ Appended h)
    (hnone : ¬ RefusedBeforeCall h) :
    Program.wp (AppendNoted index)
      (fun _ h m => (Appended h → StepRecorded index .remoteOutcomeUnknown m) ∧
        (∃ state, m.item.stepState? index = some state) ∧ ¬ RefusedBeforeCall h)
      (AppendFailed index) (executeMessageStep context index step) h m := by
  obtain ⟨hflags, hmove, hsend, _⟩ := ActionStep.append_of_opCount hcount happend
  unfold executeMessageStep executeFlagsOf executeMoveOf executeAppendOf
  rw [if_pos hflags, hmove, happend]
  apply wp_then
  apply wp_then
  apply wp_then
  apply Program.wp_seq (wp_remoteMailboxFolder_append context.config mailboxId hfirst hnone)
  intro folder h' m' ⟨hitem, hfirst', hnone'⟩
  apply wp_currentItem_bind.mpr
  rw [← hitem] at hstate
  apply Program.wp_mono (wp_appendMessages_noted m'.item.messageIds hstate hfirst' hnone')
  · intro _ _ _ hdone
    rw [hsend]
    exact hdone
  · exact fun _ _ _ => id

end Appends

section Attempts
variable {context : PushExecutionContext} {index : Nat} {step : ActionStep}
  {h : List RemoteEvent} {m : Process}

theorem wp_refresh_reads {inv : ProcessFact}
    {post : Unit → ProcessFact}
    {abort : AppError → ProcessFact}
    (hpost : post () h m) (habort : ∀ error, abort error h m) :
    Program.wp inv post abort (refreshAfterSuccessfulStep context step) h m := by
  apply wp_currentItem_bind.mpr
  apply wp_workspace_bind.mpr
  apply wp_check_bind
  · intro messageIds _
    unfold refreshMessagePushViews
    split
    · exact hpost
    · apply wp_workspace_bind.mpr
      apply wp_check
      · exact fun _ _ => hpost
      · exact fun error _ => habort error
  · exact fun error _ => habort error

/-- What an attempt at an append that appended something leaves recorded, when it has come to an
end: a failure only where a call was said not to have been started. -/
def AttemptEnded (index : Nat) : ProcessFact :=
  fun h m => Appended h → (RefusedBeforeCall h ∧ StepRecorded index .failed m) ∨
    (¬ RefusedBeforeCall h ∧
      (StepRecorded index .remoteOutcomeUnknown m ∨ StepRecorded index .succeeded m))

/-- What it leaves wherever it is cut off. -/
def AttemptNoted (index : Nat) : ProcessFact :=
  fun h m => Appended h → StepRecorded index .remoteOutcomeUnknown m ∨
    (RefusedBeforeCall h ∧ StepRecorded index .failed m) ∨
    (¬ RefusedBeforeCall h ∧ StepRecorded index .succeeded m)

theorem AttemptEnded.noted (hended : AttemptEnded index h m) : AttemptNoted index h m := by
  intro happ
  rcases hended happ with hfailed | ⟨hnone, hunknown | hsucceeded⟩
  · exact .inr (.inl hfailed)
  · exact .inl hunknown
  · exact .inr (.inr ⟨hnone, hsucceeded⟩)

theorem wp_persistAppendError {error : AppError}
    {post : Unit → ProcessFact}
    (hfailed : AppendFailed index error h m) :
    Program.wp (AttemptNoted index) post (fun _ => AttemptEnded index)
      (persistStepError context index step error) h m := by
  apply wp_currentItem_bind.mpr
  by_cases happ : Appended h
  · obtain ⟨hrecorded, htold⟩ := hfailed happ
    obtain ⟨state, hstate, hstatus⟩ := hrecorded.memory
    have hunknown : m.item.stepRemoteOutcomeUnknown index = true := by
      have hhas := PushItem.stepHasStatus_of_stepState? hstate
      rwa [hstatus] at hhas
    cases htag : remoteEffectNotApplied error with
    | false =>
      have hnone : ¬ RefusedBeforeCall h := fun hrefused => by
        rw [htold.mpr hrefused] at htag
        cases htag
      rw [hunknown]
      apply wp_then
      have hended : AttemptEnded index h (m.save fun item =>
          { item.markStepRemoteOutcomeUnknown index step (some error) context.host.now with
            updatedRfc3339 := context.host.now
            lastError := some (remoteOutcomeUnknownError step).toString }) := fun _ =>
        .inr ⟨hnone, .inl (StepRecorded.mark
          (·.markRemoteOutcomeUnknown step (some error) context.host.now) hstate
          (fun _ => rfl) fun _ => rfl)⟩
      exact ⟨hended.noted, hended⟩
    | true =>
      rw [hunknown]
      apply wp_then
      have hended : AttemptEnded index h (m.save fun item =>
          { item.markStepFailed index step error context.host.now with
            updatedRfc3339 := context.host.now, lastError := some error.toString }) := fun _ =>
        .inl ⟨htold.mp htag, StepRecorded.mark (·.markFailed step error context.host.now) hstate
          (fun _ => rfl) fun _ => rfl⟩
      exact ⟨hended.noted, hended⟩
  · split
    · exact ⟨fun h => (happ h).elim, fun h => (happ h).elim⟩
    · exact ⟨fun h => (happ h).elim, fun h => (happ h).elim⟩

theorem wp_attemptStep_append {mailboxId : String} {state : PushStepState}
    (hcount : step.opCount = 1) (happend : step.appendToMailboxId = some mailboxId)
    (hstate : m.item.stepState? index = some state) :
    Program.wp (AttemptNoted index) (fun _ => AttemptEnded index) (fun _ => AttemptEnded index)
      (attemptStep context executeMessageStep index step) [] m := by
  have hfirst : ¬ Appended [] := fun ⟨_, hmem, _⟩ => (nomatch hmem)
  have hnone : ¬ RefusedBeforeCall [] := fun ⟨_, hmem, _⟩ => (nomatch hmem)
  have hpending : (m.save (·.markStepPending index step context.host.now)).item.stepState? index =
      some (state.markPending step context.host.now) :=
    PushItem.stepState?_markStepPending hstate step context.host.now
  unfold attemptStep
  apply wp_then
  refine ⟨fun happ => (hfirst happ).elim, ?_⟩
  apply wp_then
  apply Program.wp_tryCatch.mpr
  apply Program.wp_weaken (wp_executeMessageStep_append hcount happend hpending hfirst hnone)
  · exact fun h m hnoted happ => .inl (hnoted happ)
  · intro _ h m ⟨hunknown, ⟨state, hstate⟩, hnone⟩
    have hended : AttemptEnded index h (m.save fun item =>
        { item.markStepSucceeded index step context.host.now with
          updatedRfc3339 := context.host.now, lastError := none }) := fun _ =>
      .inr ⟨hnone, .inr (StepRecorded.mark (·.markSucceeded step context.host.now) hstate
        (fun _ => rfl) fun _ => rfl)⟩
    apply wp_then
    refine ⟨hended.noted, ?_⟩
    exact wp_refresh_reads hended fun _ => hended
  · intro error h m hfailed
    exact wp_persistAppendError hfailed

end Attempts

section Recoveries
variable {context : PushExecutionContext} {index : Nat} {step : ActionStep}

def Request.isAppend : Request → Bool
  | appendMessage .. => true
  | _ => false

/-- Whatever a command does, it appends nothing. -/
def appendFree : Bounds Process Request AppError Unit where
  state _ := True
  request request := request.isAppend = false
  code _ := ()

abbrev AppendsNothing (p : Command α) : Prop := Program.Confined appendFree (fun _ => True) p

theorem appendsNothing_check {result : Result α} {f : α → Command β}
    (hf : ∀ value, AppendsNothing (f value)) : AppendsNothing (Program.ofExcept result >>= f) :=
  Program.Confined.ofExcept_bind (fun value _ => hf value) fun _ _ => trivial

theorem appendsNothing_write (change : Process → Process) :
    AppendsNothing (Program.write change) := Program.Confined.write fun _ _ => trivial

theorem appendsNothing_cachedMailboxes : AppendsNothing cachedMailboxes := by
  intro process _
  dsimp only [Program.bind]
  split
  · trivial
  · apply Program.Confined.bind (Program.Confined.perform rfl)
    intro mailboxes
    exact (appendsNothing_write _).bind fun _ => trivial

theorem appendsNothing_remoteMailboxFolder (config : MailConfig) (mailboxId : String) :
    AppendsNothing (remoteMailboxFolder config mailboxId) := by
  apply appendsNothing_check
  intro mailbox
  apply Program.Confined.bind appendsNothing_cachedMailboxes
  intro mailboxes
  exact Program.Confined.ofExcept fun _ _ => trivial

theorem appendsNothing_findByMessageId (host : Host) (folder rfc822MessageId : String) :
    AppendsNothing (findByMessageId host folder rfc822MessageId) := by
  apply Program.Confined.ask_bind rfl
  · exact fun _ => trivial
  · intro error
    dsimp only
    split
    · trivial
    · exact .inl trivial

theorem appendsNothing_holdsAll (host : Host) (folder : String) (messageIds : List String) :
    AppendsNothing (holdsAll host folder messageIds) := by
  induction messageIds with
  | nil => trivial
  | cons messageId rest ih =>
    apply Program.Confined.bind (appendsNothing_findByMessageId host folder messageId)
    intro found
    split
    · exact ih
    · trivial

theorem appendsNothing_refreshAfterSuccessfulStep :
    AppendsNothing (refreshAfterSuccessfulStep context step) := by
  intro process _ process' _
  apply appendsNothing_check
  intro messageIds
  unfold refreshMessagePushViews
  split
  · trivial
  · exact fun process _ => Program.Confined.ofExcept fun _ _ => trivial

/-- Looking for what an uncertain append left behind appends nothing. -/
theorem appendsNothing_settleUnknownStep {mailboxId : String} (hcount : step.opCount = 1)
    (happend : step.appendToMailboxId = some mailboxId) :
    AppendsNothing (settleUnknownStep context index step) := by
  obtain ⟨_, _, _, hfile⟩ := ActionStep.append_of_opCount hcount happend
  apply Program.Confined.bind
  · intro process _
    rw [hfile, happend]
    apply Program.Confined.bind (appendsNothing_remoteMailboxFolder _ mailboxId)
    intro folder process _ process' _
    apply appendsNothing_check
    intro messageIds
    split
    · trivial
    · apply Program.Confined.bind (appendsNothing_holdsAll _ folder messageIds)
      intro held
      split
      · exact (appendsNothing_write _).bind fun _ => trivial
      · trivial
  · intro recovered
    split
    · exact appendsNothing_refreshAfterSuccessfulStep
    · trivial

/-- Nothing was asked to be appended. -/
def NoAppends : ProcessFact :=
  fun h _ => ∀ event ∈ h, event.request.isAppend = false

theorem NoAppends.not_appended {h : List RemoteEvent} {m : Process} (hnone : NoAppends h m) :
    ¬ Appended h := by
  intro ⟨event, hmem, happ⟩
  have hrequest := hnone event hmem
  obtain ⟨request, state, reply⟩ := event
  cases request with
  | appendMessage => cases hrequest
  | newEventId | newDraftPushSuffix | listMailboxes | findByMessageId | addFlags
  | outputConfirmed | prepareCloudflareSend | prepareSend | publish | sendCloudflareRawMessage
  | sendRawMessage | moveMessage => cases happ

theorem wp_noAppends {p : Command α} {m : Process} (hp : AppendsNothing p) :
    Program.wp NoAppends (fun _ => NoAppends) (fun _ => NoAppends) p [] m := by
  apply Program.wp_weaken (hp.wp trivial (List.forall_mem_nil _))
  · exact fun _ _ h => h.2
  · exact fun _ _ _ h => h.2
  · exact fun _ _ _ h => h.2

variable {m : Process} {mailboxId : String}

theorem wp_executeTrackedStep_unknown (hcount : step.opCount = 1)
    (happend : step.appendToMailboxId = some mailboxId)
    (hunknown : m.item.stepRemoteOutcomeUnknown index = true) :
    Program.wp NoAppends (fun _ => NoAppends) (fun _ => NoAppends)
      (executeTrackedStep context executeMessageStep index step) [] m := by
  have hlegacy : m.item.legacyMoveMessageIdPreflightFailed index step = false := by
    simp [PushItem.legacyMoveMessageIdPreflightFailed, happend]
  unfold executeTrackedStep
  apply wp_currentItem_bind.mpr
  split
  · split
    · exact wp_noAppends appendsNothing_refreshAfterSuccessfulStep
    · exact List.forall_mem_nil _
  · rw [hlegacy, Bool.and_false]
    apply wp_currentItem_bind.mpr
    rw [hunknown]
    exact wp_noAppends (appendsNothing_settleUnknownStep hcount happend)

theorem wp_executeTrackedStep_append {state : PushStepState} (hcount : step.opCount = 1)
    (happend : step.appendToMailboxId = some mailboxId)
    (hstate : m.item.stepState? index = some state) :
    Program.wp (AttemptNoted index) (fun _ => AttemptEnded index) (fun _ => AttemptEnded index)
      (executeTrackedStep context executeMessageStep index step) [] m := by
  cases hunknown : m.item.stepRemoteOutcomeUnknown index with
  | true =>
    apply Program.wp_weaken (wp_executeTrackedStep_unknown hcount happend hunknown)
    · exact fun _ _ hnone happ => (hnone.not_appended happ).elim
    · exact fun _ _ _ hnone happ => (hnone.not_appended happ).elim
    · exact fun _ _ _ hnone happ => (hnone.not_appended happ).elim
  | false =>
    have hfirst : AttemptEnded index [] m := fun ⟨_, hmem, _⟩ => (nomatch hmem)
    unfold executeTrackedStep
    apply wp_currentItem_bind.mpr
    split
    · split
      · exact wp_refresh_reads hfirst fun _ => hfirst
      · exact hfirst
    · rw [hunknown, Bool.false_and]
      apply wp_currentItem_bind.mpr
      rw [hunknown]
      exact wp_attemptStep_append hcount happend hstate

/-- What holds of every attempt at an append step that appended something: when it fails before
it is done, its outcome is recorded as unknown exactly if no call was said not to have been
started; cut off anywhere it is no less safe; and a step recorded so appends no more. -/
structure AppendStepRules (context : PushExecutionContext) (index : Nat) (step : ActionStep) :
    Prop where
  failed : ∀ m state events error m', m.item.stepState? index = some state →
    Exec (executeTrackedStep context executeMessageStep index step) m events (.failed error) m' →
    Appended events → persistedStatus index m' ≠ some .succeeded →
    (persistedStatus index m' = some .remoteOutcomeUnknown ↔ ¬ RefusedBeforeCall events)
  cutOff : ∀ m state events outcome m', m.item.stepState? index = some state →
    Exec (executeTrackedStep context executeMessageStep index step) m events outcome m' →
    Appended events → ¬ RefusedBeforeCall events →
    persistedStatus index m' = some .remoteOutcomeUnknown ∨
      persistedStatus index m' = some .succeeded
  noReplay : ∀ m events outcome m', m.item.stepRemoteOutcomeUnknown index = true →
    Exec (executeTrackedStep context executeMessageStep index step) m events outcome m' →
    ∀ event ∈ events, event.request.isAppend = false

theorem appendStepRules (hcount : step.opCount = 1) (happend : step.appendToMailboxId.isSome) :
    AppendStepRules context index step := by
  obtain ⟨mailboxId, happend⟩ := Option.isSome_iff_exists.mp happend
  refine ⟨?_, ?_, ?_⟩
  · intro m state events error m' hstate hexec happ hunfinished
    obtain ⟨_, hended⟩ := Program.wp_sound hexec (fun ⟨_, hmem, _⟩ => (nomatch hmem))
      (wp_executeTrackedStep_append hcount happend hstate)
    rcases hended happ with ⟨hrefused, hfailed⟩ | ⟨hnone, hunknown | hsucceeded⟩
    · rw [hfailed.persisted]
      exact ⟨fun heq => (nomatch heq), fun hnone => (hnone hrefused).elim⟩
    · exact ⟨fun _ => hnone, fun _ => hunknown.persisted⟩
    · exact (hunfinished hsucceeded.persisted).elim
  · intro m state events outcome m' hstate hexec happ hnone
    obtain ⟨hnoted, _⟩ := Program.wp_sound hexec (fun ⟨_, hmem, _⟩ => (nomatch hmem))
      (wp_executeTrackedStep_append hcount happend hstate)
    rcases hnoted happ with hunknown | ⟨hrefused, _⟩ | ⟨_, hsucceeded⟩
    · exact .inl hunknown.persisted
    · exact (hnone hrefused).elim
    · exact .inr hsucceeded.persisted
  · intro m events outcome m' hunknown hexec
    exact (Program.wp_sound hexec (List.forall_mem_nil _)
      (wp_executeTrackedStep_unknown hcount happend hunknown)).1

end Recoveries

section Refusals

def notStarted : AppError :=
  { errorCode := "imap_unavailable", message := "", details := some { remoteCallsStarted := some false } }

/-- A server that takes the first message and a client that does not reach it for the second. -/
def takesFirst (_ : Unit) : (request : Request) → Except AppError request.Reply × Unit
  | .listMailboxes => (.ok [{ name := "Archive", attributes := ["\\Archive"] }], ())
  | .appendMessage ⟨_, _, .message "message_1"⟩ _ _ _ => (.ok (), ())
  | _ => (.error notStarted, ())

def archiveAppend : ActionStep := { appendToMailboxId := some "archive" }

def plainContext : PushExecutionContext := ⟨plainHost, .default⟩

def twoMessages : Process where
  workspace := { config := .default }
  item :=
    { pushId := "push_1", enqueueSeq := 1
      payload := .message { messageId := "message_1", action := .caseAdd }
      plannedMessageAction := some
        { action := .caseAdd, messageIds := ["message_1", "message_2"], locations := []
          steps := [archiveAppend] }
      plannedMessageRfc822 := [("message_1", []), ("message_2", [])]
      createdRfc3339 := "", updatedRfc3339 := ""
      stepStates := [.planned 0 archiveAppend] }

def secondNotStarted : Trace Process Request Request.Reply AppError Unit Unit :=
  (executeTrackedStep plainContext executeMessageStep 0 archiveAppend).trace takesFirst
    twoMessages ()

/-- The attempt fails after its first append, and the step's status says that nothing happened. -/
theorem notStarted_after_append :
    ¬ ∀ (context : PushExecutionContext) (index : Nat) (step : ActionStep) (m : Process)
        (state : PushStepState) (events : List RemoteEvent) (error : AppError) (m' : Process),
      step.opCount = 1 → step.appendToMailboxId.isSome = true →
      m.item.stepState? index = some state →
      Exec (executeTrackedStep context executeMessageStep index step) m events (.failed error) m' →
      Appended events → persistedStatus index m' ≠ some .succeeded →
      persistedStatus index m' = some .remoteOutcomeUnknown := by
  intro hall
  have hexec := Program.trace_exec takesFirst
    (executeTrackedStep plainContext executeMessageStep 0 archiveAppend) twoMessages ()
  have hfailed : secondNotStarted.outcome = .failed notStarted := by decide +kernel
  have hstatus : persistedStatus 0 secondNotStarted.state = some .failed := by decide +kernel
  have happended : secondNotStarted.events.any RemoteEvent.appended = true := by decide +kernel
  change Exec _ _ secondNotStarted.events secondNotStarted.outcome secondNotStarted.state at hexec
  rw [hfailed] at hexec
  have hunknown := hall _ _ _ _ (.planned 0 archiveAppend) _ _ _ (by decide) rfl rfl hexec
    (List.any_eq_true.mp happended) (by rw [hstatus]; decide)
  rw [hstatus] at hunknown
  exact nomatch hunknown

theorem archiveAppend_rules : AppendStepRules plainContext 0 archiveAppend :=
  appendStepRules (by decide) rfl

end Refusals
end AgentFirstMail
