import AgentFirstMail.Config.Defaults
import AgentFirstMail.PushQueue.PushConformance
import AgentFirstMail.PushQueue.Recovery

namespace AgentFirstMail
open Effect Command
variable {context : PushExecutionContext} {h : List RemoteEvent} {m m' : Process} {w w' : Workspace}
  {events : List RemoteEvent} {original item later : PushItem}

section Quiet

/-- A program that leaves the workspace and the item alone, to its end or cut off. -/
def Quiet (program : Command α) : Prop :=
  ∀ ⦃m events outcome m'⦄, Exec program m events outcome m' → m.Same m'

namespace Quiet

theorem ret (value : α) : Quiet (.ret value) := by
  intro m events outcome m' hexec
  rw [hexec.of_ret.1]
  exact .refl m

theorem fail (error : AppError) : Quiet (.fail error : Command α) := by
  intro m events outcome m' hexec
  rw [hexec.of_fail.1]
  exact .refl m

theorem ofExcept (result : Result α) : Quiet (Program.ofExcept result : Command α) := by
  cases result with
  | ok value => exact ret value
  | error error => exact fail error

theorem read {next : Process → Command α} (hnext : ∀ process, Quiet (next process)) :
    Quiet (.load next) := by
  intro m events outcome m' hexec
  exact hnext m hexec.of_load

theorem bind {program : Command α} {next : α → Command β} (hprogram : Quiet program)
    (hnext : ∀ value, Quiet (next value)) : Quiet (program.bind next) := by
  intro m events outcome m' hexec
  rcases hexec.of_bind with ⟨value, before, middle, after, _, hfirst, hsecond⟩ | ⟨error, _, hfirst⟩ |
    ⟨_, hfirst⟩
  · have hmiddle := hprogram hfirst
    have hend := hnext value hsecond
    exact ⟨hend.workspace.trans hmiddle.workspace, hend.item.trans hmiddle.item⟩
  · exact hprogram hfirst
  · exact hprogram hfirst

theorem ask (request : Request) : Quiet (Command.ask request) := by
  intro m events outcome m' hexec
  cases hexec with
  | crash => exact .refl m
  | lost => exact .refl m
  | call reply hexec => exact Quiet.ret reply hexec

theorem perform (request : Request) : Quiet (Command.perform request) := by
  intro m events outcome m' hexec
  cases hexec with
  | crash => exact .refl m
  | lost => exact .refl m
  | call reply hexec => exact Quiet.ofExcept reply hexec

theorem workspace : Quiet Command.workspace := .read fun _ => .ret _

end Quiet

theorem quiet_cachedMailboxes : Quiet cachedMailboxes := by
  apply Quiet.read
  intro process
  dsimp only [Program.bind]
  split
  · exact .ret _
  · apply Quiet.bind (.perform _)
    intro boxes m events outcome m' hexec
    cases hexec with
    | crash => exact .refl m
    | store hexec =>
      rw [hexec.of_ret.1]
      exact ⟨rfl, rfl⟩

theorem quiet_remoteMailboxFolder (config : MailConfig) (mailboxId : String) :
    Quiet (remoteMailboxFolder config mailboxId) := by
  apply Quiet.bind (.ofExcept _)
  intro mailbox
  apply Quiet.bind quiet_cachedMailboxes
  intro boxes
  exact .ofExcept _

theorem quiet_remoteFolders (config : MailConfig) (mailboxIds : List String) :
    Quiet (remoteFolders config mailboxIds) := by
  induction mailboxIds with
  | nil => exact .ret []
  | cons mailboxId rest ih =>
    apply Quiet.bind (quiet_remoteMailboxFolder config mailboxId)
    intro folder
    apply Quiet.bind ih
    intro folders
    exact .ret _

theorem quiet_lookupMessage (host : Host) (folder rfc822MessageId : String) :
    Quiet (lookupMessage host folder rfc822MessageId) := by
  apply Quiet.bind (.ask _)
  intro reply
  cases reply with
  | ok found => exact .ret _
  | error error =>
    dsimp only
    split
    · exact .ret none
    · exact .fail error

theorem quiet_lookupFolders (host : Host) (rfc822MessageId : String) (folders : List String) :
    Quiet (lookupFolders host rfc822MessageId folders) := by
  induction folders with
  | nil => exact .ret []
  | cons folder rest ih =>
    apply Quiet.bind (quiet_lookupMessage host folder rfc822MessageId)
    intro location
    apply Quiet.bind ih
    intro others
    exact .ret _

theorem quiet_sendEvidence (prepared : PreparedOutbound) : Quiet (sendEvidence prepared) := by
  unfold sendEvidence
  split
  · exact .ret _
  · apply Quiet.bind (.perform _)
    intro confirmed
    exact .ret _

theorem quiet_reviewSend (context : PushExecutionContext) (original : PushItem) :
    Quiet (reviewSend context original) := by
  apply Quiet.bind .workspace
  intro w
  apply Quiet.bind (.ofExcept _)
  intro found
  apply Quiet.bind (.ofExcept _)
  intro prepared
  apply Quiet.bind (quiet_sendEvidence prepared)
  intro evidence
  exact .ret _

theorem quiet_reviewDraftsAppend (context : PushExecutionContext) (original : PushItem) :
    Quiet (reviewDraftsAppend context original) := by
  apply Quiet.bind .workspace
  intro w
  apply Quiet.bind (.ofExcept _)
  intro found
  apply Quiet.bind (quiet_remoteMailboxFolder _ _)
  intro draftsFolder
  apply Quiet.bind (quiet_remoteFolders _ _)
  intro sentFolders
  apply Quiet.bind (.ofExcept _)
  intro _
  apply Quiet.bind (quiet_lookupMessage _ _ _)
  intro draftLocation
  apply Quiet.bind (quiet_lookupFolders _ _ _)
  intro sent
  apply Quiet.bind (.ofExcept _)
  intro _
  exact .ret _

end Quiet

section Settlement

/-- How far a settlement has come: its event is written before the queue record is. -/
inductive Workspace.Settles (w : Workspace) (kind : String) (later : PushItem) : Workspace → Prop
  | untouched : w.Settles kind later w
  | recording (event : AuditEvent) :
      event.kind = kind → w.Settles kind later (w.appendAuditRecord event)
  | audited (event : AuditEvent) :
      event.kind = kind → w.Settles kind later (w.appendAuditRecord event).appendAuditNewline
  | written (event : AuditEvent) : event.kind = kind →
      w.Settles kind later ((w.appendAuditRecord event).appendAuditNewline.writeItem later)

/-- What a step is once it is known whether it was sent. -/
def SendSettlement.status : SendSettlement → PushStepStatus
  | .sent => .succeeded
  | .notSent => .pending

/-- One step of a draft whose outcome is unknown is said to have succeeded, or is pending again, as
it is answered; of the others and of the rest of the record nothing changes but what it says of its
last change. -/
structure PushItem.SettledAt (later item : PushItem) (now : String) (settle : Option SendSettlement)
    (index : Nat) (state settled : PushStepState) : Prop where
  draft : item.draft.isSome = true
  get : item.stepStates[index]? = some state
  unknown : state.status = .remoteOutcomeUnknown
  known : settled.status = .succeeded ∨ settled.status = .pending
  answered : ∀ answer, settle = some answer → settled.status = answer.status
  sameIndex : settled.index = state.index
  stored : later.stored = { item.stored with
    stepStates := item.stepStates.set index settled, updatedRfc3339 := now, lastError := none }

def PushItem.Settled (later item : PushItem) (now : String) (settle : Option SendSettlement) : Prop :=
  ∃ index state settled, later.SettledAt item now settle index state settled

namespace PushItem.Settled
variable {now : String} {settle : Option SendSettlement}

theorem pushId (hsettled : later.Settled item now settle) : later.pushId = item.pushId := by
  obtain ⟨_, _, _, hsettled⟩ := hsettled
  have hstored := congrArg PushItem.pushId hsettled.stored
  exact hstored

theorem enqueueSeq (hsettled : later.Settled item now settle) : later.enqueueSeq = item.enqueueSeq := by
  obtain ⟨_, _, _, hsettled⟩ := hsettled
  have hstored := congrArg PushItem.enqueueSeq hsettled.stored
  exact hstored

theorem payload (hsettled : later.Settled item now settle) : later.payload = item.payload := by
  obtain ⟨_, _, _, hsettled⟩ := hsettled
  have hstored := congrArg PushItem.payload hsettled.stored
  exact hstored

/-- The steps of an item that is settled stay in order, and nothing else depends on them. -/
theorem consistent (hsettled : later.Settled item now settle) (hitem : item.Consistent) :
    later.Consistent := by
  have hpayload := hsettled.payload
  obtain ⟨index, state, settled, hdraft, hget, hunknown, _, _, hindex, hstored⟩ := hsettled
  have hstates : later.stepStates =
      item.stepStates.modify index fun state => { settled with index := state.index } := by
    have hsame : { settled with index := state.index } = settled := by rw [← hindex]
    rw [List.modify_eq_set_getElem?, hget]
    change later.stepStates = item.stepStates.set index { settled with index := state.index }
    rw [hsame]
    exact congrArg PushItem.stepStates hstored
  have hstage : later.stored.localStage = item.stored.localStage := by rw [hstored]
  change later.localStage = item.localStage at hstage
  have hunfinished : state.status ≠ .succeeded := by
    rw [hunknown]
    exact fun heq => nomatch heq
  have hstarted : state.started = true := by
    apply PushItem.started_of_status
    rw [hunknown]
    exact fun heq => nomatch heq
  refine ⟨?_, ?_, ?_⟩
  · rw [hstates]
    exact hitem.steps.modify_current hget hstarted hunfinished fun _ => rfl
  · intro hsome
    rw [hstage] at hsome
    exact (hunfinished (hitem.finished hsome state (List.mem_of_getElem? hget))).elim
  · intro message hmessage
    rw [PushItem.message, hpayload] at hmessage
    unfold PushItem.draft at hdraft
    split at hdraft
    · rename_i hdraftPayload
      rw [hdraftPayload] at hmessage
      cases hmessage
    · cases hdraft

theorem auditKept (hsettled : later.Settled item now settle) (hitem : item.AuditKept) :
    later.AuditKept := by
  obtain ⟨_, _, _, hsettled⟩ := hsettled
  have hstage : later.stored.localStage = item.stored.localStage := by rw [hsettled.stored]
  have haudit : later.stored.auditPending = item.stored.auditPending := by rw [hsettled.stored]
  change later.localStage = item.localStage at hstage
  change later.auditPending = item.auditPending at haudit
  rw [PushItem.AuditKept, hstage, haudit]
  exact hitem

end PushItem.Settled

/-- The answer that a file channel still shows what it published. -/
def RemoteEvent.outputFound (event : RemoteEvent) : Bool :=
  match event with
  | ⟨.outputConfirmed _, _, some (.ok found)⟩ => found
  | _ => false

/-- The record is written last, and the outbox is not asked any more. -/
theorem auditAndWrite_settles {kind : String} {outcome : Outcome AppError Unit}
    (hexec : Exec (auditAndWrite context kind later) m events outcome m') :
    m.workspace.Settles kind later m'.workspace ∧ (∀ event ∈ events, RemoteEvent.outputFound event = false) ∧
      (∀ value, outcome = .returned value → ∃ event : AuditEvent, event.kind = kind ∧
        m'.workspace =
          (m.workspace.appendAuditRecord event).appendAuditNewline.writeItem later) := by
  let inv : ProcessFact := fun h m' =>
    m.workspace.Settles kind later m'.workspace ∧ ∀ event ∈ h, RemoteEvent.outputFound event = false
  let post : Unit → ProcessFact := fun _ _ m' =>
    ∃ event : AuditEvent, event.kind = kind ∧ m'.workspace =
      (m.workspace.appendAuditRecord event).appendAuditNewline.writeItem later
  have hasked : ∀ reply : Option (Except AppError String),
      ∀ event ∈ ([⟨.newEventId, m, reply⟩] : List RemoteEvent),
        RemoteEvent.outputFound event = false := by
    intro reply event hmem
    rw [List.mem_singleton.mp hmem]
    rfl
  have hwp : Program.wp inv post (fun _ _ _ => True) (auditAndWrite context kind later) [] m := by
    unfold auditAndWrite
    split
    · trivial
    · unfold appendAuditEvent
      apply wp_then
      apply wp_then
      refine ⟨⟨.untouched, hasked none⟩, fun reply => ⟨⟨.untouched, hasked (some reply)⟩, ?_⟩⟩
      cases reply with
      | error error => trivial
      | ok eventId =>
        unfold appendAuditEventRecord
        apply wp_then
        refine ⟨⟨.recording _ rfl, hasked _⟩, ⟨.audited _ rfl, hasked _⟩, ?_⟩
        apply wp_then
        refine ⟨⟨.written _ rfl, hasked _⟩, ?_⟩
        unfold refreshOutboundPushViews
        apply wp_currentItem_bind.mpr
        apply wp_workspace_bind.mpr
        split
        · exact ⟨_, rfl, rfl⟩
        · apply wp_check_bind
          · intro _ _
            apply wp_check
            · intro _ _
              exact ⟨_, rfl, rfl⟩
            · intro _ _
              trivial
          · intro _ _
            trivial
  obtain ⟨hinv, hmeets⟩ := Program.wp_sound hexec ⟨.untouched, fun _ hmem => (nomatch hmem)⟩ hwp
  refine ⟨hinv.1, hinv.2, ?_⟩
  intro value heq
  rw [heq] at hmeets
  exact hmeets

/-- Planning leaves the stored part of a started draft as it is. -/
theorem planItem_started_draft (hdraft : original.draft.isSome = true)
    (hstage : original.localStage = none) (haudit : original.auditPending = none)
    (hstarted : original.hasStartedEffects = true)
    (hplan : planItem context w original = .ok (some item)) : item.stored = original.stored := by
  unfold planItem at hplan
  split at hplan
  · rename_i hpending
    cases haudit.symm.trans hpending
  · rename_i message hpayload
    rw [PushItem.draft, hpayload] at hdraft
    cases hdraft
  · rename_i draft hpayload
    obtain ⟨frontmatter, _, hplan⟩ := Result.bind_ok hplan
    cases frontmatter with
    | none =>
      dsimp only at hplan
      rw [PushItem.localStageAtLeast, hstage, Option.any_none, if_neg Bool.false_ne_true] at hplan
      obtain ⟨_, hplan⟩ := Result.seq_ok hplan
      cases hplan
    | some frontmatter =>
      cases hintent : frontmatter.syncIntent with
      | none =>
        simp only [hintent] at hplan
        obtain ⟨_, hplan⟩ := Result.seq_ok hplan
        cases hplan
      | some action =>
        simp only [hintent] at hplan
        obtain ⟨found, hfound, hplan⟩ := Result.bind_ok hplan
        cases hplan
        obtain ⟨steps, _, hfound⟩ := Result.bind_ok hfound
        obtain ⟨kept, hkept, hfound⟩ := Result.bind_ok hfound
        obtain ⟨prepared, _, hfound⟩ := Result.bind_ok hfound
        cases hfound
        rcases resetProgressIfPlanChanged_eq_ok hkept with ⟨rfl, _⟩ | ⟨hnot, _⟩
        · rfl
        · cases hnot.symm.trans hstarted

theorem modifyStep_modifyStep {first second : PushStepState → PushStepState} {index : Nat}
    (hindex : ∀ state, (first state).index = state.index) (states : List PushStepState) :
    modifyStep index second (modifyStep index first states) =
      modifyStep index (fun state => second (first state)) states := by
  induction states with
  | nil => rfl
  | cons state rest ih =>
    by_cases heq : state.index = index
    · have hfirst : (first state).index = index := (hindex state).trans heq
      simp only [modifyStep, heq, hfirst, if_true]
    · simp only [modifyStep, heq, if_false, ih]

theorem indexed_of_onlyUncertain {states : List PushStepState}
    (honly : onlyUncertain states unknown = true) : Indexed states := by
  intro i state hget
  have hmem : (state, i) ∈ states.zipIdx := by
    rw [List.mem_zipIdx_iff_getElem?]
    exact hget
  have hall := List.all_eq_true.mp honly _ hmem
  simp only [Bool.and_eq_true, beq_iff_eq] at hall
  rw [Nat.zero_add]
  exact hall.1.1

/-- The settlement of a plan of an uncertain draft changes the state of its unknown step alone. -/
theorem settled_of_planItem {unknown : Nat} {state : PushStepState} {now : String}
    {settle : Option SendSettlement}
    (change : PushStepState → PushStepState)
    (hdraft : (original.draft.isSome && original.localStage.isNone &&
      original.auditPending.isNone && onlyUncertain original.stepStates unknown) = true)
    (hget : original.stepStates[unknown]? = some state)
    (hunknown : state.status = .remoteOutcomeUnknown)
    (hplan : planItem context w original = .ok (some item))
    (hchange : (change state).status = .succeeded ∨ (change state).status = .pending)
    (hanswered : ∀ answer, settle = some answer → (change state).status = answer.status)
    (hindex : (change state).index = state.index)
    (hlater : later.stored = { item.stored with
      stepStates := modifyStep unknown change item.stepStates
      updatedRfc3339 := now, lastError := none }) : later.Settled original now settle := by
  simp only [Bool.and_eq_true, Option.isNone_iff_eq_none] at hdraft
  obtain ⟨⟨⟨hdraft, hstage⟩, haudit⟩, honly⟩ := hdraft
  have hstarted : original.hasStartedEffects = true := by
    apply PushItem.hasStartedEffects_of_get hget
    apply PushItem.started_of_status
    rw [hunknown]
    exact fun heq => nomatch heq
  have hstored := planItem_started_draft hdraft hstage haudit hstarted hplan
  have hstates : item.stored.stepStates = original.stored.stepStates :=
    congrArg PushItem.stepStates hstored
  change item.stepStates = original.stepStates at hstates
  have hset : modifyStep unknown change original.stepStates =
      original.stepStates.set unknown (change state) := by
    rw [(indexed_of_onlyUncertain honly).modifyStep_eq, List.modify_eq_set_getElem?, hget]
    rfl
  refine ⟨unknown, state, change state, hdraft, hget, hunknown, hchange, hanswered, hindex, ?_⟩
  rw [hlater, hstored, hstates, hset]

/-- What a request to settle an item comes to, wherever it ends: one of a plan that is not
confirmed as it is shown changes nothing. -/
structure RecoveryEnds (w : Workspace) (item : PushItem) (now : String)
    (shows : List RemoteEvent → RecoveryPlan → Prop) (confirmed : Option RecoveryPlan)
    (settle : Option SendSettlement) (events : List RemoteEvent)
    (outcome : Outcome AppError RecoveryPlan) (w' : Workspace) : Prop where
  unconfirmed : confirmed = none → w' = w
  shown : ∀ plan, confirmed = some plan → w' ≠ w ∨ ¬ outcome.Stopped →
    ∃ reviewed, reviewed <+: events ∧ shows reviewed plan
  refused : confirmed.isSome = true → settle = some .notSent →
    (∃ event ∈ events, RemoteEvent.outputFound event = true) → w' = w ∧ outcome.Stopped
  settles : w' = w ∨ ∃ kind ∈ ["push_recovery_settled", "push_recovery_checked"], ∃ later,
    PushItem.Settled later item now settle ∧ w.Settles kind later w'
  returned : confirmed.isSome = true → ¬ outcome.Stopped →
    ∃ event later, PushItem.Settled later item now settle ∧
      event.kind ∈ ["push_recovery_settled", "push_recovery_checked"] ∧
      w' = (w.appendAuditRecord event).appendAuditNewline.writeItem later

section Endings
variable {confirmed : Option RecoveryPlan} {settle : Option SendSettlement}
  {outcome : Outcome AppError RecoveryPlan} {shows : List RemoteEvent → RecoveryPlan → Prop}
  {now kind : String}

theorem RecoveryEnds.stopped (hsame : w' = w) (hstopped : outcome.Stopped) :
    RecoveryEnds w original now shows confirmed settle events outcome w' where
  unconfirmed _ := hsame
  shown _ _ hchanged := (hchanged.elim (· hsame) (· hstopped)).elim
  refused _ _ _ := ⟨hsame, hstopped⟩
  settles := .inl hsame
  returned _ hreturned := (hreturned hstopped).elim

theorem RecoveryEnds.unconfirmed_of (hsame : w' = w) :
    RecoveryEnds w original now shows none settle events outcome w' where
  unconfirmed _ := hsame
  shown _ heq := nomatch heq
  refused heq := nomatch heq
  settles := .inl hsame
  returned heq := nomatch heq

/-- A confirmed settlement that goes on to its writes. -/
theorem RecoveryEnds.written {before after : List RemoteEvent} {plan : RecoveryPlan}
    (hkind : kind ∈ ["push_recovery_settled", "push_recovery_checked"])
    (hsettled : PushItem.Settled later original now settle) (hshown : shows before plan)
    (hevidence : settle = some .notSent →
      ∀ event ∈ before, RemoteEvent.outputFound event = false)
    (hsame : m.workspace = w)
    (hexec : Exec ((auditAndWrite context kind later).bind fun _ => .ret plan) m after outcome m') :
    RecoveryEnds w original now shows (some plan) settle (before ++ after) outcome m'.workspace := by
  have hends : w.Settles kind later m'.workspace ∧
      (∀ event ∈ after, RemoteEvent.outputFound event = false) ∧
      (¬ outcome.Stopped → ∃ event : AuditEvent, event.kind = kind ∧ m'.workspace =
        (w.appendAuditRecord event).appendAuditNewline.writeItem later) := by
    rw [← hsame]
    rcases hexec.of_bind with ⟨_, first, middle, rest, rfl, hfirst, hsecond⟩ |
      ⟨error, rfl, hfirst⟩ | ⟨rfl, hfirst⟩
    · obtain ⟨hsettles, hasked, hwritten⟩ := auditAndWrite_settles hfirst
      obtain ⟨rfl, rfl, _⟩ := hsecond.of_ret
      rw [List.append_nil]
      exact ⟨hsettles, hasked, fun _ => hwritten _ rfl⟩
    · obtain ⟨hsettles, hasked, _⟩ := auditAndWrite_settles hfirst
      exact ⟨hsettles, hasked, fun hreturned => (hreturned fun _ heq => (nomatch heq)).elim⟩
    · obtain ⟨hsettles, hasked, _⟩ := auditAndWrite_settles hfirst
      exact ⟨hsettles, hasked, fun hreturned => (hreturned fun _ heq => (nomatch heq)).elim⟩
  obtain ⟨hsettles, hasked, hwritten⟩ := hends
  refine ⟨fun heq => (nomatch heq), ?_, ?_, .inr ⟨kind, hkind, later, hsettled, hsettles⟩, ?_⟩
  · intro other heq _
    cases heq
    exact ⟨before, List.prefix_append before after, hshown⟩
  · intro _ hnotSent ⟨event, hmem, hfound⟩
    have hnot : RemoteEvent.outputFound event = false := by
      rcases List.mem_append.mp hmem with hbefore | hafter
      · exact hevidence hnotSent event hbefore
      · exact hasked event hafter
    cases hnot.symm.trans hfound
  · intro _ hreturned
    obtain ⟨event, hevent, hworkspace⟩ := hwritten hreturned
    exact ⟨event, later, hsettled, hevent ▸ hkind, hworkspace⟩

end Endings
end Settlement

section Send
variable {confirmed : Option RecoveryPlan} {settle : Option SendSettlement}
  {outcome : Outcome AppError RecoveryPlan}

theorem exec_ofExcept_bind {result : Result α} {next : α → Command β} {outcome : Outcome AppError β}
    (hexec : Exec ((Program.ofExcept result).bind next) m events outcome m') :
    (∃ value, result = .ok value ∧ Exec (next value) m events outcome m') ∨
      (m' = m ∧ outcome.Stopped ∧ events = []) := by
  rcases hexec.of_ofExcept_bind with hnext | ⟨error, _, hsame, hevents, houtcome⟩
  · exact .inl hnext
  · exact .inr ⟨hsame, .of_failed houtcome, hevents⟩

theorem uncertainSend_settled {unknown : Nat} {step : ActionStep} {now : String}
    (hsend : uncertainSend context w original = .ok (item, unknown, step))
    (settlement : SendSettlement) :
    PushItem.Settled { settleSend context item unknown step settlement with
      updatedRfc3339 := now, lastError := none } original now (some settlement) := by
  unfold uncertainSend at hsend
  split at hsend
  · cases hsend
  · rename_i index hindex
    obtain ⟨hdraft, hsend⟩ := Result.seq_ok hsend
    rw [ensure_eq_ok_iff] at hdraft
    obtain ⟨planned, hplan, hsend⟩ := Result.bind_ok hsend
    cases planned with
    | none => cases hsend
    | some planned =>
      dsimp only at hsend
      split at hsend
      · cases hsend
      · split at hsend
        · obtain ⟨_, hsend⟩ := Result.seq_ok hsend
          cases hsend
          obtain ⟨hlt, hunknown, _⟩ := List.findIdx?_eq_some_iff_getElem.mp hindex
          rw [beq_iff_eq] at hunknown
          have hget := List.getElem?_eq_getElem hlt
          cases settlement with
          | sent =>
            have hmodify : modifyStep unknown
                (fun state => { state with resultSummary := some settledAsSent })
                (modifyStep unknown (·.markSucceeded step context.host.now) item.stepStates) =
                modifyStep unknown (fun state =>
                  { state.markSucceeded step context.host.now with
                    resultSummary := some settledAsSent }) item.stepStates := by
              apply modifyStep_modifyStep
              intro state
              rfl
            apply settled_of_planItem (fun state =>
              { state.markSucceeded step context.host.now with
                resultSummary := some settledAsSent }) hdraft hget hunknown hplan (.inl rfl)
              (by rintro _ ⟨⟩; rfl) rfl
            rw [← hmodify]
            rfl
          | notSent =>
            exact settled_of_planItem (·.markRecoveredPending settledAsNotSent) hdraft hget
              hunknown hplan (.inr rfl) (fun | _, rfl => rfl) rfl rfl
        · cases hsend

/-- What was planned, and what the outbox showed. -/
theorem reviewSend_returned {review : SendReview}
    (hexec : Exec (reviewSend context original) m events (.returned review) m') :
    uncertainSend context m.workspace original =
        .ok (review.item, review.unknown, review.step) ∧
      (review.evidence.outputConfirmed = false →
        ∀ event ∈ events, RemoteEvent.outputFound event = false) := by
  have hexec := hexec.of_load
  rcases exec_ofExcept_bind hexec with ⟨found, hfound, hexec⟩ | ⟨_, hstopped, _⟩
  · obtain ⟨item, unknown, step⟩ := found
    rcases exec_ofExcept_bind hexec with ⟨prepared, _, hexec⟩ | ⟨_, hstopped, _⟩
    · unfold sendEvidence at hexec
      split at hexec
      · obtain ⟨_, rfl, hreview⟩ := hexec.of_ret
        rw [hreview review rfl]
        exact ⟨hfound, fun _ _ hmem => nomatch hmem⟩
      · cases hexec with
        | call reply hexec =>
          cases reply with
          | error error => exact (hexec.of_fail.2.1 review rfl).elim
          | ok found =>
            obtain ⟨_, rfl, hreview⟩ := hexec.of_ret
            rw [hreview review rfl]
            refine ⟨hfound, ?_⟩
            intro hnot event hmem
            rw [List.mem_singleton.mp hmem]
            exact hnot
    · exact (hstopped review rfl).elim
  · exact (hstopped review rfl).elim

/-- What a request to settle an uncertain send comes to. -/
theorem recoverSend_ends
    (hexec : Exec (recoverSend context original confirmed settle) m events outcome m') :
    RecoveryEnds m.workspace original context.host.now
      (fun reviewed plan => ∃ m'',
        Exec (recoverSend context original none settle) m reviewed (.returned plan) m'')
      confirmed settle events outcome m'.workspace := by
  rcases hexec.of_bind with ⟨review, before, middle, after, rfl, hreview, hrest⟩ |
    ⟨error, rfl, hreview⟩ | ⟨rfl, hreview⟩
  · have hsame := (quiet_reviewSend context original hreview).workspace
    obtain ⟨hsend, hevidence⟩ := reviewSend_returned hreview
    have hshown : ∃ m'', Exec (recoverSend context original none settle) m before
        (.returned review.plan) m'' := by
      have hshown : Exec (recoverSend context original none settle) m (before ++ []) _ _ :=
        hreview.bind .ret
      rw [List.append_nil] at hshown
      exact ⟨_, hshown⟩
    cases confirmed with
    | none =>
      apply RecoveryEnds.unconfirmed_of
      rw [hrest.of_ret.1]
      exact hsame
    | some confirmed =>
      cases settle with
      | none =>
        obtain ⟨rfl, hstopped, _⟩ := hrest.of_fail
        exact .stopped hsame hstopped
      | some settlement =>
        rcases exec_ofExcept_bind hrest with ⟨_, hmatch, hchecked⟩ | ⟨rfl, hstopped, _⟩
        · rcases exec_ofExcept_bind hchecked with ⟨_, hfound, hwrite⟩ | ⟨rfl, hstopped, _⟩
          · rw [ensure_eq_ok_iff, decide_eq_true_eq] at hmatch
            rw [ensure_eq_ok_iff] at hfound
            subst hmatch
            apply RecoveryEnds.written (by simp) (uncertainSend_settled hsend settlement) hshown _
              hsame hwrite
            intro hnotSent
            apply hevidence
            cases hnotSent
            simpa using hfound
          · exact .stopped hsame hstopped
        · exact .stopped hsame hstopped
  · exact .stopped (quiet_reviewSend context original hreview).workspace fun _ heq => nomatch heq
  · exact .stopped (quiet_reviewSend context original hreview).workspace fun _ heq => nomatch heq

theorem uncertainDraftsAppend_settled {mailboxId now : String} {first : ActionStep}
    (happend : uncertainDraftsAppend context w original = .ok (item, mailboxId, first))
    (found : Bool) :
    PushItem.Settled { settleDraftsAppend context item first found with
      updatedRfc3339 := now, lastError := none } original now none := by
  obtain ⟨hdraft, happend⟩ := Result.seq_ok happend
  rw [ensure_eq_ok_iff] at hdraft
  obtain ⟨planned, hplan, happend⟩ := Result.bind_ok happend
  cases planned with
  | none => cases happend
  | some planned =>
    dsimp only at happend
    split at happend
    · cases happend
    · split at happend
      · cases happend
      · split at happend
        · cases happend
        · obtain ⟨_, happend⟩ := Result.seq_ok happend
          cases happend
          have hfirst := hdraft
          simp only [firstUncertain, Bool.and_eq_true, Option.any_eq_true] at hfirst
          obtain ⟨_, ⟨state, hhead, hunknown⟩, honly⟩ := hfirst
          rw [List.head?_eq_getElem?] at hhead
          rw [beq_iff_eq] at hunknown
          have halone : (original.draft.isSome && original.localStage.isNone &&
              original.auditPending.isNone && onlyUncertain original.stepStates 0) = true := by
            simp only [firstUncertain, Bool.and_eq_true] at hdraft ⊢
            exact ⟨hdraft.1, hdraft.2.2⟩
          unfold settleDraftsAppend
          split
          · exact settled_of_planItem (·.markSucceeded first context.host.now) halone hhead
              hunknown hplan (.inl rfl) (fun _ heq => nomatch heq) rfl rfl
          · exact settled_of_planItem (·.markRecoveredPending noCopyFound) halone hhead hunknown
              hplan (.inr rfl) (fun _ heq => nomatch heq) rfl rfl

theorem reviewDraftsAppend_returned {review : AppendReview}
    (hexec : Exec (reviewDraftsAppend context original) m events (.returned review) m') :
    ∃ mailboxId, uncertainDraftsAppend context m.workspace original =
      .ok (review.item, mailboxId, review.first) := by
  have hexec := hexec.of_load
  rcases exec_ofExcept_bind hexec with ⟨found, hfound, hexec⟩ | ⟨_, hstopped, _⟩
  · obtain ⟨item, mailboxId, first⟩ := found
    obtain ⟨draftsFolder, _, _, _, _, _, hexec⟩ := hexec.of_bind_returned
    obtain ⟨sentFolders, _, _, _, _, _, hexec⟩ := hexec.of_bind_returned
    obtain ⟨_, _, _, _, _, _, hexec⟩ := hexec.of_bind_returned
    obtain ⟨draftLocation, _, _, _, _, _, hexec⟩ := hexec.of_bind_returned
    obtain ⟨sent, _, _, _, _, _, hexec⟩ := hexec.of_bind_returned
    obtain ⟨_, _, _, _, _, _, hexec⟩ := hexec.of_bind_returned
    obtain ⟨_, _, hreview⟩ := hexec.of_ret
    rw [hreview review rfl]
    exact ⟨mailboxId, hfound⟩
  · exact (hstopped review rfl).elim

/-- What a request to settle an uncertain first append comes to. -/
theorem recoverDraftsAppend_ends
    (hexec : Exec (recoverDraftsAppend context original confirmed) m events outcome m') :
    RecoveryEnds m.workspace original context.host.now
      (fun reviewed plan => ∃ m'',
        Exec (recoverDraftsAppend context original none) m reviewed (.returned plan) m'')
      confirmed none events outcome m'.workspace := by
  rcases hexec.of_bind with ⟨review, before, middle, after, rfl, hreview, hrest⟩ |
    ⟨error, rfl, hreview⟩ | ⟨rfl, hreview⟩
  · have hsame := (quiet_reviewDraftsAppend context original hreview).workspace
    obtain ⟨mailboxId, happend⟩ := reviewDraftsAppend_returned hreview
    have hshown : ∃ m'', Exec (recoverDraftsAppend context original none) m before
        (.returned review.plan) m'' := by
      have hshown : Exec (recoverDraftsAppend context original none) m (before ++ []) _ _ :=
        hreview.bind .ret
      rw [List.append_nil] at hshown
      exact ⟨_, hshown⟩
    cases confirmed with
    | none =>
      apply RecoveryEnds.unconfirmed_of
      rw [hrest.of_ret.1]
      exact hsame
    | some confirmed =>
      rcases exec_ofExcept_bind hrest with ⟨_, hmatch, hwrite⟩ | ⟨rfl, hstopped, _⟩
      · rw [ensure_eq_ok_iff, decide_eq_true_eq] at hmatch
        subst hmatch
        exact RecoveryEnds.written (by simp)
          (uncertainDraftsAppend_settled happend review.found) hshown
          (fun heq => nomatch heq) hsame hwrite
      · exact .stopped hsame hstopped
  · exact .stopped (quiet_reviewDraftsAppend context original hreview).workspace
      fun _ heq => nomatch heq
  · exact .stopped (quiet_reviewDraftsAppend context original hreview).workspace
      fun _ heq => nomatch heq

theorem RecoveryEnds.congr {now : String} {shows shows' : List RemoteEvent → RecoveryPlan → Prop}
    (hends : RecoveryEnds w original now shows confirmed settle events outcome w')
    (hshows : ∀ reviewed plan, shows reviewed plan → shows' reviewed plan) :
    RecoveryEnds w original now shows' confirmed settle events outcome w' where
  unconfirmed := hends.unconfirmed
  shown plan heq hchanged := by
    obtain ⟨reviewed, hleads, hshown⟩ := hends.shown plan heq hchanged
    exact ⟨reviewed, hleads, hshows reviewed plan hshown⟩
  refused := hends.refused
  settles := hends.settles
  returned := hends.returned

theorem recoverItem_ends
    (hexec : Exec (recoverItem context original confirmed settle) m events outcome m') :
    RecoveryEnds m.workspace original context.host.now
      (fun reviewed plan => ∃ m'',
        Exec (recoverItem context original none settle) m reviewed (.returned plan) m'')
      confirmed settle events outcome m'.workspace := by
  unfold recoverItem at hexec ⊢
  split at hexec
  · rename_i hsend
    apply (recoverSend_ends hexec).congr
    intro reviewed plan hshown
    rw [if_pos hsend]
    exact hshown
  · rename_i hnot
    rcases exec_ofExcept_bind hexec with ⟨_, hnone, happend⟩ | ⟨hsame, hstopped, _⟩
    · rw [ensure_eq_ok_iff, Option.isNone_iff_eq_none] at hnone
      subst hnone
      apply (recoverDraftsAppend_ends happend).congr
      intro reviewed plan hshown
      rw [if_neg hnot]
      exact hshown
    · rw [hsame]
      exact .stopped rfl hstopped

theorem exec_recover_iff {host : Host} {pushId : String} {config : MailConfig}
    (hload : loadConfig m.workspace = .ok config)
    (hfind : m.workspace.readItems.find? (·.pushId == pushId) = some item) :
    Exec (recover host pushId confirmed settle) m events outcome m' ↔
      Exec (recoverItem ⟨host, config⟩ item confirmed settle) m events outcome m' := by
  constructor
  · intro hexec
    have hnext := hexec.of_load
    dsimp only [Program.bind, Program.pure_eq] at hnext
    rw [hload, hfind] at hnext
    exact hnext
  · intro hexec
    apply Exec.load
    dsimp only [Program.bind, Program.pure_eq]
    rw [hload, hfind]
    exact hexec

theorem recover_ends {host : Host} {pushId : String}
    (hexec : Exec (recover host pushId confirmed settle) m events outcome m') :
    (m'.workspace = m.workspace ∧ outcome.Stopped) ∨
    ∃ item, m.workspace.readItems.find? (·.pushId == pushId) = some item ∧
      RecoveryEnds m.workspace item host.now
        (fun reviewed plan => ∃ m'',
          Exec (recover host pushId none settle) m reviewed (.returned plan) m'')
        confirmed settle events outcome m'.workspace := by
  rcases exec_ofExcept_bind hexec.of_load with ⟨config, hload, hfound⟩ | ⟨rfl, hstopped, _⟩
  · cases hfind : m.workspace.readItems.find? (·.pushId == pushId) with
    | none =>
      rw [hfind] at hfound
      obtain ⟨rfl, hstopped, _⟩ := hfound.of_fail
      exact .inl ⟨rfl, hstopped⟩
    | some item =>
      have hitem := (exec_recover_iff hload hfind).mp hexec
      refine .inr ⟨item, rfl, (recoverItem_ends hitem).congr ?_⟩
      intro reviewed plan ⟨m'', hshown⟩
      exact ⟨m'', (exec_recover_iff hload hfind).mpr hshown⟩
  · exact .inl ⟨rfl, hstopped⟩

/-- Every record of the queue lies under its own id. -/
def Workspace.QueueNamed (w : Workspace) : Prop :=
  ∀ (pushId : String) item, w.pushItems[pushId]? = some item → item.pushId = pushId

theorem Workspace.QueueNamed.of_find {pushId : String} (hnamed : w.QueueNamed)
    (hfind : w.readItems.find? (·.pushId == pushId) = some item) :
    ∃ record, w.pushItems[pushId]? = some record ∧ record.stored = item := by
  obtain ⟨id, record, hget, rfl⟩ := Workspace.mem_readItems.mp (List.mem_of_find?_eq_some hfind)
  have hmatch := List.find?_some hfind
  have hid : record.pushId = pushId := beq_iff_eq.mp hmatch
  rw [hnamed id record hget] at hid
  subst hid
  exact ⟨record, hget, rfl⟩

theorem PushItem.Settled.of_stored {record : PushItem} {now : String}
    (hsettled : later.Settled record.stored now settle) : later.Settled record now settle := by
  obtain ⟨index, state, settled, hdraft, hget, hunknown, hknown, hanswered, hindex, hstored⟩ := hsettled
  exact ⟨index, state, settled, hdraft, hget, hunknown, hknown, hanswered, hindex, hstored⟩

/-- A settlement is bounded to one step of the item it names. Unless a plan is confirmed that is
what the same request shows now, nothing changes; nor when a send whose output is found is said
not to have gone out. The event of a settlement is written before the queue record is. -/
theorem recover_bounded {host : Host} {pushId : String} {process : Process}
    (hnamed : w.QueueNamed)
    (hexec : Exec (recover host pushId confirmed settle) (.start w) events outcome process) :
    (confirmed = none → process.workspace = w) ∧
    (∀ plan, confirmed = some plan → process.workspace ≠ w ∨ ¬ outcome.Stopped →
      ∃ reviewed process', reviewed <+: events ∧
        Exec (recover host pushId none settle) (.start w) reviewed (.returned plan) process') ∧
    (confirmed.isSome = true → settle = some .notSent →
      (∃ event ∈ events, RemoteEvent.outputFound event = true) →
        process.workspace = w ∧ outcome.Stopped) ∧
    (process.workspace = w ∨ ∃ item later, w.pushItems[pushId]? = some item ∧
      later.pushId = pushId ∧ PushItem.Settled later item host.now settle ∧
        ∃ kind ∈ ["push_recovery_settled", "push_recovery_checked"],
          w.Settles kind later process.workspace) ∧
    (confirmed.isSome = true → ¬ outcome.Stopped → ∃ item later event,
      w.pushItems[pushId]? = some item ∧ later.pushId = pushId ∧
        PushItem.Settled later item host.now settle ∧
          event.kind ∈ ["push_recovery_settled", "push_recovery_checked"] ∧
            process.workspace =
              (w.appendAuditRecord event).appendAuditNewline.writeItem later) := by
  rcases recover_ends hexec with ⟨hsame, hstopped⟩ | ⟨item, hfind, hends⟩
  · exact ⟨fun _ => hsame, fun _ _ hchanged => (hchanged.elim (· hsame) (· hstopped)).elim,
      fun _ _ _ => ⟨hsame, hstopped⟩, .inl hsame, fun _ hreturned => (hreturned hstopped).elim⟩
  · obtain ⟨record, hget, rfl⟩ := hnamed.of_find hfind
    have hid : ∀ later : PushItem, later.Settled record.stored host.now settle → later.pushId = pushId :=
      fun later hsettled => hsettled.pushId.trans (hnamed pushId record hget)
    refine ⟨hends.unconfirmed, ?_, hends.refused, ?_, ?_⟩
    · intro plan heq hchanged
      obtain ⟨reviewed, hleads, process', hshown⟩ := hends.shown plan heq hchanged
      exact ⟨reviewed, process', hleads, hshown⟩
    · rcases hends.settles with hsame | ⟨kind, hkind, later, hsettled, hsettles⟩
      · exact .inl hsame
      · exact .inr ⟨record, later, hget, hid later hsettled, hsettled.of_stored, kind, hkind, hsettles⟩
    · intro hconfirmed hreturned
      obtain ⟨event, later, hsettled, hkind, hworkspace⟩ := hends.returned hconfirmed hreturned
      exact ⟨record, later, event, hget, hid later hsettled, hsettled.of_stored, hkind, hworkspace⟩

/-- A server that takes flags and is gone when its mailboxes are asked for. -/
def flagsThenGone (_ : Unit) : (request : Request) → Except AppError request.Reply × Unit
  | .addFlags .. => (.ok (), ())
  | .newEventId => (.ok "event", ())
  | _ => (.error { errorCode := "imap_error", message := "connection lost" }, ())

/-- A draft whose copy was appended and whose send was cut off. -/
def uncertainDraft : PushItem where
  pushId := "push_draft_d"
  enqueueSeq := 1
  payload := .draft { caseUid := "c", draftName := "d" }
  createdRfc3339 := ""
  updatedRfc3339 := ""
  stepStates := [
    { index := 0, label := (ActionStep.appendTo "drafts").label, status := .succeeded },
    { index := 1, label := ActionStep.smtp.label, status := .remoteOutcomeUnknown },
    .planned 2 (.appendTo "sent")]

def sendUncertain : Workspace where
  config := .default
  cases := .ofList [("c", ({ group := "", dirName := "c", caseName := "c", drafts := .ofList [("d",
    (⟨{ caseUid := "c", sendIntent := some "new", syncIntent := some .send }, []⟩ :
      DraftFile))] } : CaseRecord))]
  pushItems := .ofList [("push_draft_d", uncertainDraft)]

def uncertainDraftPlan : RecoveryPlan where
  workspaceUid := ""
  item := uncertainDraft
  send := some (.email "me@example.com" ["you@example.com"])

theorem queueNamed_sendUncertain : sendUncertain.QueueNamed := by
  intro pushId item hget
  change (Std.ExtTreeMap.ofList [("push_draft_d", uncertainDraft)])[pushId]? = some item at hget
  rw [Std.ExtTreeMap.ofList_singleton, Std.ExtTreeMap.getElem?_insert] at hget
  split at hget
  · rename_i heq
    cases hget
    exact Std.LawfulEqCmp.compare_eq_iff_eq.mp heq
  · cases hget

theorem recover_bounded_sendUncertain : ∃ events process,
    Exec (recover plainHost "push_draft_d" (some uncertainDraftPlan) (some .notSent))
      (.start sendUncertain) events (.returned uncertainDraftPlan) process ∧
    ∃ item later event, sendUncertain.pushItems["push_draft_d"]? = some item ∧
      later.pushId = "push_draft_d" ∧ PushItem.Settled later item plainHost.now (some .notSent) ∧
        event.kind ∈ ["push_recovery_settled", "push_recovery_checked"] ∧
          process.workspace =
            (sendUncertain.appendAuditRecord event).appendAuditNewline.writeItem later := by
  obtain ⟨events, hexec⟩ := Program.run_exec flagsThenGone
    (recover plainHost "push_draft_d" (some uncertainDraftPlan) (some .notSent))
    (.start sendUncertain) ()
  have hplan : ((recover plainHost "push_draft_d" (some uncertainDraftPlan) (some .notSent)).run
      flagsThenGone (.start sendUncertain) ()).1 = .ok uncertainDraftPlan := by decide +kernel
  rw [hplan] at hexec
  obtain ⟨_, _, _, _, hreturned⟩ := recover_bounded queueNamed_sendUncertain hexec
  exact ⟨events, _, hexec, hreturned rfl fun hstopped => hstopped _ rfl⟩

end Send
end AgentFirstMail
