import AgentFirstMail.Config.Mailbox

namespace AgentFirstMail
open Text (isBlank isAsciiAlphanumeric)

inductive PullImportAs where
  | triage | spam | trashed
deriving DecidableEq

inductive MailDirection where
  | inbound | outbound
deriving DecidableEq

inductive ActionStepOn where
  | replyToMessage
deriving DecidableEq

/-- The transport parameters of a send step; validation requires them to be empty. -/
abbrev SendParams := List (String × String)

structure ActionStep where
  addFlags : List String := []
  moveToMailboxId : Option String := none
  appendToMailboxId : Option String := none
  smtpSend : Option SendParams := none
  cloudflareSend : Option SendParams := none
  fileSend : Option SendParams := none
  on : Option ActionStepOn := none
deriving DecidableEq

namespace ActionStep

def isSend (step : ActionStep) : Bool :=
  step.smtpSend.isSome || step.cloudflareSend.isSome || step.fileSend.isSome

/-- How many operations a step defines. -/
def opCount (step : ActionStep) : Nat :=
  (!step.addFlags.isEmpty).toNat + step.moveToMailboxId.isSome.toNat +
    step.appendToMailboxId.isSome.toNat + step.smtpSend.isSome.toNat +
    step.fileSend.isSome.toNat + step.cloudflareSend.isSome.toNat

def label (step : ActionStep) : String :=
  if !step.addFlags.isEmpty then
    match step.on with
    | some .replyToMessage => "add_flags:ReplyToMessage"
    | none => "add_flags"
  else match step.moveToMailboxId, step.appendToMailboxId with
    | some mailboxId, _ => s!"move_to_mailbox_id_{mailboxId}"
    | none, some mailboxId => s!"append_to_mailbox_id_{mailboxId}"
    | none, none =>
      if step.fileSend.isSome then "file_send"
      else if step.smtpSend.isSome then "smtp_send"
      else if step.cloudflareSend.isSome then "cloudflare_send"
      else "noop"

end ActionStep

structure PullMailboxAction where
  importAs : PullImportAs := .triage
  direction : MailDirection := .inbound
deriving DecidableEq

structure PullActionSection where
  defaultMailboxIds : List String
  byMailboxId : Std.ExtTreeMap String PullMailboxAction
deriving DecidableEq

/-- Every configurable step list, named as its `actions` path is. -/
structure ActionsSection where
  pull : PullActionSection
  caseAdd : List ActionStep := []
  draftSave : List ActionStep := []
  draftSend : List ActionStep := []
  messageSpam : List ActionStep := []
  messageTrash : List ActionStep := []
  messageUnspam : List ActionStep := []
  messageUntrash : List ActionStep := []
  notificationBySourceMailboxId : Std.ExtTreeMap String (List ActionStep) := ∅
deriving DecidableEq

structure MailConfig where
  mailboxes : Std.ExtTreeMap String ImapMailboxConfig
  actions : ActionsSection
deriving DecidableEq

def configInvalid (message : String) : AppError := { errorCode := "config_invalid", message }

namespace MailConfig

def mailboxIds (config : MailConfig) : List String := config.mailboxes.keys

def unknownMailboxId (config : MailConfig) (id : String) : AppError :=
  let available := ", ".intercalate config.mailboxIds
  { errorCode := "unknown_mailbox_id"
    message := s!"unknown IMAP mailbox id: {id}; available ids: {available}" }

def mailbox (config : MailConfig) (id : String) : Result ImapMailboxConfig :=
  match config.mailboxes[id]? with
  | some mailbox => .ok mailbox
  | none => .error (config.unknownMailboxId id)

/-- Keeps the first occurrence of each id, in order. -/
def pushDistinct (ids : List String) (id : String) : List String :=
  if id ∈ ids then ids else ids ++ [id]

def defaultPullIds (config : MailConfig) : List String :=
  (config.actions.pull.defaultMailboxIds.filter (· ∈ config.mailboxes)).foldl pushDistinct []

def selectedPullIds (config : MailConfig) (ids : List String) : Result (List String) := do
  let selected ←
    if ids.isEmpty then pure config.defaultPullIds
    else ids.foldlM (fun out id =>
      if id ∈ config.mailboxes then .ok (pushDistinct out id)
      else .error (config.unknownMailboxId id)) []
  if selected.isEmpty then
    throw (configInvalid
      "actions.pull.default_mailbox_ids is empty; pass configured ids explicitly")
  else return selected

def offlineMailboxName (config : MailConfig) (id : String) : Result String := do
  let mailbox ← config.mailbox id
  match mailbox.offlineMailboxName with
  | some name => return name
  | none => throw (configInvalid s!"mailboxes.{id} does not resolve to a mailbox name offline")

def pullAction (config : MailConfig) (id : String) : Result PullMailboxAction :=
  match config.actions.pull.byMailboxId[id]? with
  | some action => .ok action
  | none => .error (configInvalid s!"actions.pull.by_mailbox_id.{id} is missing")

def matchingMailboxIdsOffline (config : MailConfig) (mailboxName : String) : List String :=
  config.mailboxes.toList.filterMap fun entry =>
    if entry.2.matchesMailboxOffline mailboxName then some entry.1 else none

def validConfigId (value : String) : Bool :=
  !value.isEmpty && value.toList.all fun c => isAsciiAlphanumeric c || c == '_' || c == '-'

def validateConfigId (what value : String) : Result Unit :=
  ensure (validConfigId value)
    { errorCode := "invalid_request", message := s!"invalid {what}: {value}" }

/-- The checks on the mailbox id that a move or an append step names. -/
def validateStepTarget (config : MailConfig) (path : String) (step : ActionStep)
    (target : String) : Result Unit := do
  validateConfigId "action step mailbox id" target
  match config.mailboxes[target]? with
  | none => .error (configInvalid s!"{path} references unknown mailbox id: {target}")
  | some mailbox =>
    match mailbox.firstSpecialUseKind with
    | some kind =>
      ensure (step.moveToMailboxId.isNone || kind.canMoveTo)
        (configInvalid s!"{path}.move_to_mailbox_id cannot target {target}")
    | none => .ok ()

def validateStep (config : MailConfig) (path : String) (step : ActionStep) : Result Unit := do
  ensure step.fileSend.isNone (configInvalid
    s!"{path}.file_send cannot be configured; drafts with a file reply route use it automatically")
  ensure (step.opCount == 1) (configInvalid s!"{path} must define exactly one operation")
  ensure (!(step.isSend && step.on.isSome))
    (configInvalid s!"{path} send operation cannot be conditional")
  ensure (step.cloudflareSend.all (·.isEmpty))
    (configInvalid s!"{path}.cloudflare_send must be an empty object")
  ensure (step.smtpSend.all (·.isEmpty))
    (configInvalid s!"{path}.smtp_send must be an empty object")
  ensure (step.addFlags.all (!isBlank ·))
    (configInvalid s!"{path}.add_flags contains an empty flag")
  (step.moveToMailboxId.toList ++ step.appendToMailboxId.toList).forM
    (config.validateStepTarget path step)

def validateStepsFrom (config : MailConfig) (label : String) : Nat → List ActionStep → Result Unit
  | _, [] => .ok ()
  | index, step :: rest => do
    config.validateStep s!"{label}[{index}]" step
    config.validateStepsFrom label (index + 1) rest

def validateSteps (config : MailConfig) (label : String) (steps : List ActionStep) :
    Result Unit := do
  ensure (label != "actions.draft.send.steps" || steps.countP (·.isSend) == 1) (configInvalid
    ("actions.draft.send.steps must contain exactly one send step " ++
      "(smtp_send or cloudflare_send)"))
  config.validateStepsFrom label 0 steps

def validatePull (config : MailConfig) : Result Unit := do
  let pull := config.actions.pull
  pull.defaultMailboxIds.forM fun id => do
    validateConfigId "actions.pull.default_mailbox_ids id" id
    ensure (id ∈ config.mailboxes) (configInvalid
      s!"actions.pull.default_mailbox_ids references unknown mailbox id: {id}")
    ensure (id ∈ pull.byMailboxId) (configInvalid
      s!"actions.pull.by_mailbox_id.{id} is required by default_mailbox_ids")
  pull.byMailboxId.keys.forM fun id => do
    validateConfigId "actions.pull.by_mailbox_id id" id
    ensure (id ∈ config.mailboxes) (configInvalid
      s!"actions.pull.by_mailbox_id.{id} references unknown mailbox id")

def validateActions (config : MailConfig) : Result Unit := do
  let actions := config.actions
  config.validatePull
  config.validateSteps "actions.case.add.steps" actions.caseAdd
  config.validateSteps "actions.draft.save.steps" actions.draftSave
  config.validateSteps "actions.draft.send.steps" actions.draftSend
  config.validateSteps "actions.message.spam.steps" actions.messageSpam
  config.validateSteps "actions.message.trash.steps" actions.messageTrash
  config.validateSteps "actions.message.unspam.steps" actions.messageUnspam
  config.validateSteps "actions.message.untrash.steps" actions.messageUntrash
  actions.notificationBySourceMailboxId.toList.forM fun entry => do
    let id := entry.1
    validateConfigId "actions.message.notification source id" id
    ensure (id ∈ config.mailboxes) (configInvalid (
      s!"actions.message.notification.by_source_mailbox_id.{id} " ++
        "references unknown mailbox id"))
    config.validateSteps s!"actions.message.notification.by_source_mailbox_id.{id}.steps" entry.2

def validateMailboxes (config : MailConfig) : Result Unit :=
  config.mailboxes.toList.forM fun entry => do
    validateConfigId "mailboxes id" entry.1
    entry.2.validate entry.1

/-- The part of configuration validation that mailboxes and actions go through. -/
def validate (config : MailConfig) : Result Unit := do
  config.validateMailboxes
  config.validateActions

theorem validate_mailboxes {config : MailConfig} (h : config.validate = .ok ()) {id : String}
    {mailbox : ImapMailboxConfig} (hm : config.mailboxes[id]? = some mailbox) :
    validConfigId id = true ∧ mailbox.resolve ≠ [] ∧
      ∀ rule ∈ mailbox.resolve, rule.valid = true := by
  obtain ⟨hmailboxes, _⟩ := Result.seq_ok h
  have hmem := Std.ExtTreeMap.mem_toList_iff_getElem?_eq_some.mpr hm
  obtain ⟨hid, hvalid⟩ :=
    Result.seq_ok (Result.forM_eq_ok_iff.mp hmailboxes (id, mailbox) hmem)
  exact ⟨ensure_eq_ok_iff.mp hid, ImapMailboxConfig.validate_ok hvalid⟩

theorem validateStepsFrom_single {config : MailConfig}
    (h : config.validateStepsFrom label index steps = .ok ()) : ∀ step ∈ steps, step.opCount = 1 := by
  induction steps generalizing index with
  | nil => simp
  | cons step rest ih =>
    obtain ⟨hstep, hrest⟩ := Result.seq_ok h
    obtain ⟨_, hstep⟩ := Result.seq_ok hstep
    obtain ⟨hcount, _⟩ := Result.seq_ok hstep
    rw [ensure_eq_ok_iff, beq_iff_eq] at hcount
    exact List.forall_mem_cons.mpr ⟨hcount, ih hrest⟩

theorem validateSteps_single {config : MailConfig} {label : String}
    (h : config.validateSteps label steps = .ok ()) : ∀ step ∈ steps, step.opCount = 1 :=
  validateStepsFrom_single (Result.seq_ok h).2

/-- Every mailbox id that a validated step names is a configured one. -/
theorem validateStepsFrom_target {config : MailConfig}
    (h : config.validateStepsFrom label index steps = .ok ()) :
    ∀ step ∈ steps, ∀ target ∈ step.moveToMailboxId.toList ++ step.appendToMailboxId.toList,
      ∃ mailbox, config.mailboxes[target]? = some mailbox := by
  induction steps generalizing index with
  | nil => simp
  | cons step rest ih =>
    obtain ⟨hstep, hrest⟩ := Result.seq_ok h
    refine List.forall_mem_cons.mpr ⟨?_, ih hrest⟩
    intro target hmem
    obtain ⟨_, hstep⟩ := Result.seq_ok hstep
    obtain ⟨_, hstep⟩ := Result.seq_ok hstep
    obtain ⟨_, hstep⟩ := Result.seq_ok hstep
    obtain ⟨_, hstep⟩ := Result.seq_ok hstep
    obtain ⟨_, hstep⟩ := Result.seq_ok hstep
    obtain ⟨_, hstep⟩ := Result.seq_ok hstep
    obtain ⟨_, htarget⟩ :=
      Result.seq_ok (Result.forM_eq_ok_iff.mp hstep target hmem)
    cases hmailbox : config.mailboxes[target]? with
    | none =>
      rw [hmailbox] at htarget
      cases htarget
    | some mailbox => exact ⟨mailbox, rfl⟩

theorem validateSteps_target {config : MailConfig} {label : String}
    (h : config.validateSteps label steps = .ok ()) :
    ∀ step ∈ steps, ∀ target ∈ step.moveToMailboxId.toList ++ step.appendToMailboxId.toList,
      ∃ mailbox, config.mailboxes[target]? = some mailbox :=
  validateStepsFrom_target (Result.seq_ok h).2

/-- Every configured step defines one operation. -/
structure SingleSteps (actions : ActionsSection) : Prop where
  caseAdd : ∀ step ∈ actions.caseAdd, step.opCount = 1
  draftSave : ∀ step ∈ actions.draftSave, step.opCount = 1
  draftSend : ∀ step ∈ actions.draftSend, step.opCount = 1
  messageSpam : ∀ step ∈ actions.messageSpam, step.opCount = 1
  messageTrash : ∀ step ∈ actions.messageTrash, step.opCount = 1
  messageUnspam : ∀ step ∈ actions.messageUnspam, step.opCount = 1
  messageUntrash : ∀ step ∈ actions.messageUntrash, step.opCount = 1
  notification : ∀ (id : String) steps, actions.notificationBySourceMailboxId[id]? = some steps →
    ∀ step ∈ steps, step.opCount = 1

theorem validate_singleSteps {config : MailConfig} (h : config.validate = .ok ()) :
    SingleSteps config.actions := by
  obtain ⟨_, hactions⟩ := Result.seq_ok h
  obtain ⟨_, hactions⟩ := Result.seq_ok hactions
  obtain ⟨hcase, hactions⟩ := Result.seq_ok hactions
  obtain ⟨hsave, hactions⟩ := Result.seq_ok hactions
  obtain ⟨hsend, hactions⟩ := Result.seq_ok hactions
  obtain ⟨hspam, hactions⟩ := Result.seq_ok hactions
  obtain ⟨htrash, hactions⟩ := Result.seq_ok hactions
  obtain ⟨hunspam, hactions⟩ := Result.seq_ok hactions
  obtain ⟨huntrash, hnotification⟩ := Result.seq_ok hactions
  refine ⟨validateSteps_single hcase, validateSteps_single hsave, validateSteps_single hsend,
    validateSteps_single hspam, validateSteps_single htrash, validateSteps_single hunspam,
    validateSteps_single huntrash, ?_⟩
  intro id steps hget
  have hmem := Std.ExtTreeMap.mem_toList_iff_getElem?_eq_some.mpr hget
  have hentry := Result.forM_eq_ok_iff.mp hnotification (id, steps) hmem
  obtain ⟨_, hentry⟩ := Result.seq_ok hentry
  obtain ⟨_, hsteps⟩ := Result.seq_ok hentry
  exact validateSteps_single hsteps

theorem validate_draftSteps {config : MailConfig} (h : config.validate = .ok ()) :
    config.validateSteps "actions.draft.save.steps" config.actions.draftSave = .ok () ∧
      config.validateSteps "actions.draft.send.steps" config.actions.draftSend = .ok () := by
  obtain ⟨_, hactions⟩ := Result.seq_ok h
  obtain ⟨_, hactions⟩ := Result.seq_ok hactions
  obtain ⟨_, hactions⟩ := Result.seq_ok hactions
  obtain ⟨hsave, hactions⟩ := Result.seq_ok hactions
  obtain ⟨hsend, _⟩ := Result.seq_ok hactions
  exact ⟨hsave, hsend⟩

theorem validateStepTarget_move {config : MailConfig} {step : ActionStep} {path target : String}
    (hmove : step.moveToMailboxId.isSome) :
    config.validateStepTarget path step target = .ok () ↔
      validConfigId target = true ∧ ∃ mailbox, config.mailboxes[target]? = some mailbox ∧
        mailbox.firstSpecialUseKind.all (·.canMoveTo) = true := by
  simp only [validateStepTarget, Result.bind_unit_eq_ok_iff, validateConfigId, ensure_eq_ok_iff]
  cases config.mailboxes[target]? with
  | none => simp
  | some mailbox =>
    cases hkind : mailbox.firstSpecialUseKind <;>
      simp [hkind, Option.isSome_iff_ne_none.mp hmove, Option.isNone_iff_eq_none]

end MailConfig
end AgentFirstMail
