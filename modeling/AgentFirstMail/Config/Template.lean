import AgentFirstMail.Config.Defaults
import AgentFirstMail.Data.Schemas

namespace AgentFirstMail

/-! The types of a configuration as they are read and written, field by field, and the default one. -/

section Fields

def required (name : String) (schema : Schema) : FieldSpec × Schema := ({ name }, schema)

/-- A field that is not given is its default. -/
def defaulted (name : String) (default : Json) (schema : Schema) : FieldSpec × Schema :=
  ({ name, default := some default }, schema)

/-- A field that is its default is left out. -/
def skippable (name : String) (default : Json) (schema : Schema) : FieldSpec × Schema :=
  ({ name, default := some default, skipped := true }, schema)

def u16 : Schema := .number (2 ^ 16)

def u64 : Schema := .number (2 ^ 64)

def usize : Schema := .number (2 ^ 64)

def optionalString : Schema := .optional .string

end Fields

section Schemas

def pullImportAsSchema : Schema := .variant ["triage", "spam", "trashed"]

def mailDirectionSchema : Schema := .variant ["inbound", "outbound"]

def actionStepSchema : Schema := .record [
  skippable "add_flags" (.array []) (.list .string),
  skippable "move_to_mailbox_id" .null optionalString,
  skippable "append_to_mailbox_id" .null optionalString,
  skippable "smtp_send" .null (.optional (.map .string)),
  skippable "cloudflare_send" .null (.optional (.map .string)),
  skippable "file_send" .null (.optional (.map .string)),
  skippable "on" .null (.optional (.variant ["reply_to_message"]))]

def actionRuleSchema : Schema := .record [defaulted "steps" (.array []) (.list actionStepSchema)]

def pullMailboxActionSchema : Schema := .record [
  defaulted "import_as" (.string "triage") pullImportAsSchema,
  defaulted "direction" (.string "inbound") mailDirectionSchema]

def pullActionSectionSchema : Schema := .record [
  required "default_mailbox_ids" (.list .string),
  required "by_mailbox_id" (.map pullMailboxActionSchema)]

def messageNotificationActionSchema : Schema := .record [
  defaulted "by_source_mailbox_id" (.object []) (.map actionRuleSchema)]

def unmarkDiscardRule : Json := .object [("steps", .array [
  .object [("move_to_mailbox_id", .string "inbox")]])]

def messageActionsSchema : Schema := .record [
  required "spam" actionRuleSchema,
  required "trash" actionRuleSchema,
  defaulted "unspam" unmarkDiscardRule actionRuleSchema,
  defaulted "untrash" unmarkDiscardRule actionRuleSchema,
  required "notification" messageNotificationActionSchema]

def actionsSectionSchema : Schema := .record [
  required "pull" pullActionSectionSchema,
  required "case" (.record [required "add" actionRuleSchema]),
  required "draft" (.record [required "save" actionRuleSchema, required "send" actionRuleSchema]),
  required "message" messageActionsSchema]

def mailboxResolveRuleSchema : Schema := .record [
  skippable "mailbox_name" .null optionalString, skippable "special_use" .null optionalString]

def imapMailboxConfigSchema : Schema := .record [
  defaulted "resolve" (.array []) (.list mailboxResolveRuleSchema)]

def imapSectionSchema : Schema := .record [
  required "host" optionalString,
  defaulted "port" (.number 993) u16,
  defaulted "tls" (.bool true) .bool,
  required "tls_root_cert_path" optionalString,
  defaulted "allow_unbounded_body_fetch" (.bool false) .bool,
  required "username" optionalString,
  required "password_secret" optionalString]

def smtpSectionSchema : Schema := .record [
  required "host" optionalString,
  defaulted "port" (.number 587) u16,
  defaulted "starttls" (.bool true) .bool,
  defaulted "tls_wrapper" (.bool false) .bool,
  required "username" optionalString,
  required "password_secret" optionalString]

def fileSourceConfigSchema : Schema := .record [
  required "inbox_path" .string,
  required "outbox_path" .string,
  defaulted "max_message_bytes" (.number (1024 * 1024)) u64,
  defaulted "max_input_files" (.number 10000) usize]

def filesSectionSchema : Schema := .record [
  defaulted "sources" (.object []) (.map fileSourceConfigSchema)]

def identityConfigSchema : Schema := .record [
  required "identity" .string, required "name" .string, required "email" .string,
  defaulted "default" (.bool false) .bool]

def reviewSectionSchema : Schema := .record [
  defaulted "max_channel_text_bytes" (.number (64 * 1024)) u64,
  defaulted "max_inline_image_bytes" (.number (16 * 1024 * 1024)) u64]

def contactSectionSchema : Schema := .record [defaulted "default_group" (.string "people") .string]

def auditSectionSchema : Schema := .record [
  defaulted "reason_mode" (.string "required") (.variant ["required", "optional"])]

/-- A workspace is in the time zone of the system, unless it says another. -/
def workspaceSectionSchema (offset : String) : Schema := .record [
  defaulted "language_bcp47" .null optionalString,
  defaulted "timezone_utc_offset" (.string offset) optionalString]

end Schemas

section Cloudflare

def cloudflareSending : Json := .object [("api_token_secret", .null)]

def cloudflareSpool : Json := .object [("control_url", .null), ("token_secret", .null)]

def cloudflareR2 : Json := .object [("access_key_id", .null), ("bucket", .null),
  ("endpoint_url", .null), ("imported_prefix", .null), ("prefix", .string "inbox/"),
  ("secret_access_key_secret", .null)]

def cloudflareQueue : Json := .object [("api_token_secret", .null), ("batch_size", .number 20),
  ("endpoint_url", .string "https://api.cloudflare.com/client/v4"), ("queue_id", .null),
  ("visibility_timeout_s", .number 300)]

def cloudflareConsumer : Json := .object [("command", .array []), ("command_timeout_s", .number 300),
  ("poll_interval_s", .number 5), ("reconcile_interval_s", .number 300),
  ("retry_delay_s", .number 60)]

def cloudflareDefault : Json := .object [("account_id", .null), ("consumer", cloudflareConsumer),
  ("direction", .string "inbound"), ("import_as", .string "triage"), ("queue", cloudflareQueue),
  ("r2", cloudflareR2), ("sending", cloudflareSending), ("spool", cloudflareSpool)]

/-- A field of a section that takes every field that is not given from its default. -/
def sectionField (default : Json) (name : String) (schema : Schema) : FieldSpec × Schema :=
  defaulted name ((Json.at_ [name] default).getD .null) schema

def queueSectionSchema : Schema :=
  let field := sectionField cloudflareQueue
  .record [field "queue_id" optionalString, field "api_token_secret" optionalString,
    field "endpoint_url" .string, field "batch_size" usize, field "visibility_timeout_s" u64]

def consumerSectionSchema : Schema :=
  let field := sectionField cloudflareConsumer
  .record [field "command" (.list .string), field "command_timeout_s" u64, field "retry_delay_s" u64,
    field "poll_interval_s" u64, field "reconcile_interval_s" u64]

def r2SectionSchema : Schema :=
  let field := sectionField cloudflareR2
  .record [field "bucket" optionalString, field "prefix" .string,
    field "imported_prefix" optionalString, field "endpoint_url" optionalString,
    field "access_key_id" optionalString, field "secret_access_key_secret" optionalString]

def cloudflareSectionSchema : Schema :=
  let field := sectionField cloudflareDefault
  .record [field "account_id" optionalString,
    field "sending" (.record [sectionField cloudflareSending "api_token_secret" optionalString]),
    field "spool" (.record [sectionField cloudflareSpool "control_url" optionalString,
      sectionField cloudflareSpool "token_secret" optionalString]),
    field "r2" r2SectionSchema, field "queue" queueSectionSchema,
    field "consumer" consumerSectionSchema, field "import_as" pullImportAsSchema,
    field "direction" mailDirectionSchema]

end Cloudflare

section Values

def stringMap (entries : List (String × String)) : Json :=
  .object (Fields.ofList (entries.map fun entry => (entry.1, .string entry.2)))

def ActionStep.toValue (step : ActionStep) : Json :=
  let name (value : Option String) : Json := value.elim .null .string
  let params (value : Option SendParams) : Json := value.elim .null stringMap
  let on : Json := step.on.elim .null fun _ => .string "reply_to_message"
  let values := [.array (step.addFlags.map .string), name step.moveToMailboxId,
    name step.appendToMailboxId, params step.smtpSend, params step.cloudflareSend,
    params step.fileSend, on]
  match actionStepSchema with
  | .record fields => writeRecord ((fields.map (·.1)).zip values)
  | _ => .null

/-- A rule with its steps. -/
def ruleValue (steps : List ActionStep) : Json :=
  .object [("steps", .array (steps.map ActionStep.toValue))]

def PullMailboxAction.toValue (action : PullMailboxAction) : Json :=
  let importAs := match action.importAs with
    | .triage => "triage"
    | .spam => "spam"
    | .trashed => "trashed"
  let direction := match action.direction with
    | .inbound => "inbound"
    | .outbound => "outbound"
  .object [("direction", .string direction), ("import_as", .string importAs)]

def MailboxResolveRule.toValue (rule : MailboxResolveRule) : Json :=
  let entry (name : String) (value : Option String) : List (String × Json) :=
    value.toList.map fun value => (name, .string value)
  .object (entry "mailbox_name" rule.mailboxName ++ entry "special_use" rule.specialUse)

def ImapMailboxConfig.toValue (mailbox : ImapMailboxConfig) : Json :=
  .object [("resolve", .array (mailbox.resolve.map MailboxResolveRule.toValue))]

def mapValue (toValue : α → Json) (map : Std.ExtTreeMap String α) : Json :=
  .object (Fields.ofList (map.toList.map fun entry => (entry.1, toValue entry.2)))

def ActionsSection.toValue (actions : ActionsSection) : Json := .object [
  ("case", .object [("add", ruleValue actions.caseAdd)]),
  ("draft", .object [("save", ruleValue actions.draftSave), ("send", ruleValue actions.draftSend)]),
  ("message", .object [
    ("notification", .object [
      ("by_source_mailbox_id", mapValue ruleValue actions.notificationBySourceMailboxId)]),
    ("spam", ruleValue actions.messageSpam), ("trash", ruleValue actions.messageTrash),
    ("unspam", ruleValue actions.messageUnspam), ("untrash", ruleValue actions.messageUntrash)]),
  ("pull", .object [
    ("by_mailbox_id", mapValue PullMailboxAction.toValue actions.pull.byMailboxId),
    ("default_mailbox_ids", .array (actions.pull.defaultMailboxIds.map .string))])]

end Values

section Config

def reviewDefault : Json := .object [("max_channel_text_bytes", .number (64 * 1024)),
  ("max_inline_image_bytes", .number (16 * 1024 * 1024))]

def contactDefault : Json := .object [("default_group", .string "people")]

def filesDefault : Json := .object [("sources", .object [])]

def defaultIdentity : Json := .object [("default", .bool true), ("email", .string "me@example.com"),
  ("identity", .string "me"), ("name", .string "Me")]

def imapDefault : Json := .object [("allow_unbounded_body_fetch", .bool false), ("host", .null),
  ("password_secret", .null), ("port", .number 993), ("tls", .bool true),
  ("tls_root_cert_path", .null), ("username", .null)]

def smtpDefault : Json := .object [("host", .null), ("password_secret", .null),
  ("port", .number 587), ("starttls", .bool true), ("tls_wrapper", .bool false), ("username", .null)]

def workspaceDefault (offset : String) : Json :=
  .object [("language_bcp47", .null), ("timezone_utc_offset", .string offset)]

/-- The fields of a configuration with their values in the default one: those that say which schema
it has. -/
def schemaTable : List ((FieldSpec × Schema) × Json) := [
  (required "schema_name" .string, .string "config"),
  (required "schema_version" u64, .number 1)]

/-- The sections that do not depend on the system. -/
def sectionTable : List ((FieldSpec × Schema) × Json) := [
  (defaulted "review" reviewDefault reviewSectionSchema, reviewDefault),
  (required "imap" imapSectionSchema, imapDefault),
  (defaulted "cloudflare" cloudflareDefault cloudflareSectionSchema, cloudflareDefault),
  (defaulted "files" filesDefault filesSectionSchema, filesDefault),
  (required "mailboxes" (.map imapMailboxConfigSchema),
    mapValue ImapMailboxConfig.toValue defaultMailboxConfigs),
  (required "actions" actionsSectionSchema, ActionsSection.default.toValue),
  (required "identities" (.list identityConfigSchema), .array [defaultIdentity]),
  (defaulted "case" (.object []) (.record []), .object []),
  (required "audit" auditSectionSchema, .object [("reason_mode", .string "required")]),
  (required "smtp" smtpSectionSchema, smtpDefault),
  (defaulted "contact" contactDefault contactSectionSchema, contactDefault)]

def mailConfigTable (offset : String) : List ((FieldSpec × Schema) × Json) :=
  schemaTable ++ (required "workspace" (workspaceSectionSchema offset), workspaceDefault offset) ::
    sectionTable

def mailConfigFields (offset : String) : List (FieldSpec × Schema) :=
  (mailConfigTable offset).map (·.1)

/-- The type of a configuration, where the system is in the time zone `offset`. -/
def mailConfigSchema (offset : String) : Schema := .record (mailConfigFields offset)

/-- The default configuration. -/
def defaultTemplateValue (offset : String) : Json :=
  writeRecord ((mailConfigTable offset).map fun entry => (entry.1.1, entry.2))

theorem forall_mailConfigTable {offset : String} {motive : (FieldSpec × Schema) × Json → Prop}
    (workspace : motive
      (required "workspace" (workspaceSectionSchema offset), workspaceDefault offset))
    (rest : ∀ entry ∈ schemaTable ++ sectionTable, motive entry) :
    ∀ entry ∈ mailConfigTable offset, motive entry := by
  rw [mailConfigTable]
  rw [List.forall_mem_append] at rest ⊢
  exact ⟨rest.1, List.forall_mem_cons.mpr ⟨workspace, rest.2⟩⟩

theorem names_mailConfigFields (offset : String) :
    ((mailConfigFields offset).map (·.1.name)).Nodup := by
  have hnames : (mailConfigFields offset).map (·.1.name) =
      ["schema_name", "schema_version", "workspace", "review", "imap", "cloudflare", "files",
        "mailboxes", "actions", "identities", "case", "audit", "smtp", "contact"] := rfl
  rw [hnames]
  decide

theorem sound_mailConfigSchema (offset : String) : (mailConfigSchema offset).sound = true := by
  have hsound : ∀ entry ∈ mailConfigTable offset, Schema.soundField entry.1 = true := by
    refine forall_mailConfigTable ?_ (by decide +kernel)
    simp [required, workspaceSectionSchema, defaulted, optionalString, Schema.soundField, Schema.sound,
      Schema.soundFields, Schema.read]
  rw [mailConfigSchema, Schema.sound, Bool.and_eq_true, decide_eq_true_eq]
  refine ⟨names_mailConfigFields offset, Schema.soundFields_iff.mpr fun field hfield => ?_⟩
  obtain ⟨entry, hentry, rfl⟩ := List.mem_map.mp hfield
  exact Schema.soundField_iff.mp (hsound entry hentry)

theorem plain_mailConfigSchema (offset : String) : (mailConfigSchema offset).plain = true := by
  have hplain : ∀ entry ∈ mailConfigTable offset, Schema.plainField entry.1 = true :=
    forall_mailConfigTable rfl (by decide +kernel)
  refine Schema.plainFields_iff.mpr fun field hfield => ?_
  obtain ⟨entry, hentry, rfl⟩ := List.mem_map.mp hfield
  have hentry := hplain entry hentry
  rwa [Schema.plainField, Bool.and_eq_true, Bool.not_eq_true'] at hentry

theorem read_workspaceDefault (offset : String) :
    (workspaceSectionSchema offset).read (workspaceDefault offset) = some (workspaceDefault offset) := by
  have hwritten : workspaceDefault offset = writeRecord [
      ((defaulted "language_bcp47" .null optionalString).1, .null),
      ((defaulted "timezone_utc_offset" (.string offset) optionalString).1, .string offset)] := by
    have hordered : "language_bcp47" < "timezone_utc_offset" := by decide
    simp [workspaceDefault, writeRecord, written, defaulted, FieldSpec.skips, Fields.ofList,
      Fields.insert, hordered]
  have hnames : ["language_bcp47", "timezone_utc_offset"].Nodup := by decide
  rw [hwritten]
  exact Schema.read_writeRecord hnames (.cons ⟨rfl, rfl⟩ (.cons ⟨rfl, rfl⟩ .nil))

theorem read_defaultTemplateValue (offset : String) :
    (mailConfigSchema offset).read (defaultTemplateValue offset) =
      some (defaultTemplateValue offset) := by
  have hread : ∀ entry ∈ mailConfigTable offset, entry.1.2.read entry.2 = some entry.2 :=
    forall_mailConfigTable (read_workspaceDefault offset) (by decide +kernel)
  refine Schema.read_writeRecord (names_mailConfigFields offset) ?_
  rw [mailConfigFields, List.forall₂_map_left_iff, List.forall₂_map_right_iff, List.forall₂_same]
  exact fun entry hentry => ⟨rfl, hread entry hentry⟩

end Config
end AgentFirstMail
