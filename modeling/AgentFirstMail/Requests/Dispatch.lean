import AgentFirstMail.Requests.Mutations

namespace AgentFirstMail
open ToJson

/-- What is passed to the guard for a command: its name, the input that is hashed, and the
operation, which reads the files its arguments name when it is run. -/
structure Arm where
  command : String
  input : Json
  operation : Files → Mutation

/-- How a command with a request id is run: under the guard, not at all, or without the guard. -/
inductive Dispatched
  | idempotent (arm : Arm)
  | refused (error : AppError)
  | unguarded

instance : ToJson MessageSuggestedAction where
  toJson := MessageSuggestedAction.json
  injective := by
    intro left right h
    cases left <;> cases right <;> simp_all [MessageSuggestedAction.json, tagged]

instance : ToJson CaseSuggestedAction where
  toJson := CaseSuggestedAction.json
  injective := by
    intro left right h
    cases left <;> cases right <;> simp_all [CaseSuggestedAction.json, tagged]

instance : ToJson NotificationSuggestedAction where
  toJson := NotificationSuggestedAction.json
  injective := by
    intro left right h
    cases left <;> cases right <;> simp_all [NotificationSuggestedAction.json, tagged]

def noMessageId : AppError :=
  { errorCode := "invalid_request"
    message := "message disposition requires at least one message id" }

/-- A command that takes several message ids takes the first one when it has a request id. -/
def withFirst (messageIds : List String) (arm : String → Arm) : Dispatched :=
  match messageIds.head? with
  | some messageId => .idempotent (arm messageId)
  | none => .refused noMessageId

def TriageAction.dispatch : TriageAction → Dispatched
  | .suggestion (.set args) =>
    let suggestedAction := messageSuggestedAction args.action
    .idempotent {
      command := "triage_suggestion_set"
      input := .object [("message_id", toJson args.messageId),
        ("message_review_base_hash", toJson args.messageReviewBaseHash),
        ("suggested_action", toJson suggestedAction), ("reason", toJson args.reason),
        ("confidence_percent", toJson args.confidencePercent)]
      operation _ := .setMessageAgentSuggestion args.messageId args.messageReviewBaseHash
        suggestedAction args.reason args.confidencePercent }
  | .suggestion (.clear messageId agentSuggestionUid) => .idempotent {
      command := "triage_suggestion_clear"
      input := .object [("message_id", toJson messageId),
        ("agent_suggestion_uid", toJson agentSuggestionUid)]
      operation _ := .clearMessageSuggestion messageId agentSuggestionUid }
  | .list .. | .review .. => .unguarded

def MessageAction.dispatch : MessageAction → Dispatched
  | .spam messageIds reason => withFirst messageIds fun messageId => {
      command := "message_spam"
      input := .object [("message_id", toJson messageId), ("reason", toJson reason)]
      operation _ := .spamMessage messageId reason }
  | .trash messageIds reason => withFirst messageIds fun messageId => {
      command := "message_trash"
      input := .object [("message_id", toJson messageId), ("reason", toJson reason)]
      operation _ := .trashMessage messageId reason }
  | .unspam messageIds reason => withFirst messageIds fun messageId => {
      command := "message_unspam"
      input := .object [("message_id", toJson messageId), ("reason", toJson reason)]
      operation _ := .unspamMessage messageId reason }
  | .untrash messageIds reason => withFirst messageIds fun messageId => {
      command := "message_untrash"
      input := .object [("message_id", toJson messageId), ("reason", toJson reason)]
      operation _ := .untrashMessage messageId reason }
  | .show_ _ | .list .. | .attachmentFetch .. => .unguarded

def CaseCommand.dispatch : CaseCommand → Dispatched
  | .create args => .idempotent {
      command := "case_create"
      input := .object [("name", toJson args.name), ("group", toJson args.group),
        ("message", toJson args.message), ("summary", toJson args.summary),
        ("reason", toJson args.reason)]
      operation _ := .createCase args.name args.group args.message args.summary args.reason }
  | .add caseRef messageIds summary reason => withFirst messageIds fun messageId => {
      command := "case_add"
      input := .object [("case_ref", toJson caseRef), ("message_id", toJson messageId),
        ("summary", toJson summary), ("reason", toJson reason)]
      operation _ := .addMessageToCase caseRef messageId summary reason }
  | .setSummary caseRef messageId summary reason => .idempotent {
      command := "case_set_summary"
      input := .object [("case_ref", toJson caseRef), ("message_id", toJson messageId),
        ("summary", toJson summary), ("reason", toJson reason)]
      operation _ := .caseSetSummary caseRef messageId summary reason }
  | .remove caseRef messageId reason => .idempotent {
      command := "case_remove"
      input := .object [("case_ref", toJson caseRef), ("message_id", toJson messageId),
        ("reason", toJson reason)]
      operation _ := .removeMessageFromCase caseRef messageId reason }
  | .move caseRef group reason => .idempotent {
      command := "case_move"
      input := .object [("case_ref", toJson caseRef), ("group", toJson group),
        ("reason", toJson reason)]
      operation _ := .moveCase caseRef group reason }
  | .rename caseRef name reason => .idempotent {
      command := "case_rename"
      input := .object [("case_ref", toJson caseRef), ("name", toJson name),
        ("reason", toJson reason)]
      operation _ := .renameCase caseRef name reason }
  | .archive caseRef reason => .idempotent {
      command := "case_archive"
      input := .object [("case_ref", toJson caseRef), ("reason", toJson reason)]
      operation _ := .archiveCase caseRef reason }
  | .unarchive caseRef group reason => .idempotent {
      command := "case_unarchive"
      input := .object [("case_ref", toJson caseRef), ("group", toJson group),
        ("reason", toJson reason)]
      operation _ := .unarchiveCase caseRef group reason }
  | .trash caseRef reason => .idempotent {
      command := "case_trash"
      input := .object [("case_ref", toJson caseRef), ("reason", toJson reason)]
      operation _ := .trashCase caseRef reason }
  | .delete caseRef allowNotes reason => .idempotent {
      command := "case_delete"
      input := .object [("case_ref", toJson caseRef), ("allow_notes", toJson allowNotes),
        ("reason", toJson reason)]
      operation _ := .deleteCase caseRef allowNotes reason }
  | .tag caseRef label reason => .idempotent {
      command := "case_tag"
      input := .object [("case_ref", toJson caseRef), ("tag", toJson label),
        ("reason", toJson reason)]
      operation _ := .tagCase caseRef label reason }
  | .untag caseRef label reason => .idempotent {
      command := "case_untag"
      input := .object [("case_ref", toJson caseRef), ("tag", toJson label),
        ("reason", toJson reason)]
      operation _ := .untagCase caseRef label reason }
  | .suggestion (.set args) =>
    let suggestedAction := caseSuggestedAction args.action
    .idempotent {
      command := "case_suggestion_set"
      input := .object [("case_ref", toJson args.caseRef),
        ("case_review_base_hash", toJson args.caseReviewBaseHash),
        ("suggested_action", toJson suggestedAction), ("reason", toJson args.reason),
        ("confidence_percent", toJson args.confidencePercent)]
      operation _ := .setCaseAgentSuggestion args.caseRef args.caseReviewBaseHash suggestedAction
        args.reason args.confidencePercent }
  | .suggestion (.clear caseRef agentSuggestionUid) => .idempotent {
      command := "case_suggestion_clear"
      input := .object [("case_ref", toJson caseRef),
        ("agent_suggestion_uid", toJson agentSuggestionUid)]
      operation _ := .clearCaseSuggestion caseRef agentSuggestionUid }
  | .notes (.append caseRef text) => .idempotent {
      command := "case_notes_append"
      input := .object [("case_ref", toJson caseRef), ("text", toJson text)]
      operation _ := .caseNotesAppend caseRef text }
  | .notes (.replace caseRef text) => .idempotent {
      command := "case_notes_replace"
      input := .object [("case_ref", toJson caseRef), ("text", toJson text)]
      operation _ := .caseNotesReplace caseRef text }
  | .draft (.new caseRef to_ cc bcc subject identity body bodyFile) => .idempotent {
      command := "case_draft_new"
      input := .object [("case_ref", toJson caseRef), ("to", toJson to_), ("cc", toJson cc),
        ("bcc", toJson bcc), ("subject", toJson subject), ("identity", toJson identity),
        ("body", toJson body), ("body_file", toJson bodyFile)]
      operation files := .createDraft caseRef
        { to_, cc, bcc, subject, identity, body := draftBodyOverride files body bodyFile } }
  | .draft (.reply caseRef messageId bcc identity body bodyFile all) => .idempotent {
      command := "case_draft_reply"
      input := .object [("case_ref", toJson caseRef), ("message_id", toJson messageId),
        ("bcc", toJson bcc), ("all", toJson all), ("identity", toJson identity),
        ("body", toJson body), ("body_file", toJson bodyFile)]
      operation files := .replyToMessageWithOptions caseRef
        { messageId, replyAll := all, bcc, identity
          body := draftBodyOverride files body bodyFile } }
  | .draft (.change caseRef draftName subject to_ cc clearCc bcc clearBcc identity body bodyFile) =>
    .idempotent {
      command := "case_draft_change"
      input := .object [("case_ref", toJson caseRef), ("draft_name", toJson draftName),
        ("subject", toJson subject), ("to", toJson to_), ("cc", toJson cc),
        ("clear_cc", toJson clearCc), ("bcc", toJson bcc), ("clear_bcc", toJson clearBcc),
        ("identity", toJson identity), ("body", toJson body), ("body_file", toJson bodyFile)]
      operation files := .changeDraft caseRef draftName
        { subject, to_, cc, clearCc, bcc, clearBcc, identity
          body := draftBodyOverride files body bodyFile } }
  | .draft (.validate caseRef draftName) => .idempotent {
      command := "case_draft_validate"
      input := .object [("case_ref", toJson caseRef), ("draft_name", toJson draftName)]
      operation _ := .validateDraft caseRef draftName }
  | .draft (.upload caseRef draftName) => .idempotent {
      command := "case_draft_upload"
      input := .object [("case_ref", toJson caseRef), ("draft_name", toJson draftName)]
      operation _ := .uploadDraft caseRef draftName }
  | .draft (.send caseRef draftName) => .idempotent {
      command := "case_draft_send"
      input := .object [("case_ref", toJson caseRef), ("draft_name", toJson draftName)]
      operation _ := .sendDraft caseRef draftName }
  | .draft (.attach caseRef draftName path) => .idempotent {
      command := "case_draft_attach"
      input := .object [("case_ref", toJson caseRef), ("draft_name", toJson draftName),
        ("path", toJson path)]
      operation files := .attachFileToDraft caseRef draftName path (files.attachment path) }
  | .draft (.remove caseRef draftName reason) => .idempotent {
      command := "case_draft_remove"
      input := .object [("case_ref", toJson caseRef), ("draft_name", toJson draftName),
        ("reason", toJson reason)]
      operation _ := .removeDraft caseRef draftName reason }
  | .list .. | .show_ _ | .review _ | .merge .. | .notes (.show_ _) | .draft (.show_ ..)
  | .draft (.review ..) | .draft (.list _) => .unguarded

def ContactCommand.dispatch : ContactCommand → Dispatched
  | .create args => .idempotent {
      command := "contact_create"
      input := .object [("name", toJson args.name), ("group", toJson args.group),
        ("emails", toJson args.emails), ("phones", toJson args.phones),
        ("org", toJson args.org), ("role", toJson args.role), ("tags", toJson args.tags),
        ("reason", toJson args.reason)]
      operation _ := .contactCreate
        { name := args.name, group := args.group, emails := args.emails, phones := args.phones
          org := args.org, role := args.role, tags := args.tags, reason := args.reason } }
  | .move contactRef group reason => .idempotent {
      command := "contact_move"
      input := .object [("contact_ref", toJson contactRef), ("group", toJson group),
        ("reason", toJson reason)]
      operation _ := .contactMove contactRef group reason }
  | .rename contactRef name reason => .idempotent {
      command := "contact_rename"
      input := .object [("contact_ref", toJson contactRef), ("name", toJson name),
        ("reason", toJson reason)]
      operation _ := .contactRename contactRef name reason }
  | .tag contactRef label reason => .idempotent {
      command := "contact_tag"
      input := .object [("contact_ref", toJson contactRef), ("tag", toJson label),
        ("reason", toJson reason)]
      operation _ := .contactTag contactRef label reason }
  | .untag contactRef label reason => .idempotent {
      command := "contact_untag"
      input := .object [("contact_ref", toJson contactRef), ("tag", toJson label),
        ("reason", toJson reason)]
      operation _ := .contactUntag contactRef label reason }
  | .delete contactRef allowNotes reason => .idempotent {
      command := "contact_delete"
      input := .object [("contact_ref", toJson contactRef), ("allow_notes", toJson allowNotes),
        ("reason", toJson reason)]
      operation _ := .contactDelete contactRef allowNotes reason }
  | .email (.add contactRef address reason) => .idempotent {
      command := "contact_email_add"
      input := .object [("contact_ref", toJson contactRef), ("email", toJson address),
        ("reason", toJson reason)]
      operation _ := .contactEmailAdd contactRef address reason }
  | .email (.remove contactRef address reason) => .idempotent {
      command := "contact_email_remove"
      input := .object [("contact_ref", toJson contactRef), ("email", toJson address),
        ("reason", toJson reason)]
      operation _ := .contactEmailRemove contactRef address reason }
  | .phone (.add contactRef number reason) => .idempotent {
      command := "contact_phone_add"
      input := .object [("contact_ref", toJson contactRef), ("phone", toJson number),
        ("reason", toJson reason)]
      operation _ := .contactPhoneAdd contactRef number reason }
  | .phone (.remove contactRef number reason) => .idempotent {
      command := "contact_phone_remove"
      input := .object [("contact_ref", toJson contactRef), ("phone", toJson number),
        ("reason", toJson reason)]
      operation _ := .contactPhoneRemove contactRef number reason }
  | .notes (.append contactRef text) => .idempotent {
      command := "contact_notes_append"
      input := .object [("contact_ref", toJson contactRef), ("text", toJson text)]
      operation _ := .contactNotesAppend contactRef text }
  | .notes (.replace contactRef text) => .idempotent {
      command := "contact_notes_replace"
      input := .object [("contact_ref", toJson contactRef), ("text", toJson text)]
      operation _ := .contactNotesReplace contactRef text }
  | .list .. | .show_ _ | .extract .. | .notes (.show_ _) => .unguarded

def NotificationCommand.dispatch : NotificationCommand → Dispatched
  | .create args => .idempotent {
      command := "notification_create"
      input := .object [("name", toJson args.name), ("message", toJson args.message),
        ("summary", toJson args.summary), ("reason", toJson args.reason)]
      operation _ := .createNotification args.name args.message args.summary args.reason }
  | .add notificationRef messageIds summary reason => withFirst messageIds fun messageId => {
      command := "notification_add"
      input := .object [("notification_ref", toJson notificationRef),
        ("message_id", toJson messageId), ("summary", toJson summary),
        ("reason", toJson reason)]
      operation _ := .notificationAddMessage messageId notificationRef (some summary) reason }
  | .remove notificationRef messageId reason => .idempotent {
      command := "notification_remove"
      input := .object [("notification_ref", toJson notificationRef),
        ("message_id", toJson messageId), ("reason", toJson reason)]
      operation _ := .notificationRemove notificationRef messageId reason }
  | .move notificationRef messageId newNotificationRef reason => .idempotent {
      command := "notification_move"
      input := .object [("notification_ref", toJson notificationRef),
        ("message_id", toJson messageId), ("new_notification_ref", toJson newNotificationRef),
        ("reason", toJson reason)]
      operation _ := .notificationMove notificationRef messageId newNotificationRef reason }
  | .rename notificationRef name reason => .idempotent {
      command := "notification_rename"
      input := .object [("notification_ref", toJson notificationRef), ("name", toJson name),
        ("reason", toJson reason)]
      operation _ := .notificationRename notificationRef name reason }
  | .delete notificationRef allowNotes reason => .idempotent {
      command := "notification_delete"
      input := .object [("notification_ref", toJson notificationRef),
        ("allow_notes", toJson allowNotes), ("reason", toJson reason)]
      operation _ := .notificationDelete notificationRef allowNotes reason }
  | .setSummary notificationRef messageId summary reason => .idempotent {
      command := "notification_set_summary"
      input := .object [("notification_ref", toJson notificationRef),
        ("message_id", toJson messageId), ("summary", toJson summary),
        ("reason", toJson reason)]
      operation _ := .notificationSetSummary notificationRef messageId summary reason }
  | .suggestion (.set args) =>
    let suggestedAction := notificationSuggestedAction args.action
    .idempotent {
      command := "notification_suggestion_set"
      input := .object [("notification_ref", toJson args.notificationRef),
        ("notification_review_base_hash", toJson args.notificationReviewBaseHash),
        ("suggested_action", toJson suggestedAction), ("reason", toJson args.reason),
        ("confidence_percent", toJson args.confidencePercent)]
      operation _ := .setNotificationAgentSuggestion args.notificationRef
        args.notificationReviewBaseHash suggestedAction args.reason args.confidencePercent }
  | .suggestion (.clear notificationRef agentSuggestionUid) => .idempotent {
      command := "notification_suggestion_clear"
      input := .object [("notification_ref", toJson notificationRef),
        ("agent_suggestion_uid", toJson agentSuggestionUid)]
      operation _ := .clearNotificationSuggestion notificationRef agentSuggestionUid }
  | .notes (.append notificationRef text) => .idempotent {
      command := "notification_notes_append"
      input := .object [("notification_ref", toJson notificationRef), ("text", toJson text)]
      operation _ := .notificationNotesAppend notificationRef text }
  | .notes (.replace notificationRef text) => .idempotent {
      command := "notification_notes_replace"
      input := .object [("notification_ref", toJson notificationRef), ("text", toJson text)]
      operation _ := .notificationNotesReplace notificationRef text }
  | .list | .show_ _ | .review _ | .notes (.show_ _) => .unguarded

def requestIdNotSupported : AppError :=
  { errorCode := "request_id_not_supported"
    message := "--request-id is only supported for selected non-idempotent local mutations" }

def validateRequestId (command : CliCommand) : Result Unit :=
  ensure (requestIdSupported command) requestIdNotSupported

def CliCommand.dispatch : CliCommand → Dispatched
  | .triage action => action.dispatch
  | .message action => action.dispatch
  | .case_ action => action.dispatch
  | .contact action => action.dispatch
  | .notification action => action.dispatch
  | _ => .unguarded

/-- A command that is given a request id. -/
def executeCommand (command : CliCommand) : Dispatched :=
  match validateRequestId command with
  | .ok () => command.dispatch
  | .error error => .refused error

end AgentFirstMail
