import AgentFirstMail.Types.Contact
import AgentFirstMail.Types.Push
import AgentFirstMail.Types.Suggestion
import AgentFirstMail.Requests.Commands

namespace AgentFirstMail

def messageSuggestedAction : MessageSuggestionAction → MessageSuggestedAction
  | .caseCreate name group => .caseCreate name group
  | .caseAdd caseRef => .caseAdd caseRef
  | .notificationCreate name summary => .notificationCreate name summary
  | .notificationAdd notificationRef summary => .notificationAdd notificationRef summary
  | .spam => .spam
  | .trash => .trash

def caseSuggestedAction : CaseSuggestionActionKind → CaseSuggestedAction
  | .archive => .caseArchive
  | .unarchive group => .caseUnarchive group
  | .move group => .caseMove group
  | .rename name => .caseRename name
  | .tag tag => .caseTag tag
  | .untag tag => .caseUntag tag
  | .trash => .caseTrash
  | .delete allowNotes => .caseDelete allowNotes

def notificationSuggestedAction : NotificationSuggestionActionKind → NotificationSuggestedAction
  | .rename name => .notificationRename name
  | .delete allowNotes => .notificationDelete allowNotes

/-- An enumeration is written with its case as `kind`. -/
def tagged (kind : String) (fields : List (String × Json)) : Json :=
  .object (("kind", ToJson.toJson kind) :: fields)

def MessageSuggestedAction.json : MessageSuggestedAction → Json
  | .caseCreate caseName group =>
    tagged "case_create" [("case_name", ToJson.toJson caseName), ("group", ToJson.toJson group)]
  | .caseAdd caseRef => tagged "case_add" [("case_ref", ToJson.toJson caseRef)]
  | .notificationCreate notificationName summary =>
    tagged "notification_create" [("notification_name", ToJson.toJson notificationName),
      ("summary", ToJson.toJson summary)]
  | .notificationAdd notificationRef summary =>
    tagged "notification_add" [("notification_ref", ToJson.toJson notificationRef),
      ("summary", ToJson.toJson summary)]
  | .spam => tagged "spam" []
  | .trash => tagged "trash" []

def CaseSuggestedAction.json : CaseSuggestedAction → Json
  | .caseArchive => tagged "case_archive" []
  | .caseUnarchive group => tagged "case_unarchive" [("group", ToJson.toJson group)]
  | .caseMove group => tagged "case_move" [("group", ToJson.toJson group)]
  | .caseRename caseName => tagged "case_rename" [("case_name", ToJson.toJson caseName)]
  | .caseTag tag => tagged "case_tag" [("tag", ToJson.toJson tag)]
  | .caseUntag tag => tagged "case_untag" [("tag", ToJson.toJson tag)]
  | .caseTrash => tagged "case_trash" []
  | .caseDelete allowNotes =>
    tagged "case_delete" [("allow_notes", ToJson.toJson allowNotes)]

def NotificationSuggestedAction.json : NotificationSuggestedAction → Json
  | .notificationRename notificationName =>
    tagged "notification_rename" [("notification_name", ToJson.toJson notificationName)]
  | .notificationDelete allowNotes =>
    tagged "notification_delete" [("allow_notes", ToJson.toJson allowNotes)]

/-- What a path given for an attachment leads to, from the current directory. -/
inductive AttachmentSource
  | unresolved (error : AppError)
  | notAFile
  | file (absolute : String) (content : Bytes)

/-- The files outside the workspace, under the paths that arguments give for them: what reading
one as a draft's text answers, and what attaching one finds. -/
structure Files where
  readToString : String → Result String
  attachment : String → AttachmentSource

def bodyAndBodyFile : AppError :=
  { errorCode := "invalid_request", message := "--body cannot be used with --body-file" }

def draftBodyOverride (files : Files) : Option String → Option String → Result (Option String)
  | some _, some _ => .error bodyAndBodyFile
  | some body, none => .ok (some body)
  | none, some path => (files.readToString path).map some
  | none, none => .ok none

structure NewDraft where
  to_ : List String
  cc : List String
  bcc : List String
  subject : String
  identity : Option String
  body : Result (Option String)

structure ReplyDraft where
  messageId : String
  replyAll : Bool
  bcc : List String
  identity : Option String
  body : Result (Option String)

structure DraftChange where
  subject : Option String
  to_ : List String
  cc : List String
  clearCc : Bool
  bcc : List String
  clearBcc : Bool
  identity : Option String
  body : Result (Option String)

/-- A call of a workspace operation with everything that reaches it from outside the workspace:
its arguments, the text that a body file gave and the file to attach. -/
inductive Mutation
  | setMessageAgentSuggestion (messageId messageReviewBaseHash : String)
      (action : MessageSuggestedAction) (reason : String) (confidencePercent : Option UInt8)
  | clearMessageSuggestion (messageId agentSuggestionUid : String)
  | spamMessage (messageId : String) (reason : Option String)
  | trashMessage (messageId : String) (reason : Option String)
  | unspamMessage (messageId : String) (reason : Option String)
  | untrashMessage (messageId : String) (reason : Option String)
  | createCase (name : String) (group message summary reason : Option String)
  | setCaseAgentSuggestion (caseRef caseReviewBaseHash : String) (action : CaseSuggestedAction)
      (reason : String) (confidencePercent : Option UInt8)
  | clearCaseSuggestion (caseRef agentSuggestionUid : String)
  | addMessageToCase (caseRef messageId : String) (summary reason : Option String)
  | caseSetSummary (caseRef messageId summary : String) (reason : Option String)
  | removeMessageFromCase (caseRef messageId : String) (reason : Option String)
  | moveCase (caseRef group : String) (reason : Option String)
  | renameCase (caseRef name : String) (reason : Option String)
  | caseNotesAppend (caseRef text : String)
  | caseNotesReplace (caseRef text : String)
  | archiveCase (caseRef : String) (reason : Option String)
  | unarchiveCase (caseRef group : String) (reason : Option String)
  | trashCase (caseRef : String) (reason : Option String)
  | deleteCase (caseRef : String) (allowNotes : Bool) (reason : Option String)
  | tagCase (caseRef tag : String) (reason : Option String)
  | untagCase (caseRef tag : String) (reason : Option String)
  | createDraft (caseRef : String) (draft : NewDraft)
  | replyToMessageWithOptions (caseRef : String) (draft : ReplyDraft)
  | changeDraft (caseRef draftName : String) (change : DraftChange)
  | validateDraft (caseRef draftName : String)
  | uploadDraft (caseRef draftName : String)
  | sendDraft (caseRef draftName : String)
  | attachFileToDraft (caseRef draftName sourcePath : String) (source : AttachmentSource)
  | removeDraft (caseRef draftName : String) (reason : Option String)
  | contactCreate (contact : NewContact)
  | contactMove (contactRef group : String) (reason : Option String)
  | contactRename (contactRef name : String) (reason : Option String)
  | contactEmailAdd (contactRef email : String) (reason : Option String)
  | contactEmailRemove (contactRef email : String) (reason : Option String)
  | contactPhoneAdd (contactRef phone : String) (reason : Option String)
  | contactPhoneRemove (contactRef phone : String) (reason : Option String)
  | contactTag (contactRef tag : String) (reason : Option String)
  | contactUntag (contactRef tag : String) (reason : Option String)
  | contactNotesAppend (contactRef text : String)
  | contactNotesReplace (contactRef text : String)
  | contactDelete (contactRef : String) (allowNotes : Bool) (reason : Option String)
  | createNotification (name : String) (message summary reason : Option String)
  | notificationAddMessage (messageId notificationRef : String) (summary reason : Option String)
  | setNotificationAgentSuggestion (notificationRef notificationReviewBaseHash : String)
      (action : NotificationSuggestedAction) (reason : String)
      (confidencePercent : Option UInt8)
  | clearNotificationSuggestion (notificationRef agentSuggestionUid : String)
  | notificationRemove (notificationRef messageId : String) (reason : Option String)
  | notificationMove (notificationRef messageId newNotificationRef : String)
      (reason : Option String)
  | notificationRename (notificationRef name : String) (reason : Option String)
  | notificationDelete (notificationRef : String) (allowNotes : Bool) (reason : Option String)
  | notificationSetSummary (notificationRef messageId summary : String) (reason : Option String)
  | notificationNotesAppend (notificationRef text : String)
  | notificationNotesReplace (notificationRef text : String)

end AgentFirstMail
