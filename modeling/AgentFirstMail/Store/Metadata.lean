import AgentFirstMail.PushQueue.Draft
import AgentFirstMail.Store.Suggestions

namespace AgentFirstMail

def messageMetadataInvalid (message : String) : AppError :=
  { errorCode := "message_metadata_invalid", message }

section Relationship
variable (host : Host)

/-- Each id is a path segment that did not come before. -/
def checkCaseUids (seen : List String) : List String → Result Unit
  | [] => .ok ()
  | caseUid :: rest => do
    validateId host "case_relationship_suggestion.case_uids" caseUid
    ensure (caseUid ∉ seen) (messageMetadataInvalid
      "case_relationship_suggestion.case_uids must not contain duplicates")
    checkCaseUids (caseUid :: seen) rest

def validateCaseRelationshipSuggestion : Option (List String) → Result Unit
  | none => .ok ()
  | some caseUids => do
    ensure (!caseUids.isEmpty) (messageMetadataInvalid
      "case_relationship_suggestion.case_uids must not be empty")
    checkCaseUids host [] caseUids

/-- What is checked before a metadata file is written. -/
def checkMessageMetadata (metadata : MessageMetadata) : Result Unit := do
  validateMessageSuggestionPair host metadata.agentSuggestion metadata.humanSuggestion
  validateCaseRelationshipSuggestion host metadata.caseUids

end Relationship

def invalidSuggestionMetadata (errorCode path : String) (error : AppError) : AppError :=
  { errorCode, message := s!"invalid suggestion metadata in {path}: {error.toString}" }

def notificationNotFound (notificationUid : String) : AppError :=
  { errorCode := "notification_not_found"
    message := s!"notification category not found: {notificationUid}" }

namespace Workspace
variable (host : Host) (w : Workspace)

def metadataFile (messageId : String) : Option MessageMetadata :=
  w.messages[messageId]?.bind (·.metadata)

def readMessageMetadataFile (messageId : String) : Result (Option MessageMetadata) :=
  match w.metadataFile messageId with
  | none => .ok none
  | some metadata => do
    (validateMessageSuggestionPair host metadata.agentSuggestion
      metadata.humanSuggestion).mapError (invalidSuggestionMetadata "message_metadata_invalid"
        s!".afmail/messages/{messageId}.json")
    validateCaseRelationshipSuggestion host metadata.caseUids
    return some metadata

/-- The file of a case, wherever it lies. -/
def readCaseFile (caseUid : String) : Result CaseRecord := do
  let case_ ← w.findCase caseUid
  (validateCaseSuggestionPair host case_.agentSuggestion case_.humanSuggestion).mapError
    (invalidSuggestionMetadata "case_metadata_invalid" "data/case.json")
  ensureStatusFitsTree caseUid case_
  return case_

def findNotification (notificationUid : String) : Result NotificationRecord :=
  match w.notifications[notificationUid]? with
  | some notification => .ok notification
  | none => .error (notificationNotFound notificationUid)

def readNotifications (notificationUid : String) : Result NotificationRecord := do
  let notification ← w.findNotification notificationUid
  (validateNotificationSuggestionPair host notification.agentSuggestion
    notification.humanSuggestion).mapError (invalidSuggestionMetadata "notifications_invalid"
      s!"notifications/{notification.dirName}/data/notification.json")
  return notification

end Workspace
end AgentFirstMail
