import AgentFirstMail.Projection.Relations
import AgentFirstMail.PushQueue.Queue

namespace AgentFirstMail

inductive ContentSource where
  | remoteMail | fileMessage
deriving DecidableEq

/-- A message as reviews and views show it. -/
structure MessageRenderDocument where
  source : ContentSource
  message : MessageFile
  analysis : Json
deriving DecidableEq

/-- A message in triage with the messages it is related to. -/
structure TriageRenderDocument where
  message : MessageRenderDocument
  relatedMessages : List MessageRenderDocument
  relatedMessageIssues : List RelatedMessageIssue

/-- The content of a collection file. -/
structure MessageCollection where
  collectionUid : String
  collectionName : String
  status : String := ""
  archivedRfc3339 : Option String := none
  tags : List String := []
  items : List CollectionItem := []
  agentSuggestion : Option CollectionAgentSuggestion := none
  humanSuggestion : Option CollectionHumanSuggestion := none
deriving DecidableEq

/-- A collection with its messages; a case also tells the group it is in. -/
structure CollectionRenderDocument where
  collection : MessageCollection
  messages : List MessageRenderDocument
  location : Option String
deriving DecidableEq

structure NotesRenderDocument where
  notesPath : String
  text : String
deriving DecidableEq

structure DraftRenderDocument where
  draftName : String
  frontmatter : DraftFrontmatter
  analysis : Json
deriving DecidableEq

/-- What a review hash is taken over. -/
inductive ReviewDocument where
  | message (document : TriageRenderDocument)
  | case (collection : CollectionRenderDocument) (notes : NotesRenderDocument)
      (drafts : List DraftRenderDocument)
  | notification (collection : CollectionRenderDocument) (notes : NotesRenderDocument)

/-- What reviews use besides: the address of the default identity, what a message's text and a
draft amount to, and the fingerprint of a document. -/
structure ReviewHost extends ProjectionHost where
  defaultIdentityEmail : Result String
  analyzeMessage : MessageBase → String → Json
  analyzeDraft : String → DraftFile → Option PushItem → Result Json
  fingerprint : ReviewDocument → String

/-- A reference is a uid, or a uid with a name after a hyphen. -/
def parseUidRef (host : Host) (letter : Char) (label value : String) : Result String := do
  validateId host label value
  let uid := firstSegment value
  ensure (value.toList != (uid ++ "-").toList)
    (invalidRequest s!"invalid {label}: suffix must not be empty")
  ensure (uid.toList.head? == some letter)
    (invalidRequest s!"invalid {label}: expected {letter}YYYYMMDDNNN")
  return uid

def validateUid (label value : String) (letter : Char) : Result Unit :=
  ensure (validUid letter value) (invalidRequest s!"invalid {label}: expected {letter}YYYYMMDDNNN")

def parseCaseRef (host : Host) (value : String) : Result String := do
  let uid ← parseUidRef host 'c' "case_ref" value
  validateUid "case_uid" uid 'c'
  return uid

def parseNotificationRef (host : Host) (value : String) : Result String := do
  let uid ← parseUidRef host 'n' "notification_ref" value
  validateUid "notification_uid" uid 'n'
  return uid

def CaseStatus.archivedRfc3339 : CaseStatus → Option String
  | .archived archivedRfc3339 => some archivedRfc3339
  | _ => none

namespace CaseRecord

/-- The collection file of a case. -/
def collection (caseUid : String) (case_ : CaseRecord) : MessageCollection :=
  { collectionUid := caseUid
    collectionName := case_.caseName
    status := case_.status.asStr
    archivedRfc3339 := case_.status.archivedRfc3339
    tags := case_.tags
    items := case_.members.items
    agentSuggestion := case_.agentSuggestion
    humanSuggestion := case_.humanSuggestion }

def path (case_ : CaseRecord) : String :=
  (if case_.archivedDir then "archived-cases/" else "cases/") ++ case_.group ++ "/" ++
    case_.dirName

end CaseRecord

namespace NotificationRecord

def collection (notificationUid : String) (notification : NotificationRecord) :
    MessageCollection :=
  { collectionUid := notificationUid
    collectionName := notification.notificationName
    tags := notification.tags
    items := notification.members.items
    agentSuggestion := notification.agentSuggestion
    humanSuggestion := notification.humanSuggestion }

def path (notification : NotificationRecord) : String := s!"notifications/{notification.dirName}"

end NotificationRecord

def notesMissing (path : String) : AppError :=
  { errorCode := "notes_missing", message := s!"notes.md is missing at {path}" }

def notesRenderDocument (directory : String) (notes : Option String) :
    Result NotesRenderDocument :=
  match notes with
  | some text => .ok ⟨directory ++ "/notes.md", text⟩
  | none => .error (notesMissing (directory ++ "/notes.md"))

def draftInvalid (message : String) : AppError := { errorCode := "draft_invalid", message }

section Documents
variable (host : ReviewHost)

def buildMessageRenderDocument (message : MessageFile) (accountEmail : String) :
    MessageRenderDocument :=
  { source := if message.origin.isSome then .fileMessage else .remoteMail
    message
    analysis := host.analyzeMessage message.toMessageBase accountEmail }

def draftRenderDocument (w : Workspace) (caseUid : String) (entry : String × DraftFile) :
    Result DraftRenderDocument := do
  let (draftName, draft) := entry
  ensure (draft.frontmatter.caseUid == caseUid) (draftInvalid (s!"draft case_uid " ++
    s!"{draft.frontmatter.caseUid} does not match containing case {caseUid}"))
  let analysis ← host.analyzeDraft draftName draft (w.findDraftItem caseUid draftName)
  return { draftName, frontmatter := draft.frontmatter, analysis }

namespace WorkspaceTree
variable (tree : WorkspaceTree)

def messageRenderDocument (messageId : String) : Result MessageRenderDocument := do
  let message ← tree.readMessageById host.toProjectionHost messageId
  let accountEmail ← host.defaultIdentityEmail
  return buildMessageRenderDocument host message accountEmail

def triageTemplateDocument (messageId : String) : Result TriageRenderDocument := do
  validateId host.toHost "message_id" messageId
  let message ← tree.messageRenderDocument host messageId
  let index := tree.buildMessageRelationIndex
  let relatedMessages ← (index.relatedMessageIds messageId).mapM (tree.messageRenderDocument host)
  return { message, relatedMessages, relatedMessageIssues := index.issues }

def caseRenderDocument (caseUid : String) : Result CollectionRenderDocument := do
  let case_ ← tree.workspace.readCaseFile host.toHost caseUid
  let messages ← case_.members.messageIds.mapM (tree.messageRenderDocument host)
  return { collection := case_.collection caseUid, messages, location := some case_.group }

def notificationRenderDocument (notificationUid : String) : Result CollectionRenderDocument := do
  let notification ← tree.workspace.readNotifications host.toHost notificationUid
  let messages ← notification.members.messageIds.mapM (tree.messageRenderDocument host)
  return { collection := notification.collection notificationUid, messages, location := none }

def caseNotesRenderDocument (caseUid : String) : Result NotesRenderDocument := do
  let case_ ← tree.workspace.readCaseFile host.toHost caseUid
  notesRenderDocument case_.path case_.notes

def notificationNotesRenderDocument (notificationUid : String) : Result NotesRenderDocument := do
  let notification ← tree.workspace.findNotification notificationUid
  notesRenderDocument notification.path notification.notes

/-- The drafts of a case, when it is active. -/
def draftRenderDocuments (caseUid : String) : Result (List DraftRenderDocument) := do
  let case_ ← tree.workspace.readCaseFile host.toHost caseUid
  if case_.status.isActive then
    case_.drafts.toList.mapM (draftRenderDocument host tree.workspace caseUid)
  else return []

end WorkspaceTree

/-- The document of a message without the suggestions made for it. -/
def TriageRenderDocument.withoutSuggestions (document : TriageRenderDocument) :
    TriageRenderDocument :=
  { document with
    message.message.agentSuggestion := none
    message.message.humanSuggestion := none }

/-- The document of a collection without the suggestions made for the collection itself. -/
def CollectionRenderDocument.withoutSuggestions (document : CollectionRenderDocument) :
    CollectionRenderDocument :=
  { document with
    collection.agentSuggestion := none
    collection.humanSuggestion := none }

def caseReviewBaseHashFromDocuments (collection : CollectionRenderDocument)
    (notes : NotesRenderDocument) (drafts : List DraftRenderDocument) : String :=
  host.fingerprint (.case collection.withoutSuggestions notes drafts)

def notificationReviewBaseHashFromDocuments (collection : CollectionRenderDocument)
    (notes : NotesRenderDocument) : String :=
  host.fingerprint (.notification collection.withoutSuggestions notes)

namespace WorkspaceTree
variable (tree : WorkspaceTree)

def messageReviewBaseHash (messageId : String) : Result String := do
  let document ← tree.triageTemplateDocument host messageId
  return host.fingerprint (.message document.withoutSuggestions)

def caseReviewBaseHash (caseUid : String) : Result String := do
  let collection ← tree.caseRenderDocument host caseUid
  let notes ← tree.caseNotesRenderDocument host caseUid
  let drafts ← tree.draftRenderDocuments host caseUid
  return caseReviewBaseHashFromDocuments host collection notes drafts

def notificationReviewBaseHash (notificationUid : String) : Result String := do
  let collection ← tree.notificationRenderDocument host notificationUid
  let notes ← tree.notificationNotesRenderDocument notificationUid
  return notificationReviewBaseHashFromDocuments host collection notes

end WorkspaceTree
end Documents
end AgentFirstMail
