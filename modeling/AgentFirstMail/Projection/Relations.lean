import AgentFirstMail.Projection.Read

namespace AgentFirstMail

/-- A projection that the relations could not be read from. -/
structure RelatedMessageIssue where
  code : String
  messageId : String
  path : String

def normalizeRfc822MessageId (value : String) : Option String :=
  let normalized := normalizeMessageId value.toList
  if normalized = "" then none else some normalized

namespace MessageBase
variable (message : MessageBase)

def rfc822Id : Option String := message.content.rfc822MessageId.bind normalizeRfc822MessageId

/-- The messages a message says it answers. -/
def replyHeaderIds : List String :=
  sortedDedup ((message.content.inReplyTo.toList ++ message.content.references).flatMap
    extractMessageIds)

/-- One of two messages answers the other. -/
def answers (other : MessageBase) : Bool :=
  other.rfc822Id.any (· ∈ message.replyHeaderIds) ||
    message.rfc822Id.any (· ∈ other.replyHeaderIds)

/-- The name of a message of a file source in its conversation. -/
def nativeKey : Option (ReplyRoute × String) :=
  message.origin.map fun origin => (origin.replyRoute, origin.externalMessageId)

def nativeParentKey : Option (ReplyRoute × String) :=
  message.origin.bind fun origin =>
    origin.replyToExternalMessageId.map fun parent => (origin.replyRoute, parent)

end MessageBase

/-- The projections that can be read, and what is wrong with the others. -/
structure MessageRelationIndex where
  messages : List MessageBase := []
  issues : List RelatedMessageIssue := []

namespace MessageRelationIndex
variable (index : MessageRelationIndex)

/-- The message of a conversation that another one answers. -/
def nativeParent (message : MessageBase) : Option String := do
  let key ← message.nativeParentKey
  let parent ← index.messages.reverse.find? (·.nativeKey = some key)
  if parent.messageId = message.messageId then none else some parent.messageId

/-- What a message is related to by the conversations of file sources. -/
def nativeRelated (messageId : String) : List String :=
  index.messages.flatMap fun message =>
    match index.nativeParent message with
    | none => []
    | some parentId =>
      (if message.messageId = messageId then [parentId] else []) ++
        (if parentId = messageId then [message.messageId] else [])

def relatedMessageIds (messageId : String) : List String :=
  match index.messages.reverse.find? (·.messageId = messageId) with
  | none => []
  | some message =>
    let answering := (index.messages.filter fun other =>
      other.messageId != messageId && message.answers other).map (·.messageId)
    sortedDedup (answering ++ index.nativeRelated messageId)

/-- Enters one projection file. -/
def addProjection (entry : String × ProjectionFile) : MessageRelationIndex :=
  match entry.2 with
  | .message file => { index with messages := index.messages ++ [file.toMessageBase] }
  | .invalid error =>
    { index with issues := index.issues ++ [RelatedMessageIssue.mk error.errorCode entry.1
        s!"messages/{entry.1}.json"] }

end MessageRelationIndex

namespace WorkspaceTree
variable (tree : WorkspaceTree)

/-- The projection files, in the order of their paths. -/
def messageJsonPaths : List (String × ProjectionFile) :=
  tree.projections.toList.insertionSort fun a b => a.1 ++ ".json" ≤ b.1 ++ ".json"

def buildMessageRelationIndex : MessageRelationIndex :=
  tree.messageJsonPaths.foldl MessageRelationIndex.addProjection {}

end WorkspaceTree
end AgentFirstMail
