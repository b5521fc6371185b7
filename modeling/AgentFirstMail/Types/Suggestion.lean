import Mathlib.Tactic.Common

namespace AgentFirstMail

inductive MessageSuggestedAction
  | caseCreate (caseName group : String)
  | caseAdd (caseRef : String)
  | notificationCreate (notificationName summary : String)
  | notificationAdd (notificationRef summary : String)
  | spam
  | trash
deriving DecidableEq

inductive CaseSuggestedAction
  | caseArchive
  | caseUnarchive (group : String)
  | caseMove (group : String)
  | caseRename (caseName : String)
  | caseTag (tag : String)
  | caseUntag (tag : String)
  | caseTrash
  | caseDelete (allowNotes : Bool)
deriving DecidableEq

inductive NotificationSuggestedAction
  | notificationRename (notificationName : String)
  | notificationDelete (allowNotes : Bool)
deriving DecidableEq

/-- How a person settled an item: the proposal as it was, another action, a refusal, or an
action where nothing was proposed. -/
inductive HumanSuggestionOutcome
  | accepted | changed | rejected | decided
deriving DecidableEq

/-- What an agent proposes for an item, made against its review hash. -/
structure AgentSuggestion (α : Type) where
  agentSuggestionUid : String
  reviewBaseHash : String
  suggestedAction : α
  reason : String
  confidencePercent : Option UInt8 := none
  createdRfc3339 : String
deriving DecidableEq

/-- A person's settled disposition of an item, and the proposal that it answers. -/
structure HumanSuggestion (α : Type) where
  humanSuggestionUid : String
  basedOnAgentSuggestionUid : Option String := none
  reviewBaseHash : String
  outcome : HumanSuggestionOutcome
  suggestedAction : Option α := none
  reason : Option String := none
  createdRfc3339 : String
deriving DecidableEq

abbrev MessageAgentSuggestion := AgentSuggestion MessageSuggestedAction
abbrev MessageHumanSuggestion := HumanSuggestion MessageSuggestedAction
abbrev CaseAgentSuggestion := AgentSuggestion CaseSuggestedAction
abbrev CaseHumanSuggestion := HumanSuggestion CaseSuggestedAction
abbrev NotificationAgentSuggestion := AgentSuggestion NotificationSuggestedAction
abbrev NotificationHumanSuggestion := HumanSuggestion NotificationSuggestedAction

/-- A collection file may hold a suggestion for either kind of collection. -/
inductive CollectionAgentSuggestion
  | case (suggestion : CaseAgentSuggestion)
  | notification (suggestion : NotificationAgentSuggestion)
deriving DecidableEq

inductive CollectionHumanSuggestion
  | case (suggestion : CaseHumanSuggestion)
  | notification (suggestion : NotificationHumanSuggestion)
deriving DecidableEq

/-- The strings of a JSON document, as a search for message ids meets them. -/
abbrev JsonStrings := List String

def CaseSuggestedAction.jsonStrings : CaseSuggestedAction → JsonStrings
  | .caseUnarchive group => [group]
  | .caseMove group => [group]
  | .caseRename caseName => [caseName]
  | .caseTag tag => [tag]
  | .caseUntag tag => [tag]
  | _ => []

def NotificationSuggestedAction.jsonStrings : NotificationSuggestedAction → JsonStrings
  | .notificationRename notificationName => [notificationName]
  | .notificationDelete _ => []

def AgentSuggestion.jsonStrings (action : α → JsonStrings) (suggestion : AgentSuggestion α) :
    JsonStrings :=
  [suggestion.agentSuggestionUid, suggestion.reviewBaseHash, suggestion.reason,
    suggestion.createdRfc3339] ++ action suggestion.suggestedAction

def HumanSuggestion.jsonStrings (action : α → JsonStrings) (suggestion : HumanSuggestion α) :
    JsonStrings :=
  [suggestion.humanSuggestionUid, suggestion.reviewBaseHash, suggestion.createdRfc3339] ++
    suggestion.basedOnAgentSuggestionUid.toList ++ suggestion.reason.toList ++
    suggestion.suggestedAction.toList.flatMap action

def CollectionAgentSuggestion.jsonStrings : CollectionAgentSuggestion → JsonStrings
  | .case suggestion => suggestion.jsonStrings (·.jsonStrings)
  | .notification suggestion => suggestion.jsonStrings (·.jsonStrings)

def CollectionHumanSuggestion.jsonStrings : CollectionHumanSuggestion → JsonStrings
  | .case suggestion => suggestion.jsonStrings (·.jsonStrings)
  | .notification suggestion => suggestion.jsonStrings (·.jsonStrings)

end AgentFirstMail
