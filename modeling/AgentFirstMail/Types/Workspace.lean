import AgentFirstMail.Types.Push
import AgentFirstMail.Types.Contact
import AgentFirstMail.Types.Suggestion

namespace AgentFirstMail

structure CollectionItem where
  messageId : String
  summary : Option String := none
  addedRfc3339 : String
deriving DecidableEq

/-- The entries of one collection file; no message is entered twice. -/
structure Members where
  items : List CollectionItem
  nodup : (items.map (·.messageId)).Nodup
deriving DecidableEq

namespace Members

def empty : Members := ⟨[], List.nodup_nil⟩

instance : EmptyCollection Members := ⟨empty⟩
instance : Inhabited Members := ⟨empty⟩

def messageIds (members : Members) : List String := members.items.map (·.messageId)

instance : Membership String Members := ⟨fun members messageId => messageId ∈ members.messageIds⟩

instance (messageId : String) (members : Members) : Decidable (messageId ∈ members) :=
  inferInstanceAs (Decidable (messageId ∈ members.messageIds))

def find? (members : Members) (messageId : String) : Option CollectionItem :=
  members.items.find? (·.messageId == messageId)

/-- The summary of an entry that exists is replaced by a new one and kept otherwise. -/
def updateSummary (messageId : String) (summary : Option String) (item : CollectionItem) :
    CollectionItem :=
  if item.messageId = messageId then { item with summary := summary.or item.summary } else item

theorem updateSummary_messageId (messageId : String) (summary : Option String)
    (items : List CollectionItem) :
    (items.map (updateSummary messageId summary)).map (·.messageId) =
      items.map (·.messageId) := by
  rw [List.map_map]
  apply List.map_congr_left
  intro item _
  simp only [Function.comp_apply, updateSummary]
  split <;> rfl

def upsertItem (members : Members) (messageId : String) (summary : Option String)
    (addedRfc3339 : String) : Members :=
  if h : messageId ∈ members.messageIds then
    ⟨members.items.map (updateSummary messageId summary), by
      rw [updateSummary_messageId]
      exact members.nodup⟩
  else
    ⟨members.items ++ [CollectionItem.mk messageId summary addedRfc3339], by
      rw [List.map_append]
      exact List.Nodup.append members.nodup (List.nodup_singleton _)
        (List.disjoint_singleton.mpr h)⟩

def remove (members : Members) (messageId : String) : Members :=
  ⟨members.items.filter (·.messageId != messageId),
    members.nodup.sublist (List.filter_sublist.map _)⟩

@[simp] theorem not_mem_empty (messageId : String) : messageId ∉ (∅ : Members) := List.not_mem_nil

@[simp] theorem mem_upsertItem {members : Members} {messageId other added : String}
    {summary : Option String} :
    other ∈ members.upsertItem messageId summary added ↔ other = messageId ∨ other ∈ members := by
  change other ∈ (members.upsertItem messageId summary added).messageIds ↔
    other = messageId ∨ other ∈ members.messageIds
  unfold upsertItem
  split
  · rename_i h
    have hids := updateSummary_messageId messageId summary members.items
    simp only [messageIds, hids]
    constructor
    · exact .inr
    · rintro (rfl | hmem)
      · exact h
      · exact hmem
  · simp [messageIds, or_comm]

@[simp] theorem mem_remove {members : Members} {messageId other : String} :
    other ∈ members.remove messageId ↔ other ∈ members ∧ other ≠ messageId := by
  change other ∈ (members.remove messageId).messageIds ↔ other ∈ members.messageIds ∧ _
  simp only [messageIds, remove, List.mem_map, List.mem_filter, bne_iff_ne]
  constructor
  · rintro ⟨item, ⟨hmem, hne⟩, rfl⟩
    exact ⟨⟨item, hmem, rfl⟩, hne⟩
  · rintro ⟨⟨item, hmem, rfl⟩, hne⟩
    exact ⟨item, ⟨hmem, hne⟩, rfl⟩

end Members

inductive MessageStatus where
  | triage | case | notification | archived | spam | trashed | deletedRemote
deriving DecidableEq

def MessageStatus.asStr : MessageStatus → String
  | triage => "triage"
  | case => "case"
  | notification => "notification"
  | archived => "archived"
  | spam => "spam"
  | trashed => "trashed"
  | deletedRemote => "deleted_remote"

/-- The three collections a message can be disposed into. -/
inductive Disposition where
  | spam | trashed | deletedRemote
deriving DecidableEq

def Disposition.specs : List Disposition := [spam, trashed, deletedRemote]

def Disposition.status : Disposition → MessageStatus
  | spam => .spam
  | trashed => .trashed
  | deletedRemote => .deletedRemote

inductive DeliverySource where
  | cloudflareR2 (bucket key : String)
  | file (path : String)
deriving DecidableEq

/-- How a message was delivered, as its sources tell. -/
structure DeliveryEnvelope where
  envelopeFrom : Option String := none
  envelopeTo : List String := []
  receivedRfc3339 : Option String := none
  sources : List DeliverySource := []
deriving DecidableEq

/-- The canonical metadata of a message; `caseUids` are the cases that its reply headers lead
to. -/
structure MessageMetadata where
  remote : Option (List RemoteLocation) := none
  delivery : Option DeliveryEnvelope := none
  agentSuggestion : Option MessageAgentSuggestion := none
  humanSuggestion : Option MessageHumanSuggestion := none
  caseUids : Option (List String) := none
deriving DecidableEq

/-- What a workspace keeps of one message: its evidence with what is read out of it, and the
canonical metadata. -/
structure MessageRecord where
  eml : Option Bytes := none
  rfc822MessageId : Option String := none
  direction : Option String := none
  metadata : Option MessageMetadata := none
deriving DecidableEq

structure DraftFrontmatter where
  caseUid : String
  sendIntent : Option String := none
  syncIntent : Option OutboundAction := none
  replyToMessageId : Option String := none
  replyRoute : Option ReplyRoute := none
deriving DecidableEq

/-- A draft file: the front matter that planning reads, and its bytes. -/
structure DraftFile where
  frontmatter : DraftFrontmatter
  text : Bytes
deriving DecidableEq

inductive CaseStatus where
  | active
  | archiving
  | archived (archivedRfc3339 : String)
deriving DecidableEq

/-- Why a draft state file is refused. -/
inductive DraftStateIssue where
  | notText
  | notJson (message : String)
  | otherSchema
deriving DecidableEq

/-- A case directory; `archivedDir` tells which of the two trees it lies in. The file
`data/drafts.json` says `draftStates`, unless it does not read as a draft state at all. -/
structure CaseRecord where
  archivedDir : Bool := false
  group : String
  dirName : String
  caseName : String
  status : CaseStatus := .active
  tags : List String := []
  members : Members := ∅
  drafts : Std.ExtTreeMap String DraftFile := ∅
  draftStates : Std.ExtTreeMap String String := ∅
  draftStateIssue : Option DraftStateIssue := none
  files : Std.ExtTreeMap String Bytes := ∅
  notes : Option String := none
  agentSuggestion : Option CollectionAgentSuggestion := none
  humanSuggestion : Option CollectionHumanSuggestion := none
deriving DecidableEq

structure NotificationRecord where
  group : String
  dirName : String
  notificationName : String
  tags : List String := []
  members : Members := ∅
  notes : Option String := none
  agentSuggestion : Option CollectionAgentSuggestion := none
  humanSuggestion : Option CollectionHumanSuggestion := none
deriving DecidableEq

structure TransactionRecord where
  kind : String
  paths : List String
deriving DecidableEq

structure AuditEvent where
  eventId : String
  createdRfc3339 : String
  kind : String
  targets : List (String × String) := []
  reason : Option String := none
deriving DecidableEq

/-- The audit log as physical lines, each holding the records written to it; the last line
is the one a next record is written to. -/
structure AuditLog where
  lines : List (List AuditEvent) := []
  tail : List AuditEvent := []
deriving DecidableEq

/-- What a workspace keeps on disk. -/
structure Workspace where
  config : MailConfig
  workspaceUid : String := ""
  messages : Std.ExtTreeMap String MessageRecord := ∅
  spam : Members := ∅
  trashed : Members := ∅
  deletedRemote : Members := ∅
  notifications : Std.ExtTreeMap String NotificationRecord := ∅
  cases : Std.ExtTreeMap String CaseRecord := ∅
  pushItems : Std.ExtTreeMap String PushItem := ∅
  transactions : Std.ExtTreeMap String TransactionRecord := ∅
  contacts : List ContactFile := []
  audit : AuditLog := {}
deriving DecidableEq

namespace Workspace

def disposition (w : Workspace) : Disposition → Members
  | .spam => w.spam
  | .trashed => w.trashed
  | .deletedRemote => w.deletedRemote

def setDisposition (w : Workspace) (kind : Disposition) (members : Members) : Workspace :=
  match kind with
  | .spam => { w with spam := members }
  | .trashed => { w with trashed := members }
  | .deletedRemote => { w with deletedRemote := members }

@[simp] theorem disposition_setDisposition (w : Workspace) (kind other : Disposition)
    (members : Members) : (w.setDisposition kind members).disposition other =
      if other = kind then members else w.disposition other := by
  cases kind <;> cases other <;> rfl

end Workspace
end AgentFirstMail
