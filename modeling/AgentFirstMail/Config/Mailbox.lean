import AgentFirstMail.Data.Text
import AgentFirstMail.Error

namespace AgentFirstMail
open Text (eqIgnoreAsciiCase isBlank)

/-- The RFC 6154 special uses, in the source's declaration order. -/
inductive SpecialUseKind where
  | archive | junk | trash | sent | drafts | all | flagged
deriving DecidableEq

namespace SpecialUseKind

def asStr : SpecialUseKind → String
  | archive => "archive"
  | junk => "junk"
  | trash => "trash"
  | sent => "sent"
  | drafts => "drafts"
  | all => "all"
  | flagged => "flagged"

def attributeName : SpecialUseKind → String
  | archive => "\\Archive"
  | junk => "\\Junk"
  | trash => "\\Trash"
  | sent => "\\Sent"
  | drafts => "\\Drafts"
  | all => "\\All"
  | flagged => "\\Flagged"

def fallbackNames : SpecialUseKind → List String
  | archive => ["Archive", "Archives"]
  | junk => ["Junk", "Spam", "Junk Email", "Junk E-mail"]
  | trash => ["Trash", "Deleted Items", "Deleted Messages", "Bin"]
  | sent => ["Sent", "Sent Mail", "Sent Messages"]
  | drafts => ["Drafts", "Draft"]
  | all => ["All Mail", "All"]
  | flagged => ["Flagged", "Starred"]

def canMoveTo : SpecialUseKind → Bool
  | all | flagged => false
  | _ => true

def kinds : List SpecialUseKind := [all, archive, drafts, flagged, junk, sent, trash]

def fromAttribute (value : String) : Option SpecialUseKind :=
  kinds.find? fun kind => eqIgnoreAsciiCase value kind.attributeName

end SpecialUseKind

structure MailboxResolveRule where
  mailboxName : Option String := none
  specialUse : Option String := none
deriving DecidableEq

namespace MailboxResolveRule

/-- A rule selects by a nonblank folder name or by a nonblank attribute, never by both. -/
def valid (rule : MailboxResolveRule) : Bool :=
  match rule.mailboxName, rule.specialUse with
  | some mailbox, none => !isBlank mailbox
  | none, some specialUse => !isBlank specialUse
  | _, _ => false

def validate (rule : MailboxResolveRule) (id : String) (index : Nat) : Result Unit :=
  ensure rule.valid
    { errorCode := "config_invalid"
      message := s!"mailboxes.{id}.resolve[{index}] must set exactly one selector field" }

def offlineMailboxName (rule : MailboxResolveRule) : Option String :=
  match rule.mailboxName with
  | some mailbox => some mailbox
  | none => do
    let kind ← rule.specialUse.bind SpecialUseKind.fromAttribute
    kind.fallbackNames.head?

def matchesMailboxOffline (rule : MailboxResolveRule) (mailboxName : String) : Bool :=
  if rule.mailboxName = some mailboxName then true
  else match rule.specialUse.bind SpecialUseKind.fromAttribute with
    | some kind => kind.fallbackNames.any (eqIgnoreAsciiCase mailboxName)
    | none => false

theorem valid_cases {rule : MailboxResolveRule} (h : rule.valid = true) :
    (∃ name, rule = { mailboxName := some name }) ∨
      ∃ use, rule = { specialUse := some use } := by
  obtain ⟨mailboxName, specialUse⟩ := rule
  cases mailboxName with
  | some name =>
    cases specialUse with
    | some use => simp [valid] at h
    | none => exact .inl ⟨name, rfl⟩
  | none =>
    cases specialUse with
    | some use => exact .inr ⟨use, rfl⟩
    | none => simp [valid] at h

end MailboxResolveRule

structure ImapMailboxConfig where
  resolve : List MailboxResolveRule
deriving DecidableEq

namespace ImapMailboxConfig

def named (name : String) : ImapMailboxConfig := ⟨[{ mailboxName := some name }]⟩

/-- The special use by attribute, then each of its fallback folder names. -/
def specialUse (kind : SpecialUseKind) : ImapMailboxConfig :=
  ⟨{ specialUse := some kind.attributeName } ::
    kind.fallbackNames.map fun name => { mailboxName := some name }⟩

def validateRules (id : String) : Nat → List MailboxResolveRule → Result Unit
  | _, [] => .ok ()
  | index, rule :: rest => do
    rule.validate id index
    validateRules id (index + 1) rest

def validate (mailbox : ImapMailboxConfig) (id : String) : Result Unit := do
  ensure (!mailbox.resolve.isEmpty)
    { errorCode := "config_invalid"
      message := s!"mailboxes.{id}.resolve must contain at least one rule" }
  validateRules id 0 mailbox.resolve

def offlineMailboxName (mailbox : ImapMailboxConfig) : Option String :=
  mailbox.resolve.findSome? MailboxResolveRule.offlineMailboxName

def matchesMailboxOffline (mailbox : ImapMailboxConfig) (mailboxName : String) : Bool :=
  mailbox.resolve.any (·.matchesMailboxOffline mailboxName)

def containsSpecialUse (mailbox : ImapMailboxConfig) (kind : SpecialUseKind) : Bool :=
  mailbox.resolve.any fun rule =>
    rule.specialUse.any fun value => eqIgnoreAsciiCase value kind.attributeName

def firstSpecialUseKind (mailbox : ImapMailboxConfig) : Option SpecialUseKind :=
  mailbox.resolve.findSome? fun rule => rule.specialUse.bind SpecialUseKind.fromAttribute

theorem validateRules_ok {id : String} (h : validateRules id index rules = .ok ()) :
    ∀ rule ∈ rules, rule.valid = true := by
  induction rules generalizing index with
  | nil => simp
  | cons rule rest ih =>
    simp only [validateRules, MailboxResolveRule.validate, ensure] at h
    split at h
    · rename_i hvalid
      exact List.forall_mem_cons.mpr ⟨hvalid, ih h⟩
    · cases h

theorem validate_ok {mailbox : ImapMailboxConfig} {id : String} (h : mailbox.validate id = .ok ()) :
    mailbox.resolve ≠ [] ∧ ∀ rule ∈ mailbox.resolve, rule.valid = true := by
  simp only [validate, ensure] at h
  split at h
  · rename_i hne
    exact ⟨by simpa using hne, validateRules_ok h⟩
  · cases h

end ImapMailboxConfig
end AgentFirstMail
