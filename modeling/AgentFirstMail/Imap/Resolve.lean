import AgentFirstMail.Config.Actions

namespace AgentFirstMail
open Text (eqIgnoreAsciiCase)

/-- One mailbox of a server's `LIST` response. -/
structure MailboxInfo where
  name : String
  attributes : List String := []

def ambiguousMailbox (id : String) (index : Nat) (selector value : String) : AppError :=
  { errorCode := "imap_mailbox_ambiguous"
    message :=
      s!"mailboxes.{id}.resolve[{index}].{selector} {value} matched multiple remote mailboxes" }

/-- The mailboxes whose name a rule's `mailbox_name` is, ignoring ASCII case. -/
def namedMailboxes (listed : List MailboxInfo) (name : String) : List MailboxInfo :=
  listed.filter fun mailbox => eqIgnoreAsciiCase mailbox.name name

/-- The mailboxes that carry a rule's `special_use` attribute. -/
def attributedMailboxes (listed : List MailboxInfo) (specialUse : String) : List MailboxInfo :=
  listed.filter fun mailbox =>
    mailbox.attributes.any fun attribute_ => eqIgnoreAsciiCase attribute_ specialUse

/-- What one selector decides: a folder, an ambiguity, or nothing. -/
def decideSelector (error : AppError) : List MailboxInfo → Option (Result String)
  | [mailbox] => some (.ok mailbox.name)
  | [] => none
  | _ => some (.error error)

def resolveRule (id : String) (index : Nat) (rule : MailboxResolveRule)
    (listed : List MailboxInfo) : Option (Result String) :=
  let byName := rule.mailboxName.bind fun name =>
    decideSelector (ambiguousMailbox id index "mailbox_name" name) (namedMailboxes listed name)
  let byAttribute := rule.specialUse.bind fun specialUse =>
    decideSelector (ambiguousMailbox id index "special_use" specialUse)
      (attributedMailboxes listed specialUse)
  byName.or byAttribute

def resolveRules (id : String) (listed : List MailboxInfo) :
    Nat → List MailboxResolveRule → Result String
  | _, [] => .error
    { errorCode := "imap_mailbox_unresolved"
      message := s!"mailboxes.{id}.resolve matched no remote mailbox" }
  | index, rule :: rest =>
    (resolveRule id index rule listed).getD (resolveRules id listed (index + 1) rest)

def resolveConfiguredMailbox (id : String) (configured : ImapMailboxConfig)
    (listed : List MailboxInfo) : Result String :=
  resolveRules id listed 0 configured.resolve

structure PullTarget where
  id : String
  mailbox : String
  importAs : PullImportAs
  direction : MailDirection

/-- A mailbox needs the server's listing unless its only rule names a folder. -/
def ImapMailboxConfig.needsList (mailbox : ImapMailboxConfig) : Bool :=
  mailbox.resolve.length != 1 || mailbox.resolve.any (·.specialUse.isSome)

def needsList (config : MailConfig) (ids : List String) : Bool :=
  ids.any fun id => (config.mailboxes[id]?).any (·.needsList)

/-- The folder of one selected id: from the listing when there is one, else from the rules. -/
def pullMailbox (config : MailConfig) (mailboxes : Option (List MailboxInfo)) (id : String) :
    Result String := do
  let configured ← config.mailbox id
  match mailboxes with
  | some listed => resolveConfiguredMailbox id configured listed
  | none => config.offlineMailboxName id

def resolvePullTargetsFrom (config : MailConfig) (mailboxes : Option (List MailboxInfo)) :
    List String → List String → Result (List PullTarget)
  | [], _ => .ok []
  | id :: rest, resolvedNames => do
    let _ ← config.mailbox id
    let action ← config.pullAction id
    let mailbox ← pullMailbox config mailboxes id
    ensure (mailbox ∉ resolvedNames)
      { errorCode := "imap_mailbox_ambiguous"
        message :=
          s!"multiple selected mailbox ids resolve to remote mailbox {mailbox}" }
    let targets ← resolvePullTargetsFrom config mailboxes rest (mailbox :: resolvedNames)
    return { id, mailbox, importAs := action.importAs, direction := action.direction } :: targets

/-- The server's listing, asked for only when a selected id needs it. -/
def listingFor (config : MailConfig) (fetchMailboxes : Result (List MailboxInfo))
    (ids : List String) : Result (Option (List MailboxInfo)) :=
  if needsList config ids then some <$> fetchMailboxes else .ok none

/-- `fetchMailboxes` is the answer the server gives to `LIST`. -/
def resolvePullTargets (config : MailConfig) (fetchMailboxes : Result (List MailboxInfo))
    (ids : List String) : Result (List PullTarget) := do
  let ids ← config.selectedPullIds ids
  let mailboxes ← listingFor config fetchMailboxes ids
  resolvePullTargetsFrom config mailboxes ids []

/-- The folder that a push into a configured mailbox id acts on. -/
def actionMailboxFolder (config : MailConfig) (listed : List MailboxInfo) (mailboxId : String) :
    Result String := do
  let mailbox ← config.mailbox mailboxId
  resolveConfiguredMailbox mailboxId mailbox listed

/-- The mailboxes a rule selects by whichever selector it has. -/
def MailboxResolveRule.selected (rule : MailboxResolveRule) (listed : List MailboxInfo) :
    List MailboxInfo :=
  match rule.mailboxName, rule.specialUse with
  | some name, _ => namedMailboxes listed name
  | none, some specialUse => attributedMailboxes listed specialUse
  | none, none => []

/-- The first rule that selects any listed mailbox selects exactly `folder`. -/
def FirstSelection (rules : List MailboxResolveRule) (listed : List MailboxInfo)
    (folder : String) : Prop :=
  ∃ before rule after, rules = before ++ rule :: after ∧
    (∀ earlier ∈ before, earlier.selected listed = []) ∧
    (rule.selected listed).map (·.name) = [folder]

theorem decideSelector_eq_none_iff : decideSelector error matched = none ↔ matched = [] := by
  match matched with
  | [] => simp [decideSelector]
  | [_] => simp [decideSelector]
  | _ :: _ :: _ => simp [decideSelector]

theorem decideSelector_eq_ok_iff :
    decideSelector error matched = some (.ok folder) ↔ matched.map (·.name) = [folder] := by
  match matched with
  | [] => simp [decideSelector]
  | [_] => simp [decideSelector]
  | _ :: _ :: _ => simp [decideSelector]

theorem resolveRule_of_valid {rule : MailboxResolveRule} (h : rule.valid = true) (id : String)
    (index : Nat) (listed : List MailboxInfo) :
    ∃ error, resolveRule id index rule listed = decideSelector error (rule.selected listed) := by
  rcases MailboxResolveRule.valid_cases h with ⟨name, rfl⟩ | ⟨use, rfl⟩
  · exact ⟨_, by simp [resolveRule, MailboxResolveRule.selected]; rfl⟩
  · exact ⟨_, by simp [resolveRule, MailboxResolveRule.selected]; rfl⟩

theorem firstSelection_cons {rule : MailboxResolveRule} {rest : List MailboxResolveRule} :
    FirstSelection (rule :: rest) listed folder ↔
      (rule.selected listed).map (·.name) = [folder] ∨
        rule.selected listed = [] ∧ FirstSelection rest listed folder := by
  constructor
  · rintro ⟨before, chosen, after, hrules, hbefore, hchosen⟩
    cases before with
    | nil =>
      cases hrules
      exact .inl hchosen
    | cons earlier before =>
      cases hrules
      exact .inr ⟨hbefore _ List.mem_cons_self,
        before, chosen, after, rfl, fun r hr => hbefore r (List.mem_cons_of_mem _ hr), hchosen⟩
  · rintro (hchosen | ⟨hempty, before, chosen, after, rfl, hbefore, hchosen⟩)
    · exact ⟨[], rule, rest, rfl, by simp, hchosen⟩
    · exact ⟨rule :: before, chosen, after, rfl, List.forall_mem_cons.mpr ⟨hempty, hbefore⟩, hchosen⟩

theorem resolveRules_eq_ok_iff {rules : List MailboxResolveRule} {id : String}
    (h : ∀ rule ∈ rules, rule.valid = true) :
    resolveRules id listed index rules = .ok folder ↔ FirstSelection rules listed folder := by
  induction rules generalizing index with
  | nil => simp [resolveRules, FirstSelection]
  | cons rule rest ih =>
    obtain ⟨hrule, hrest⟩ := List.forall_mem_cons.mp h
    obtain ⟨error, hdecide⟩ := resolveRule_of_valid hrule id index listed
    have hok := @decideSelector_eq_ok_iff error (rule.selected listed) folder
    have hnone := @decideSelector_eq_none_iff error (rule.selected listed)
    have htail := @ih (index + 1) hrest
    rw [firstSelection_cons, ← hok, ← hnone, ← htail, resolveRules, hdecide]
    cases decideSelector error (rule.selected listed) <;> simp

theorem resolveConfiguredMailbox_eq_ok_iff {configured : ImapMailboxConfig} {id : String}
    (h : ∀ rule ∈ configured.resolve, rule.valid = true) :
    resolveConfiguredMailbox id configured listed = .ok folder ↔
      FirstSelection configured.resolve listed folder :=
  resolveRules_eq_ok_iff h

end AgentFirstMail
