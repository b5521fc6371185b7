import AgentFirstMail.Store.Overlay

namespace AgentFirstMail

/-- A file that refers to messages. -/
abbrev Reference := String

namespace CaseRecord

/-- The strings of a case file. -/
def jsonStrings (caseUid : String) (case_ : CaseRecord) : JsonStrings :=
  [caseUid, case_.caseName, case_.status.asStr] ++ case_.tags ++
    (case_.members.items.flatMap fun item =>
      [item.messageId, item.addedRfc3339] ++ item.summary.toList) ++
    case_.agentSuggestion.toList.flatMap (·.jsonStrings) ++
    case_.humanSuggestion.toList.flatMap (·.jsonStrings)

end CaseRecord

namespace MessageActionPush

def jsonStrings (action : MessageActionPush) : JsonStrings :=
  action.messageIds ++ action.replyToMessageId.toList ++
    action.locations.flatMap (fun location => [location.messageId, location.mailboxName]) ++
    action.steps.flatMap fun step =>
      step.addFlags ++ step.moveToMailboxId.toList ++ step.appendToMailboxId.toList

end MessageActionPush

namespace PushItem

/-- The strings of a queue record. -/
def jsonStrings (item : PushItem) : JsonStrings :=
  [item.pushId, item.createdRfc3339, item.updatedRfc3339] ++ item.lastError.toList ++
    (match item.payload with
    | .draft draft => [draft.caseUid, draft.draftName]
    | .message message =>
      message.messageId :: message.messageActionSnapshot.toList.flatMap (·.jsonStrings)) ++
    (item.stepStates.flatMap fun state =>
      state.label :: (state.resultSummary.toList ++ state.errorCode.toList ++
        state.error.toList)) ++
    item.auditPending.toList.flatMap fun pending =>
      [pending.eventId, pending.pushKind] ++ pending.caseUid.toList ++
        pending.draftName.toList ++ pending.messageIds ++ pending.lastError.toList

end PushItem

namespace Workspace
variable (w : Workspace)

def collectActiveCaseReferences (messageId : String) : List Reference :=
  w.caseEntries.filterMap fun entry =>
    if messageId ∈ entry.2.jsonStrings entry.1 then some s!"cases/{entry.1}/data/case.json" else none

def collectAnyCaseMessageReferences (messageId : String) : List Reference :=
  w.allCaseEntries.filterMap fun entry =>
    if messageId ∈ entry.2.jsonStrings entry.1 then some s!"cases/{entry.1}/data/case.json" else none

def collectDraftReferencesExceptCase (messageId : String) (ignored : Option String) :
    List Reference :=
  (w.allCaseEntries.filter fun entry => ignored != some entry.1).flatMap fun entry =>
    entry.2.drafts.toList.filterMap fun draft =>
      if draft.2.frontmatter.replyToMessageId = some messageId then
        some s!"cases/{entry.1}/drafts/{draft.1}" else none

/-- Queued items that name the message, but for the allowed one, for adding to a case and for
the drafts of an ignored case. -/
def collectPushReferencesExceptCase (messageId : String) (allowed ignored : Option String) :
    List Reference :=
  w.sortedItems.filterMap fun item =>
    if allowed = some item.pushId then none
    else if item.message.any (·.action == .caseAdd) then none
    else if ignored.isSome && item.draft.map (·.caseUid) == ignored then none
    else if messageId ∈ item.messageIds then some s!".afmail/push/{item.pushId}.json"
    else none

def messagePushActionIsAllowed (item : PushItem) (messageId : String)
    (allowed : List MessagePushAction) : Bool :=
  !allowed.isEmpty && !item.hasStartedEffects &&
    item.message.any fun message =>
      decide (message.action ∈ allowed) && message.messageId == messageId

def collectPushReferencesExceptMessagePushes (messageId : String) (allowedPush : Option String)
    (allowed : List MessagePushAction) : List Reference :=
  w.sortedItems.filterMap fun item =>
    if allowedPush = some item.pushId then none
    else if messagePushActionIsAllowed item messageId allowed then none
    else if messageId ∈ item.jsonStrings then some s!".afmail/push/{item.pushId}.json"
    else none

/-- A message that cannot be read refers to no notification. -/
def collectNotificationReferences (messageId : String) : Result (List Reference) := do
  let index ← w.materializedOverlayIndex
  match w.readMessageUnder index messageId with
  | .ok message =>
    return if message.notificationUid.isSome then [s!"messages/{messageId}.json:notification_uid"]
      else []
  | .error _ => return []

def messageReferences (messageId : String) (allowedPush : Option String)
    (allowed : List MessagePushAction) : Result (List Reference) := do
  let notifications ← w.collectNotificationReferences messageId
  return w.collectAnyCaseMessageReferences messageId ++
    w.collectDraftReferencesExceptCase messageId none ++
    w.collectPushReferencesExceptMessagePushes messageId allowedPush allowed ++ notifications

def messageReferenced (references : List Reference) : AppError :=
  let list := ", ".intercalate references
  { errorCode := "message_referenced"
    message := s!"message id cannot be moved while referenced by {list}" }

def ensureMessageIdsUnreferencedExceptMessagePushes (messageIds : List String)
    (allowedPush : Option String) (allowed : List MessagePushAction) : Result Unit := do
  let references ← messageIds.mapM fun messageId =>
    w.messageReferences messageId allowedPush allowed
  ensure references.flatten.isEmpty (messageReferenced references.flatten)

def ensureMessageIdsUnreferenced (messageIds : List String) (allowedPush : Option String) :
    Result Unit :=
  w.ensureMessageIdsUnreferencedExceptMessagePushes messageIds allowedPush []

/-- What keeps a message from being archived remotely. -/
def archiveBlockers (messageId : String) (allowedPush archivingCase : Option String) :
    Result (List Reference) := do
  let message ← w.readMessageById messageId
  let cases ← w.buildCaseIndex
  let hasArchiveState := message.notificationUid.isSome || message.status == .archived ||
    cases.hasArchivedReference messageId
  return (if hasArchiveState then [] else [s!"messages/{messageId}.json:notification_uid"]) ++
    w.collectActiveCaseReferences messageId ++
    w.collectDraftReferencesExceptCase messageId archivingCase ++
    w.collectPushReferencesExceptCase messageId allowedPush archivingCase

def archiveBlocked (blockers : List Reference) : AppError :=
  let list := ", ".intercalate blockers
  { errorCode := "message_referenced"
    message := s!"message id cannot be archived remotely while blocked by {list}" }

def ensureArchiveEligible (messageIds : List String) (allowedPush : Option String) :
    Result Unit := do
  let blockers ← messageIds.mapM fun messageId => w.archiveBlockers messageId allowedPush none
  ensure blockers.flatten.isEmpty (archiveBlocked blockers.flatten)

def archivingCaseUidForMessage (messageId : String) : Option String :=
  (w.archivedCaseEntries.find? fun entry =>
    entry.2.status == .archiving && decide (messageId ∈ entry.2.members)).map (·.1)

end Workspace

def messageActionPlan (action : MessagePushAction) (messageIds : List String)
    (locations : List PushLocation) (steps : List ActionStep) : Option MessageActionPush :=
  if locations.isEmpty || steps.isEmpty then none
  else some { action, messageIds, locations, steps }

def archiveActionConflict (messageId : String) : AppError :=
  { errorCode := "archive_action_conflict"
    message := s!"message {messageId} has remote locations whose archive actions differ"
    details := some { remoteCallsStarted := some false } }

/-- The archive steps of the mailbox a location is in. -/
def archiveRule (config : MailConfig) (location : MailboxIdLocation) :
    Result (Option (List ActionStep)) := do
  match ← resolveLocationMailboxId config location with
  | none => return none
  | some sourceId =>
    return (config.actions.notificationBySourceMailboxId[sourceId]?).filter (!·.isEmpty)

/-- Selects the locations that have archive steps; they all must have the same ones. -/
def selectArchiveLocations (config : MailConfig) (messageId : String) :
    Option (List ActionStep) → List MailboxIdLocation →
    Result (List PushLocation × Option (List ActionStep))
  | selected, [] => .ok ([], selected)
  | selected, location :: rest => do
    match ← archiveRule config location with
    | none => selectArchiveLocations config messageId selected rest
    | some steps =>
      ensure (selected.all (· == steps)) (archiveActionConflict messageId)
      let (locations, selected) ←
        selectArchiveLocations config messageId (some (selected.getD steps)) rest
      return (location.push :: locations, selected)

def resolveArchiveAction (config : MailConfig) (locations : List MailboxIdLocation)
    (messageId : String) : Result (List PushLocation × List ActionStep) := do
  let (selected, steps) ← selectArchiveLocations config messageId none locations
  return (selected, steps.getD [])

def pushStateMismatch (action : MessagePushAction) (status : MessageStatus) (messageId : String) :
    AppError :=
  { errorCode := "push_state_mismatch"
    message := (s!"queued action {action.kind} does not match canonical message status " ++
      s!"{status.asStr} for {messageId}") }

/-- The statuses under which a queued action still applies. -/
def MessagePushAction.matchesStatus : MessagePushAction → MessageStatus → Bool
  | spam, status => status == .spam
  | trash, status => status == .trashed
  | unspam, status | untrash, status => status == .triage
  | caseAdd, status => status == .case
  | notification, status => status == .notification || status == .archived

namespace Workspace

def planArchiveMessagePush (w : Workspace) (config : MailConfig) (messageId : String)
    (allowedPush : Option String) : Result (Option MessageActionPush) := do
  let blockers ← w.archiveBlockers messageId allowedPush (w.archivingCaseUidForMessage messageId)
  if !blockers.isEmpty then return none
  let locations ← w.messageRemoteLocationsWithMailboxIds [messageId]
  let (selected, steps) ← resolveArchiveAction config locations messageId
  return messageActionPlan .notification [messageId] selected steps

/-- Resolves a queued message action against today's configuration and message state. -/
def planMessagePush (w : Workspace) (config : MailConfig) (messageId : String)
    (action : MessagePushAction) (allowedPush : Option String) :
    Result (Option MessageActionPush) := do
  let message ← w.readMessageById messageId
  ensure (action.matchesStatus message.status)
    (pushStateMismatch action message.status messageId)
  let locations ← w.messageRemoteLocationsWithMailboxIds [messageId]
  let actions := config.actions
  match action with
  | .spam =>
    let outside ← locationsExceptMailboxKinds config [.junk] locations
    return messageActionPlan .spam [messageId] outside actions.messageSpam
  | .trash =>
    let outside ← locationsExceptMailboxKinds config [.trash] locations
    return messageActionPlan .trash [messageId] outside actions.messageTrash
  | .unspam =>
    let inside ← locationsForMailboxKinds config [.junk] locations
    return messageActionPlan .unspam [messageId] inside actions.messageUnspam
  | .untrash =>
    let inside ← locationsForMailboxKinds config [.trash] locations
    return messageActionPlan .untrash [messageId] inside actions.messageUntrash
  | .caseAdd =>
    return messageActionPlan .caseAdd [messageId] (locations.map (·.push)) actions.caseAdd
  | .notification => w.planArchiveMessagePush config messageId allowedPush

end Workspace

/-- A planned message action is for that one message, at places of its own, and is never
empty. -/
structure MessageActionPush.For (planned : MessageActionPush) (action : MessagePushAction)
    (messageId : String) : Prop where
  action : planned.action = action
  messageIds : planned.messageIds = [messageId]
  locations : planned.locations ≠ []
  places : ∀ location ∈ planned.locations, location.messageId = messageId
  steps : planned.steps ≠ []
  single : ∀ step ∈ planned.steps, step.opCount = 1
  replyTo : planned.replyToMessageId = none

theorem messageActionPlan_for {action : MessagePushAction} {messageId : String}
    {steps : List ActionStep}
    (hplaces : ∀ location ∈ locations, location.messageId = messageId)
    (hsingle : ∀ step ∈ steps, step.opCount = 1)
    (h : messageActionPlan action [messageId] locations steps = some planned) :
    planned.For action messageId := by
  unfold messageActionPlan at h
  split at h
  · cases h
  · rename_i hne
    simp only [Bool.or_eq_true, List.isEmpty_iff, not_or] at hne
    cases h
    exact ⟨rfl, rfl, hne.1, hplaces, hne.2, hsingle, rfl⟩

/-- Every location in a list is one of a message. -/
abbrev AllOf (messageId : String) (locations : List MailboxIdLocation) : Prop :=
  ∀ location ∈ locations, location.push.messageId = messageId

theorem RemoteLocation.toMailboxIdLocation_messageId {location : RemoteLocation}
    {messageId : String} (h : location.toMailboxIdLocation messageId = some found) :
    found.push.messageId = messageId := by
  unfold toMailboxIdLocation at h
  split at h
  · split at h
    · cases h
      rfl
    · cases h
  · cases h

theorem Workspace.remoteLocations_allOf {w : Workspace} {messageId : String}
    (h : w.messageRemoteLocationsWithMailboxIds [messageId] = .ok locations) :
    AllOf messageId locations := by
  obtain ⟨index, _, h⟩ := Result.bind_ok h
  obtain ⟨lists, hlists, h⟩ := Result.bind_ok h
  cases h
  cases Result.mapM_eq_ok_iff.mp hlists with
  | cons hfirst hrest =>
    cases hrest
    obtain ⟨message, _, hfirst⟩ := Result.bind_ok hfirst
    cases hfirst
    intro location hmem
    rw [List.flatten_cons, List.flatten_nil, List.append_nil, List.mem_filterMap] at hmem
    obtain ⟨recorded, _, hrecorded⟩ := hmem
    exact RemoteLocation.toMailboxIdLocation_messageId hrecorded

theorem locationsForMailboxKinds_subset
    (h : locationsForMailboxKinds config kinds locations = .ok selected) :
    selected ⊆ locations.map (·.push) := by
  induction locations generalizing selected with
  | nil =>
    cases h
    exact List.nil_subset _
  | cons location rest ih =>
    obtain ⟨inside, _, h⟩ := Result.bind_ok h
    obtain ⟨others, hothers, h⟩ := Result.bind_ok h
    have hrest := ih hothers
    cases h
    split
    · exact List.cons_subset_cons _ hrest
    · exact List.subset_cons_of_subset _ hrest

theorem locationsExceptMailboxKinds_subset
    (h : locationsExceptMailboxKinds config kinds locations = .ok selected) :
    selected ⊆ locations.map (·.push) := by
  induction locations generalizing selected with
  | nil =>
    cases h
    exact List.nil_subset _
  | cons location rest ih =>
    obtain ⟨inside, _, h⟩ := Result.bind_ok h
    obtain ⟨others, hothers, h⟩ := Result.bind_ok h
    have hrest := ih hothers
    cases h
    split
    · exact List.subset_cons_of_subset _ hrest
    · exact List.cons_subset_cons _ hrest

/-- The steps of a configured source mailbox. -/
def ArchiveSteps (config : MailConfig) (steps : List ActionStep) : Prop :=
  ∃ id : String, config.actions.notificationBySourceMailboxId[id]? = some steps

theorem archiveRule_steps (h : archiveRule config location = .ok (some steps)) :
    ArchiveSteps config steps := by
  obtain ⟨source, _, h⟩ := Result.bind_ok h
  cases source with
  | none => cases h
  | some source =>
    obtain ⟨hget, _⟩ := Option.filter_eq_some_iff.mp (Except.ok.inj h)
    exact ⟨source, hget⟩

theorem selectArchiveLocations_spec {selected : Option (List ActionStep)}
    (hselected : ∀ steps, selected = some steps → ArchiveSteps config steps)
    (h : selectArchiveLocations config messageId selected locations = .ok (places, found)) :
    places ⊆ locations.map (·.push) ∧ ∀ steps, found = some steps → ArchiveSteps config steps := by
  induction locations generalizing selected places found with
  | nil =>
    cases h
    exact ⟨List.nil_subset _, hselected⟩
  | cons location rest ih =>
    obtain ⟨rule, hrule, h⟩ := Result.bind_ok h
    cases rule with
    | none =>
      obtain ⟨hplaces, hfound⟩ := ih hselected h
      exact ⟨List.subset_cons_of_subset _ hplaces, hfound⟩
    | some steps =>
      obtain ⟨_, h⟩ := Result.seq_ok h
      obtain ⟨others, hothers, h⟩ := Result.bind_ok h
      cases h
      have hnext : ∀ chosen, some (selected.getD steps) = some chosen →
          ArchiveSteps config chosen := by
        intro chosen heq
        cases heq
        cases selected with
        | none => exact archiveRule_steps hrule
        | some first => exact hselected first rfl
      obtain ⟨hplaces, hfound⟩ := ih hnext hothers
      exact ⟨List.cons_subset_cons _ hplaces, hfound⟩

theorem places_of_subset {places : List PushLocation} (h : AllOf messageId locations)
    (hsubset : places ⊆ locations.map (·.push)) :
    ∀ place ∈ places, place.messageId = messageId := by
  intro place hmem
  obtain ⟨location, hlocation, rfl⟩ := List.mem_map.mp (hsubset hmem)
  exact h location hlocation

theorem Workspace.planArchiveMessagePush_for {w : Workspace} {config : MailConfig}
    {messageId : String} (hconfig : config.validate = .ok ())
    (h : w.planArchiveMessagePush config messageId allowedPush = .ok (some planned)) :
    planned.For .notification messageId := by
  obtain ⟨blockers, _, h⟩ := Result.bind_ok h
  split at h
  · cases h
  · obtain ⟨locations, hlocations, h⟩ := Result.bind_ok h
    obtain ⟨⟨selected, steps⟩, haction, h⟩ := Result.bind_ok h
    obtain ⟨⟨places, found⟩, hselect, haction⟩ := Result.bind_ok haction
    cases haction
    have hnone : ∀ steps, none = some steps → ArchiveSteps config steps := fun _ h => by cases h
    obtain ⟨hplaces, hfound⟩ := selectArchiveLocations_spec hnone hselect
    apply messageActionPlan_for (places_of_subset (remoteLocations_allOf hlocations) hplaces) _
      (Except.ok.inj h)
    cases found with
    | none => exact fun _ hmem => (List.not_mem_nil hmem).elim
    | some steps =>
      obtain ⟨id, hget⟩ := hfound steps rfl
      exact (MailConfig.validate_singleSteps hconfig).notification id steps hget

/-- What a queued action is planned to is for its message alone. -/
theorem Workspace.planMessagePush_for {w : Workspace} {config : MailConfig} {messageId : String}
    (hconfig : config.validate = .ok ())
    (h : w.planMessagePush config messageId action allowedPush = .ok (some planned)) :
    planned.For action messageId := by
  have hsingle := MailConfig.validate_singleSteps hconfig
  obtain ⟨message, _, h⟩ := Result.bind_ok h
  obtain ⟨_, h⟩ := Result.seq_ok h
  obtain ⟨locations, hlocations, h⟩ := Result.bind_ok h
  have hall := remoteLocations_allOf hlocations
  cases action with
  | caseAdd =>
    apply messageActionPlan_for _ hsingle.caseAdd (Except.ok.inj h)
    exact places_of_subset hall (List.Subset.refl _)
  | notification => exact planArchiveMessagePush_for hconfig h
  | spam =>
    obtain ⟨places, hplaces, h⟩ := Result.bind_ok h
    exact messageActionPlan_for (places_of_subset hall (locationsExceptMailboxKinds_subset hplaces))
      hsingle.messageSpam (Except.ok.inj h)
  | trash =>
    obtain ⟨places, hplaces, h⟩ := Result.bind_ok h
    exact messageActionPlan_for (places_of_subset hall (locationsExceptMailboxKinds_subset hplaces))
      hsingle.messageTrash (Except.ok.inj h)
  | unspam =>
    obtain ⟨places, hplaces, h⟩ := Result.bind_ok h
    exact messageActionPlan_for (places_of_subset hall (locationsForMailboxKinds_subset hplaces))
      hsingle.messageUnspam (Except.ok.inj h)
  | untrash =>
    obtain ⟨places, hplaces, h⟩ := Result.bind_ok h
    exact messageActionPlan_for (places_of_subset hall (locationsForMailboxKinds_subset hplaces))
      hsingle.messageUntrash (Except.ok.inj h)

end AgentFirstMail
