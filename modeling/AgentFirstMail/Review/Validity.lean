import AgentFirstMail.Data.Trimming
import AgentFirstMail.Effect.Frame
import AgentFirstMail.Review.Commands

namespace AgentFirstMail
open Effect

section Texts

theorem trimmed_trimmed (text : String) : trimmed (trimmed text) = trimmed text := by
  rw [trimmed, trimmed, String.toList_ofList]
  exact congrArg String.ofList (Text.trimMatches_trimMatches text.toList)

theorem checkedSuggestionText_eq_ok {field value text : String}
    (h : checkedSuggestionText field value = .ok text) : text = trimmed value ∧ text ≠ "" := by
  unfold checkedSuggestionText at h
  dsimp only at h
  split at h
  · cases h
  · rename_i hne
    cases h
    exact ⟨rfl, hne⟩

theorem checkedSuggestionText_of_ne {value : String} (h : trimmed value ≠ "") (field : String) :
    checkedSuggestionText field value = .ok (trimmed value) := if_neg h

theorem checkedConfidencePercent_eq_ok {value percent : Option UInt8}
    (h : checkedConfidencePercent value = .ok percent) :
    percent = value ∧ checkedConfidencePercent percent = .ok percent := by
  have hsame : percent = value := by
    unfold checkedConfidencePercent at h
    split at h
    · cases h
    · exact (Except.ok.inj h).symm
  rw [hsame] at h ⊢
  exact ⟨rfl, h⟩

theorem cleanOptionalReason_again (reason : Option String) :
    cleanOptionalReason (cleanOptionalReason reason) = cleanOptionalReason reason := by
  cases reason with
  | none => rfl
  | some text =>
    by_cases hempty : trimmed text = ""
    · have hclean : cleanOptionalReason (some text) = none := by
        simp [cleanOptionalReason, hempty, Option.filter]
      rw [hclean]
      rfl
    · have hclean : cleanOptionalReason (some text) = some (trimmed text) := by
        simp [cleanOptionalReason, hempty, Option.filter]
      rw [hclean]
      simp [cleanOptionalReason, trimmed_trimmed, hempty, Option.filter]

end Texts

section Pairs
variable {validateAction : α → Result Unit}

theorem validateAgentFields_of {suggestion : AgentSuggestion α} {percent : Option UInt8}
    (huid : trimmed suggestion.agentSuggestionUid ≠ "")
    (hhash : trimmed suggestion.reviewBaseHash ≠ "") (hreason : trimmed suggestion.reason ≠ "")
    (hconfidence : checkedConfidencePercent suggestion.confidencePercent = .ok percent)
    (hcreated : trimmed suggestion.createdRfc3339 ≠ "") :
    validateAgentFields suggestion = .ok () := by
  rw [validateAgentFields, checkedSuggestionText_of_ne huid, checkedSuggestionText_of_ne hhash,
    checkedSuggestionText_of_ne hreason, hconfidence, checkedSuggestionText_of_ne hcreated]
  rfl

theorem validateAgentSuggestion_proposed {uid hash reason text now : String} {action : α}
    {confidence percent : Option UInt8} (huid : trimmed uid ≠ "") (hhash : trimmed hash ≠ "")
    (hnow : trimmed now ≠ "") (haction : validateAction action = .ok ())
    (hreason : checkedSuggestionText "reason" reason = .ok text)
    (hpercent : checkedConfidencePercent confidence = .ok percent) :
    validateAgentSuggestion validateAction (some ⟨uid, hash, action, text, percent, now⟩) =
      .ok () := by
  obtain ⟨rfl, hne⟩ := checkedSuggestionText_eq_ok hreason
  rw [← trimmed_trimmed] at hne
  exact Result.bind_unit_eq_ok_iff.mpr
    ⟨validateAgentFields_of huid hhash hne (checkedConfidencePercent_eq_ok hpercent).2 hnow, haction⟩

theorem bindHumanToAgent_eq_ok {basedOn : Option String} {hash : String}
    {agent : Option (AgentSuggestion α)} {agentAction : Option α}
    (h : bindHumanToAgent basedOn hash agent = .ok agentAction) :
    ∀ uid, basedOn = some uid → ∃ current, agent = some current ∧
      current.agentSuggestionUid = uid ∧ current.reviewBaseHash = hash := by
  rintro uid rfl
  cases agent with
  | none => cases h
  | some current =>
    rw [bindHumanToAgent] at h
    split at h
    · rename_i hsame
      exact ⟨current, rfl, hsame.1.symm, hsame.2.symm⟩
    · cases h

variable [DecidableEq α]

theorem validateSuggestionPair_eq_ok_iff {agent : Option (AgentSuggestion α)}
    {human : Option (HumanSuggestion α)} :
    validateSuggestionPair validateAction agent human = .ok () ↔
      validateAgentSuggestion validateAction agent = .ok () ∧
        validateHumanSuggestion validateAction agent human = .ok () :=
  Result.bind_unit_eq_ok_iff

theorem validateHumanSuggestionFields_clean (outcome : HumanSuggestionOutcome)
    (basedOn : Option String) (action : Option α) (reason : Option String)
    (agentAction : Option α) :
    validateHumanSuggestionFields validateAction outcome basedOn action
        (cleanOptionalReason reason) agentAction =
      validateHumanSuggestionFields validateAction outcome basedOn action reason agentAction := by
  cases outcome with
  | rejected =>
    rw [validateHumanSuggestionFields, cleanOptionalReason_again]
    rfl
  | accepted => rfl
  | changed => rfl
  | decided => rfl

theorem bound_of_validateSuggestionPair {agent : Option (AgentSuggestion α)}
    {human : HumanSuggestion α} {uid : String}
    (h : validateSuggestionPair validateAction agent (some human) = .ok ())
    (hbased : human.basedOnAgentSuggestionUid = some uid) :
    ∃ current, agent = some current ∧ current.agentSuggestionUid = uid ∧
      current.reviewBaseHash = human.reviewBaseHash := by
  have hhuman := (validateSuggestionPair_eq_ok_iff.mp h).2
  obtain ⟨_, hrest⟩ := Result.seq_ok hhuman
  obtain ⟨agentAction, hbound, _⟩ := Result.bind_ok hrest
  exact bindHumanToAgent_eq_ok hbound uid hbased

/-- A disposition that was settled on the proposal it answers passes the checks it is read
under. -/
theorem validateHumanSuggestion_settled {item : SuggestedItem α ι} {itemUid uid hash now : String}
    {agent : Option (AgentSuggestion α)} {basedOn reason : Option String}
    {outcome : HumanSuggestionOutcome} {action agentAction : Option α} (huid : trimmed uid ≠ "")
    (hhash : trimmed hash ≠ "") (hnow : trimmed now ≠ "")
    (hagent : validateAgentSuggestion validateAction agent = .ok ())
    (hanswered : item.answeredAction itemUid agent basedOn hash = .ok agentAction)
    (hfields : validateHumanSuggestionFields validateAction outcome basedOn action reason
      agentAction = .ok ()) :
    validateHumanSuggestion validateAction agent
      (some ⟨uid, basedOn, hash, outcome, action, cleanOptionalReason reason, now⟩) = .ok () := by
  have hbound : bindHumanToAgent basedOn hash agent = .ok agentAction ∧
      checkedBasedOn basedOn = .ok () := by
    cases basedOn with
    | none =>
      cases hanswered
      exact ⟨rfl, rfl⟩
    | some based =>
      cases agent with
      | none => cases hanswered
      | some current =>
        rw [SuggestedItem.answeredAction] at hanswered
        split at hanswered
        · rename_i hsame
          obtain ⟨rfl, rfl⟩ := hsame
          cases hanswered
          obtain ⟨hvalid, _⟩ := Result.seq_ok hagent
          obtain ⟨text, htext, _⟩ := Result.bind_ok hvalid
          refine ⟨if_pos ⟨rfl, rfl⟩, ?_⟩
          obtain ⟨rfl, hne⟩ := checkedSuggestionText_eq_ok htext
          rw [checkedBasedOn, checkedSuggestionText_of_ne hne]
          rfl
        · cases hanswered
  rw [← validateHumanSuggestionFields_clean] at hfields
  apply Result.bind_unit_eq_ok_iff.mpr
  refine ⟨?_, Result.bind_eq_ok_iff.mpr ⟨agentAction, hbound.1, hfields⟩⟩
  rw [validateHumanFields, checkedSuggestionText_of_ne huid, checkedSuggestionText_of_ne hhash,
    checkedSuggestionText_of_ne hnow, hbound.2]
  rfl

end Pairs

section Files
variable (host : Host)

/-- Every file that holds suggestions passes the check that it is read back with. -/
structure SuggestionsValid (w : Workspace) : Prop where
  messages : ∀ (messageId : String) (metadata : MessageMetadata),
    w.metadataFile messageId = some metadata →
    validateMessageSuggestionPair host metadata.agentSuggestion metadata.humanSuggestion = .ok ()
  cases : ∀ (caseUid : String) (case_ : CaseRecord), w.cases[caseUid]? = some case_ →
    validateCaseSuggestionPair host case_.agentSuggestion case_.humanSuggestion = .ok ()
  notifications : ∀ (notificationUid : String) (notification : NotificationRecord),
    w.notifications[notificationUid]? = some notification →
    validateNotificationSuggestionPair host notification.agentSuggestion
      notification.humanSuggestion = .ok ()

/-- The files that hold suggestions are as they were, or gone, as far as the suggestions go. -/
structure KeepsSuggestions (w w' : Workspace) : Prop where
  messages : ∀ (messageId : String) (metadata' : MessageMetadata),
    w'.metadataFile messageId = some metadata' →
    ∃ metadata, w.metadataFile messageId = some metadata ∧
      metadata'.agentSuggestion = metadata.agentSuggestion ∧
      metadata'.humanSuggestion = metadata.humanSuggestion
  cases : ∀ (caseUid : String) (case' : CaseRecord), w'.cases[caseUid]? = some case' →
    ∃ case_, w.cases[caseUid]? = some case_ ∧ case'.agentSuggestion = case_.agentSuggestion ∧
      case'.humanSuggestion = case_.humanSuggestion
  notifications : ∀ (notificationUid : String) (notification' : NotificationRecord),
    w'.notifications[notificationUid]? = some notification' →
    ∃ notification, w.notifications[notificationUid]? = some notification ∧
      notification'.agentSuggestion = notification.agentSuggestion ∧
      notification'.humanSuggestion = notification.humanSuggestion

/-- What one write of a command can do to the files that hold suggestions: a file is written
whole, after it was checked, or the write is elsewhere. -/
inductive MetadataWrite (w : Workspace) : Workspace → Prop
  | message (messageId : String) (metadata : MessageMetadata) :
      validateMessageSuggestionPair host metadata.agentSuggestion metadata.humanSuggestion =
        .ok () →
      MetadataWrite w (w.writeMessageMetadataFile messageId metadata)
  | case (caseUid : String) (case_ : CaseRecord) :
      validateCaseSuggestionPair host case_.agentSuggestion case_.humanSuggestion = .ok () →
      MetadataWrite w (w.putCase caseUid case_)
  | notification (notificationUid : String) (notification : NotificationRecord) :
      validateNotificationSuggestionPair host notification.agentSuggestion
        notification.humanSuggestion = .ok () →
      MetadataWrite w (w.putNotification notificationUid notification)
  | elsewhere {w' : Workspace} : KeepsSuggestions w w' → MetadataWrite w w'

variable {host} {w w' : Workspace}

theorem KeepsSuggestions.of_eq (hmessages : w'.messages = w.messages)
    (hcases : w'.cases = w.cases) (hnotifications : w'.notifications = w.notifications) :
    KeepsSuggestions w w' := by
  refine ⟨?_, ?_, ?_⟩
  · intro messageId metadata hget
    rw [Workspace.metadataFile, hmessages] at hget
    exact ⟨metadata, hget, rfl, rfl⟩
  · intro caseUid case_ hget
    rw [hcases] at hget
    exact ⟨case_, hget, rfl, rfl⟩
  · intro notificationUid notification hget
    rw [hnotifications] at hget
    exact ⟨notification, hget, rfl, rfl⟩

theorem metadataFile_writeMessageMetadataFile (messageId : String) (metadata : MessageMetadata)
    (other : String) : (w.writeMessageMetadataFile messageId metadata).metadataFile other =
      if other = messageId then some metadata else w.metadataFile other := by
  rw [Workspace.metadataFile, Workspace.writeMessageMetadataFile, Workspace.alterMessage,
    Std.ExtTreeMap.getElem?_alter]
  by_cases heq : messageId = other
  · subst heq
    rw [if_pos Std.ReflCmp.compare_self, if_pos rfl]
    rfl
  · rw [if_neg (fun h => heq (Std.LawfulEqCmp.compare_eq_iff_eq.mp h)), if_neg (Ne.symm heq)]
    rfl

namespace SuggestionsValid

theorem keeps (hvalid : SuggestionsValid host w) (hkeeps : KeepsSuggestions w w') :
    SuggestionsValid host w' := by
  refine ⟨?_, ?_, ?_⟩
  · intro messageId metadata' hget
    obtain ⟨metadata, hfile, hagent, hhuman⟩ := hkeeps.messages messageId metadata' hget
    rw [hagent, hhuman]
    exact hvalid.messages messageId metadata hfile
  · intro caseUid case' hget
    obtain ⟨case_, hfile, hagent, hhuman⟩ := hkeeps.cases caseUid case' hget
    rw [hagent, hhuman]
    exact hvalid.cases caseUid case_ hfile
  · intro notificationUid notification' hget
    obtain ⟨notification, hfile, hagent, hhuman⟩ :=
      hkeeps.notifications notificationUid notification' hget
    rw [hagent, hhuman]
    exact hvalid.notifications notificationUid notification hfile

theorem write (hvalid : SuggestionsValid host w) (hwrite : MetadataWrite host w w') :
    SuggestionsValid host w' := by
  cases hwrite with
  | message messageId metadata hchecked =>
    refine ⟨?_, hvalid.cases, hvalid.notifications⟩
    intro other metadata' hget
    rw [metadataFile_writeMessageMetadataFile] at hget
    split at hget
    · cases hget
      exact hchecked
    · exact hvalid.messages other metadata' hget
  | case caseUid case_ hchecked =>
    refine ⟨hvalid.messages, ?_, hvalid.notifications⟩
    intro other case' hget
    rw [Workspace.putCase, Std.ExtTreeMap.getElem?_insert] at hget
    split at hget
    · cases hget
      exact hchecked
    · exact hvalid.cases other case' hget
  | notification notificationUid notification hchecked =>
    refine ⟨hvalid.messages, hvalid.cases, ?_⟩
    intro other notification' hget
    rw [Workspace.putNotification, Std.ExtTreeMap.getElem?_insert] at hget
    split at hget
    · cases hget
      exact hchecked
    · exact hvalid.notifications other notification' hget
  | elsewhere hkeeps => exact hvalid.keeps hkeeps

end SuggestionsValid
end Files
end AgentFirstMail
