import AgentFirstMail.Store.RemoteSync

namespace AgentFirstMail

namespace MailboxIdLocation

/-- A location that has no known id of its own. -/
def Unattributed (config : MailConfig) (location : MailboxIdLocation) : Prop :=
  ∀ id ∈ location.mailboxId, id ∉ config.mailboxes

/-- Several mailboxes go by the folder of a location that has no known id of its own. -/
def Ambiguous (config : MailConfig) (location : MailboxIdLocation) : Prop :=
  location.Unattributed config ∧
    1 < (config.matchingMailboxIdsOffline location.push.mailboxName).length

/-- The mailbox a location is in: its own id when that is known, else the only one that goes by
its folder. -/
def source? (config : MailConfig) (location : MailboxIdLocation) : Option String :=
  let offline :=
    match config.matchingMailboxIdsOffline location.push.mailboxName with
    | [id] => some id
    | _ => none
  match location.mailboxId with
  | some id => if id ∈ config.mailboxes then some id else offline
  | none => offline

/-- The archive steps of the mailbox a location is in, when it has any. -/
def archiveSteps? (config : MailConfig) (location : MailboxIdLocation) :
    Option (List ActionStep) :=
  (location.source? config).bind fun id =>
    (config.actions.notificationBySourceMailboxId[id]?).filter (!·.isEmpty)

end MailboxIdLocation

variable {config : MailConfig} {location : MailboxIdLocation}
  {locations permuted : List MailboxIdLocation} {selected : Option (List ActionStep)}

/-- A location is attributed to its mailbox, unless several mailboxes go by its folder. -/
theorem resolveLocationMailboxId_cases (config : MailConfig) (location : MailboxIdLocation) :
    (¬ location.Ambiguous config ∧
      resolveLocationMailboxId config location = .ok (location.source? config)) ∨
    (location.Ambiguous config ∧ ∃ error, resolveLocationMailboxId config location = .error error) := by
  unfold resolveLocationMailboxId MailboxIdLocation.Ambiguous MailboxIdLocation.source?
    MailboxIdLocation.Unattributed
  cases hid : location.mailboxId with
  | none =>
    cases hmatches : config.matchingMailboxIdsOffline location.push.mailboxName with
    | nil => exact .inl ⟨by simp, rfl⟩
    | cons first rest =>
      cases rest with
      | nil => exact .inl ⟨by simp, rfl⟩
      | cons second rest => exact .inr ⟨by simp, _, rfl⟩
  | some id =>
    by_cases hmem : id ∈ config.mailboxes
    · exact .inl ⟨by simp [hmem], by simp [hmem]⟩
    · cases hmatches : config.matchingMailboxIdsOffline location.push.mailboxName with
      | nil => exact .inl ⟨by simp, by simp [hmem]⟩
      | cons first rest =>
        cases rest with
        | nil => exact .inl ⟨by simp, by simp [hmem]⟩
        | cons second rest => exact .inr ⟨by simp [hmem], by simp [hmem]⟩

theorem archiveRule_cases (config : MailConfig) (location : MailboxIdLocation) :
    (¬ location.Ambiguous config ∧
      archiveRule config location = .ok (location.archiveSteps? config)) ∨
    (location.Ambiguous config ∧ ∃ error, archiveRule config location = .error error) := by
  unfold archiveRule MailboxIdLocation.archiveSteps?
  rcases resolveLocationMailboxId_cases config location with ⟨hclear, hok⟩ |
    ⟨hambiguous, error, herror⟩
  · left
    refine ⟨hclear, ?_⟩
    rw [hok]
    cases location.source? config with
    | none => rfl
    | some id => rfl
  · right
    refine ⟨hambiguous, error, ?_⟩
    rw [herror]
    rfl

/-- The step lists that a selection has to agree on: the one found before, and those of the
locations to come. -/
def archiveStepLists (config : MailConfig) (selected : Option (List ActionStep))
    (locations : List MailboxIdLocation) : List (List ActionStep) :=
  selected.toList ++ locations.filterMap (·.archiveSteps? config)

/-- What a selection gives when nothing stands against it. -/
def archiveSelection (config : MailConfig) (selected : Option (List ActionStep))
    (locations : List MailboxIdLocation) : List PushLocation × Option (List ActionStep) :=
  ((locations.filter (·.archiveSteps? config |>.isSome)).map (·.push),
    (archiveStepLists config selected locations).head?)

/-- Nothing stands against a selection. -/
structure ArchiveAgreement (config : MailConfig) (selected : Option (List ActionStep))
    (locations : List MailboxIdLocation) : Prop where
  clear : ∀ location ∈ locations, ¬ location.Ambiguous config
  same : ∀ steps ∈ archiveStepLists config selected locations,
    ∀ others ∈ archiveStepLists config selected locations, steps = others

namespace ArchiveAgreement

theorem nil : ArchiveAgreement config selected [] := by
  refine ⟨fun _ hmem => (nomatch hmem), ?_⟩
  cases selected with
  | none => exact fun _ hmem => (nomatch hmem)
  | some steps =>
    intro first hfirst second hsecond
    rw [archiveStepLists, List.filterMap_nil, List.append_nil, Option.toList_some,
      List.mem_singleton] at hfirst hsecond
    rw [hfirst, hsecond]

theorem cons_of_none (hrule : location.archiveSteps? config = none) :
    ArchiveAgreement config selected (location :: locations) ↔
      ¬ location.Ambiguous config ∧ ArchiveAgreement config selected locations := by
  have hlists : archiveStepLists config selected (location :: locations) =
      archiveStepLists config selected locations := by
    rw [archiveStepLists, List.filterMap_cons_none hrule, archiveStepLists]
  constructor
  · intro h
    obtain ⟨hfirst, hrest⟩ := List.forall_mem_cons.mp h.clear
    exact ⟨hfirst, hrest, hlists ▸ h.same⟩
  · intro ⟨hfirst, h⟩
    exact ⟨List.forall_mem_cons.mpr ⟨hfirst, h.clear⟩, hlists.symm ▸ h.same⟩

theorem cons_of_some {steps : List ActionStep}
    (hrule : location.archiveSteps? config = some steps) :
    ArchiveAgreement config selected (location :: locations) ↔
      ¬ location.Ambiguous config ∧ selected.all (· == steps) = true ∧
        ArchiveAgreement config (some (selected.getD steps)) locations := by
  have hlists : archiveStepLists config selected (location :: locations) =
      selected.toList ++ steps :: locations.filterMap (·.archiveSteps? config) := by
    rw [archiveStepLists, List.filterMap_cons_some hrule]
  cases selected with
  | none =>
    constructor
    · intro h
      obtain ⟨hfirst, hrest⟩ := List.forall_mem_cons.mp h.clear
      have hsame := h.same
      rw [hlists] at hsame
      exact ⟨hfirst, rfl, hrest, hsame⟩
    · intro ⟨hfirst, _, h⟩
      exact ⟨List.forall_mem_cons.mpr ⟨hfirst, h.clear⟩, hlists.symm ▸ h.same⟩
  | some chosen =>
    have hmem (other : List ActionStep) :
        other ∈ archiveStepLists config (some chosen) (location :: locations) ↔
          other = steps ∨ other ∈ archiveStepLists config (some chosen) locations := by
      rw [hlists, archiveStepLists]
      simp only [Option.toList_some, List.singleton_append, List.mem_cons]
      tauto
    have hchosen : chosen ∈ archiveStepLists config (some chosen) locations :=
      List.mem_append_left _ (List.mem_singleton_self chosen)
    rw [Option.all_some, beq_iff_eq, Option.getD_some]
    constructor
    · intro h
      obtain ⟨hfirst, hrest⟩ := List.forall_mem_cons.mp h.clear
      refine ⟨hfirst, h.same chosen ((hmem _).mpr (.inr hchosen)) steps ((hmem _).mpr (.inl rfl)),
        hrest, ?_⟩
      intro other hother third hthird
      exact h.same other ((hmem _).mpr (.inr hother)) third ((hmem _).mpr (.inr hthird))
    · rintro ⟨hfirst, rfl, h⟩
      refine ⟨List.forall_mem_cons.mpr ⟨hfirst, h.clear⟩, ?_⟩
      have hall : ∀ other ∈ archiveStepLists config (some chosen) (location :: locations),
          other = chosen := by
        intro other hother
        rcases (hmem other).mp hother with rfl | hother
        · rfl
        · exact h.same other hother chosen hchosen
      intro other hother third hthird
      rw [hall other hother, hall third hthird]

theorem perm (h : ArchiveAgreement config none locations) (hperm : locations.Perm permuted) :
    ArchiveAgreement config none permuted := by
  have hlists (steps : List ActionStep) : steps ∈ archiveStepLists config none permuted →
      steps ∈ archiveStepLists config none locations :=
    fun hmem => (hperm.filterMap (·.archiveSteps? config)).mem_iff.mpr hmem
  exact ⟨fun location hmem => h.clear location (hperm.mem_iff.mpr hmem),
    fun steps hsteps others hothers => h.same steps (hlists steps hsteps) others
      (hlists others hothers)⟩

end ArchiveAgreement

/-- A selection goes through exactly when nothing stands against it. -/
theorem selectArchiveLocations_cases (config : MailConfig) (messageId : String)
    (selected : Option (List ActionStep)) (locations : List MailboxIdLocation) :
    (ArchiveAgreement config selected locations ∧
      selectArchiveLocations config messageId selected locations =
        .ok (archiveSelection config selected locations)) ∨
    (¬ ArchiveAgreement config selected locations ∧
      ∃ error, selectArchiveLocations config messageId selected locations = .error error) := by
  induction locations generalizing selected with
  | nil =>
    left
    refine ⟨.nil, ?_⟩
    cases selected <;> rfl
  | cons location rest ih =>
    rw [selectArchiveLocations]
    rcases archiveRule_cases config location with ⟨hclear, hok⟩ | ⟨hambiguous, error, herror⟩
    · rw [hok]
      cases hrule : location.archiveSteps? config with
      | none =>
        rw [ArchiveAgreement.cons_of_none hrule]
        have hselection : archiveSelection config selected (location :: rest) =
            archiveSelection config selected rest := by
          simp only [archiveSelection, archiveStepLists, List.filterMap_cons_none hrule,
            List.filter_cons, hrule, Option.isSome_none, Bool.false_eq_true, if_false]
        rw [hselection]
        rcases ih selected with ⟨hagreed, hselected⟩ | ⟨hnot, hfailed⟩
        · exact .inl ⟨⟨hclear, hagreed⟩, hselected⟩
        · exact .inr ⟨fun h => hnot h.2, hfailed⟩
      | some steps =>
        rw [ArchiveAgreement.cons_of_some hrule]
        by_cases hsame : selected.all (· == steps) = true
        · have hensured : ensure (selected.all (· == steps)) (archiveActionConflict messageId) =
              .ok () := ensure_eq_ok_iff.mpr hsame
          have hselection : archiveSelection config selected (location :: rest) =
              (location.push :: (archiveSelection config (some (selected.getD steps)) rest).1,
                (archiveSelection config (some (selected.getD steps)) rest).2) := by
            simp only [archiveSelection, archiveStepLists, List.filterMap_cons_some hrule,
              List.filter_cons, hrule, Option.isSome_some, if_true, List.map_cons]
            cases selected <;> rfl
          rw [hselection]
          rcases ih (some (selected.getD steps)) with ⟨hagreed, hselected⟩ | ⟨hnot, error, hfailed⟩
          · left
            refine ⟨⟨hclear, hsame, hagreed⟩, ?_⟩
            change (ensure _ _ >>= fun _ => selectArchiveLocations _ _ _ _ >>= _) = _
            rw [hensured, hselected]
            rfl
          · right
            refine ⟨fun h => hnot h.2.2, error, ?_⟩
            change (ensure _ _ >>= fun _ => selectArchiveLocations _ _ _ _ >>= _) = _
            rw [hensured, hfailed]
            rfl
        · right
          refine ⟨fun h => hsame h.2.1, archiveActionConflict messageId, ?_⟩
          change (ensure _ _ >>= fun _ => selectArchiveLocations _ _ _ _ >>= _) = _
          rw [ensure, if_neg hsame]
          rfl
    · right
      refine ⟨fun h => h.clear location List.mem_cons_self hambiguous, error, ?_⟩
      rw [herror]
      rfl

/-- Two locations are archived by different steps. -/
def ArchiveConflict (config : MailConfig) (locations : List MailboxIdLocation) : Prop :=
  ∃ first ∈ locations, ∃ second ∈ locations, ∃ steps others,
    first.archiveSteps? config = some steps ∧ second.archiveSteps? config = some others ∧
      steps ≠ others

theorem archiveAgreement_iff :
    ArchiveAgreement config none locations ↔
      ¬ ((∃ location ∈ locations, location.Ambiguous config) ∨ ArchiveConflict config locations) := by
  have hmem (steps : List ActionStep) : steps ∈ archiveStepLists config none locations ↔
      ∃ location ∈ locations, location.archiveSteps? config = some steps := List.mem_filterMap
  constructor
  · rintro h (⟨location, hlocation, hambiguous⟩ |
      ⟨first, hfirst, second, hsecond, steps, others, hsteps, hothers, hne⟩)
    · exact h.clear location hlocation hambiguous
    · exact hne (h.same steps ((hmem steps).mpr ⟨first, hfirst, hsteps⟩) others
        ((hmem others).mpr ⟨second, hsecond, hothers⟩))
  · intro h
    rw [not_or] at h
    refine ⟨fun location hlocation hambiguous => h.1 ⟨location, hlocation, hambiguous⟩, ?_⟩
    intro steps hsteps others hothers
    obtain ⟨first, hfirst, hsteps⟩ := (hmem steps).mp hsteps
    obtain ⟨second, hsecond, hothers⟩ := (hmem others).mp hothers
    by_contra hne
    exact h.2 ⟨first, hfirst, second, hsecond, steps, others, hsteps, hothers, hne⟩

theorem resolveArchiveAction_of_agreement (messageId : String)
    (h : ArchiveAgreement config none locations) :
    resolveArchiveAction config locations messageId =
      .ok ((locations.filter (·.archiveSteps? config |>.isSome)).map (·.push),
        (locations.filterMap (·.archiveSteps? config)).head?.getD []) := by
  unfold resolveArchiveAction
  rcases selectArchiveLocations_cases config messageId none locations with ⟨_, hok⟩ | ⟨hnot, _⟩
  · rw [hok]
    rfl
  · exact (hnot h).elim

theorem resolveArchiveAction_error_iff (messageId : String) :
    (∃ error, resolveArchiveAction config locations messageId = .error error) ↔
      ¬ ArchiveAgreement config none locations := by
  rcases selectArchiveLocations_cases config messageId none locations with ⟨hagreed, _⟩ |
    ⟨hnot, error, herror⟩
  · rw [resolveArchiveAction_of_agreement messageId hagreed]
    exact ⟨fun ⟨_, h⟩ => (nomatch h), fun hnot => (hnot hagreed).elim⟩
  · refine ⟨fun _ => hnot, fun _ => ⟨error, ?_⟩⟩
    rw [resolveArchiveAction, herror]
    rfl

/-- What resolving the archive action of a message promises. -/
structure ArchiveActionRules (config : MailConfig) (messageId : String)
    (locations : List MailboxIdLocation) : Prop where
  fails : (∃ error, resolveArchiveAction config locations messageId = .error error) ↔
    (∃ location ∈ locations, location.Ambiguous config) ∨ ArchiveConflict config locations
  selects : ∀ places steps,
    resolveArchiveAction config locations messageId = .ok (places, steps) →
      places = (locations.filter (·.archiveSteps? config |>.isSome)).map (·.push)
  shares : ∀ places steps,
    resolveArchiveAction config locations messageId = .ok (places, steps) →
      (∀ location ∈ locations, ∀ others, location.archiveSteps? config = some others →
        others = steps) ∧ (places = [] ↔ steps = [])
  permutes : ∀ permuted : List MailboxIdLocation, locations.Perm permuted → ∀ places steps,
    resolveArchiveAction config locations messageId = .ok (places, steps) →
      ∃ places', resolveArchiveAction config permuted messageId = .ok (places', steps) ∧
        places.Perm places'

theorem archiveAgreement_of_ok {messageId : String} {places : List PushLocation}
    {steps : List ActionStep}
    (h : resolveArchiveAction config locations messageId = .ok (places, steps)) :
    ArchiveAgreement config none locations ∧
      places = (locations.filter (·.archiveSteps? config |>.isSome)).map (·.push) ∧
      steps = (locations.filterMap (·.archiveSteps? config)).head?.getD [] := by
  by_cases hagreed : ArchiveAgreement config none locations
  · rw [resolveArchiveAction_of_agreement messageId hagreed] at h
    cases h
    exact ⟨hagreed, rfl, rfl⟩
  · obtain ⟨error, herror⟩ := (resolveArchiveAction_error_iff messageId).mpr hagreed
    rw [herror] at h
    cases h

theorem ArchiveAgreement.head_eq {steps : List ActionStep}
    (h : ArchiveAgreement config none locations) (hmem : location ∈ locations)
    (hsteps : location.archiveSteps? config = some steps) :
    (locations.filterMap (·.archiveSteps? config)).head?.getD [] = steps := by
  have hin : steps ∈ locations.filterMap (·.archiveSteps? config) :=
    List.mem_filterMap.mpr ⟨location, hmem, hsteps⟩
  cases hlists : locations.filterMap (·.archiveSteps? config) with
  | nil =>
    rw [hlists] at hin
    cases hin
  | cons first rest =>
    have hsame := h.same
    rw [archiveStepLists, Option.toList_none, List.nil_append, hlists] at hsame
    rw [hlists] at hin
    exact hsame first List.mem_cons_self steps hin

theorem archiveSteps?_ne_nil {steps : List ActionStep}
    (h : location.archiveSteps? config = some steps) : steps ≠ [] := by
  obtain ⟨id, _, hrule⟩ := Option.bind_eq_some_iff.mp h
  obtain ⟨_, hsteps⟩ := Option.filter_eq_some_iff.mp hrule
  rintro rfl
  cases hsteps

/-- Resolving the archive action of a message is complete and does not depend on the order of its
locations. -/
theorem resolveArchiveAction_rules (config : MailConfig) (messageId : String)
    (locations : List MailboxIdLocation) : ArchiveActionRules config messageId locations where
  fails := by
    rw [resolveArchiveAction_error_iff, archiveAgreement_iff, not_not]
  selects places steps h := (archiveAgreement_of_ok h).2.1
  shares places steps h := by
    obtain ⟨hagreed, hplaces, hsteps⟩ := archiveAgreement_of_ok h
    refine ⟨?_, ?_⟩
    · intro location hmem others hothers
      rw [hsteps, hagreed.head_eq hmem hothers]
    · rw [hplaces, hsteps, List.map_eq_nil_iff, List.filter_eq_nil_iff]
      constructor
      · intro hnone
        have hlists : locations.filterMap (·.archiveSteps? config) = [] := by
          rw [List.filterMap_eq_nil_iff]
          intro location hmem
          exact Option.not_isSome_iff_eq_none.mp (hnone location hmem)
        rw [hlists]
        rfl
      · intro hempty location hmem hsome
        obtain ⟨others, hothers⟩ := Option.isSome_iff_exists.mp hsome
        rw [hagreed.head_eq hmem hothers] at hempty
        exact archiveSteps?_ne_nil hothers hempty
  permutes permuted hperm places steps h := by
    obtain ⟨hagreed, hplaces, hsteps⟩ := archiveAgreement_of_ok h
    have hpermuted := hagreed.perm hperm
    have hsame : (permuted.filterMap (·.archiveSteps? config)).head?.getD [] = steps := by
      rw [hsteps]
      cases hlists : locations.filterMap (·.archiveSteps? config) with
      | nil =>
        have hnil := hperm.filterMap (·.archiveSteps? config)
        rw [hlists, List.nil_perm] at hnil
        rw [hnil]
      | cons first rest =>
        have hin : first ∈ permuted.filterMap (·.archiveSteps? config) := by
          rw [← (hperm.filterMap (·.archiveSteps? config)).mem_iff, hlists]
          exact List.mem_cons_self
        obtain ⟨location, hmem, hfirst⟩ := List.mem_filterMap.mp hin
        exact hpermuted.head_eq hmem hfirst
    refine ⟨_, resolveArchiveAction_of_agreement messageId hpermuted |>.trans (by rw [hsame]), ?_⟩
    rw [hplaces]
    exact (hperm.filter _).map _

end AgentFirstMail
