import AgentFirstMail.Config.Defaults
import AgentFirstMail.Imap.Resolve
import AgentFirstMail.Types.Remote

namespace AgentFirstMail

/-- Some pull against the listing `listed` works on `id` under the folder name `name`. -/
def PullsAs (config : MailConfig) (listed : List MailboxInfo) (id name : String) : Prop :=
  ∃ ids targets, resolvePullTargets config (.ok listed) ids = .ok targets ∧
    ∃ target ∈ targets, target.id = id ∧ target.mailbox = name

/-- Configuration accepts a move step that names `id`. -/
def StepMovesTo (config : MailConfig) (id : String) : Prop :=
  ∃ path step, step.moveToMailboxId = some id ∧ config.validateStep path step = .ok ()

/-- A configured mailbox id names one folder, and what is recorded there leads back to it. -/
structure OneIdentity (config : MailConfig) (listed : List MailboxInfo) (id : String) :
    Prop where
  pulls_agree : ∀ name name', PullsAs config listed id name → PullsAs config listed id name' →
    name = name'
  push_agrees : ∀ name folder, PullsAs config listed id name →
    actionMailboxFolder config listed id = .ok folder → name = folder
  pulled : ∀ name messageId uidValidity uid flags now, PullsAs config listed id name →
    ∀ location, (pulledLocation id name uidValidity uid flags now).toMailboxIdLocation messageId =
      some location → resolveLocationMailboxId config location = .ok (some id)
  moved : StepMovesTo config id → ∀ folder messageId uidValidity uid now,
    actionMailboxFolder config listed id = .ok folder →
    ∀ location, (clientLocation folder uidValidity uid now).toMailboxIdLocation messageId =
      some location → resolveLocationMailboxId config location = .ok (some id)
  inside : StepMovesTo config id → ∀ folder messageId uidValidity uid now,
    actionMailboxFolder config listed id = .ok folder →
    ∀ kind ∈ [SpecialUseKind.trash, SpecialUseKind.junk],
    mailboxIdMatchesSpecialUse config id kind = true →
    ∀ location, (clientLocation folder uidValidity uid now).toMailboxIdLocation messageId =
      some location → locationsExceptMailboxKinds config [kind] [location] = .ok []

/-- A mailbox that is pulled by its one folder name is listed in exactly that spelling. -/
def ListedAsSpelled (config : MailConfig) (listed : List MailboxInfo) (id : String) : Prop :=
  ∀ name, config.mailboxes[id]? = some (ImapMailboxConfig.named name) →
    id ∈ config.actions.pull.byMailboxId →
    ∀ folder, (namedMailboxes listed name).map (·.name) = [folder] → folder = name

/-- The folder a move into `id` goes to is recognized offline by the rules of `id` alone. -/
def MoveFolderRecognized (config : MailConfig) (listed : List MailboxInfo) (id : String) : Prop :=
  ∀ mailbox, config.mailboxes[id]? = some mailbox →
    mailbox.firstSpecialUseKind.all (·.canMoveTo) = true →
    ∀ folder, FirstSelection mailbox.resolve listed folder →
      mailbox.matchesMailboxOffline folder = true ∧
        ∀ other mailbox', config.mailboxes[other]? = some mailbox' →
          mailbox'.matchesMailboxOffline folder = true → other = id

theorem resolvePullTargetsFrom_mem {config : MailConfig} {mailboxes : Option (List MailboxInfo)}
    {target : PullTarget} {ids : List String}
    (h : resolvePullTargetsFrom config mailboxes ids names = .ok targets)
    (ht : target ∈ targets) :
    target.id ∈ ids ∧ target.id ∈ config.actions.pull.byMailboxId ∧
      pullMailbox config mailboxes target.id = .ok target.mailbox := by
  induction ids generalizing names targets with
  | nil =>
    cases h
    cases ht
  | cons id rest ih =>
    simp only [resolvePullTargetsFrom, Result.bind_eq_ok_iff] at h
    obtain ⟨_, _, action, haction, mailbox, hmailbox, _, _, others, hothers, htargets⟩ := h
    cases htargets
    rcases List.mem_cons.mp ht with rfl | ht
    · refine ⟨List.mem_cons_self, ?_, hmailbox⟩
      simp only [MailConfig.pullAction] at haction
      split at haction
      · rename_i hget
        exact Std.ExtTreeMap.mem_iff_isSome_getElem?.mpr (by simp [hget])
      · cases haction
    · obtain ⟨hmem, hrest⟩ := ih hothers ht
      exact ⟨List.mem_cons_of_mem _ hmem, hrest⟩

theorem mailbox_eq_ok_iff {config : MailConfig} {id : String} :
    config.mailbox id = .ok mailbox ↔ config.mailboxes[id]? = some mailbox := by
  unfold MailConfig.mailbox
  split <;> simp_all

theorem actionMailboxFolder_eq_ok_iff {config : MailConfig} {id : String}
    (hvalid : config.validate = .ok ()) :
    actionMailboxFolder config listed id = .ok folder ↔
      ∃ mailbox, config.mailboxes[id]? = some mailbox ∧
        FirstSelection mailbox.resolve listed folder := by
  simp only [actionMailboxFolder, Result.bind_eq_ok_iff, mailbox_eq_ok_iff]
  constructor
  · rintro ⟨mailbox, hget, h⟩
    exact ⟨mailbox, hget, (resolveConfiguredMailbox_eq_ok_iff
      (MailConfig.validate_mailboxes hvalid hget).2.2).mp h⟩
  · rintro ⟨mailbox, hget, h⟩
    exact ⟨mailbox, hget, (resolveConfiguredMailbox_eq_ok_iff
      (MailConfig.validate_mailboxes hvalid hget).2.2).mpr h⟩

theorem needsList_eq_false {mailbox : ImapMailboxConfig}
    (hvalid : ∀ rule ∈ mailbox.resolve, rule.valid = true) (h : mailbox.needsList = false) :
    ∃ name, mailbox = .named name := by
  obtain ⟨rules⟩ := mailbox
  simp only [ImapMailboxConfig.needsList, Bool.or_eq_false_iff, bne_eq_false_iff_eq] at h
  obtain ⟨rule, rfl⟩ := List.length_eq_one_iff.mp h.1
  rcases MailboxResolveRule.valid_cases (hvalid rule List.mem_cons_self) with ⟨name, rfl⟩ | ⟨use, rfl⟩
  · exact ⟨name, rfl⟩
  · simp at h

/-- A pull takes the folder from the listing, or from the single name its rules give. -/
theorem PullsAs.cases {config : MailConfig} {id name : String}
    (hvalid : config.validate = .ok ()) (h : PullsAs config listed id name) :
    actionMailboxFolder config listed id = .ok name ∨
      config.mailboxes[id]? = some (.named name) ∧ id ∈ config.actions.pull.byMailboxId := by
  obtain ⟨ids, targets, htargets, target, hmem, rfl, rfl⟩ := h
  simp only [resolvePullTargets, Result.bind_eq_ok_iff] at htargets
  obtain ⟨selected, _, mailboxes, hmailboxes, hfrom⟩ := htargets
  obtain ⟨hid, haction, hpull⟩ := resolvePullTargetsFrom_mem hfrom hmem
  simp only [pullMailbox, Result.bind_eq_ok_iff, mailbox_eq_ok_iff] at hpull
  obtain ⟨mailbox, hget, hpull⟩ := hpull
  unfold listingFor at hmailboxes
  split at hmailboxes
  · cases hmailboxes
    exact .inl (Result.bind_eq_ok_iff.mpr ⟨mailbox, mailbox_eq_ok_iff.mpr hget, hpull⟩)
  · rename_i hneeds
    cases hmailboxes
    have hown : mailbox.needsList = false := by
      simp only [needsList, Bool.not_eq_true, List.any_eq_false] at hneeds
      simpa [hget] using hneeds target.id hid
    obtain ⟨name, rfl⟩ := needsList_eq_false
      (MailConfig.validate_mailboxes hvalid hget).2.2 hown
    simp only [MailConfig.offlineMailboxName, Result.bind_eq_ok_iff, mailbox_eq_ok_iff, hget,
      Option.some.injEq, exists_eq_left'] at hpull
    cases hpull
    exact .inr ⟨hget, haction⟩

theorem selectedPullIds_singleton {config : MailConfig} {id : String}
    (h : id ∈ config.mailboxes) : config.selectedPullIds [id] = .ok [id] := by
  simp [MailConfig.selectedPullIds, MailConfig.pushDistinct, h, bind, Except.bind, pure, Except.pure]

theorem pullsAs_named {config : MailConfig} {id name : String}
    (hget : config.mailboxes[id]? = some (.named name))
    (haction : id ∈ config.actions.pull.byMailboxId) : PullsAs config listed id name := by
  have hmem : id ∈ config.mailboxes := Std.ExtTreeMap.mem_iff_isSome_getElem?.mpr (by simp [hget])
  obtain ⟨action, hact⟩ :=
    Option.isSome_iff_exists.mp (Std.ExtTreeMap.mem_iff_isSome_getElem?.mp haction)
  have hneeds : needsList config [id] = false := by
    simp [needsList, hget, ImapMailboxConfig.needsList, ImapMailboxConfig.named]
  refine ⟨[id], [⟨id, name, action.importAs, action.direction⟩], ?_, _, List.mem_singleton_self _,
    rfl, rfl⟩
  simp [resolvePullTargets, listingFor, selectedPullIds_singleton hmem, hneeds, resolvePullTargetsFrom,
    MailConfig.mailbox, hget, MailConfig.pullAction, hact, pullMailbox,
    MailConfig.offlineMailboxName, ImapMailboxConfig.offlineMailboxName, ImapMailboxConfig.named,
    MailboxResolveRule.offlineMailboxName, ensure, bind, Except.bind, pure, Except.pure]

theorem stepMovesTo_iff {config : MailConfig} {id : String} (hvalid : config.validate = .ok ()) :
    StepMovesTo config id ↔ ∃ mailbox, config.mailboxes[id]? = some mailbox ∧
      mailbox.firstSpecialUseKind.all (·.canMoveTo) = true := by
  constructor
  · rintro ⟨path, step, hmove, h⟩
    simp only [MailConfig.validateStep, Result.bind_unit_eq_ok_iff] at h
    obtain ⟨_, _, _, _, _, _, htargets⟩ := h
    have htarget := Result.forM_eq_ok_iff.mp htargets id (by simp [hmove])
    exact ((MailConfig.validateStepTarget_move (by simp [hmove])).mp htarget).2
  · rintro ⟨mailbox, hget, hkind⟩
    have hid := (MailConfig.validate_mailboxes hvalid hget).1
    have htarget : config.validateStepTarget "" (.moveTo id) id = .ok () :=
      (MailConfig.validateStepTarget_move rfl).mpr ⟨hid, mailbox, hget, hkind⟩
    refine ⟨"", .moveTo id, rfl, ?_⟩
    simp only [MailConfig.validateStep, Result.bind_unit_eq_ok_iff, ensure_eq_ok_iff]
    refine ⟨rfl, rfl, rfl, rfl, rfl, rfl, ?_⟩
    exact Result.forM_eq_ok_iff.mpr fun target ht => by
      obtain rfl : target = id := by simpa [ActionStep.moveTo] using ht
      exact htarget

theorem locationsExceptMailboxKinds_inside {config : MailConfig} {id : String}
    {location : MailboxIdLocation} (hid : resolveLocationMailboxId config location = .ok (some id))
    (hkind : mailboxIdMatchesSpecialUse config id kind = true) :
    locationsExceptMailboxKinds config [kind] [location] = .ok [] := by
  simp [locationsExceptMailboxKinds, locationHasMailboxKind, hid, hkind, bind, Except.bind, pure,
    Except.pure]

/-- Identity of a mailbox is a matter of spelling and of offline recognition alone. -/
theorem oneIdentity_iff {config : MailConfig} {listed : List MailboxInfo} {id : String}
    (hvalid : config.validate = .ok ()) :
    OneIdentity config listed id ↔
      ListedAsSpelled config listed id ∧ MoveFolderRecognized config listed id := by
  constructor
  · intro h
    constructor
    · intro name hget haction folder hfolder
      have hfirst : FirstSelection (ImapMailboxConfig.named name).resolve listed folder :=
        ⟨[], _, [], rfl, by simp, hfolder⟩
      have hpush := (actionMailboxFolder_eq_ok_iff hvalid).mpr ⟨_, hget, hfirst⟩
      exact (h.push_agrees name folder (pullsAs_named hget haction) hpush).symm
    · intro mailbox hget hkind folder hfirst
      have hmove := (stepMovesTo_iff hvalid).mpr ⟨mailbox, hget, hkind⟩
      have hpush := (actionMailboxFolder_eq_ok_iff hvalid).mpr ⟨mailbox, hget, hfirst⟩
      have hmoved := h.moved hmove folder "" 0 0 "" hpush _ rfl
      obtain ⟨⟨mailbox', hget', hmatch⟩, hother⟩ :=
        MailConfig.matchingMailboxIdsOffline_eq_singleton_iff.mp
          (resolveLocationMailboxId_none_eq_iff.mp hmoved)
      cases hget.symm.trans hget'
      exact ⟨hmatch, hother⟩
  · rintro ⟨hspelled, hrecognized⟩
    have hname {name folder} (hpull : PullsAs config listed id name)
        (hpush : actionMailboxFolder config listed id = .ok folder) : name = folder := by
      rcases hpull.cases hvalid with hown | ⟨hget, haction⟩
      · exact Except.ok.inj (hown.symm.trans hpush)
      · obtain ⟨mailbox, hget', hfirst⟩ := (actionMailboxFolder_eq_ok_iff hvalid).mp hpush
        cases hget.symm.trans hget'
        rcases firstSelection_cons.mp hfirst with hfolder | ⟨_, _, _, _, hnil, _⟩
        · exact (hspelled name hget haction folder hfolder).symm
        · simp at hnil
    have hmoved (hmove : StepMovesTo config id) {folder push}
        (hpush : actionMailboxFolder config listed id = .ok folder)
        (hplace : push.mailboxName = folder) :
        resolveLocationMailboxId config ⟨none, push⟩ = .ok (some id) := by
      obtain ⟨mailbox, hget, hkind⟩ := (stepMovesTo_iff hvalid).mp hmove
      obtain ⟨mailbox', hget', hfirst⟩ := (actionMailboxFolder_eq_ok_iff hvalid).mp hpush
      cases hget.symm.trans hget'
      obtain ⟨hmatch, hother⟩ := hrecognized mailbox hget hkind folder hfirst
      subst hplace
      exact resolveLocationMailboxId_none_eq_iff.mpr
        (MailConfig.matchingMailboxIdsOffline_eq_singleton_iff.mpr
          ⟨⟨mailbox, hget, hmatch⟩, hother⟩)
    exact
      { pulls_agree := by
          intro name name' h h'
          rcases h.cases hvalid with hown | ⟨hget, _⟩
          · exact (hname h' hown).symm
          · rcases h'.cases hvalid with hown' | ⟨hget', _⟩
            · exact hname h hown'
            · simpa [ImapMailboxConfig.named] using hget.symm.trans hget'
        push_agrees := fun name folder h hpush => hname h hpush
        pulled := by
          intro name messageId uidValidity uid flags now h location hlocation
          have hmem : id ∈ config.mailboxes := by
            rcases h.cases hvalid with hown | ⟨hget, _⟩
            · obtain ⟨mailbox, hget, _⟩ := (actionMailboxFolder_eq_ok_iff hvalid).mp hown
              exact Std.ExtTreeMap.mem_iff_isSome_getElem?.mpr (by simp [hget])
            · exact Std.ExtTreeMap.mem_iff_isSome_getElem?.mpr (by simp [hget])
          cases hlocation
          exact resolveLocationMailboxId_of_mem hmem _
        moved := by
          intro hmove folder messageId uidValidity uid now hpush location hlocation
          cases hlocation
          exact hmoved hmove hpush rfl
        inside := by
          intro hmove folder messageId uidValidity uid now hpush kind _ hkind location hlocation
          cases hlocation
          exact locationsExceptMailboxKinds_inside (hmoved hmove hpush rfl) hkind }

/-- A server whose junk mailbox is named as the first fallback name. -/
def plainListing : List MailboxInfo :=
  [⟨"INBOX", []⟩, ⟨"Junk", ["\\Junk"]⟩, ⟨"Trash", ["\\Trash"]⟩]

theorem oneIdentity_plainListing : OneIdentity .default plainListing "junk" := by
  refine (oneIdentity_iff MailConfig.default_validate).mpr ⟨?_, ?_⟩
  · intro name hget
    have hjunk : MailConfig.default.mailboxes["junk"]? = some (.specialUse .junk) := by decide
    simpa [ImapMailboxConfig.named, ImapMailboxConfig.specialUse,
      SpecialUseKind.fallbackNames] using hjunk.symm.trans hget
  · intro mailbox hget _ folder hfirst
    have hpush := (actionMailboxFolder_eq_ok_iff MailConfig.default_validate).mpr
      ⟨mailbox, hget, hfirst⟩
    have hjunk : actionMailboxFolder .default plainListing "junk" = .ok "Junk" := by decide
    obtain rfl : "Junk" = folder := Except.ok.inj (hjunk.symm.trans hpush)
    have hids : MailConfig.default.matchingMailboxIdsOffline "Junk" = ["junk"] := by decide
    obtain ⟨⟨mailbox', hget', hmatch⟩, hother⟩ :=
      MailConfig.matchingMailboxIdsOffline_eq_singleton_iff.mp hids
    cases hget.symm.trans hget'
    exact ⟨hmatch, hother⟩

/-- A server that marks its junk and trash mailboxes by attribute under names of its own. -/
def nestedListing : List MailboxInfo :=
  [⟨"INBOX", ["\\HasNoChildren"]⟩, ⟨"[Gmail]/Spam", ["\\HasNoChildren", "\\Junk"]⟩,
    ⟨"[Gmail]/Trash", ["\\HasNoChildren", "\\Trash"]⟩]

/-- A message moved to the junk folder of such a server counts as lying outside junk. -/
theorem not_oneIdentity_nestedListing :
    MailConfig.default.validate = .ok () ∧ "junk" ∈ MailConfig.default.mailboxes ∧
      ¬ OneIdentity .default nestedListing "junk" := by
  refine ⟨MailConfig.default_validate, by decide, fun h => ?_⟩
  have hmove : StepMovesTo .default "junk" := ⟨"", .moveTo "junk", rfl, by decide⟩
  have hinside := h.inside hmove "[Gmail]/Spam" "message" 1 7 "" (by decide) .junk (by decide)
    (by decide) _ rfl
  exact absurd hinside (by decide)

end AgentFirstMail
