import AgentFirstMail.PushQueue.StepConformance

namespace AgentFirstMail
open Effect Command
variable {context : PushExecutionContext} {start : PushPosition} {remaining : List PushItem}
  {resolved : List ActionStep} {attempt : Attempt} {index : Nat} {step : ActionStep} {armed : Bool}
  {h : List RemoteEvent} {m : Process}
  {abort : AppError → ProcessFact}
  {post : Unit → ProcessFact}

section Flags

/-- A place that an action names or that its message is recorded at. -/
def Known (item : PushItem) (w : Workspace) (place : PushLocation) : Prop :=
  place ∈ item.locations ∨
    ∃ location ∈ w.remoteLocations place.messageId, location.matchesPush place = true

theorem toMailboxIdLocation_matches {location : RemoteLocation} {messageId : String}
    (h : location.toMailboxIdLocation messageId = some found) :
    location.isActive = true ∧ location.matchesPush found.push = true := by
  unfold RemoteLocation.toMailboxIdLocation at h
  split at h
  · rename_i hactive
    split at h
    · rename_i huid huidValidity
      cases h
      exact ⟨hactive, by simp [RemoteLocation.matchesPush, huid, huidValidity]⟩
    · cases h
  · cases h

/-- The places a message can be found at are recorded and active. -/
theorem messageRemoteLocationsAny_known {w : Workspace} {messageId : String}
    (h : w.messageRemoteLocationsAny [messageId] = .ok locations) :
    ∀ place ∈ locations, place.messageId = messageId ∧
      ∃ location ∈ w.activeLocations messageId, location.matchesPush place = true := by
  obtain ⟨found, hfound, h⟩ := Result.bind_ok h
  have hall := Workspace.remoteLocations_allOf hfound
  cases h
  obtain ⟨cases_, hindex, hfound⟩ := Result.bind_ok hfound
  obtain ⟨lists, hlists, hfound⟩ := Result.bind_ok hfound
  cases hfound
  cases Result.mapM_eq_ok_iff.mp hlists with
  | cons hfirst hrest =>
    cases hrest
    obtain ⟨message, hmessage, hfirst⟩ := Result.bind_ok hfirst
    cases hfirst
    have hread : w.readMessageById messageId = .ok message := by
      rw [Workspace.readMessageById, hindex]
      exact hmessage
    obtain ⟨_, _, hremote⟩ := Workspace.mem_of_readMessageById hread
    intro place hmem
    obtain ⟨location, hlocation, rfl⟩ := List.mem_map.mp hmem
    refine ⟨hall location hlocation, ?_⟩
    rw [List.flatten_cons, List.flatten_nil, List.append_nil, List.mem_filterMap] at hlocation
    obtain ⟨recorded, hrecorded, hconverted⟩ := hlocation
    obtain ⟨hactive, hmatches⟩ := toMailboxIdLocation_matches hconverted
    rw [hremote] at hrecorded
    exact ⟨recorded, List.mem_filter.mpr ⟨hrecorded, hactive⟩, hmatches⟩

theorem actionLocations_known {w : Workspace} (h : actionLocations w item step = .ok locations) :
    ∀ place ∈ locations, Known item w place := by
  unfold actionLocations at h
  split at h
  · obtain ⟨replyTo, _, h⟩ := Result.bind_ok h
    intro place hmem
    obtain ⟨hid, location, hlocation, hmatches⟩ := messageRemoteLocationsAny_known h place hmem
    right
    rw [hid]
    exact ⟨location, List.mem_of_mem_filter hlocation, hmatches⟩
  · cases h
    exact fun place hmem => .inl hmem

/-- No recorded place is lost on the way from one process to another of the same item. -/
structure Process.Grows (m m' : Process) : Prop where
  item : m'.item = m.item
  places : ∀ messageId, (m.workspace.remoteLocations messageId).map (·.place) ⊆
    (m'.workspace.remoteLocations messageId).map (·.place)

theorem Known.grows {place : PushLocation} (hknown : Known m.item m.workspace place)
    (hgrows : m.Grows m') : Known m'.item m'.workspace place := by
  rw [Known, hgrows.item]
  cases hknown with
  | inl hplanned => exact .inl hplanned
  | inr hrecorded =>
    obtain ⟨location, hmem, hmatches⟩ := hrecorded
    right
    rw [RemoteLocation.matchesPush_iff] at hmatches
    have hplace := hgrows.places place.messageId (List.mem_map_of_mem hmem)
    obtain ⟨found, hfound, heq⟩ := List.mem_map.mp hplace
    exact ⟨found, hfound, RemoteLocation.matchesPush_iff.mpr (heq.trans hmatches)⟩

theorem wp_addRemoteFlags {place : PushLocation} {flags : List String}
    (hat : At context start (.serving (some resolved) (.attempting index armed) remaining) h m)
    (hstep : resolved[index]? = some step) (hflags : step.addFlags ≠ [])
    (hknown : Known m.item m.workspace place)
    (hpost : ∀ m', At context start (.serving (some resolved) (.attempting index armed) remaining)
      h m' → m.Grows m' → post () h m')
    (habort : ∀ error, error.Local → abort error h m) :
    Program.wp (Path context start) post abort (addRemoteFlags context.host place flags) h m := by
  unfold addRemoteFlags
  apply wp_workspace_bind.mpr
  apply wp_check_bind
  · intro message hmessage
    obtain ⟨_, _, hremote⟩ := Workspace.mem_of_readMessageById hmessage
    rw [hremote]
    dsimp only
    split
    · exact hpost m hat ⟨rfl, fun _ => List.Subset.refl _⟩
    · apply wp_writeWorkspace hat (.flags index step place (canonicalFlags flags) hstep hflags hknown)
      intro hnext
      apply hpost _ hnext
      refine ⟨rfl, ?_⟩
      intro messageId
      change _ ⊆ ((m.workspace.setMessageRemote place.messageId _).remoteLocations messageId).map _
      rw [Workspace.remoteLocations_setMessageRemote]
      split
      · rename_i heq
        rw [heq.1]
        exact subset_addFlagsAt _ _ _ _
      · exact List.Subset.refl _
  · intro error herror
    exact habort error (Workspace.fails_readMessageById _ error herror).local

theorem wp_setFlags {place : PushLocation}
    (hat : At context start (.serving (some resolved) (.attempting index armed) remaining) h m)
    (hstep : resolved[index]? = some step) (hflags : step.addFlags ≠ [])
    (hknown : Known m.item m.workspace place)
    (hpost : ∀ h', At context start (.serving (some resolved) (.attempting index armed) remaining)
      h' m → post () h' m)
    (habort : ∀ error h', At context start
      (.serving (some resolved) (.attempting index armed) remaining) h' m →
      FromReply h' error → abort error h' m) :
    Program.wp (Path context start) post abort (Command.perform
      (.addFlags place.mailboxName place.uidValidity place.uid step.addFlags)) h m := by
  apply Program.wp_perform_step
    (fun _ => .serving (some resolved) (.attempting index armed) remaining) hat
  · intro reply
    exact .serve (.setFlags index step place reply hstep hflags hknown)
  · intro _ hnext
    exact hpost _ hnext
  · intro error hnext
    exact habort error _ hnext ⟨_, List.mem_append_right _ (List.mem_singleton_self _), rfl⟩

theorem wp_executeAddFlags {locations : List PushLocation}
    (hat : At context start (.serving (some resolved) (.attempting index armed) remaining) h m)
    (hstep : resolved[index]? = some step) (hflags : step.addFlags ≠ [])
    (hknown : ∀ place ∈ locations, Known m.item m.workspace place) :
    Program.wp (Path context start)
      (fun _ h' m' => At context start
        (.serving (some resolved) (.attempting index armed) remaining) h' m' ∧ m.Grows m')
      (StepAborts context start resolved remaining index)
      (executeAddFlags context locations step.addFlags) h m := by
  apply Program.wp_forEach
  · exact ⟨hat, rfl, fun _ => List.Subset.refl _⟩
  · intro place hmem h' m' hloop
    obtain ⟨hat', hgrows⟩ := hloop
    apply wp_then
    apply wp_setFlags hat' hstep hflags ((hknown place hmem).grows hgrows)
    · intro h'' hat''
      apply wp_addRemoteFlags hat'' hstep hflags ((hknown place hmem).grows hgrows)
      · intro m'' hnext hmore
        refine ⟨hnext, hmore.item.trans hgrows.item, ?_⟩
        intro messageId
        exact List.Subset.trans (hgrows.places messageId) (hmore.places messageId)
      · intro error hlocal
        exact aborts_of_explained hat'' (.inl hlocal)
    · intro error h'' hat'' hreply
      exact aborts_of_explained hat'' (.inr hreply)

theorem wp_executeFlagsOf
    (hat : At context start (.serving (some resolved) (.attempting index armed) remaining) h m)
    (hstep : resolved[index]? = some step) :
    Program.wp (Path context start)
      (fun _ => At context start (.serving (some resolved) (.attempting index armed) remaining))
      (StepAborts context start resolved remaining index)
      (executeFlagsOf context step) h m := by
  unfold executeFlagsOf
  split
  · exact hat
  · rename_i hflags
    rw [List.isEmpty_iff] at hflags
    apply wp_currentItem_bind.mpr
    apply wp_workspace_bind.mpr
    apply wp_check_bind
    · intro locations hlocations
      apply Program.wp_mono (wp_executeAddFlags hat hstep hflags (actionLocations_known hlocations))
      · intro _ h' m' hdone
        exact hdone.1
      · intro _ _ _ habort
        exact habort
    · intro error herror
      exact aborts_of_explained hat (.inl (fails_actionLocations _ _ _ error herror))

end Flags

section Move

theorem alreadyMoved_congr {left right : List RemoteLocation} (hsame : SamePlaces left right)
    (source : PushLocation) (target : String) :
    alreadyMoved left source target = alreadyMoved right source target := by
  have hsource : left.any (·.matchesPush source) = right.any (·.matchesPush source) := by
    rw [Bool.eq_iff_iff, any_matchesPush_iff, any_matchesPush_iff, hsame]
  have htarget : left.any (·.mailboxName == target) = right.any (·.mailboxName == target) := by
    have hplaces : ∀ locations : List RemoteLocation,
        locations.any (·.mailboxName == target) = true ↔
          ∃ place ∈ locations.map (·.place), place.1 = target := by
      intro locations
      simp [List.any_eq_true, RemoteLocation.place]
    rw [Bool.eq_iff_iff, hplaces, hplaces]
    simp only [hsame _]
  rw [alreadyMoved, alreadyMoved, hsource, htarget]

/-- What a move remembers of its messages is what is recorded of them. -/
def MovedMessages.Tracks (messages : MovedMessages) (m : Process) : Prop :=
  ∀ messageId found, messages.lookup messageId = some found → messageId ∈ m.item.messageIds ∧
    (∀ location ∈ found.2, location.isActive = true) ∧
    SamePlaces found.2 (m.workspace.activeLocations messageId)

theorem readMovedMessages_tracks
    (h : readMovedMessages m.workspace m.item.messageIds = .ok messages) :
    MovedMessages.Tracks messages m := by
  intro messageId found hlookup
  obtain ⟨_, _, rfl, _⟩ := List.lookup_eq_some_iff.mp hlookup
  obtain ⟨read, hread, hentry⟩ := Lists.exists_of_forall₂ (Result.mapM_eq_ok_iff.mp h)
    (List.mem_append_right _ List.mem_cons_self)
  obtain ⟨message, hmessage, hentry⟩ := Result.bind_ok hentry
  cases hentry
  obtain ⟨_, _, hremote⟩ := Workspace.mem_of_readMessageById hmessage
  refine ⟨List.mem_eraseDups.mp hread, ?_, ?_⟩
  · intro location hmem
    exact (List.mem_filter.mp hmem).2
  · rw [Message.activeLocations, hremote]
    exact .refl _

theorem lookup_setLocations {messages : MovedMessages} {messageId other : String}
    {locations : List RemoteLocation}
    (h : (messages.setLocations messageId locations).lookup other = some found) :
    ∃ old, messages.lookup other = some old ∧
      found = if other = messageId then (old.1, locations) else old := by
  induction messages with
  | nil => cases h
  | cons entry rest ih =>
    obtain ⟨first, value⟩ := entry
    simp only [MovedMessages.setLocations, List.map_cons] at h
    rw [List.lookup_cons] at h ⊢
    by_cases hfirst : first = messageId
    · simp only [hfirst, ↓reduceIte] at h
      split at h
      · rename_i heq
        cases h
        rw [hfirst, heq]
        exact ⟨value, rfl, by rw [if_pos (beq_iff_eq.mp heq)]⟩
      · rename_i heq
        rw [hfirst, heq]
        exact ih h
    · simp only [hfirst, ↓reduceIte] at h
      split at h
      · rename_i heq
        cases h
        refine ⟨_, rfl, ?_⟩
        rw [if_neg (by rw [beq_iff_eq.mp heq]; exact hfirst)]
      · exact ih h

/-- Where a message goes that is moved from one place to another. -/
def relocated (source : PushLocation) (target : RemoteLocation)
    (existing : List RemoteLocation) : List RemoteLocation :=
  addTarget target (removeSource source existing)

theorem isActive_relocated {existing : List RemoteLocation} (htarget : target.isActive = true)
    (h : ∀ location ∈ existing, location.isActive = true) :
    ∀ location ∈ relocated source target existing, location.isActive = true := by
  have hrest : ∀ location ∈ removeSource source existing, location.isActive = true :=
    fun location hmem => h location (List.mem_of_mem_filter hmem)
  intro location hmem
  unfold relocated addTarget at hmem
  split at hmem
  · exact hrest location hmem
  · cases List.mem_append.mp hmem with
    | inl hold => exact hrest location hold
    | inr hnew =>
      rw [List.mem_singleton.mp hnew]
      exact htarget

theorem dedup_relocated_ne_nil (source : PushLocation) (target : RemoteLocation)
    (existing : List RemoteLocation) : dedupLocations (relocated source target existing) ≠ [] := by
  intro hnil
  have hmem := (samePlaces_dedupLocations (relocated source target existing) target.place).mpr
    (SamePlaces.mem_addTarget.mpr (.inr rfl))
  rw [hnil] at hmem
  cases hmem

theorem filter_isActive {locations : List RemoteLocation}
    (h : ∀ location ∈ locations, location.isActive = true) :
    locations.filter (·.isActive) = locations := List.filter_eq_self.mpr h

theorem activeLocations_setMessageRemote {w : Workspace} {messageId : String}
    {locations : List RemoteLocation} (other : String) (hmem : messageId ∈ w.messages)
    (hactive : ∀ location ∈ locations, location.isActive = true) :
    (w.setMessageRemote messageId locations).activeLocations other =
      if other = messageId then locations else w.activeLocations other := by
  rw [Workspace.activeLocations, Workspace.remoteLocations_setMessageRemote]
  by_cases heq : other = messageId
  · rw [if_pos ⟨heq, hmem⟩, if_pos heq, filter_isActive hactive]
  · rw [if_neg (fun hboth => heq hboth.1), if_neg heq]
    rfl

/-- Recording a moved message keeps the move's memory in step with the workspace. -/
theorem wp_relocateMessage {source : PushLocation} {target : RemoteLocation}
    {existing : List RemoteLocation} {messages : MovedMessages}
    (hat : At context start (.serving (some resolved) (.moving index source target) remaining) h m)
    (htracks : messages.Tracks m) (hactive : target.isActive = true)
    (hlookup : messages.lookup source.messageId = some (rfc822MessageId, existing))
    (hpost : ∀ m', At context start (.serving (some resolved) (.attempting index true) remaining)
      h m' → m'.item = m.item → m'.mailboxes = m.mailboxes →
      (messages.setLocations source.messageId (relocated source target existing)).Tracks m' →
      post () h m') :
    Program.wp (Path context start) post (StepAborts context start resolved remaining index)
      (relocateMessage source.messageId (relocated source target existing)) h m := by
  obtain ⟨_, hexisting, hsame⟩ := htracks _ _ hlookup
  have hall : ∀ location ∈ relocated source target existing, location.isActive = true :=
    isActive_relocated hactive hexisting
  have hdedup : ∀ location ∈ dedupLocations (relocated source target existing),
      location.isActive = true :=
    fun location hmem => hall location (dedupLocations_subset _ hmem)
  have hplaces := samePlaces_dedupLocations (relocated source target existing)
  unfold relocateMessage
  rw [if_neg (by rw [List.isEmpty_iff]; exact dedup_relocated_ne_nil source target existing)]
  apply wp_workspace_bind.mpr
  apply wp_check_bind
  · intro message hmessage
    obtain ⟨hmem, _, _⟩ := Workspace.mem_of_readMessageById hmessage
    apply wp_writeWorkspace hat (.relocate index source target _ hdedup
      (hplaces.trans ((hsame.removeSource source).addTarget target)))
    intro hnext
    apply hpost _ hnext rfl rfl
    intro messageId found hfound
    obtain ⟨old, hold, hvalue⟩ := lookup_setLocations hfound
    obtain ⟨hid, holdActive, holdSame⟩ := htracks messageId old hold
    have hrecord := activeLocations_setMessageRemote messageId hmem hdedup
    rw [hvalue]
    refine ⟨hid, ?_⟩
    change _ ∧ SamePlaces _ ((m.workspace.setMessageRemote _ _).activeLocations messageId)
    rw [hrecord]
    by_cases heq : messageId = source.messageId
    · rw [if_pos heq, if_pos heq]
      refine ⟨hall, ?_⟩
      intro place
      exact (hplaces place).symm
    · rw [if_neg heq, if_neg heq]
      exact ⟨holdActive, holdSame⟩
  · intro error herror
    exact aborts_of_local hat rfl (Workspace.fails_readMessageById _ error herror).local

theorem local_moveTargetUidMissing (messageId : String) : (moveTargetUidMissing messageId).Local :=
  ⟨rfl, (by decide : "imap_move_target_uid_missing" ≠ legacyMoveErrorCode)⟩

theorem wp_moveLocation {source : PushLocation} {messages : MovedMessages}
    {mailboxId target : String}
    {post : MovedMessages → ProcessFact}
    (hat : At context start (.serving (some resolved) (.attempting index true) remaining) h m)
    (hstep : resolved[index]? = some step) (hmove : step.moveToMailboxId = some mailboxId)
    (hcached : m.FolderCached context.config mailboxId target)
    (hne : source.mailboxName ≠ target) (htracks : messages.Tracks m)
    (halready : (messages.lookup source.messageId).any (alreadyMoved ·.2 source target) ≠ true)
    (hpost : ∀ messages' h' m', At context start
      (.serving (some resolved) (.attempting index true) remaining) h' m' → m'.item = m.item →
      m'.mailboxes = m.mailboxes → messages'.Tracks m' → post messages' h' m') :
    Program.wp (Path context start) post (StepAborts context start resolved remaining index)
      (moveLocation context ⟨m.item.pushId, index, .location source⟩ target messages source) h m := by
  unfold moveLocation
  split
  · exact aborts_of_explained hat (.inl (AppError.local_of_code (by decide)))
  · rename_i rfc822MessageId existing hlookup
    obtain ⟨hid, _, hsame⟩ := htracks _ _ hlookup
    have hnot : alreadyMoved (m.workspace.activeLocations source.messageId) source target =
        false := by
      rw [hlookup, Option.any_some] at halready
      rw [← alreadyMoved_congr hsame]
      exact Bool.eq_false_iff.mpr halready
    apply wp_then
    apply wp_then
    apply Program.wp_perform_step (fun reply : Option (Except AppError (Option RemoteUid)) =>
      .serving (some resolved) (.afterMove context.host index source target reply) remaining) hat
    · intro reply
      exact .serve (.move index step mailboxId source target rfc822MessageId reply hstep hmove
        hcached hid hne hnot)
    · intro found hnext
      cases found with
      | none => exact aborts_of_local hnext rfl (local_moveTargetUidMissing _)
      | some uid =>
        apply wp_then
        apply wp_relocateMessage hnext htracks rfl hlookup
        intro m' hdone hitem hboxes htracks'
        exact hpost _ _ m' hdone hitem hboxes htracks'
    · intro error hnext
      have hreply : FromReply (h ++ [⟨moveRequest m.item.pushId index source target
          rfc822MessageId, m, some (.error error)⟩]) error :=
        ⟨_, List.mem_append_right _ (List.mem_singleton_self _), rfl⟩
      have hlegacy : m.item.messageAction.isSome → error.errorCode = legacyMoveErrorCode →
          ∃ event ∈ h ++ [⟨moveRequest m.item.pushId index source target rfc822MessageId, m,
            some (.error error)⟩], RemoteEvent.errorCode? event = some legacyMoveErrorCode := by
        intro _ hcode
        obtain ⟨event, hmem, heq⟩ := hreply
        exact ⟨event, hmem, by rw [heq, hcode]⟩
      by_cases hrejected : remoteEffectNotApplied error = true
      · simp only [Attempt.afterMove, hrejected, ↓reduceIte] at hnext
        exact ⟨_, hnext, rfl, .inl ⟨true, rfl⟩, hlegacy⟩
      · rw [Bool.not_eq_true] at hrejected
        simp only [Attempt.afterMove, hrejected, Bool.false_eq_true, ↓reduceIte] at hnext
        exact ⟨_, hnext, rfl, .inr hrejected, hlegacy⟩

theorem wp_moveLocations {locations : List PushLocation} {messages : MovedMessages}
    {mailboxId target : String}
    (hat : At context start (.serving (some resolved) (.attempting index true) remaining) h m)
    (hstep : resolved[index]? = some step) (hmove : step.moveToMailboxId = some mailboxId)
    (hcached : m.FolderCached context.config mailboxId target)
    (hpush : m.item.pushId = pushId) (htracks : messages.Tracks m) :
    Program.wp (Path context start)
      (fun _ => At context start (.serving (some resolved) (.attempting index true) remaining))
      (StepAborts context start resolved remaining index)
      (moveLocations context pushId index target messages locations) h m := by
  induction locations generalizing messages h m with
  | nil => exact hat
  | cons source rest ih =>
    rw [moveLocations]
    split
    · exact ih hat hcached hpush htracks
    · rename_i hne
      split
      · exact ih hat hcached hpush htracks
      · rename_i halready
        subst hpush
        apply wp_then
        apply wp_moveLocation hat hstep hmove hcached hne htracks halready
        intro messages' h' m' hnext hitem hboxes htracks'
        obtain ⟨mailbox, boxes, hmailbox, hlisted, hfolder⟩ := hcached
        have hcached : m'.FolderCached context.config mailboxId target :=
          ⟨mailbox, boxes, hmailbox, hboxes.trans hlisted, hfolder⟩
        exact ih hnext hcached (by rw [hitem]) htracks'

theorem moveLocations_of_target {locations : List PushLocation} {messages : MovedMessages}
    (h : ∀ location ∈ locations, location.mailboxName = target) :
    moveLocations context pushId index target messages locations = .ret () := by
  induction locations with
  | nil => rfl
  | cons source rest ih =>
    obtain ⟨hsource, hrest⟩ := List.forall_mem_cons.mp h
    rw [moveLocations, if_pos hsource, ih hrest]

theorem wp_executeMove {locations : List PushLocation} {mailboxId target : String}
    (hat : At context start (.serving (some resolved) (.attempting index armed) remaining) h m)
    (hstep : resolved[index]? = some step) (hmove : step.moveToMailboxId = some mailboxId)
    (hcached : m.FolderCached context.config mailboxId target)
    (harmed : (∃ location ∈ locations, location.mailboxName ≠ target) → armed = true) :
    Program.wp (Path context start)
      (fun _ h' m' => ∃ armed, At context start
        (.serving (some resolved) (.attempting index armed) remaining) h' m')
      (StepAborts context start resolved remaining index)
      (executeMove context index locations mailboxId) h m := by
  unfold executeMove
  split
  · exact ⟨armed, hat⟩
  · apply wp_currentItem_bind.mpr
    apply wp_workspace_bind.mpr
    apply wp_check_bind
    · intro messages hmessages
      apply wp_then
      apply wp_remoteMailboxFolder_cached hcached
      by_cases hany : ∃ location ∈ locations, location.mailboxName ≠ target
      · have htrue := harmed hany
        subst htrue
        apply Program.wp_mono
          (wp_moveLocations hat hstep hmove hcached rfl (readMovedMessages_tracks hmessages))
        · intro _ h' m' hdone
          exact ⟨true, hdone⟩
        · intro _ _ _ habort
          exact habort
      · rw [moveLocations_of_target (fun location hmem => by
          by_contra hne
          exact hany ⟨location, hmem, hne⟩)]
        exact ⟨armed, hat⟩
    · intro error herror
      exact aborts_of_explained hat (.inl (fails_readMovedMessages _ _ error herror).local)

theorem wp_executeMoveOf
    (hat : At context start (.serving (some resolved) (.attempting index armed) remaining) h m)
    (hstep : resolved[index]? = some step) :
    Program.wp (Path context start)
      (fun _ h' m' => ∃ armed, At context start
        (.serving (some resolved) (.attempting index armed) remaining) h' m')
      (StepAborts context start resolved remaining index)
      (executeMoveOf context index step) h m := by
  unfold executeMoveOf
  split
  · exact ⟨armed, hat⟩
  · rename_i mailboxId hmailbox
    apply wp_currentItem_bind.mpr
    apply wp_workspace_bind.mpr
    apply wp_check_bind
    · intro locations _
      apply wp_then
      apply wp_remoteMailboxFolder hat
      · intro target h' m' hnext hsame hcached
        by_cases hany : (locations.any (·.mailboxName != target)) = true
        · rw [if_pos hany]
          apply wp_then
          apply wp_persistRemoteOutcomeUnknown hnext hstep
          intro harmed
          exact wp_executeMove harmed hstep hmailbox hcached (fun _ => rfl)
        · rw [if_neg hany]
          apply wp_executeMove hnext hstep hmailbox hcached
          intro hsome
          obtain ⟨location, hmem, hne⟩ := hsome
          exact (hany (List.any_eq_true.mpr ⟨location, hmem, bne_iff_ne.mpr hne⟩)).elim
      · intro error h' m' hnext _ hexplained
        exact aborts_of_explained hnext hexplained
    · intro error herror
      exact aborts_of_explained hat (.inl (fails_actionLocations _ _ _ error herror))

end Move

section Append

theorem Serving.auditPending_none (hs : Serving steps attempt m)
    (hindex : attempt.index? = some index) : m.item.auditPending = none := by
  obtain ⟨state, hcurrent⟩ := hs.current hindex
  have hstage := hs.serves.localStage_none hcurrent
  have hkept := hs.auditKept (Serving.ne_assigned hindex)
  rw [← Option.not_isSome_iff_eq_none]
  intro hpending
  have hreported := hkept.mp hpending
  rw [hstage] at hreported
  cases hreported

theorem PushItem.Planned.messageIds_length {item : PushItem} (h : item.Planned)
    (haudit : item.auditPending = none) : item.messageIds.length ≤ 1 := by
  cases h with
  | reported hpending =>
    rw [haudit] at hpending
    cases hpending
  | message message action _ _ haction hfor =>
    rw [PushItem.messageIds, haction]
    dsimp only
    rw [hfor.messageIds]
    exact Nat.le_refl 1
  | draft draft outbound hpayload haction =>
    rw [PushItem.messageIds, haction, hpayload]
    exact Nat.zero_le 1

theorem notApplied_error {request : Request} {error : AppError} :
    RemoteEvent.notApplied ⟨request, m, some (.error error)⟩ = remoteEffectNotApplied error := by
  cases request <;> rfl

theorem aborts_of_call {request : Request} {error : AppError}
    (hat : At context start (.serving (some resolved)
      (if RemoteEvent.notApplied ⟨request, m, some (.error error)⟩ then .attempting index true
        else .applied index) remaining) (h ++ [⟨request, m, some (.error error)⟩]) m) :
    StepAborts context start resolved remaining index error
      (h ++ [⟨request, m, some (.error error)⟩]) m := by
  rw [notApplied_error] at hat
  refine ⟨_, hat, by split <;> rfl, ?_, ?_⟩
  · by_cases hrejected : remoteEffectNotApplied error = true
    · rw [if_pos hrejected]
      exact .inl ⟨true, rfl⟩
    · exact .inr (Bool.eq_false_iff.mpr hrejected)
  · intro _ hcode
    refine ⟨_, List.mem_append_right _ (List.mem_singleton_self _), ?_⟩
    rw [← hcode]
    rfl

theorem wp_perform_call {request : Request} {unit : EffectUnit}
    {post : request.Reply → ProcessFact}
    (hat : At context start (.serving (some resolved) (.attempting index true) remaining) h m)
    (hsite : request.site? = some ⟨m.item.pushId, index, unit⟩) (hwhole : unit.isWhole = true)
    (hstep : resolved[index]? = some step) (hcarries : request.CarriesOut context.config m step)
    (hpost : ∀ value h' next, At context start (.serving (some resolved) next remaining) h' m →
      next.index? = some index →
      (RemoteEvent.notApplied ⟨request, m, some (.ok value)⟩ = true →
        next = .attempting index true) → post value h' m) :
    Program.wp (Path context start) post (StepAborts context start resolved remaining index)
      (Command.perform request) h m := by
  apply Program.wp_perform_step (fun reply => .serving (some resolved)
    (if RemoteEvent.notApplied ⟨request, m, reply⟩ then .attempting index true
      else .applied index) remaining) hat
  · intro reply
    exact .serve (.call index step unit ⟨request, m, reply⟩ rfl hsite hwhole hstep hcarries)
  · intro value hnext
    exact hpost value _ _ hnext (by split <;> rfl) (fun hrejected => if_pos hrejected)
  · intro error hnext
    exact aborts_of_call hnext

theorem wp_ask_call {request : Request} {unit : EffectUnit}
    {post : Except AppError request.Reply → ProcessFact}
    (hat : At context start (.serving (some resolved) (.attempting index true) remaining) h m)
    (hsite : request.site? = some ⟨m.item.pushId, index, unit⟩) (hwhole : unit.isWhole = true)
    (hstep : resolved[index]? = some step) (hcarries : request.CarriesOut context.config m step)
    (hpost : ∀ reply h' next, At context start (.serving (some resolved) next remaining) h' m →
      next.index? = some index →
      (∀ error, reply = .error error →
        StepAborts context start resolved remaining index error h' m) → post reply h' m) :
    Program.wp (Path context start) post abort (Command.ask request) h m := by
  apply Program.wp_ask_step (fun reply => .serving (some resolved)
    (if RemoteEvent.notApplied ⟨request, m, reply⟩ then .attempting index true
      else .applied index) remaining) hat
  · intro reply
    exact .serve (.call index step unit ⟨request, m, reply⟩ rfl hsite hwhole hstep hcarries)
  · intro reply hnext
    apply hpost reply _ _ hnext (by split <;> rfl)
    intro error heq
    subst heq
    exact aborts_of_call hnext

theorem wp_appendMessages {mailboxId folder : String} {messageIds : List String}
    (hat : At context start (.serving (some resolved) (.attempting index armed) remaining) h m)
    (hstep : resolved[index]? = some step) (happend : step.appendToMailboxId = some mailboxId)
    (hcached : m.FolderCached context.config mailboxId folder) (hlength : messageIds.length ≤ 1) :
    Program.wp (Path context start) (StepDone context start resolved remaining index)
      (StepAborts context start resolved remaining index)
      (appendMessages context index step folder false messageIds) h m := by
  match messageIds, hlength with
  | [], _ => exact ⟨_, hat, rfl⟩
  | [messageId], _ =>
    rw [appendMessages]
    apply wp_currentItem_bind.mpr
    apply wp_workspace_bind.mpr
    apply wp_check_bind
    · intro raw _
      apply wp_then
      apply wp_persistRemoteOutcomeUnknown hat hstep
      intro harmed
      apply wp_then
      apply wp_ask_call harmed rfl rfl hstep
      · exact ⟨mailboxId, happend, hcached⟩
      · intro reply h' next hnext hindex hfailed
        cases reply with
        | ok value => exact ⟨next, hnext, hindex⟩
        | error error => exact hfailed error rfl
    · intro error herror
      exact aborts_of_explained hat (.inl (fails_appendedRaw _ _ _ error herror).local)

theorem wp_executeAppendOf (hsound : Sound context start)
    (hat : At context start (.serving (some resolved) (.attempting index armed) remaining) h m)
    (hstep : resolved[index]? = some step) :
    Program.wp (Path context start) (StepDone context start resolved remaining index)
      (StepAborts context start resolved remaining index)
      (executeAppendOf context index step) h m := by
  unfold executeAppendOf
  split
  · exact ⟨_, hat, rfl⟩
  · rename_i mailboxId hmailbox
    apply wp_then
    apply wp_remoteMailboxFolder hat
    · intro folder h' m' hnext _ hcached
      apply wp_currentItem_bind.mpr
      have hs := hsound.serving hnext
      exact wp_appendMessages hnext hstep hmailbox hcached
        (hs.serves.planned.messageIds_length (hs.auditPending_none rfl))
    · intro error h' m' hnext _ hexplained
      exact aborts_of_explained hnext hexplained

end Append

theorem aborts_of_done {error : AppError} (hlocal : error.Local)
    (hdone : StepDone context start resolved remaining index () h m) :
    StepAborts context start resolved remaining index error h m := by
  obtain ⟨attempt, hat, hindex⟩ := hdone
  exact aborts_of_local hat hindex hlocal

theorem wp_executeMessageStep (hsound : Sound context start)
    (hat : At context start (.serving (some resolved) (.attempting index armed) remaining) h m)
    (hstep : resolved[index]? = some step) :
    Program.wp (Path context start) (StepDone context start resolved remaining index)
      (StepAborts context start resolved remaining index)
      (executeMessageStep context index step) h m := by
  unfold executeMessageStep
  apply Program.wp_seq (wp_executeFlagsOf hat hstep)
  intro _ h₁ m₁ hflagged
  apply Program.wp_seq (wp_executeMoveOf hflagged hstep)
  intro _ h₂ m₂ hmoved
  obtain ⟨armed', hat'⟩ := hmoved
  apply Program.wp_seq (wp_executeAppendOf hsound hat' hstep)
  intro _ h₃ m₃ hdone
  split
  · exact aborts_of_done (AppError.local_of_code (by decide)) hdone
  · exact hdone

section Outbound

theorem fails_outboundOf (item : PushItem) : (outboundOf item).Fails AppError.Local := by
  unfold outboundOf
  split
  · exact Result.Fails.ok _
  · exact Result.Fails.failure (AppError.local_of_code (by decide))

theorem PushItem.Planned.messageAction_none {item : PushItem} {outbound : OutboundPush}
    (h : item.Planned)
    (haudit : item.auditPending = none) (houtbound : outboundOf item = .ok outbound) :
    item.messageAction = none := by
  cases h with
  | reported hpending =>
    rw [haudit] at hpending
    cases hpending
  | message message action _ hnone =>
    rw [outboundOf, PushItem.outbound, hnone] at houtbound
    cases houtbound
  | draft draft outbound _ haction => exact haction

theorem aborts_of_draft {error : AppError}
    (hat : At context start (.serving (some resolved) (.attempting index armed) remaining) h m)
    (hdraft : m.item.messageAction = none) :
    StepAborts context start resolved remaining index error h m := by
  refine ⟨_, hat, rfl, .inl ⟨armed, rfl⟩, ?_⟩
  rw [hdraft]
  intro hsome
  cases hsome

/-- A send is prepared, then announced in the record, and only then made. -/
theorem wp_announced {request : Request} {next : PushItem → Command Unit}
    (hat : At context start (.serving (some resolved) (.attempting index armed) remaining) h m)
    (hstep : resolved[index]? = some step) (hdraft : m.item.messageAction = none)
    (hsite : request.site? = none) (hflags : request.setsFlags = false)
    (hname : request ≠ .newEventId)
    (hnext : ∀ h' m', At context start (.serving (some resolved) (.attempting index true) remaining)
      h' m' → m'.item.messageAction = none →
        Program.wp (Path context start) (StepDone context start resolved remaining index)
          (StepAborts context start resolved remaining index) (next m'.item) h' m') :
    Program.wp (Path context start) (StepDone context start resolved remaining index)
      (StepAborts context start resolved remaining index)
      (do
        let _ ← perform request
        persistRemoteOutcomeUnknown context index step
        let item ← currentItem
        next item) h m := by
  apply wp_then
  apply wp_perform_quiet hat hsite hflags hname
  · intro _ h' hquiet
    apply wp_then
    apply wp_persistRemoteOutcomeUnknown hquiet hstep
    intro harmed
    exact hnext h' _ harmed hdraft
  · intro error h' hquiet _
    exact aborts_of_draft hquiet hdraft

theorem wp_executeFileSend {prepared : PreparedOutbound}
    (hat : At context start (.serving (some resolved) (.attempting index armed) remaining) h m)
    (hstep : resolved[index]? = some step) (hdraft : m.item.messageAction = none) :
    Program.wp (Path context start) (StepDone context start resolved remaining index)
      (StepAborts context start resolved remaining index)
      (executeFileSend context index step prepared) h m := by
  unfold executeFileSend
  split
  · rename_i hfile
    apply wp_check_bind
    · intro _ _
      apply wp_announced hat hstep hdraft rfl rfl (by simp)
      intro h' m' harmed _
      apply wp_perform_call harmed rfl rfl hstep
      · exact hfile
      · intro _ h'' next hnext hindex _
        exact ⟨next, hnext, hindex⟩
    · intro error _
      exact aborts_of_draft hat hdraft
  · exact ⟨_, hat, rfl⟩

theorem wp_executeCloudflareSend {prepared : PreparedOutbound}
    (hat : At context start (.serving (some resolved) (.attempting index armed) remaining) h m)
    (hstep : resolved[index]? = some step) (hdraft : m.item.messageAction = none) :
    Program.wp (Path context start) (StepDone context start resolved remaining index)
      (StepAborts context start resolved remaining index)
      (executeCloudflareSend context index step prepared) h m := by
  unfold executeCloudflareSend
  split
  · rename_i hcloudflare
    apply wp_announced hat hstep hdraft rfl rfl (by simp)
    intro h' m' harmed hkept
    apply wp_then
    apply wp_perform_call harmed rfl rfl hstep
    · exact hcloudflare
    · intro receipt h'' next hnext hindex hrejected
      apply wp_then
      apply wp_modifyItem hnext (.receipt index step receipt hstep hindex)
      intro hreceived
      apply wp_check
      · intro _ _
        exact ⟨next, hreceived, hindex⟩
      · intro error herror
        have hnone : receipt.accepted = false := by
          unfold ensure at herror
          split at herror
          · cases herror
          · rename_i hnot
            exact Bool.eq_false_iff.mpr hnot
        have hattempting := hrejected (by simp [RemoteEvent.notApplied, hnone])
        subst hattempting
        exact aborts_of_draft hreceived hkept
  · exact ⟨_, hat, rfl⟩

theorem wp_executeSmtpSend {prepared : PreparedOutbound}
    (hat : At context start (.serving (some resolved) (.attempting index armed) remaining) h m)
    (hstep : resolved[index]? = some step) (hdraft : m.item.messageAction = none) :
    Program.wp (Path context start) (StepDone context start resolved remaining index)
      (StepAborts context start resolved remaining index)
      (executeSmtpSend context index step prepared) h m := by
  unfold executeSmtpSend
  split
  · rename_i hsmtp
    apply wp_check_bind
    · intro _ _
      apply wp_check_bind
      · intro email _
        apply wp_announced hat hstep hdraft rfl rfl (by simp)
        intro h' m' harmed _
        apply wp_perform_call harmed rfl rfl hstep
        · exact hsmtp
        · intro _ h'' next hnext hindex _
          exact ⟨next, hnext, hindex⟩
      · intro error _
        exact aborts_of_draft hat hdraft
    · intro error _
      exact aborts_of_draft hat hdraft
  · exact ⟨_, hat, rfl⟩

theorem wp_executeOutboundAppend {prepared : PreparedOutbound}
    (hat : At context start (.serving (some resolved) (.attempting index armed) remaining) h m)
    (hstep : resolved[index]? = some step) :
    Program.wp (Path context start) (StepDone context start resolved remaining index)
      (StepAborts context start resolved remaining index)
      (executeOutboundAppend context index step prepared) h m := by
  unfold executeOutboundAppend
  split
  · exact ⟨_, hat, rfl⟩
  · rename_i mailboxId hmailbox
    apply wp_then
    apply wp_remoteMailboxFolder hat
    · intro folder h' m' hnext _ hcached
      apply wp_then
      apply wp_persistRemoteOutcomeUnknown hnext hstep
      intro harmed
      apply wp_currentItem_bind.mpr
      apply wp_perform_call harmed rfl rfl hstep
      · exact ⟨mailboxId, hmailbox, hcached⟩
      · intro _ h'' next hdone hindex _
        exact ⟨next, hdone, hindex⟩
    · intro error h' m' hnext _ hexplained
      exact aborts_of_explained hnext hexplained

/-- The operations a step may define. -/
inductive StepOperation where
  | addFlags | moveTo | appendTo | smtpSend | fileSend | cloudflareSend

def ActionStep.defines (step : ActionStep) : StepOperation → Bool
  | .addFlags => !step.addFlags.isEmpty
  | .moveTo => step.moveToMailboxId.isSome
  | .appendTo => step.appendToMailboxId.isSome
  | .smtpSend => step.smtpSend.isSome
  | .fileSend => step.fileSend.isSome
  | .cloudflareSend => step.cloudflareSend.isSome

theorem ActionStep.opCount_eq (step : ActionStep) : step.opCount =
    (step.defines .addFlags).toNat + (step.defines .moveTo).toNat +
    (step.defines .appendTo).toNat + (step.defines .smtpSend).toNat +
    (step.defines .fileSend).toNat + (step.defines .cloudflareSend).toNat := rfl

theorem ActionStep.defines_unique {step : ActionStep} (hsingle : step.opCount = 1)
    {operation other : StepOperation} (hdefines : step.defines operation = true)
    (hne : other ≠ operation) : step.defines other = false := by
  by_contra hother
  rw [Bool.not_eq_false] at hother
  have hone : (true : Bool).toNat = 1 := rfl
  rw [opCount_eq] at hsingle
  cases operation <;> cases other <;>
    first
      | exact hne rfl
      | (rw [hdefines, hother, hone] at hsingle; omega)

theorem ActionStep.exists_defines {step : ActionStep} (hsingle : step.opCount = 1) :
    ∃ operation, step.defines operation = true := by
  by_contra hnone
  have hfalse : ∀ operation, step.defines operation = false := by
    intro operation
    by_contra hdefines
    exact hnone ⟨operation, Bool.not_eq_false _ ▸ hdefines⟩
  rw [opCount_eq] at hsingle
  simp only [hfalse, Bool.toNat_false] at hsingle
  omega

theorem executeFileSend_none {prepared : PreparedOutbound} (h : step.fileSend.isSome = false) :
    executeFileSend context index step prepared = .ret () := if_neg (by rw [h]; simp)

theorem executeCloudflareSend_none {prepared : PreparedOutbound}
    (h : step.cloudflareSend.isSome = false) :
    executeCloudflareSend context index step prepared = .ret () := if_neg (by rw [h]; simp)

theorem executeSmtpSend_none {prepared : PreparedOutbound} (h : step.smtpSend.isSome = false) :
    executeSmtpSend context index step prepared = .ret () := if_neg (by rw [h]; simp)

theorem executeOutboundAppend_none {prepared : PreparedOutbound}
    (h : step.appendToMailboxId.isSome = false) :
    executeOutboundAppend context index step prepared = .ret () := by
  rw [Option.isSome_eq_false_iff, Option.isNone_iff_eq_none] at h
  rw [executeOutboundAppend, h]
  rfl

theorem executeFlagsOf_none (h : (!step.addFlags.isEmpty) = false) :
    executeFlagsOf context step = .ret () := if_pos (by simpa using h)

theorem wp_executeOutboundStep (hsound : Sound context start)
    (hat : At context start (.serving (some resolved) (.attempting index armed) remaining) h m)
    (hstep : resolved[index]? = some step) :
    Program.wp (Path context start) (StepDone context start resolved remaining index)
      (StepAborts context start resolved remaining index)
      (executeOutboundStep context index step) h m := by
  have hs := hsound.serving hat
  have hsingle : step.opCount = 1 :=
    (hs.serves.resolved resolved rfl).single step (List.mem_of_getElem? hstep)
  obtain ⟨operation, hdefines⟩ := ActionStep.exists_defines hsingle
  have hother : ∀ other, other ≠ operation → step.defines other = false :=
    fun other hne => ActionStep.defines_unique hsingle hdefines hne
  have hmove : operation ≠ .moveTo → ¬step.moveToMailboxId.isSome = true :=
    fun hne => Bool.eq_false_iff.mp (hother .moveTo (Ne.symm hne))
  unfold executeOutboundStep
  apply wp_currentItem_bind.mpr
  apply wp_workspace_bind.mpr
  apply wp_check_bind
  · intro outbound houtbound
    have hdraft := hs.serves.planned.messageAction_none (hs.auditPending_none rfl) houtbound
    apply wp_check_bind
    · intro prepared _
      -- of the operations in a row only the one that the step defines does anything
      by_cases hfile : operation = .fileSend
      · subst hfile
        rw [executeCloudflareSend_none (hother .cloudflareSend (by simp)),
          executeSmtpSend_none (hother .smtpSend (by simp)),
          executeOutboundAppend_none (hother .appendTo (by simp)),
          executeFlagsOf_none (hother .addFlags (by simp)), if_neg (hmove (by simp))]
        apply Program.wp_seq (wp_executeFileSend hat hstep hdraft)
        intro _ h' m' hdone
        exact hdone
      rw [executeFileSend_none (hother .fileSend (Ne.symm hfile))]
      by_cases hcloudflare : operation = .cloudflareSend
      · subst hcloudflare
        rw [executeSmtpSend_none (hother .smtpSend (by simp)),
          executeOutboundAppend_none (hother .appendTo (by simp)),
          executeFlagsOf_none (hother .addFlags (by simp)), if_neg (hmove (by simp))]
        apply Program.wp_seq (wp_executeCloudflareSend hat hstep hdraft)
        intro _ h' m' hdone
        exact hdone
      rw [executeCloudflareSend_none (hother .cloudflareSend (Ne.symm hcloudflare))]
      by_cases hsmtp : operation = .smtpSend
      · subst hsmtp
        rw [executeOutboundAppend_none (hother .appendTo (by simp)),
          executeFlagsOf_none (hother .addFlags (by simp)), if_neg (hmove (by simp))]
        apply Program.wp_seq (wp_executeSmtpSend hat hstep hdraft)
        intro _ h' m' hdone
        exact hdone
      rw [executeSmtpSend_none (hother .smtpSend (Ne.symm hsmtp))]
      by_cases happend : operation = .appendTo
      · subst happend
        rw [executeFlagsOf_none (hother .addFlags (by simp)), if_neg (hmove (by simp))]
        apply Program.wp_seq (wp_executeOutboundAppend hat hstep)
        intro _ h' m' hdone
        exact hdone
      rw [executeOutboundAppend_none (hother .appendTo (Ne.symm happend))]
      apply Program.wp_seq (wp_executeFlagsOf hat hstep)
      intro _ h' m' hflagged
      split
      · exact wp_executeMessageStep hsound hflagged hstep
      · exact ⟨_, hflagged, rfl⟩
    · intro error _
      exact aborts_of_draft hat hdraft
  · intro error herror
    exact aborts_of_explained hat (.inl (fails_outboundOf _ error herror))

end Outbound
end AgentFirstMail
