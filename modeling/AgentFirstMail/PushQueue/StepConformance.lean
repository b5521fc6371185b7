import AgentFirstMail.PushQueue.LifecycleInvariant
import AgentFirstMail.PushQueue.LocalErrors
import AgentFirstMail.Store.Keeping

namespace AgentFirstMail
open Effect Command

/-- The push came to a phase. -/
abbrev At (context : PushExecutionContext) (start : PushPosition) (phase : PushPhase) :
    ProcessFact :=
  Reaches (PushTransition context) start phase

/-- The push follows its transitions. -/
abbrev Path (context : PushExecutionContext) (start : PushPosition) :
    ProcessFact :=
  Conforms (PushTransition context) start

/-- Wherever the push comes its state is consistent. -/
def Sound (context : PushExecutionContext) (start : PushPosition) : Prop :=
  ∀ phase h m, At context start phase h m → PushConsistent ⟨phase, h, m⟩

/-- An error that a request was answered with. -/
def FromReply (h : List RemoteEvent) (error : AppError) : Prop :=
  ∃ event ∈ h, RemoteEvent.errorCode? event = some error.errorCode

/-- An error of the executor or one it was answered with. -/
def Explained (h : List RemoteEvent) (error : AppError) : Prop :=
  error.Local ∨ FromReply h error

/-- The same item over the same workspace. -/
structure Process.Same (m m' : Process) : Prop where
  workspace : m'.workspace = m.workspace
  item : m'.item = m.item

theorem Process.Same.refl (m : Process) : m.Same m := ⟨rfl, rfl⟩

variable {context : PushExecutionContext} {start : PushPosition} {remaining : List PushItem}
  {steps steps' : Option (List ActionStep)} {resolved : List ActionStep}
  {attempt attempt' : Attempt} {index : Nat} {step : ActionStep} {armed : Bool}
  {h : List RemoteEvent} {m : Process}
  {abort : AppError → ProcessFact}

theorem Sound.serving (hsound : Sound context start)
    (hat : At context start (.serving steps attempt remaining) h m) : Serving steps attempt m :=
  (hsound _ _ _ hat).phase.1

section Primitives

theorem wp_writeWorkspace {change : Workspace → Workspace}
    {post : Unit → ProcessFact}
    (hat : At context start (.serving steps attempt remaining) h m)
    (ht : ItemTransition context steps attempt h m steps' attempt' h (m.onWorkspace change))
    (hpost : At context start (.serving steps' attempt' remaining) h (m.onWorkspace change) →
      post () h (m.onWorkspace change)) :
    Program.wp (Path context start) post abort (writeWorkspace change) h m :=
  Program.wp_write_step hat (.serve ht) hpost

theorem wp_saveItem {change : PushItem → PushItem}
    {post : Unit → ProcessFact}
    (hat : At context start (.serving steps attempt remaining) h m)
    (ht : ItemTransition context steps attempt h m steps' attempt' h (m.save change))
    (hpost : At context start (.serving steps' attempt' remaining) h (m.save change) →
      post () h (m.save change)) :
    Program.wp (Path context start) post abort (saveItem change) h m :=
  Program.wp_write_step hat (.serve ht) hpost

theorem wp_modifyItem {change : PushItem → PushItem}
    {post : Unit → ProcessFact}
    (hat : At context start (.serving steps attempt remaining) h m)
    (ht : ItemTransition context steps attempt h m steps' attempt' h (m.onItem change))
    (hpost : At context start (.serving steps' attempt' remaining) h (m.onItem change) →
      post () h (m.onItem change)) :
    Program.wp (Path context start) post abort (modifyItem change) h m :=
  Program.wp_write_step hat (.serve ht) hpost

theorem newEventId?_of_ne {request : Request} (hname : request ≠ .newEventId)
    (reply : Option (Except AppError request.Reply)) :
    RemoteEvent.newEventId? ⟨request, m, reply⟩ = none := by
  cases request with
  | newEventId => exact (hname rfl).elim
  | newDraftPushSuffix | listMailboxes | findByMessageId | addFlags | outputConfirmed
  | prepareCloudflareSend | prepareSend | publish | sendCloudflareRawMessage | sendRawMessage
  | appendMessage | moveMessage => rfl

theorem wp_quiet {request : Request}
    {post : Except AppError request.Reply → ProcessFact}
    (hat : At context start (.serving steps attempt remaining) h m)
    (hsite : request.site? = none) (hflags : request.setsFlags = false)
    (hname : request ≠ .newEventId)
    (hpost : ∀ reply h', At context start (.serving steps attempt remaining) h' m →
      (∀ error, reply = .error error → FromReply h' error) → post reply h' m) :
    Program.wp (Path context start) post abort (Command.ask request) h m := by
  apply Program.wp_ask_step (fun _ => .serving steps attempt remaining) hat
  · intro reply
    exact .serve (.ask ⟨request, m, reply⟩ hsite hflags (newEventId?_of_ne hname reply) rfl)
  · intro reply hnext
    apply hpost reply _ hnext
    intro error heq
    subst heq
    exact ⟨_, List.mem_append_right _ (List.mem_singleton_self _), rfl⟩

theorem wp_perform_quiet {request : Request}
    {post : request.Reply → ProcessFact}
    (hat : At context start (.serving steps attempt remaining) h m)
    (hsite : request.site? = none) (hflags : request.setsFlags = false)
    (hname : request ≠ .newEventId)
    (hpost : ∀ value h', At context start (.serving steps attempt remaining) h' m →
      post value h' m)
    (habort : ∀ error h', At context start (.serving steps attempt remaining) h' m →
      FromReply h' error → abort error h' m) :
    Program.wp (Path context start) post abort (Command.perform request) h m := by
  apply Program.wp_perform_step (fun _ => .serving steps attempt remaining) hat
  · intro reply
    exact .serve (.ask ⟨request, m, reply⟩ hsite hflags (newEventId?_of_ne hname reply) rfl)
  · intro value hnext
    exact hpost value _ hnext
  · intro error hnext
    exact habort error _ hnext ⟨_, List.mem_append_right _ (List.mem_singleton_self _), rfl⟩

theorem wp_cachedMailboxes
    {post : List MailboxInfo → ProcessFact}
    (hat : At context start (.serving steps attempt remaining) h m)
    (hpost : ∀ boxes h' m', At context start (.serving steps attempt remaining) h' m' →
      m.Same m' → m'.mailboxes = some boxes → (m.mailboxes = some boxes ∨ m.mailboxes = none) →
      post boxes h' m')
    (habort : ∀ error h', At context start (.serving steps attempt remaining) h' m →
      FromReply h' error → abort error h' m) :
    Program.wp (Path context start) post abort cachedMailboxes h m := by
  unfold cachedMailboxes
  apply wp_then
  apply Program.wp_read.mpr
  split
  · rename_i boxes hboxes
    exact hpost boxes h m hat (.refl m) hboxes (.inl hboxes)
  · rename_i hnone
    apply wp_then
    apply wp_perform_quiet hat rfl rfl (by simp)
    · intro boxes h' hnext
      apply wp_then
      apply Program.wp_write_step hnext (.serve (.cache (some boxes)))
      intro hcached
      exact hpost boxes h' _ hcached ⟨rfl, rfl⟩ rfl (.inr hnone)
    · exact habort

theorem wp_remoteMailboxFolder {mailboxId : String}
    {post : String → ProcessFact}
    (hat : At context start (.serving steps attempt remaining) h m)
    (hpost : ∀ folder h' m', At context start (.serving steps attempt remaining) h' m' →
      m.Same m' → m'.FolderCached context.config mailboxId folder → post folder h' m')
    (habort : ∀ error h' m', At context start (.serving steps attempt remaining) h' m' →
      m.Same m' → Explained h' error → abort error h' m') :
    Program.wp (Path context start) post abort
      (remoteMailboxFolder context.config mailboxId) h m := by
  unfold remoteMailboxFolder
  apply wp_check_bind
  · intro mailbox hmailbox
    apply wp_then
    apply wp_cachedMailboxes hat
    · intro boxes h' m' hnext hsame hboxes _
      apply wp_check
      · intro folder hfolder
        exact hpost folder h' m' hnext hsame ⟨mailbox, boxes, hmailbox, hboxes, hfolder⟩
      · intro error herror
        exact habort error h' m' hnext hsame (.inl (fails_resolveRules mailboxId boxes error herror).local)
    · intro error h' hnext hreply
      exact habort error h' m hnext (.refl m) (.inr hreply)
  · intro error herror
    cases fails_mailbox _ _ error herror
    exact habort _ h m hat (.refl m) (.inl (local_unknownMailboxId _ _))

theorem wp_remoteMailboxFolder_cached {mailboxId folder : String}
    {inv : ProcessFact}
    {post : String → ProcessFact}
    (hcached : m.FolderCached config mailboxId folder) (hpost : post folder h m) :
    Program.wp inv post abort (remoteMailboxFolder config mailboxId) h m := by
  obtain ⟨mailbox, boxes, hmailbox, hboxes, hfolder⟩ := hcached
  simp only [remoteMailboxFolder, cachedMailboxes, Program.bind_eq, Program.wp_bind,
    Program.wp_read, hmailbox, hboxes, Program.wp_ofExcept]
  change Program.wp _ _ _ (Program.ofExcept (resolveConfiguredMailbox mailboxId mailbox boxes)) h m
  rw [hfolder]
  exact hpost

end Primitives

/-- How executing a step may fail: either nothing was applied that is not recorded, or the
error does not say that nothing was. -/
def StepAborts (context : PushExecutionContext) (start : PushPosition)
    (resolved : List ActionStep) (remaining : List PushItem) (index : Nat) :
    AppError → ProcessFact :=
  fun error h m => ∃ attempt,
    At context start (.serving (some resolved) attempt remaining) h m ∧
    attempt.index? = some index ∧
    ((∃ armed, attempt = .attempting index armed) ∨ remoteEffectNotApplied error = false) ∧
    (m.item.messageAction.isSome → error.errorCode = legacyMoveErrorCode →
      ∃ event ∈ h, RemoteEvent.errorCode? event = some legacyMoveErrorCode)

/-- Executing a step ends in an attempt of it. -/
def StepDone (context : PushExecutionContext) (start : PushPosition)
    (resolved : List ActionStep) (remaining : List PushItem) (index : Nat) :
    Unit → ProcessFact :=
  fun _ h m => ∃ attempt, At context start (.serving (some resolved) attempt remaining) h m ∧
    attempt.index? = some index

theorem aborts_of_local {error : AppError}
    (hat : At context start (.serving (some resolved) attempt remaining) h m)
    (hindex : attempt.index? = some index) (hlocal : error.Local) :
    StepAborts context start resolved remaining index error h m :=
  ⟨attempt, hat, hindex, .inr hlocal.silent, fun _ hcode => (hlocal.code hcode).elim⟩

theorem aborts_of_explained {error : AppError}
    (hat : At context start (.serving (some resolved) (.attempting index armed) remaining) h m)
    (hexplained : Explained h error) :
    StepAborts context start resolved remaining index error h m := by
  refine ⟨_, hat, rfl, .inl ⟨armed, rfl⟩, ?_⟩
  intro _ hcode
  cases hexplained with
  | inl hlocal => exact (hlocal.code hcode).elim
  | inr hreply =>
    obtain ⟨event, hmem, heq⟩ := hreply
    exact ⟨event, hmem, by rw [heq, hcode]⟩

theorem wp_persistRemoteOutcomeUnknown
    {post : Unit → ProcessFact}
    (hat : At context start (.serving (some resolved) (.attempting index armed) remaining) h m)
    (hstep : resolved[index]? = some step)
    (hpost : At context start (.serving (some resolved) (.attempting index true) remaining) h
        (m.save fun item =>
          { item.markStepRemoteOutcomeUnknown index step none context.host.now with
            updatedRfc3339 := context.host.now, lastError := none }) →
      post () h (m.save fun item =>
          { item.markStepRemoteOutcomeUnknown index step none context.host.now with
            updatedRfc3339 := context.host.now, lastError := none })) :
    Program.wp (Path context start) post abort
      (persistRemoteOutcomeUnknown context index step) h m :=
  wp_saveItem hat (.arm index step hstep) hpost

end AgentFirstMail
