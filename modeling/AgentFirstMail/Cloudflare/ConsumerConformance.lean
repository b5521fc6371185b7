import AgentFirstMail.Cloudflare.PullConformance

namespace AgentFirstMail
open Effect Indexing Ingest

variable {host : PullHost} {source : CloudflareSection} {start site : Site} {mark : Workspace}
  {history : List PullEvent} {raw : Bytes} {key objectId : String} {journal : Journal}
  {post : α → SiteFact}

/-- A receipt is recovered: what it leaves to be done is done under it. -/
theorem tracked_recoverReceipt (h : Tracks host source start mark history site) :
    Tracked host source start mark
      (fun recovered history site => Tracks host source start mark history site ∧
        (recovered = true → Confirmed host source start history site.workspace
          (source.objectId host.blake3 key)))
      (recoverReceipt host source key (source.objectId host.blake3 key)) history site := by
  apply wp_then
  apply tracked_loadJournal h
  intro _
  cases hreceipt : site.journal.receipts[source.objectId host.blake3 key]? with
  | none => exact ⟨h, fun heq => nomatch heq⟩
  | some receipt =>
    dsimp only
    split
    · exact ⟨h, fun _ => h.confirmed hreceipt⟩
    · apply wp_then
      apply Program.wp_read.mpr
      apply wp_then
      apply Program.wp_ofExcept.mpr
      split
      · apply wp_then
        apply Program.wp_ofExcept.mpr
        split
        · apply wp_then
          apply Program.wp_mono (stays_acknowledgeReceipt h ⟨receipt, hreceipt⟩)
          · rintro _ history site' ⟨rfl, htracks⟩
            have hconfirmed := htracks.confirmed hreceipt
            apply wp_then
            apply tracked_saveIfChanged htracks
            · exact fun journal hcleaned history' now htimed htracks => htracks.cleaned htimed hcleaned
            · exact fun history' saved hmore htracks =>
                ⟨htracks, fun _ => hconfirmed.mono hmore.subset (GrowsMail.refl _)⟩
          · rintro _ history site' ⟨rfl, htracks⟩
            exact htracks
        · exact h
      · exact h

/-- The object that an event tells of has a receipt. -/
def EventConfirmed (host : PullHost) (source : CloudflareSection) (start : Site)
    (history : List PullEvent) (w : Workspace) (event : Result R2Event) : Prop :=
  ∃ found, event = .ok found ∧
    Confirmed host source start history w (source.objectId host.blake3 found.object.key)

theorem tracked_importEvent {budget : PullOptions} {event : Result R2Event}
    (hjournal : source.journalEnabled = true) (h : Tracks host source start mark history site) :
    Tracked host source start mark
      (fun pulled history site => Tracks host source start mark history site ∧
        (pulled = none → EventConfirmed host source start history site.workspace event))
      (importEvent host source budget event) history site := by
  apply wp_then
  apply Program.wp_ofExcept.mpr
  split
  · apply wp_then
    apply Program.wp_ofExcept.mpr
    split
    · apply Program.wp_seq (tracked_recoverReceipt h)
      rintro recovered history site ⟨h, hconfirmed⟩
      cases recovered with
      | true => exact ⟨h, fun _ => ⟨_, rfl, hconfirmed rfl⟩⟩
      | false =>
        apply Program.wp_seq (tracked_pullObjects hjournal h)
        exact fun _ history site h => ⟨h, fun heq => nomatch heq⟩
    · exact h
  · exact h

theorem tracked_ensureCleaned {event : Result R2Event}
    (h : Tracks host source start mark history site) :
    Tracked host source start mark
      (fun _ history site => Tracks host source start mark history site ∧
        EventConfirmed host source start history site.workspace event)
      (do
        let event ← Program.ofExcept event
        ensureCleaned (source.objectId host.blake3 event.object.key)) history site := by
  apply wp_then
  apply Program.wp_ofExcept.mpr
  split
  · apply wp_then
    apply tracked_loadJournal h
    intro _
    apply Program.wp_ofExcept.mpr
    split
    · rename_i hensured
      obtain ⟨receipt, hreceipt, _⟩ := (Option.any_eq_true _ _).mp (ensure_eq_ok_iff.mp hensured)
      exact ⟨h, _, rfl, h.confirmed hreceipt⟩
    · exact h
  · exact h

/-- One more message at most is acknowledged, and then its object has a receipt. -/
def AcksConfirmed (host : PullHost) (source : CloudflareSection) (start : Site)
    (message : QueueMessage) (consumed served : ConsumeTally) (history : List PullEvent)
    (w : Workspace) : Prop :=
  served.acks = consumed.acks ∨ served.acks = consumed.acks ++ [message.leaseId] ∧
    EventConfirmed host source start history w message.event

theorem tracked_serveMessage {consumed : ConsumeTally} {message : QueueMessage}
    (hjournal : source.journalEnabled = true) (h : Tracks host source start mark history site) :
    Tracked host source start mark
      (fun served history site => Tracks host source start mark history site ∧
        AcksConfirmed host source start message consumed served history site.workspace)
      (serveMessage host source consumed message) history site := by
  apply wp_then
  apply Program.wp_attempt.mpr
  apply Program.wp_mono (tracked_importEvent hjournal h)
  · rintro imported history site ⟨h, hconfirmed⟩
    match imported, hconfirmed with
    | none, hconfirmed => exact ⟨h, .inr ⟨rfl, hconfirmed rfl⟩⟩
    | some (pulled, left), _ =>
      apply wp_then
      apply Program.wp_attempt.mpr
      have hcleaned := @tracked_ensureCleaned _ _ _ _ _ _ message.event h
      apply Program.wp_mono hcleaned
      · rintro _ history site ⟨h, hconfirmed⟩
        exact ⟨h, .inr ⟨rfl, hconfirmed⟩⟩
      · exact fun _ history site h => ⟨h, .inl rfl⟩
  · exact fun _ history site h => ⟨h, .inl rfl⟩

theorem tracked_reconcileObjects {pages : PageLimit} {consumed : ConsumeTally}
    (hjournal : source.journalEnabled = true) (h : Tracks host source start mark history site) :
    Tracked host source start mark
      (fun reconciled history site => Tracks host source start mark history site ∧
        reconciled.acks = consumed.acks)
      (reconcileObjects host source pages consumed) history site := by
  apply wp_then
  apply Program.wp_attempt.mpr
  apply Program.wp_mono (tracked_pullObjects hjournal h)
  · exact fun _ history site h => ⟨h, rfl⟩
  · exact fun _ history site h => ⟨h, rfl⟩

theorem tracked_since {p : Pull α} (h : Tracks host source start mark history site)
    (hp : Tracked host source start site.workspace post p history site) :
    Tracked host source start mark
      (fun value history' site' => history <+: history' ∧
        (Tracks host source start site.workspace history' site' →
          Tracks host source start mark history' site') ∧ post value history' site') p history site := by
  apply Program.wp_weaken (Program.wp_extends hp)
  · rintro _ site' ⟨_, hsince⟩
    exact hsince.remark (h.grows.trans hsince.grows)
  · rintro _ _ _ ⟨hmore, hpost⟩
    exact ⟨hmore, fun hsince => hsince.remark (h.grows.trans hsince.grows), hpost⟩
  · rintro _ _ site' ⟨_, hsince⟩
    exact hsince.remark (h.grows.trans hsince.grows)

/-- What is acknowledged was leased, and its object has a receipt. -/
def AcksLeased (host : PullHost) (source : CloudflareSection) (start : Site) (tally : ConsumeTally)
    (history : List PullEvent) (w : Workspace) : Prop :=
  ∀ leaseId ∈ tally.acks, ∃ messages : List QueueMessage,
    (⟨.pullQueue, start, some (.ok messages)⟩ : PullEvent) ∈ history ∧
    ∃ message ∈ messages, message.leaseId = leaseId ∧
      EventConfirmed host source start history w message.event

theorem EventConfirmed.mono {events events' : List PullEvent} {w w' : Workspace}
    {event : Result R2Event} (h : EventConfirmed host source start events w event)
    (hmore : events ⊆ events') (hgrows : GrowsMail w w') :
    EventConfirmed host source start events' w' event := by
  obtain ⟨found, hfound, hconfirmed⟩ := h
  exact ⟨found, hfound, hconfirmed.mono hmore hgrows⟩

theorem AcksLeased.mono {consumed served : ConsumeTally} {events events' : List PullEvent}
    {w w' : Workspace} (h : AcksLeased host source start consumed events w)
    (hmore : events ⊆ events') (hgrows : GrowsMail w w') (hacks : served.acks = consumed.acks) :
    AcksLeased host source start served events' w' := by
  intro leaseId hleaseId
  rw [hacks] at hleaseId
  obtain ⟨messages, hleased, message, hmessage, hid, hconfirmed⟩ := h leaseId hleaseId
  exact ⟨messages, hmore hleased, message, hmessage, hid, hconfirmed.mono hmore hgrows⟩

theorem AcksLeased.serve {consumed served : ConsumeTally} {events events' : List PullEvent}
    {w w' : Workspace} {message : QueueMessage} {messages : List QueueMessage}
    (h : AcksLeased host source start consumed events w) (hmore : events ⊆ events')
    (hgrows : GrowsMail w w')
    (hleased : (⟨.pullQueue, start, some (.ok messages)⟩ : PullEvent) ∈ events)
    (hmessage : message ∈ messages)
    (hserved : AcksConfirmed host source start message consumed served events' w') :
    AcksLeased host source start served events' w' := by
  rcases hserved with hsame | ⟨hacks, hconfirmed⟩
  · exact h.mono hmore hgrows hsame
  · intro leaseId hleaseId
    rw [hacks] at hleaseId
    rcases List.mem_append.mp hleaseId with hearlier | hlast
    · have hkept : AcksLeased host source start consumed events' w' :=
        h.mono hmore hgrows rfl
      exact hkept leaseId hearlier
    · rw [List.mem_singleton.mp hlast]
      exact ⟨messages, hmore hleased, message, hmessage, rfl, hconfirmed⟩

/-- A consumer that holds the workspace keeps track of the journal, whatever the queue holds. -/
theorem tracked_receiveEvents {pages : PageLimit} {reconcile : Bool}
    (hjournal : source.journalEnabled = true) (h : Tracks host source start mark history start) :
    Tracked host source start mark
      (fun tally history site => Tracks host source start mark history site ∧
        AcksLeased host source start tally history site.workspace)
      (receiveEvents host source pages reconcile) history start := by
  have hreconcile (consumed : ConsumeTally) (history : List PullEvent) (site : Site)
      (h : Tracks host source start mark history site)
      (hacks : AcksLeased host source start consumed history site.workspace) :
      Tracked host source start mark
        (fun tally history site => Tracks host source start mark history site ∧
          AcksLeased host source start tally history site.workspace)
        (if reconcile then reconcileObjects host source pages consumed else return consumed)
        history site := by
    split
    · apply Program.wp_mono (tracked_since h (tracked_reconcileObjects hjournal
        (h.remark (GrowsMail.refl _))))
      · rintro reconciled history site ⟨hmore, hremark, hsince, hsame⟩
        exact ⟨hremark hsince, hacks.mono hmore.subset hsince.grows hsame⟩
      · exact fun _ _ _ h => h
    · exact ⟨h, hacks⟩
  have hnone : ∀ consumed : ConsumeTally, consumed.acks = [] → ∀ history w,
      AcksLeased host source start consumed history w := by
    intro consumed hacks history w leaseId hleaseId
    rw [hacks] at hleaseId
    cases hleaseId
  apply wp_then
  apply tracked_ask h
  · exact fun _ htaken => nomatch htaken
  · intro leased h
    cases leased with
    | error error => exact hreconcile _ _ _ h (hnone _ rfl _ _)
    | ok messages =>
      change List QueueMessage at messages
      have hleased : (⟨.pullQueue, start, some (.ok messages)⟩ : PullEvent) ∈
          history ++ [⟨.pullQueue, start, some (.ok messages)⟩] := List.mem_concat_self
      apply Program.wp_seq (Program.wp_gather (fun _ consumed history site =>
        (Tracks host source start mark history site ∧
          (⟨.pullQueue, start, some (.ok messages)⟩ : PullEvent) ∈ history) ∧
          AcksLeased host source start consumed history site.workspace)
        ⟨⟨h, hleased⟩, hnone _ rfl _ _⟩ ?_)
      · rintro consumed history site ⟨⟨h, _⟩, hacks⟩
        exact hreconcile consumed history site h hacks
      · rintro done message rest consumed history site hsplit ⟨⟨h, hleased⟩, hacks⟩
        have hmessage : message ∈ messages := by
          rw [hsplit]
          exact List.mem_append_right _ List.mem_cons_self
        apply Program.wp_mono (tracked_since h (tracked_serveMessage hjournal
          (h.remark (GrowsMail.refl _))))
        · rintro served history site ⟨hmore, hremark, hsince, hserved⟩
          exact ⟨⟨hremark hsince, hmore.subset hleased⟩,
            hacks.serve hmore.subset hsince.grows hleased hmessage hserved⟩
        · exact fun _ _ _ h => h

end AgentFirstMail
