import AgentFirstMail.Cloudflare.Tracking

namespace AgentFirstMail
open Effect Indexing Ingest

/-- A part of a pull that keeps track of the journal up to where it ends. -/
abbrev Tracked (host : PullHost) (source : CloudflareSection) (start : Site) (mark : Workspace)
    (post : α → SiteFact) (p : Pull α) :
    List PullEvent → Site → Prop :=
  p.wp (Tracks host source start mark) post (fun _ => Tracks host source start mark)

theorem Tracks.exec {host : PullHost} {source : CloudflareSection} {start site : Site}
    {post : α → SiteFact} {p : Pull α}
    {events : List PullEvent} (htidy : start.journal.Tidy) (hexec : Exec p start events outcome site)
    (hp : Tracked host source start start.workspace post p [] start) :
    Tracks host source start start.workspace events site :=
  (Program.wp_sound hexec (.refl htidy) hp).1

variable {host : PullHost} {source : CloudflareSection} {start site : Site} {mark : Workspace}
  {history : List PullEvent} {raw : Bytes} {key objectId : String} {journal : Journal}
  {post : α → SiteFact}

theorem tracked_ask {request : PullRequest}
    {post : Except AppError request.Reply → SiteFact}
    (h : Tracks host source start mark history site)
    (htakes : ∀ key, request.takes? = some key →
      ∃ receipt, site.journal.receipts[source.objectId host.blake3 key]? = some receipt)
    (hpost : ∀ reply, Tracks host source start mark (history ++ [⟨request, site, some reply⟩]) site →
      post reply (history ++ [⟨request, site, some reply⟩]) site) :
    Tracked host source start mark post (Program.ask request) history site := by
  apply Program.wp_ask
  · exact h.asks request none htakes
  · exact fun reply => h.asks request (some reply) htakes
  · exact fun reply => hpost reply (h.asks request (some reply) htakes)

theorem tracked_perform {request : PullRequest}
    {post : request.Reply → SiteFact}
    (h : Tracks host source start mark history site)
    (htakes : ∀ key, request.takes? = some key →
      ∃ receipt, site.journal.receipts[source.objectId host.blake3 key]? = some receipt)
    (hpost : ∀ history' value, history <+: history' → Tracks host source start mark history' site →
      post value history' site) :
    Tracked host source start mark post (Program.perform request) history site := by
  apply Program.wp_perform
  · exact h.asks request none htakes
  · exact fun reply => h.asks request (some reply) htakes
  · exact fun value => hpost _ value (List.prefix_append _ _) (h.asks request _ htakes)
  · exact fun error => h.asks request _ htakes

theorem tracked_epochSeconds
    {post : Int → SiteFact}
    (h : Tracks host source start mark history site)
    (hpost : ∀ history' now, Timed history site history' →
      Tracks host source start mark history' site → post now history' site) :
    Tracked host source start mark post Pull.epochSeconds history site := by
  apply wp_then
  apply tracked_ask h
  · exact fun key hkey => nomatch hkey
  · exact fun reply htracks => hpost _ _ ⟨some reply, rfl⟩ htracks

/-- A journal that may be saved, whenever it is. -/
def Savable (host : PullHost) (source : CloudflareSection) (start : Site) (mark : Workspace)
    (history : List PullEvent) (site : Site) (journal : Journal) : Prop :=
  ∀ history' now, Timed history site history' → Tracks host source start mark history' site →
    Tracks host source start mark history' { site with journal := journal.prune now }

theorem tracked_save {post : Journal → SiteFact}
    (h : Tracks host source start mark history site)
    (hsave : Savable host source start mark history site journal)
    (hpost : ∀ history' now, Timed history site history' →
      Tracks host source start mark history' { site with journal := journal.prune now } →
      post (journal.prune now) history' { site with journal := journal.prune now }) :
    Tracked host source start mark post journal.save history site := by
  apply wp_then
  apply tracked_epochSeconds h
  intro history' now htimed htracks
  have hsaved := hsave history' now htimed htracks
  exact ⟨hsaved, hpost history' now htimed hsaved⟩

theorem tracked_saveIfChanged {changed : Option Journal}
    {post : Journal → SiteFact}
    (h : Tracks host source start mark history site)
    (hsave : ∀ journal, changed = some journal → Savable host source start mark history site journal)
    (hpost : ∀ history' saved, QuietSpool history history' →
      Tracks host source start mark history' { site with journal := saved } →
      post saved history' { site with journal := saved }) :
    Tracked host source start mark post (site.journal.saveIfChanged changed) history site := by
  cases changed with
  | none => exact hpost history site.journal (.refl history) h
  | some journal =>
    apply tracked_save h (hsave journal rfl)
    exact fun history' now htimed htracks => hpost history' _ htimed.quiet htracks

/-- What an intent to notify comes to before the message is ingested. -/
structure Prepared (host : PullHost) (source : CloudflareSection) (start : Site)
    (mark : Workspace) (before : List PullEvent) (site : Site) (raw : Bytes) (prepared : Bool)
    (history : List PullEvent) (journal : Journal) : Prop where
  more : QuietSpool before history
  tracks : Tracks host source start mark history { site with journal }
  owed : host.parser.messageContentKey raw ∉ site.index.contentIds →
    host.parser.messageContentKey raw ∈ journal.tasks
  keeps : ∀ key ∈ site.journal.tasks, key ∈ journal.tasks
  fresh : prepared = true → host.parser.messageContentKey raw ∉ site.journal.tasks ∧
    Timed before site history

theorem tracked_prepareTask (h : Tracks host source start mark history site)
    {post : Option Journal × Bool → SiteFact}
    (hpost : ∀ history' journal prepared,
      Prepared host source start mark history site raw prepared history' journal →
      post (some journal, prepared) history' { site with journal }) :
    Tracked host source start mark post (prepareTask host raw (some site.journal)) history site := by
  apply wp_then
  apply wp_then
  apply Program.wp_read.mpr
  cases hprepared : site.journal.prepared? host.parser host.timezoneOffset site.index raw with
  | none =>
    apply hpost history site.journal false
    constructor
    · exact .refl history
    · exact h
    · intro hnew
      by_contra hfresh
      unfold Journal.prepared? at hprepared
      dsimp only at hprepared
      rw [if_pos ⟨hnew, hfresh⟩] at hprepared
      cases hprepared
    · exact fun _ hmem => hmem
    · exact fun heq => nomatch heq
  | some prepared =>
    apply wp_then
    apply tracked_save h
    · intro history' now htimed htracks
      exact htracks.prepared htimed hprepared
    · intro history' now htimed htracks
      apply hpost history' (prepared.prune now) true
      unfold Journal.prepared? at hprepared
      dsimp only at hprepared
      split at hprepared
      · rename_i hnew
        obtain rfl := Option.some.inj hprepared
        have htidy : Journal.Tidy { site.journal with
            tasks := site.journal.tasks.insert (host.parser.messageContentKey raw)
              ⟨host.parser.stableMessageId raw host.timezoneOffset, .preparing⟩ } :=
          Journal.tidy_insert h.tidy fun heq => nomatch heq
        constructor
        · exact htimed.quiet
        · exact htracks
        · exact fun _ => (mem_congr (Journal.getElem?_tasks_prune htidy)).mpr
            Std.ExtTreeMap.mem_insert_self
        · exact fun key hmem => (mem_congr (Journal.getElem?_tasks_prune htidy)).mpr
            (Std.ExtTreeMap.mem_insert.mpr (.inr hmem))
        · exact fun _ => ⟨hnew.2, htimed⟩
      · cases hprepared

/-- When an intent is withdrawn, what was stored of its content does not render, and its object is
still in the bucket. -/
structure Refusable (host : PullHost) (source : CloudflareSection) (start : Site)
    (history : List PullEvent) (site : Site) (contentKey : String) : Prop where
  fresh : contentKey ∉ start.journal.tasks
  refused : ∀ messageId raw, start.workspace.eml messageId = none →
    site.workspace.eml messageId = some raw → host.parser.messageContentKey raw = contentKey →
    source.importAs = .triage ∧ (∃ error, host.triageView raw = .error error) ∧
      (InBucket history raw ∨ Withdrawn host source history site raw)

/-- The part of a pull between two objects: its journal is the one on disk. -/
structure Follows (host : PullHost) (source : CloudflareSection) (start : Site)
    (mark : Workspace) (tally : R2Tally) (history : List PullEvent) (site : Site) : Prop where
  tracks : Tracks host source start mark history site
  journal : tally.journal = some site.journal
  knows : site.index.Knows host.parser site.workspace

/-- A message is ingested: a stored one is owed by then, and after a failure the intent may be
withdrawn. -/
theorem tracked_ingestPulled {download : R2Download} {prepared : Bool} {before : List PullEvent}
    (hstart : Tracks host source start mark before site)
    (hbucket : InBucket history download.raw)
    (hknows : site.index.Knows host.parser site.workspace)
    (h : Prepared host source start mark before site download.raw prepared history journal)
    {post : Except AppError IngestOutcome →
      SiteFact}
    (hok : ∀ outcome site', site'.journal = journal → Tracks host source start mark history site' →
      site'.index.Knows host.parser site'.workspace →
      site'.workspace.Has host.parser (host.parser.messageContentKey download.raw) →
      post (.ok outcome) history site')
    (herror : ∀ error site', site'.journal = journal → Tracks host source start mark history site' →
      site'.index.Knows host.parser site'.workspace →
      (prepared = true →
        Refusable host source start history site' (host.parser.messageContentKey download.raw)) →
      post (.error error) history site') :
    Tracked host source start mark post
      (ingestPulled host (downloadedMessage source download)).attempt
      history { site with journal } := by
  have hkept : ∀ s : IngestState, KeepsMail site.workspace s.workspace →
      Tracks host source start mark history (Site.ingestion.put { site with journal } s) :=
    fun s hkeeps => h.tracks.congr _ rfl rfl hkeeps
  have hstored : ∀ s : IngestState,
      Stores host.parser site.index download.raw site.workspace s.workspace →
      Tracks host source start mark history (Site.ingestion.put { site with journal } s) := by
    rintro s ⟨hnew, hadds⟩
    apply h.tracks.stored hadds
    apply h.owed
    rw [Std.ExtTreeMap.mem_iff_isSome_getElem?, hnew]
    exact Bool.false_ne_true
  have hrefusable : ∀ s : IngestState, prepared = true →
      (∀ messageId raw, site.workspace.eml messageId = none →
        s.workspace.eml messageId = some raw → source.importAs = .triage ∧
          (∃ error, host.triageView raw = .error error) ∧ InBucket history raw) →
      (∀ messageId raw, site.workspace.eml messageId = some raw →
        s.workspace.eml messageId = some raw) →
      Refusable host source start history (Site.ingestion.put { site with journal } s)
        (host.parser.messageContentKey download.raw) := by
    intro s hprepared hadded hkept
    obtain ⟨hfresh, htimed⟩ := h.fresh hprepared
    refine ⟨fun howed => hfresh (hstart.owed _ howed), fun messageId raw hnone hsome hkey => ?_⟩
    cases hsite : site.workspace.eml messageId with
    | none =>
      obtain ⟨htriage, hview, hbucket⟩ := hadded messageId raw hsite hsome
      exact ⟨htriage, hview, .inl hbucket⟩
    | some known =>
      have hknown := hkept messageId known hsite
      obtain rfl := Option.some.inj (hknown.symm.trans hsome)
      rcases hstart.intended messageId known hnone hsite with howed | hwithdrawn
      · rw [hkey] at howed
        exact (hfresh howed).elim
      · exact ⟨hwithdrawn.triage, hwithdrawn.unviewable, .inr (hwithdrawn.timed htimed)⟩
  apply Program.wp_attempt.mpr
  apply Program.wp_zoom
  apply Program.wp_weaken (Program.wp_and accounts_ingestMessageWith
    (learning_ingestMessageWith ⟨GrowsMail.refl _, hknows⟩))
  · rintro _ s ⟨hkeeps | hstores, _⟩
    · exact hkept s hkeeps
    · exact hstored s hstores
  · rintro outcome _ s ⟨hevidence, hlearns, hhas⟩
    refine hok outcome _ rfl ?_ hlearns.knows hhas
    cases outcome with
    | merged => exact hkept s hevidence
    | stored => exact hstored s hevidence
  · rintro error _ s ⟨hkeeps | ⟨⟨htriage, hnew, hview⟩, hadds⟩, hlearns⟩
    · apply herror error _ rfl (hkept s hkeeps) hlearns.knows
      intro hprepared
      apply hrefusable s hprepared
      · intro messageId raw hnone hsome
        cases (hsome.symm.trans (hkeeps messageId)).trans hnone
      · exact fun messageId raw hsome => (hkeeps messageId).trans hsome
    · apply herror error _ rfl (hstored s ⟨hnew, hadds⟩) hlearns.knows
      intro hprepared
      obtain ⟨added, hfree, hsome, hother⟩ := hadds
      apply hrefusable s hprepared
      · intro messageId raw hnone hstored
        by_cases heq : messageId = added
        · rw [heq, hsome] at hstored
          obtain rfl := Option.some.inj hstored
          exact ⟨htriage, ⟨error, hview⟩, hbucket⟩
        · cases (hstored.symm.trans (hother messageId heq)).trans hnone
      · intro messageId raw hknown
        by_cases heq : messageId = added
        · rw [heq] at hknown
          cases hknown.symm.trans hfree
        · exact (hother messageId heq).trans hknown

variable {tally : R2Tally}

theorem tracked_refuseImport {prepared : Bool} {error : AppError}
    (h : Follows host source start mark tally history site)
    (hrefusable : prepared = true →
      Refusable host source start history site (host.parser.messageContentKey raw)) :
    Tracked host source start mark (Follows host source start mark)
      (refuseImport host key raw prepared tally error) history site := by
  unfold refuseImport
  split
  · exact h.tracks
  · apply wp_then
    rw [h.journal]
    cases prepared with
    | false => exact ⟨h.tracks, rfl, h.knows⟩
    | true =>
      apply wp_then
      apply tracked_saveIfChanged h.tracks
      · intro journal hwithdrawn history' now htimed htracks
        have hrefusable := hrefusable rfl
        apply htracks.withdrawn htimed hrefusable.fresh _ hwithdrawn
        intro messageId raw hnone hsome hkey
        obtain ⟨htriage, hview, hcase⟩ := hrefusable.refused messageId raw hnone hsome hkey
        exact ⟨htriage, hview, hcase.imp (·.quiet htimed.quiet) (·.timed htimed)⟩
      · exact fun history' saved _ htracks => ⟨htracks, rfl, h.knows⟩

/-- Something was asked that left everything as it was. -/
def Stays (host : PullHost) (source : CloudflareSection) (start : Site) (mark : Workspace)
    (site : Site)
    (history : List PullEvent) (site' : Site) : Prop :=
  site' = site ∧ Tracks host source start mark history site

theorem stays_perform {request : PullRequest} (h : Tracks host source start mark history site)
    (htakes : ∀ key, request.takes? = some key →
      ∃ receipt, site.journal.receipts[source.objectId host.blake3 key]? = some receipt) :
    (Program.perform request : Pull _).wp (Tracks host source start mark)
      (fun _ => Stays host source start mark site) (fun _ => Stays host source start mark site)
      history site := by
  apply Program.wp_perform
  · exact h.asks request none htakes
  · exact fun reply => h.asks request (some reply) htakes
  · exact fun value => ⟨rfl, h.asks request _ htakes⟩
  · exact fun error => ⟨rfl, h.asks request _ htakes⟩

/-- An object is taken out of the spool that has a receipt. -/
theorem stays_acknowledge {archiveKey : Option String} {quotaManaged : Bool}
    (h : Tracks host source start mark history site)
    (hreceipt : ∃ receipt,
      site.journal.receipts[source.objectId host.blake3 key]? = some receipt) :
    (acknowledge source key archiveKey quotaManaged).wp (Tracks host source start mark)
      (fun _ => Stays host source start mark site) (fun _ => Stays host source start mark site)
      history site := by
  have hcopy (target : String) : ∀ taken, (PullRequest.copyObject key target).takes? = some taken →
      ∃ receipt, site.journal.receipts[source.objectId host.blake3 taken]? = some receipt :=
    fun _ htaken => nomatch htaken
  have hdelete : ∀ taken, (PullRequest.deleteObject key).takes? = some taken →
      ∃ receipt, site.journal.receipts[source.objectId host.blake3 taken]? = some receipt := by
    intro taken htaken
    rw [← Option.some.inj htaken]
    exact hreceipt
  unfold acknowledge
  split
  · apply stays_perform h
    intro taken htaken
    rw [← Option.some.inj htaken]
    exact hreceipt
  · split
    · exact ⟨rfl, h⟩
    · split
      · exact stays_perform h hdelete
      · rename_i target
        apply Program.wp_seq (stays_perform h (hcopy target))
        rintro _ history site' ⟨rfl, htracks⟩
        exact stays_perform htracks hdelete

theorem stays_ensureArchived {contentKey : String} {archiveKey : Option String}
    (h : Tracks host source start mark history site) :
    (ensureArchived host key contentKey archiveKey).wp (Tracks host source start mark)
      (fun _ => Stays host source start mark site) (fun _ => Stays host source start mark site)
      history site := by
  cases archiveKey with
  | none => exact ⟨rfl, h⟩
  | some target =>
    apply wp_then
    apply tracked_ask h
    · exact fun _ htaken => nomatch htaken
    · intro reply htracks
      match reply, htracks with
      | .error error, htracks => exact ⟨rfl, htracks⟩
      | .ok none, htracks => exact stays_perform htracks fun _ htaken => nomatch htaken
      | .ok (some download), htracks =>
        apply Program.wp_ofExcept.mpr
        split
        · exact ⟨rfl, htracks⟩
        · exact ⟨rfl, htracks⟩

theorem stays_acknowledgeReceipt {receipt : Receipt} (h : Tracks host source start mark history site)
    (hreceipt : ∃ receipt,
      site.journal.receipts[source.objectId host.blake3 key]? = some receipt) :
    (acknowledgeReceipt host source key receipt).wp (Tracks host source start mark)
      (fun _ => Stays host source start mark site) (fun _ => Stays host source start mark site)
      history site := by
  have htakes {request : PullRequest} (hrequest : request.takes? = some key) :
      ∀ taken, request.takes? = some taken →
        ∃ receipt, site.journal.receipts[source.objectId host.blake3 taken]? = some receipt := by
    intro taken htaken
    rw [← Option.some.inj (hrequest.symm.trans htaken)]
    exact hreceipt
  unfold acknowledgeReceipt
  split
  · exact stays_perform h (htakes rfl)
  · cases receipt.quotaManaged with
    | true => exact ⟨rfl, h⟩
    | false =>
      apply Program.wp_seq (stays_ensureArchived h)
      rintro _ history site' ⟨rfl, htracks⟩
      exact stays_perform htracks (htakes rfl)

theorem tracked_cleanupObject {quotaManaged : Bool} (h : Follows host source start mark tally history site)
    (hreceipt : ∃ receipt,
      site.journal.receipts[source.objectId host.blake3 key]? = some receipt) :
    Tracked host source start mark (Follows host source start mark)
      (cleanupObject host source key quotaManaged tally) history site := by
  apply wp_then
  apply Program.wp_attempt.mpr
  apply Program.wp_mono (stays_acknowledge h.tracks hreceipt)
  · rintro _ history site' ⟨rfl, htracks⟩
    apply wp_then
    rw [h.journal]
    apply wp_then
    apply tracked_saveIfChanged htracks
    · exact fun journal hcleaned history' now htimed htracks => htracks.cleaned htimed hcleaned
    · exact fun history' saved _ htracks => ⟨htracks, rfl, h.knows⟩
  · rintro error history site' ⟨rfl, htracks⟩
    exact ⟨htracks, h.journal, h.knows⟩

theorem tracked_chargeOutcome {size : Nat} {outcome : IngestOutcome}
    (h : Follows host source start mark tally history site)
    {post : R2Tally → SiteFact}
    (hpost : ∀ tally' site', site'.journal = site.journal →
      Follows host source start mark tally' history site' → post tally' history site') :
    Tracked host source start mark post (chargeOutcome size tally outcome) history site := by
  cases outcome with
  | merged => exact hpost _ site rfl ⟨h.tracks, h.journal, h.knows⟩
  | stored =>
    have htracks := h.tracks.congr { site with budget :=
      ⟨site.budget.messages - 1, site.budget.bytes - size⟩ } rfl rfl (KeepsMail.refl _)
    exact ⟨htracks, hpost _ _ rfl ⟨htracks, h.journal, h.knows⟩⟩

theorem tracked_concludeImport {download : R2Download} {outcome : IngestOutcome}
    (h : Follows host source start mark tally history site)
    (hdownloaded : DownloadedFrom source history key download.raw)
    (howed : host.parser.messageContentKey download.raw ∈ site.journal.tasks ∨
      ∃ event ∈ history, Redelivers host source event (host.parser.messageContentKey download.raw))
    (hhas : site.workspace.Has host.parser (host.parser.messageContentKey download.raw)) :
    Tracked host source start mark (Follows host source start mark)
      (concludeImport host source key download tally outcome) history site := by
  apply wp_then
  rw [h.journal]
  apply wp_then
  apply tracked_epochSeconds h.tracks
  intro history' now htimed htracks
  have hsourced : Sourced host source history site.workspace (source.objectId host.blake3 key)
      (host.parser.messageContentKey download.raw) :=
    ⟨⟨key, download.raw, rfl, hdownloaded, rfl⟩, hhas⟩
  apply wp_then
  apply tracked_save htracks
  · intro later now hlater htracks
    have hmore := (htimed.quiet.trans hlater.quiet).subset
    have howed := howed.imp_right fun ⟨event, hmem, hknown⟩ =>
      (⟨event, hmore hmem, hknown⟩ : ∃ event ∈ later, Redelivers host source event _)
    exact htracks.imported hlater howed (hsourced.mono hmore (GrowsMail.refl _))
  · intro history pruned _ htracks
    apply wp_then
    apply tracked_chargeOutcome ⟨htracks, rfl, h.knows⟩
    intro tally' site' hjournal hfollows
    apply tracked_cleanupObject hfollows
    rw [hjournal]
    exact ⟨_, Journal.receipts_prune Std.ExtTreeMap.getElem?_insert_self rfl⟩

theorem tracked_importDownload {download : R2Download}
    (h : Follows host source start mark tally history site) (hbucket : InBucket history download.raw)
    (hdownloaded : DownloadedFrom source history key download.raw)
    (hknown : host.parser.messageContentKey download.raw ∈ site.index.contentIds →
      host.parser.messageContentKey download.raw ∉ site.journal.tasks →
      ∃ event ∈ history, Redelivers host source event
        (host.parser.messageContentKey download.raw)) :
    Tracked host source start mark (Follows host source start mark)
      (importDownload host source key tally download) history site := by
  apply wp_then
  rw [h.journal]
  apply tracked_prepareTask h.tracks
  intro history' journal prepared hprepared
  apply wp_then
  have hmore := hprepared.more.subset
  have howed : host.parser.messageContentKey download.raw ∈ journal.tasks ∨
      ∃ event ∈ history', Redelivers host source event
        (host.parser.messageContentKey download.raw) := by
    by_cases htask : host.parser.messageContentKey download.raw ∈ journal.tasks
    · exact .inl htask
    · have hindexed := not_imp_comm.mp hprepared.owed htask
      have hkept : host.parser.messageContentKey download.raw ∉ site.journal.tasks :=
        fun hmem => htask (hprepared.keeps _ hmem)
      obtain ⟨event, hmem, hknown⟩ := hknown hindexed hkept
      exact .inr ⟨event, hmore hmem, hknown⟩
  apply tracked_ingestPulled h.tracks (hbucket.quiet hprepared.more) h.knows hprepared
  · rintro outcome site' rfl htracks hknows hhas
    exact tracked_concludeImport ⟨htracks, rfl, hknows⟩ (hdownloaded.mono hmore) howed hhas
  · rintro error site' rfl htracks hknows hrefusable
    exact tracked_refuseImport ⟨htracks, rfl, hknows⟩ hrefusable

theorem hasPrefix_of_skipReason {budget : PullBudget} {object : R2Object}
    (h : source.skipReason budget object = none) :
    hasPrefix source.r2.bucketPrefix object.key = true := by
  unfold CloudflareSection.skipReason at h
  split at h
  · cases h
  · rename_i hspool
    rw [Bool.not_eq_true', Bool.not_eq_false] at hspool
    exact hspool

theorem tracked_importObject {object : R2Object} (h : Follows host source start mark tally history site) :
    Tracked host source start mark (Follows host source start mark)
      (importObject host source tally object) history site := by
  apply wp_then
  apply Program.wp_read.mpr
  split
  · exact ⟨h.tracks, h.journal, h.knows⟩
  · rename_i hspool
    apply wp_then
    apply tracked_ask h.tracks
    · exact fun _ htaken => nomatch htaken
    · intro reply htracks
      match reply, htracks with
      | .error error, htracks =>
        dsimp only
        split
        · exact ⟨htracks, h.journal, h.knows⟩
        · exact htracks
      | .ok none, htracks => exact ⟨htracks, h.journal, h.knows⟩
      | .ok (some download), htracks =>
        dsimp only
        split
        · exact ⟨htracks, h.journal, h.knows⟩
        · rename_i hbudget
          have hinbox := hasPrefix_of_skipReason hspool
          apply tracked_importDownload ⟨htracks, h.journal, h.knows⟩
          · exact ⟨history, _, site, [], download, rfl, rfl, List.forall_mem_nil _⟩
          · exact ⟨hinbox, site, download, rfl, List.mem_concat_self⟩
          · intro hindexed hfresh
            exact ⟨_, List.mem_concat_self, _, site, download, rfl, hinbox, Int.not_lt.mp hbudget,
              rfl, hindexed, hfresh⟩

theorem tracked_listObjectsFrom {bucketPrefix : String} {pages : PageLimit}
    {continuation : Option String} {tokens : List String} (h : Tracks host source start mark history site) :
    Tracked host source start mark (fun _ => Tracks host source start mark)
      (listObjectsFrom bucketPrefix pages continuation tokens) history site := by
  induction pages generalizing continuation tokens history with
  | zero => exact h
  | succ limit ih =>
    apply wp_then
    apply tracked_perform h
    · exact fun _ htaken => nomatch htaken
    · intro history page _ htracks
      cases hnext : page.continuation with
      | none => exact htracks
      | some token =>
        dsimp only
        split
        · exact htracks
        · apply wp_then
          exact ih htracks

theorem tracked_selectObjects {pages : PageLimit} {selected : Option (List R2Object)}
    (h : Tracks host source start mark history site) :
    Tracked host source start mark (fun _ => Tracks host source start mark)
      (selectObjects source pages selected) history site := by
  cases selected with
  | none => exact tracked_listObjectsFrom h
  | some objects => exact h

theorem tracked_loadIndex (h : Tracks host source start mark history site) :
    Tracked host source start mark
      (fun _ history site => Tracks host source start mark history site ∧
        site.index.Knows host.parser site.workspace)
      (Pull.loadIndex host.parser) history site := by
  apply wp_then
  apply Program.wp_read.mpr
  apply wp_then
  apply Program.wp_ofExcept.mpr
  split
  · rename_i index hload
    have hindexed : Tracks host source start mark history { site with index } :=
      h.congr _ rfl rfl (KeepsMail.refl _)
    exact ⟨hindexed, hindexed, knows_loadExistingRemoteIndex hload⟩
  · exact h

theorem tracked_loadJournal {post : Journal → SiteFact}
    (h : Tracks host source start mark history site)
    (hpost : site.journal.validateActive = .ok () → post site.journal history site) :
    Tracked host source start mark post Journal.load history site := by
  apply wp_then
  apply Program.wp_read.mpr
  apply wp_then
  apply Program.wp_ofExcept.mpr
  split
  · exact hpost (by assumption)
  · exact h

/-- A pull that imports are followed up of keeps track of the journal, whatever it pulls. -/
theorem tracked_pullObjects {options : PullOptions} {pages : PageLimit}
    {selected : Option (List R2Object)} (hjournal : source.journalEnabled = true)
    (h : Tracks host source start mark history site) :
    Tracked host source start mark (fun _ => Tracks host source start mark)
      (pullObjects host source options pages selected) history site := by
  apply Program.wp_seq (tracked_selectObjects h)
  intro objects history site h
  have hbudget := h.congr { site with
    budget := ⟨options.maxNewMessages, options.maxTotalBytes⟩ } rfl rfl (KeepsMail.refl _)
  refine ⟨hbudget, ?_⟩
  apply Program.wp_seq (tracked_loadIndex hbudget)
  rintro _ history site ⟨hindexed, hknows⟩
  apply wp_then
  unfold loadJournal?
  rw [if_pos hjournal]
  apply wp_then
  apply tracked_loadJournal hindexed
  intro _
  apply Program.wp_seq (Program.wp_gather (fun _ => Follows host source start mark) ⟨hindexed, rfl, hknows⟩
    fun _ _ _ _ _ _ _ hround => tracked_importObject hround)
  intro tally history site hfollows
  apply wp_then
  apply tracked_perform hfollows.tracks
  · exact fun _ htaken => nomatch htaken
  · exact fun history value _ htracks => htracks

end AgentFirstMail
