import AgentFirstMail.Pull.Budget

namespace AgentFirstMail
open Effect

/-- Evidence is written in JSON: no byte of a text takes more than six. -/
def ChannelHost.Encodes (channel : ChannelHost) : Prop :=
  ∀ evidence : ChannelEvidence, channel.encodedLength evidence ≤ evidence.contentJson.length * 6 +
    (evidence.sourceId.utf8ByteSize + evidence.direction.utf8ByteSize +
      evidence.timestampRfc3339.utf8ByteSize) * 6 + 100

/-- A source as a valid configuration has it. -/
structure FileSource.Configured (limit : String → Nat) (source : FileSource) : Prop where
  sourceId : source.sourceId.utf8ByteSize ≤ 128
  limit : source.maxMessageBytes = limit source.sourceId

/-- The evidence that is kept of an input. -/
def inputEvidence (host : PullHost) (source : FileSource) (raw : Bytes) : ChannelEvidence where
  sourceId := source.sourceId
  direction := "inbound"
  timestampRfc3339 := host.now
  contentJson := raw

/-- Evidence of an input, under the id of its identity. -/
structure Ingested (channel : ChannelHost) (limit : String → Nat) (messageId : String)
    (evidence : ChannelEvidence) : Prop where
  inbound : evidence.direction = "inbound"
  keyed : ∃ externalMessageId, channel.native evidence.contentJson = .ok externalMessageId ∧
    messageId = channel.evidenceId evidence.sourceId externalMessageId
  fits : channel.encodedLength evidence ≤ limit evidence.sourceId * 6 + 4096

/-- Evidence of a message that was sent; no input has its id. -/
structure Sent (channel : ChannelHost) (messageId : String) (evidence : ChannelEvidence) :
    Prop where
  outbound : evidence.direction ≠ "inbound"
  apart : ∀ sourceId externalMessageId, messageId ≠ channel.evidenceId sourceId externalMessageId

/-- All evidence is of inputs or of what was sent, and no budget is overdrawn. -/
structure Site.FilesSound (channel : ChannelHost) (limit : String → Nat) (site : Site) : Prop where
  evidence : ∀ (messageId : String) evidence, site.channelEvidence[messageId]? = some evidence →
    Ingested channel limit messageId evidence ∨ Sent channel messageId evidence
  messages_nonneg : 0 ≤ site.budget.messages
  bytes_nonneg : 0 ≤ site.budget.bytes

/-- Evidence stays as it was. -/
def Site.EvidenceKept (start site : Site) : Prop :=
  ∀ (messageId : String) evidence, start.channelEvidence[messageId]? = some evidence →
    site.channelEvidence[messageId]? = some evidence

/-- Evidence is kept, and what is new is sound. -/
structure Site.Grown (channel : ChannelHost) (limit : String → Nat) (start site : Site) : Prop where
  kept : start.EvidenceKept site
  sound : site.FilesSound channel limit

variable {channel : ChannelHost} {limit : String → Nat} {start site site' : Site}
  {host : PullHost} {source : FileSource} {tally : FilesTally} {messageId path : String}
  {options : PullOptions} {sources : List FileSource}

theorem Site.EvidenceKept.refl (site : Site) : site.EvidenceKept site := fun _ _ hget => hget

theorem Site.EvidenceKept.trans (h : start.EvidenceKept site) (h' : site.EvidenceKept site') :
    start.EvidenceKept site' :=
  fun messageId evidence hget => h' messageId evidence (h messageId evidence hget)

namespace Site.Grown

theorem congr (h : start.Grown channel limit site)
    (hevidence : site'.channelEvidence = site.channelEvidence)
    (hbudget : site'.budget = site.budget) : start.Grown channel limit site' where
  kept := by
    intro messageId evidence hget
    rw [hevidence]
    exact h.kept messageId evidence hget
  sound :=
    { evidence := by
        rw [hevidence]
        exact h.sound.evidence
      messages_nonneg := hbudget ▸ h.sound.messages_nonneg
      bytes_nonneg := hbudget ▸ h.sound.bytes_nonneg }

/-- Evidence is linked under an id that is free. -/
theorem link {evidence : ChannelEvidence} (h : start.Grown channel limit site)
    (hfree : site.channelEvidence[messageId]? = none)
    (hevidence : Ingested channel limit messageId evidence) :
    start.Grown channel limit
      { site with channelEvidence := site.channelEvidence.insert messageId evidence } where
  kept := by
    intro other found hget
    have hold := h.kept other found hget
    change (site.channelEvidence.insert messageId evidence)[other]? = some found
    rw [Std.ExtTreeMap.getElem?_insert, if_neg]
    · exact hold
    · rw [Std.LawfulEqCmp.compare_eq_iff_eq]
      rintro rfl
      cases hfree.symm.trans hold
  sound :=
    { evidence := by
        intro other found hget
        change (site.channelEvidence.insert messageId evidence)[other]? = some found at hget
        rw [Std.ExtTreeMap.getElem?_insert] at hget
        split at hget
        · rename_i heq
          rw [Std.LawfulEqCmp.compare_eq_iff_eq] at heq
          cases hget
          rw [← heq]
          exact .inl hevidence
        · exact h.sound.evidence other found hget
      messages_nonneg := h.sound.messages_nonneg
      bytes_nonneg := h.sound.bytes_nonneg }

theorem charge {messages bytes : Int} (h : start.Grown channel limit site)
    (hmessages : messages ≤ site.budget.messages) (hbytes : bytes ≤ site.budget.bytes) :
    start.Grown channel limit { site with
      budget := ⟨site.budget.messages - messages, site.budget.bytes - bytes⟩ } where
  kept := h.kept
  sound := ⟨h.sound.evidence, Int.sub_nonneg.mpr hmessages, Int.sub_nonneg.mpr hbytes⟩

end Site.Grown

/-- A program that only adds evidence of inputs, wherever it is cut off. -/
abbrev Grows (channel : ChannelHost) (limit : String → Nat) (start : Site)
    (post : α → Site → Prop) (p : Pull α) (site : Site) : Prop :=
  p.Keeps (fun _ => False) (start.Grown channel limit) post (fun _ => start.Grown channel limit)
    site

theorem grows_unstored {p : Pull α} (hp : p.Writes Unstored)
    (h : start.Grown channel limit site) :
    Grows channel limit start
      (fun _ site' => Unstored site site' ∧ start.Grown channel limit site') p site := by
  have hgrown : ∀ site', Unstored site site' → start.Grown channel limit site' :=
    fun _ hsame => h.congr hsame.channel hsame.budget
  apply Program.Keeps.of_writes hp Unstored.refl Unstored.trans
  · exact hgrown
  · exact fun _ site' hsame => ⟨hsame, hgrown site' hsame⟩
  · exact fun _ => hgrown

theorem grows_unstored_end {p : Pull α} (hp : p.Writes Unstored)
    (h : start.Grown channel limit site) :
    Grows channel limit start (fun _ => start.Grown channel limit) p site :=
  (grows_unstored hp h).mono (fun _ _ hend => hend.2) fun _ _ hend => hend

theorem grows_unstored_bind {p : Pull α} {f : α → Pull β} {post : β → Site → Prop}
    (hp : p.Writes Unstored) (h : start.Grown channel limit site)
    (hf : ∀ value site', Unstored site site' → start.Grown channel limit site' →
      Grows channel limit start post (f value) site') :
    Grows channel limit start post (p.bind f) site :=
  (grows_unstored hp h).bind fun value site' hend => hf value site' hend.1 hend.2

theorem grows_charge {messages bytes : Int} (h : start.Grown channel limit site)
    (hmessages : messages ≤ site.budget.messages) (hbytes : bytes ≤ site.budget.bytes) :
    Grows channel limit start (fun _ => start.Grown channel limit) (Pull.charge messages bytes)
      site := by
  have hend := h.charge hmessages hbytes
  exact Program.Keeps.write hend hend

section Storing
variable {evidence : ChannelEvidence} {raw : Bytes} {externalMessageId : String}

theorem grows_publishEvidence (h : start.Grown channel limit site)
    (hfree : site.channelEvidence[messageId]? = none)
    (hevidence : Ingested channel limit messageId evidence) :
    Grows channel limit start
      (fun _ site' => site'.budget = site.budget ∧ start.Grown channel limit site')
      (publishEvidence messageId evidence) site := by
  have hlinked : Grows channel limit start (fun _ site' => site' = site)
      (Program.perform (PullRequest.linkEvidence messageId)) site :=
    Program.Keeps.perform h (fun _ _ => rfl) fun _ _ => h
  apply hlinked.bind
  intro _ site' hsame
  rw [hsame]
  have hwritten := h.link hfree hevidence
  have hinserted : Grows channel limit start
      (fun _ site' => site'.budget = site.budget ∧ start.Grown channel limit site')
      (Pull.write fun site =>
        { site with channelEvidence := site.channelEvidence.insert messageId evidence }) site :=
    Program.Keeps.write hwritten ⟨rfl, hwritten⟩
  apply hinserted.bind
  intro _ site' hend
  exact Program.Keeps.perform hend.2 (fun _ _ => hend) fun _ _ => hend.2

theorem ingested_of_native (hencodes : channel.Encodes) (hsource : source.Configured limit)
    (hnow : host.now.utf8ByteSize ≤ 64) (hlength : raw.length ≤ source.maxMessageBytes)
    (hnative : channel.native raw = .ok externalMessageId) :
    Ingested channel limit (channel.evidenceId source.sourceId externalMessageId)
      (inputEvidence host source raw) where
  inbound := rfl
  keyed := ⟨externalMessageId, hnative, rfl⟩
  fits := by
    have hencoded := hencodes (inputEvidence host source raw)
    have hid := hsource.sourceId
    have hdirection : "inbound".utf8ByteSize = 7 := by decide
    rw [hsource.limit] at hlength
    dsimp only [inputEvidence] at hencoded ⊢
    omega

theorem grows_storeInput (h : start.Grown channel limit site)
    (hfree : site.channelEvidence[messageId]? = none) (hmessages : 0 < site.budget.messages)
    (hbytes : raw.length ≤ site.budget.bytes)
    (hevidence : Ingested channel limit messageId (inputEvidence host source raw)) :
    Grows channel limit start (fun _ => start.Grown channel limit)
      (storeInput host source.sourceId messageId raw tally) site := by
  apply grows_unstored_bind (Unstored.persistChannelMetadata _) h
  intro _ site' hsame hend
  rw [← hsame.budget] at hmessages hbytes
  rw [← hsame.channel] at hfree
  apply (grows_publishEvidence hend hfree hevidence).bind
  rintro _ site' ⟨hbudget, hend⟩
  rw [← hbudget] at hmessages hbytes
  apply (grows_charge hend (Int.add_one_le_of_lt hmessages) hbytes).bind
  intro _ site' hend
  apply grows_unstored_bind (Unstored.persistChannelMetadata _) hend
  intro _ site' _ hend
  apply grows_unstored_bind (Unstored.of_refreshes
    (Refreshes.writeWorkspace fun w => keepsMail_writeMessageMaterializedCache w _ _)) hend
  exact fun _ _ _ hend => Program.Keeps.ret hend

end Storing

section Inputs

theorem grows_readInput (h : start.Grown channel limit site) :
    Grows channel limit start
      (fun raw site' => raw.length ≤ source.maxMessageBytes ∧ start.Grown channel limit site')
      (readInput source path) site := by
  have hread : Grows channel limit start (fun _ => start.Grown channel limit)
      (Program.perform (PullRequest.readFileInput path)) site :=
    Program.Keeps.perform h (fun _ _ => h) fun _ _ => h
  apply hread.bind
  intro raw site' hend
  have hsmall : Grows channel limit start
      (fun _ site' => raw.length ≤ source.maxMessageBytes ∧ start.Grown channel limit site')
      (Program.ofExcept (ensure (decide (raw.length ≤ source.maxMessageBytes)) channelFileInvalid))
      site' := by
    apply Program.Keeps.ofExcept
    · intro _ hensured
      exact ⟨of_decide_eq_true (ensure_eq_ok_iff.mp hensured), hend⟩
    · exact fun _ _ => hend
  apply hsmall.bind
  exact fun _ _ hend => Program.Keeps.ret hend

theorem grows_receiveInput {store : String → Bytes → Pull FilesTally}
    (h : start.Grown channel limit site)
    (hstore : ∀ (raw : Bytes) externalMessageId (site : Site),
      raw.length ≤ source.maxMessageBytes → channel.native raw = .ok externalMessageId →
      site.channelEvidence[channel.evidenceId source.sourceId externalMessageId]? = none →
      0 < site.budget.messages → raw.length ≤ site.budget.bytes →
      start.Grown channel limit site →
        Grows channel limit start (fun _ => start.Grown channel limit)
          (store (channel.evidenceId source.sourceId externalMessageId) raw) site) :
    Grows channel limit start (fun _ => start.Grown channel limit)
      (receiveInput channel source tally path store) site := by
  apply (grows_readInput h).bind
  rintro raw site' ⟨hlength, hend⟩
  have hvalid : Grows channel limit start
      (fun externalMessageId site' => channel.native raw = .ok externalMessageId ∧
        start.Grown channel limit site')
      (Program.ofExcept (channel.native raw)) site' :=
    Program.Keeps.ofExcept (fun _ hnative => ⟨hnative, hend⟩) fun _ _ => hend
  apply hvalid.bind
  rintro externalMessageId site' ⟨hnative, hend⟩
  apply Program.Keeps.read
  split
  · apply grows_unstored_bind (Program.Writes.ofExcept _) hend
    exact fun _ _ _ hend => Program.Keeps.ret hend
  · rename_i hfree
    split
    · exact Program.Keeps.ret hend
    · rename_i hreason
      obtain ⟨hne, hheld⟩ := budgetReason_eq_none_iff.mp hreason
      have hnonneg := hend.sound.messages_nonneg
      exact hstore raw externalMessageId site' hlength hnative hfree (by omega) hheld hend

theorem grows_pullInput (hencodes : channel.Encodes) (hsource : source.Configured limit)
    (hnow : host.now.utf8ByteSize ≤ 64) (h : start.Grown channel limit site) :
    Grows channel limit start (fun _ => start.Grown channel limit)
      (pullInput host channel source tally path) site := by
  rw [pullInput_eq]
  apply grows_receiveInput h
  intro raw externalMessageId site hlength hnative hfree hmessages hbytes hend
  exact grows_storeInput hend hfree hmessages hbytes
    (ingested_of_native hencodes hsource hnow hlength hnative)

theorem grows_previewInput (h : start.Grown channel limit site) :
    Grows channel limit start (fun _ => start.Grown channel limit)
      (previewInput channel source tally path) site := by
  apply grows_receiveInput h
  intro raw _ site _ _ _ hmessages hbytes hend
  apply (grows_charge hend (Int.add_one_le_of_lt hmessages) hbytes).bind
  exact fun _ _ hend => Program.Keeps.ret hend

theorem grows_attempted {pull : FilesTally → Pull FilesTally}
    (hpull : Grows channel limit start (fun _ => start.Grown channel limit) (pull tally.counted)
      site) :
    Grows channel limit start (fun _ => start.Grown channel limit)
      (attempted source pull tally) site := by
  have hattempt : Grows channel limit start (fun _ => start.Grown channel limit)
      (pull tally.counted).attempt site := Program.Keeps.attempt hpull
  apply hattempt.bind
  intro pulled site' hend
  cases pulled with
  | ok tally => exact Program.Keeps.ret hend
  | error error => exact Program.Keeps.ret hend

theorem grows_eachInput {attempt : FilesTally → String → Pull FilesTally}
    (hattempt : ∀ tally path site, start.Grown channel limit site →
      Grows channel limit start (fun _ => start.Grown channel limit) (attempt tally path) site)
    (h : start.Grown channel limit site) :
    Grows channel limit start (fun _ => start.Grown channel limit)
      (eachInput source attempt tally) site := by
  unfold eachInput
  split
  · exact Program.Keeps.ret h
  · have hlisted : Grows channel limit start (fun _ => start.Grown channel limit)
        (listInputs source).attempt site :=
      grows_unstored_end
        (((Unstored.listInputs _).bind fun _ => Program.Writes.ret _).tryCatch fun _ =>
          Program.Writes.ret _) h
    apply hlisted.bind
    intro listed site' hend
    cases listed with
    | error error => exact Program.Keeps.ret hend
    | ok paths =>
      apply Program.Keeps.gather fun _ _ => start.Grown channel limit
      · exact hend
      · exact fun path _ tally site hround => hattempt tally path site hround

theorem grows_setBudget (h : start.Grown channel limit site) :
    Grows channel limit start (fun _ => start.Grown channel limit) (Pull.setBudget options)
      site := by
  have hset : start.Grown channel limit
      { site with budget := ⟨options.maxNewMessages, options.maxTotalBytes⟩ } :=
    ⟨h.kept, h.sound.evidence, Int.natCast_nonneg _, Int.natCast_nonneg _⟩
  exact Program.Keeps.write hset hset

/-- A pull over the file sources only adds evidence of its inputs. -/
theorem grows_pullFiles (hencodes : channel.Encodes)
    (hsources : ∀ source ∈ sources, source.Configured limit) (hnow : host.now.utf8ByteSize ≤ 64)
    (h : start.Grown channel limit site) :
    Grows channel limit start (fun _ => start.Grown channel limit)
      (pullFiles host channel sources options) site := by
  apply (grows_setBudget h).bind
  intro _ site' hend
  have hfiles : Grows channel limit start (fun _ => start.Grown channel limit)
      (Program.gather sources {} (pullFileSource host channel)) site' := by
    apply (Program.Keeps.gather (fun rest _ site => (∀ source ∈ rest, source.Configured limit) ∧
      start.Grown channel limit site) ⟨hsources, hend⟩ _).mono (fun _ _ hend => hend.2)
    · exact fun _ _ hend => hend
    · rintro source rest tally site ⟨hrest, hround⟩
      have hsource := hrest source List.mem_cons_self
      rw [pullFileSource_eq]
      apply (grows_eachInput _ hround).mono
      · exact fun _ _ hend => ⟨fun other hmem => hrest other (List.mem_cons_of_mem _ hmem), hend⟩
      · exact fun _ _ hend => hend
      · intro tally path site hinput
        rw [attemptInput_eq]
        exact grows_attempted (grows_pullInput hencodes hsource hnow hinput)
  apply hfiles.bind
  intro tally site' hend
  apply grows_unstored_end _ hend
  exact (Program.Writes.perform _).bind fun _ => Program.Writes.ret _

theorem grows_previewFiles (h : start.Grown channel limit site) :
    Grows channel limit start (fun _ => start.Grown channel limit)
      (previewFiles channel sources options) site := by
  apply (grows_setBudget h).bind
  intro _ site' hend
  apply Program.Keeps.gather fun _ _ => start.Grown channel limit
  · exact hend
  · intro source _ tally site hround
    apply grows_eachInput _ hround
    intro tally path site hinput
    exact grows_attempted (grows_previewInput hinput)

end Inputs

section Ends

/-- An input as it was read: within the size limit, with its external id. -/
def acceptInput (channel : ChannelHost) (source : FileSource) (reply : Result Bytes) :
    Result (Bytes × String) := do
  let raw ← reply
  ensure (decide (raw.length ≤ source.maxMessageBytes)) channelFileInvalid
  let externalMessageId ← channel.native raw
  return (raw, externalMessageId)

/-- What is done with an accepted input. -/
def settleInput (channel : ChannelHost) (source : FileSource) (tally : FilesTally)
    (path : String) (store : String → Bytes → Pull FilesTally) (accepted : Bytes × String) :
    Pull FilesTally := do
  let messageId := channel.evidenceId source.sourceId accepted.2
  let site ← Pull.read
  match site.channelEvidence[messageId]? with
  | some stored =>
    Program.ofExcept (ensureSameInput channel source accepted.1 stored)
    return tally.merge
  | none =>
    match budgetReason site.budget accepted.1.length with
    | some reason => return tally.skip source.sourceId path reason accepted.1.length
    | none => store messageId accepted.1

theorem receiveInput_eq {store : String → Bytes → Pull FilesTally} :
    receiveInput channel source tally path store =
      (Program.ask (PullRequest.readFileInput path)).bind fun reply =>
        (Program.ofExcept (acceptInput channel source reply)).bind
          (settleInput channel source tally path store) := by
  apply congrArg (Program.call (PullRequest.readFileInput path))
  funext reply
  cases reply with
  | error error => rfl
  | ok raw =>
    have haccept : acceptInput channel source (.ok raw) =
        (ensure (decide (raw.length ≤ source.maxMessageBytes)) channelFileInvalid).bind fun _ =>
          (channel.native raw).bind fun externalMessageId => .ok (raw, externalMessageId) := rfl
    change ((Program.ofExcept (ensure _ _)).bind fun _ => Program.ret raw).bind _ =
      (Program.ofExcept (acceptInput channel source (.ok raw))).bind _
    rw [haccept]
    cases ensure (decide (raw.length ≤ source.maxMessageBytes)) channelFileInvalid with
    | error error => rfl
    | ok _ =>
      change (Program.ofExcept (channel.native raw)).bind _ = _
      cases channel.native raw with
      | error error => rfl
      | ok externalMessageId => rfl

/-- What storing a new input comes to: without an error it is charged, and what an error leaves
behind is not. -/
inductive StoreEnds (host : PullHost) (source : FileSource) (tally : FilesTally)
    (messageId : String) (raw : Bytes) (site : Site) : FilesTally → Site → Prop
  | stored {site' : Site} :
      site'.channelEvidence =
        site.channelEvidence.insert messageId (inputEvidence host source raw) →
      site'.budget = ⟨site.budget.messages - 1, site.budget.bytes - raw.length⟩ →
        StoreEnds host source tally messageId raw site (tally.stored messageId) site'
  | failed {error : AppError} {site' : Site} :
      site'.channelEvidence = site.channelEvidence ∨
        site'.channelEvidence =
          site.channelEvidence.insert messageId (inputEvidence host source raw) →
      site'.budget = site.budget →
        StoreEnds host source tally messageId raw site (tally.warn source.sourceId error) site'

/-- What an accepted input comes to. -/
structure AcceptedEnds (host : PullHost) (source : FileSource) (tally : FilesTally)
    (path messageId : String) (raw : Bytes) (site : Site) (tally' : FilesTally) (site' : Site) :
    Prop where
  merges : ∀ stored, site.channelEvidence[messageId]? = some stored →
    stored.sourceId = source.sourceId → stored.contentJson = raw →
      tally' = tally.merge ∧ site' = site
  conflicts : ∀ stored, site.channelEvidence[messageId]? = some stored →
    stored.sourceId = source.sourceId → stored.contentJson ≠ raw →
      tally' = tally.warn source.sourceId channelMessageConflict ∧ site' = site
  refuses : ∀ stored, site.channelEvidence[messageId]? = some stored →
    stored.sourceId ≠ source.sourceId →
      ∃ error, tally' = tally.warn source.sourceId error ∧ site' = site
  skips : ∀ reason, site.channelEvidence[messageId]? = none →
    budgetReason site.budget raw.length = some reason →
      tally' = tally.skip source.sourceId path reason raw.length ∧ site' = site
  stores : site.channelEvidence[messageId]? = none → budgetReason site.budget raw.length = none →
    StoreEnds host source tally messageId raw site tally' site'

/-- What an input comes to, by the reply to the request for its bytes. -/
def InputEnds (host : PullHost) (channel : ChannelHost) (source : FileSource) (tally : FilesTally)
    (path : String) (site : Site) (reply : Result Bytes) (tally' : FilesTally) (site' : Site) :
    Prop :=
  match acceptInput channel source reply with
  | .error error => tally' = tally.warn source.sourceId error ∧ site' = site
  | .ok (raw, externalMessageId) => AcceptedEnds host source tally path
      (channel.evidenceId source.sourceId externalMessageId) raw site tally' site'

variable {raw : Bytes} {history : List PullEvent} {tally' : FilesTally} {reply : Result Bytes}
  {externalMessageId : String}

theorem inputEnds_of_error {error : AppError}
    (h : acceptInput channel source reply = .error error) :
    InputEnds host channel source tally path site reply (tally.warn source.sourceId error)
      site := by
  rw [InputEnds, h]
  exact ⟨rfl, rfl⟩

theorem inputEnds_of_accepted (h : acceptInput channel source reply = .ok (raw, externalMessageId))
    (hends : AcceptedEnds host source tally path
      (channel.evidenceId source.sourceId externalMessageId) raw site tally' site') :
    InputEnds host channel source tally path site reply tally' site' := by
  rw [InputEnds, h]
  exact hends

theorem wp_storeInput :
    Program.wp (fun _ _ => True)
      (fun tally' _ => StoreEnds host source tally messageId raw site tally')
      (fun error _ => StoreEnds host source tally messageId raw site
        (tally.warn source.sourceId error))
      (storeInput host source.sourceId messageId raw tally) history site := by
  apply wp_then
  refine ⟨trivial, ?_⟩
  apply wp_then
  apply wp_then
  refine ⟨trivial, fun linked => ⟨trivial, ?_⟩⟩
  cases linked with
  | error error => exact .failed (.inl rfl) rfl
  | ok _ =>
    refine ⟨trivial, trivial, fun synced => ⟨trivial, ?_⟩⟩
    cases synced with
    | error error => exact .failed (.inr rfl) rfl
    | ok _ => exact ⟨trivial, trivial, trivial, .stored rfl rfl⟩

theorem ensureSameInput_cases {stored : ChannelEvidence} (hsound : site.FilesSound channel limit)
    (hsource : source.Configured limit)
    (hstored : site.channelEvidence[channel.evidenceId source.sourceId externalMessageId]? =
      some stored) (hsame : stored.sourceId = source.sourceId) :
    ensureSameInput channel source raw stored =
      if stored.contentJson = raw then .ok () else .error channelMessageConflict := by
  have hfits : channel.encodedLength stored ≤ source.maxMessageBytes * 6 + 4096 := by
    rcases hsound.evidence _ stored hstored with hingested | hsent
    · have hfits := hingested.fits
      rw [hsame, ← hsource.limit] at hfits
      exact hfits
    · exact (hsent.apart _ _ rfl).elim
  rw [ensureSameInput, decide_eq_true hfits, hsame, beq_self_eq_true, Bool.true_and]
  by_cases hcontent : stored.contentJson = raw
  · rw [if_pos hcontent, beq_iff_eq.mpr hcontent]
    rfl
  · rw [if_neg hcontent, beq_eq_false_iff_ne.mpr hcontent]
    rfl

/-- An input that was read and accepted, up to where it is stored. -/
theorem acceptedEnds_of_found {stored : ChannelEvidence} (hsound : site.FilesSound channel limit)
    (hsource : source.Configured limit)
    (hstored : site.channelEvidence[channel.evidenceId source.sourceId externalMessageId]? =
      some stored)
    (hends : (∃ error, ensureSameInput channel source raw stored = .error error ∧
        tally' = tally.warn source.sourceId error) ∨
      ensureSameInput channel source raw stored = .ok () ∧ tally' = tally.merge) :
    AcceptedEnds host source tally path
      (channel.evidenceId source.sourceId externalMessageId) raw site tally' site := by
  have hsame : ∀ other, site.channelEvidence[channel.evidenceId source.sourceId
      externalMessageId]? = some other → other = stored :=
    fun other hother => Option.some.inj (hother.symm.trans hstored)
  have hfree :
      site.channelEvidence[channel.evidenceId source.sourceId externalMessageId]? ≠ none := by
    rw [hstored]
    exact Option.some_ne_none _
  have hcases (hid : stored.sourceId = source.sourceId) :
      ensureSameInput channel source raw stored =
        if stored.contentJson = raw then .ok () else .error channelMessageConflict :=
    ensureSameInput_cases hsound hsource hstored hid
  constructor
  · intro other hother hid hcontent
    rw [hsame other hother] at hid hcontent
    rw [hcases hid, if_pos hcontent] at hends
    rcases hends with ⟨error, herror, _⟩ | ⟨_, htally⟩
    · cases herror
    · exact ⟨htally, rfl⟩
  · intro other hother hid hcontent
    rw [hsame other hother] at hid hcontent
    rw [hcases hid, if_neg hcontent] at hends
    rcases hends with ⟨error, herror, htally⟩ | ⟨hok, _⟩
    · cases herror
      exact ⟨htally, rfl⟩
    · cases hok
  · intro other hother hid
    rw [hsame other hother] at hid
    rcases hends with ⟨error, _, htally⟩ | ⟨hok, _⟩
    · exact ⟨error, htally, rfl⟩
    · obtain ⟨_, hok⟩ := Result.seq_ok hok
      have hboth := ensure_eq_ok_iff.mp hok
      rw [Bool.and_eq_true] at hboth
      exact (hid (eq_of_beq hboth.1)).elim
  · exact fun _ hnone => (hfree hnone).elim
  · exact fun hnone => (hfree hnone).elim

theorem acceptedEnds_of_free
    (hfree : site.channelEvidence[messageId]? = none) {site' : Site}
    (hskips : ∀ reason, budgetReason site.budget raw.length = some reason →
      tally' = tally.skip source.sourceId path reason raw.length ∧ site' = site)
    (hstores : budgetReason site.budget raw.length = none →
      StoreEnds host source tally messageId raw site tally' site') :
    AcceptedEnds host source tally path messageId raw site tally' site' where
  merges _ hstored := by cases hfree.symm.trans hstored
  conflicts _ hstored := by cases hfree.symm.trans hstored
  refuses _ hstored := by cases hfree.symm.trans hstored
  skips reason _ := hskips reason
  stores _ := hstores

theorem wp_settleInput {store : String → Bytes → Pull FilesTally}
    {post : FilesTally → SiteFact}
    {abort : AppError → SiteFact}
    {inv : SiteFact}
    (hmessageId : messageId = channel.evidenceId source.sourceId externalMessageId)
    (hrefused : ∀ stored error, site.channelEvidence[messageId]? = some stored →
      ensureSameInput channel source raw stored = .error error → abort error history site)
    (hmerged : ∀ stored, site.channelEvidence[messageId]? = some stored →
      ensureSameInput channel source raw stored = .ok () → post tally.merge history site)
    (hskipped : ∀ reason, site.channelEvidence[messageId]? = none →
      budgetReason site.budget raw.length = some reason →
        post (tally.skip source.sourceId path reason raw.length) history site)
    (hstored : site.channelEvidence[messageId]? = none →
      budgetReason site.budget raw.length = none →
        (store messageId raw).wp inv post abort history site) :
    (settleInput channel source tally path store (raw, externalMessageId)).wp inv post abort history
      site := by
  subst hmessageId
  have hread : ∀ {next : Site → Pull FilesTally}, (next site).wp inv post abort history site →
      (Program.read.bind next).wp inv post abort history site := fun hnext => hnext
  apply hread
  dsimp only
  split
  · rename_i stored hget
    apply wp_then
    cases hsame : ensureSameInput channel source raw stored with
    | error error => exact hrefused stored error hget hsame
    | ok _ => exact hmerged stored hget hsame
  · rename_i hfree
    split
    · rename_i reason hreason
      exact hskipped reason hfree hreason
    · rename_i hreason
      exact hstored hfree hreason

/-- What a pull does with one input is decided by its bytes, the evidence and the budget. -/
theorem wp_pullInput (hsound : site.FilesSound channel limit) (hsource : source.Configured limit) :
    let ends : FilesTally → SiteFact :=
      fun tally' history site' => ∃ reply, [⟨.readFileInput path, site, some reply⟩] <+: history ∧
        InputEnds host channel source tally path site reply tally' site'
    Program.wp (fun _ _ => True) ends (fun error => ends (tally.warn source.sourceId error))
      (pullInput host channel source tally path) [] site := by
  intro ends
  have hends : ∀ (reply : Result Bytes) {p : Pull FilesTally},
      Program.wp (fun _ _ => True)
        (fun tally' _ => InputEnds host channel source tally path site reply tally')
        (fun error _ => InputEnds host channel source tally path site reply
          (tally.warn source.sourceId error)) p [⟨.readFileInput path, site, some reply⟩] site →
      Program.wp (fun _ _ => True) ends (fun error => ends (tally.warn source.sourceId error)) p
        [⟨.readFileInput path, site, some reply⟩] site := by
    intro reply p hp
    apply Program.wp_weaken (Program.wp_extends hp)
    · exact fun _ _ _ => trivial
    · exact fun _ _ _ hend => ⟨reply, hend⟩
    · exact fun _ _ _ hend => ⟨reply, hend⟩
  rw [pullInput_eq, receiveInput_eq]
  refine ⟨trivial, fun reply => ⟨trivial, ?_⟩⟩
  apply hends reply
  change Program.wp _ _ _ ((Program.ofExcept (acceptInput channel source reply)).bind _) _ _
  cases haccepted : acceptInput channel source reply with
  | error error => exact inputEnds_of_error haccepted
  | ok accepted =>
    obtain ⟨raw, externalMessageId⟩ := accepted
    have haccepts : ∀ tally' site', AcceptedEnds host source tally path
        (channel.evidenceId source.sourceId externalMessageId) raw site tally' site' →
          InputEnds host channel source tally path site reply tally' site' :=
      fun _ _ => inputEnds_of_accepted haccepted
    apply wp_settleInput rfl
    · intro stored error hget hsame
      apply haccepts
      exact acceptedEnds_of_found hsound hsource hget (.inl ⟨error, hsame, rfl⟩)
    · intro stored hget hsame
      apply haccepts
      exact acceptedEnds_of_found hsound hsource hget (.inr ⟨hsame, rfl⟩)
    · intro reason hfree hreason
      apply haccepts
      apply acceptedEnds_of_free hfree
      · intro other hother
        cases hreason.symm.trans hother
        exact ⟨rfl, rfl⟩
      · intro hnone
        cases hreason.symm.trans hnone
    · intro hfree hreason
      have hstored : ∀ tally' site', StoreEnds host source tally
          (channel.evidenceId source.sourceId externalMessageId) raw site tally' site' →
            InputEnds host channel source tally path site reply tally' site' := by
        intro tally' site' hend
        apply haccepts
        apply acceptedEnds_of_free hfree
        · intro other hother
          cases hreason.symm.trans hother
        · exact fun _ => hend
      apply Program.wp_mono wp_storeInput
      · exact fun tally' _ site' => hstored tally' site'
      · exact fun error _ site' => hstored _ site'

theorem attemptInput_ends {events : List PullEvent} (hsound : site.FilesSound channel limit)
    (hsource : source.Configured limit)
    (hexec : Exec (attemptInput host channel source tally path) site events (.returned tally')
      site') :
    ∃ reply, [⟨.readFileInput path, site, some reply⟩] <+: events ∧
      InputEnds host channel source tally.counted path site reply tally' site' := by
  have hwp : Program.wp (fun _ _ => True)
      (fun tally' history site' => ∃ reply,
        [⟨.readFileInput path, site, some reply⟩] <+: history ∧
          InputEnds host channel source tally.counted path site reply tally' site')
      (fun _ _ _ => True) (attemptInput host channel source tally path) [] site := by
    rw [attemptInput_eq]
    apply wp_then
    apply Program.wp_attempt.mpr
    exact wp_pullInput hsound hsource
  exact (Program.wp_sound hexec trivial hwp).2

end Ends

end AgentFirstMail
