import AgentFirstMail.Channels.Ingest
import AgentFirstMail.Store.TextFiles

namespace AgentFirstMail
open Effect
variable {channel : ChannelHost} {limit : String → Nat} {start site site' : Site}
  {host : PullHost} {source : FileSource} {tally : FilesTally} {messageId path : String}
  {options : PullOptions} {sources : List FileSource}

section Runs

/-- What was sent since: no evidence goes, and what comes is of no input. -/
structure Site.SentSince (channel : ChannelHost) (site site' : Site) : Prop where
  kept : site.EvidenceKept site'
  sent : ∀ (messageId : String) evidence, site'.channelEvidence[messageId]? = some evidence →
    site.channelEvidence[messageId]? = none → Sent channel messageId evidence
  budget : site'.budget = site.budget

/-- One thing that happens to a workspace with file sources. A pull may be cut off anywhere, so a
site in the midst of a pull is one that a session leads to. -/
inductive FilesSession (channel : ChannelHost) (limit : String → Nat) :
    Site → List PullEvent → Site → Prop
  | pull {host : PullHost} {sources : List FileSource} {options : PullOptions} {site site' : Site}
      {events : List PullEvent} {outcome : Outcome AppError FilesTally} :
      (∀ source ∈ sources, source.Configured limit) → host.now.utf8ByteSize ≤ 64 →
      Exec (pullFiles host channel sources options) site events outcome site' →
        FilesSession channel limit site events site'
  | dryRun {sources : List FileSource} {options : PullOptions} {site site' : Site}
      {events : List PullEvent} {outcome : Outcome AppError FilesTally} :
      Exec (previewFiles channel sources options) site events outcome site' →
        FilesSession channel limit site events site'
  | sent {site site' : Site} :
      site.SentSince channel site' → FilesSession channel limit site [] site'

theorem Site.Grown.of_keeps {p : Pull α} {events : List PullEvent} {outcome : Outcome AppError α}
    (h : start.Grown channel limit site)
    (hp : Grows channel limit start (fun _ => start.Grown channel limit) p site)
    (hexec : Exec p site events outcome site') : start.Grown channel limit site' :=
  Program.Keeps.exec hp hexec (fun _ _ => id) h

theorem FilesSession.grown {events : List PullEvent} (hencodes : channel.Encodes)
    (h : start.Grown channel limit site) (hsession : FilesSession channel limit site events site') :
    start.Grown channel limit site' := by
  cases hsession with
  | pull hsources hnow hexec => exact h.of_keeps (grows_pullFiles hencodes hsources hnow h) hexec
  | dryRun hexec => exact h.of_keeps (grows_previewFiles h) hexec
  | sent hsent =>
    refine ⟨h.kept.trans hsent.kept, ?_, ?_, ?_⟩
    · intro messageId evidence hget
      cases hold : site.channelEvidence[messageId]? with
      | none => exact .inr (hsent.sent messageId evidence hget hold)
      | some found =>
        cases (hsent.kept messageId found hold).symm.trans hget
        exact h.sound.evidence messageId evidence hold
    · exact hsent.budget ▸ h.sound.messages_nonneg
    · exact hsent.budget ▸ h.sound.bytes_nonneg

theorem Site.Grown.run {events : List PullEvent} (hencodes : channel.Encodes)
    (h : start.Grown channel limit site)
    (hrun : Run (FilesSession channel limit) site events site') :
    start.Grown channel limit site' := by
  have hsessions : ∀ (_ : List PullEvent) site more site', start.Grown channel limit site →
      FilesSession channel limit site more site' → start.Grown channel limit site' :=
    fun _ _ _ _ hgrown hsession => hsession.grown hencodes hgrown
  exact hrun.invariant h hsessions

/-- The directory of evidence that was linked was not synced. -/
def SyncFails : PullEvent → Prop
  | ⟨.syncEvidence _, _, some (.error _)⟩ => True
  | _ => False

/-- A bucket whose objects are not viewed in triage. -/
def spamBucket : CloudflareSection := { importAs := .spam }

theorem syncFails_of_uncharged {event : PullEvent} (h : Uncharged host spamBucket event) :
    SyncFails event := by
  unfold Uncharged at h
  split at h
  · obtain ⟨_, ⟨htriage, _⟩, _⟩ := h
    cases htriage
  · trivial
  · exact h.elim

theorem pullFiles_bounded {events : List PullEvent} {outcome : Outcome AppError FilesTally}
    (hmessages : 0 ≤ site.budget.messages) (hbytes : 0 ≤ site.budget.bytes)
    (hexec : Exec (pullFiles host channel sources options) site events outcome site')
    (hsynced : ∀ event ∈ events, ¬ SyncFails event) : Bounded options site site' := by
  have hstart : Bounded options site site := bounded_self hmessages hbytes
  have hpull : Charged host spamBucket options site (fun _ => Within options site 0 0)
      (pullFiles host channel sources options) site := by
    have hset : Charged host spamBucket options site (fun _ => Within options site 0 0)
        (Pull.setBudget options) site :=
      Program.Keeps.write within_options.bounded within_options
    apply hset.bind
    exact fun _ _ hend => charged_fileSources hend
  exact Program.Keeps.exec hpull hexec
    (fun event hmem hbad => hsynced event hmem (syncFails_of_uncharged hbad)) hstart

/-- Nothing is stored, but something may be charged. -/
structure StoresNothing (site site' : Site) : Prop where
  mail : KeepsMail site.workspace site'.workspace
  channel : site'.channelEvidence = site.channelEvidence

theorem StoresNothing.refl (site : Site) : StoresNothing site site := ⟨KeepsMail.refl _, rfl⟩

theorem StoresNothing.trans (site site' site'' : Site) (h : StoresNothing site site')
    (h' : StoresNothing site' site'') : StoresNothing site site'' :=
  ⟨h.mail.trans h'.mail, h'.channel.trans h.channel⟩

theorem StoresNothing.of_unstored {p : Pull α} (hp : p.Writes Unstored) : p.Writes StoresNothing :=
  hp.mono fun _ _ hsame => ⟨hsame.mail, hsame.channel⟩

theorem StoresNothing.previewInput (channel : ChannelHost) (source : FileSource)
    (tally : FilesTally) (path : String) :
    (previewInput channel source tally path).Writes StoresNothing := by
  apply (of_unstored (Unstored.readInput _ _)).bind
  intro raw
  apply (Program.Writes.ofExcept _).bind
  intro externalMessageId
  apply Program.Writes.read.bind
  intro site
  dsimp only
  split
  · exact (Program.Writes.ofExcept _).bind fun _ => Program.Writes.ret _
  · split
    · exact Program.Writes.ret _
    · have hcharged : (Pull.charge 1 raw.length).Writes StoresNothing :=
        Program.Writes.write fun _ => ⟨KeepsMail.refl _, rfl⟩
      exact hcharged.bind fun _ => Program.Writes.ret _

theorem StoresNothing.previewAttempt (channel : ChannelHost) (source : FileSource)
    (tally : FilesTally) (path : String) :
    (previewAttempt channel source tally path).Writes StoresNothing := by
  have hattempt : (AgentFirstMail.previewInput channel source tally.counted path).attempt.Writes
      StoresNothing :=
    ((previewInput _ _ _ _).bind fun _ => Program.Writes.ret _).tryCatch fun _ =>
      Program.Writes.ret _
  apply hattempt.bind
  intro found
  cases found with
  | ok tally => exact Program.Writes.ret _
  | error error => exact Program.Writes.ret _

theorem StoresNothing.previewFiles (channel : ChannelHost) (sources : List FileSource)
    (options : PullOptions) : (previewFiles channel sources options).Writes StoresNothing := by
  have hset : (Pull.setBudget options).Writes StoresNothing :=
    Program.Writes.write fun _ => ⟨KeepsMail.refl _, rfl⟩
  apply hset.bind
  intro _
  apply Program.Writes.gather
  intro tally source
  unfold previewFileSource eachInput
  split
  · exact Program.Writes.ret _
  · have hlisted : (listInputs source).attempt.Writes StoresNothing :=
      of_unstored (((Unstored.listInputs _).bind fun _ => Program.Writes.ret _).tryCatch fun _ =>
        Program.Writes.ret _)
    apply hlisted.bind
    intro listed
    cases listed with
    | error error => exact Program.Writes.ret _
    | ok paths => exact Program.Writes.gather fun tally path => previewAttempt _ _ _ _

theorem previewFiles_bounded {events : List PullEvent} {outcome : Outcome AppError FilesTally}
    (hsound : site.FilesSound channel limit)
    (hexec : Exec (previewFiles channel sources options) site events outcome site') :
    Bounded options site site' := by
  have hgrown := Site.Grown.of_keeps ⟨.refl site, hsound⟩
    (grows_previewFiles ⟨.refl site, hsound⟩) hexec
  have hsame := hexec.writes (StoresNothing.previewFiles channel sources options)
    StoresNothing.refl StoresNothing.trans
  obtain ⟨hcount, htotal⟩ := stored_eq site hsame.mail hsame.channel
  obtain ⟨hnone, hempty⟩ := stored_self site
  constructor
  · exact hgrown.sound.messages_nonneg
  · exact hgrown.sound.bytes_nonneg
  · rw [hcount, hnone]
    exact Nat.zero_le _
  · rw [htotal, hempty]
    exact Nat.zero_le _

/-- The rules of file sources at a site: an identity has one message at most, whose evidence is
there for good; what an input comes to goes by that evidence; and a pull keeps to its budget if
what it links is synced. -/
structure Site.IngestsFiles (channel : ChannelHost) (limit : String → Nat) (site : Site) :
    Prop where
  unique : ∀ (messageId other : String) evidence found,
    site.channelEvidence[messageId]? = some evidence →
    site.channelEvidence[other]? = some found →
    evidence.direction = "inbound" → found.direction = "inbound" →
    evidence.sourceId = found.sourceId →
    channel.native evidence.contentJson = channel.native found.contentJson → messageId = other
  kept : ∀ events site', Run (FilesSession channel limit) site events site' →
    site.EvidenceKept site'
  inputs : ∀ host source tally path events tally' site', source.Configured limit →
    Exec (attemptInput host channel source tally path) site events (.returned tally') site' →
      ∃ reply, [⟨.readFileInput path, site, some reply⟩] <+: events ∧
        InputEnds host channel source tally.counted path site reply tally' site'
  nonneg : 0 ≤ site.budget.messages ∧ 0 ≤ site.budget.bytes
  pulls : ∀ host sources options events outcome site',
    Exec (pullFiles host channel sources options) site events outcome site' →
      (∀ event ∈ events, ¬ SyncFails event) → Bounded options site site'
  dryRuns : ∀ sources options events outcome site',
    Exec (previewFiles channel sources options) site events outcome site' →
      Bounded options site site'

theorem Site.FilesSound.unique (hsound : site.FilesSound channel limit) {other : String}
    {evidence found : ChannelEvidence} (hget : site.channelEvidence[messageId]? = some evidence)
    (hother : site.channelEvidence[other]? = some found) (hinbound : evidence.direction = "inbound")
    (hfound : found.direction = "inbound") (hsource : evidence.sourceId = found.sourceId)
    (hnative : channel.native evidence.contentJson = channel.native found.contentJson) :
    messageId = other := by
  rcases hsound.evidence messageId evidence hget with hingested | hsent
  · rcases hsound.evidence other found hother with hsame | hsent
    · obtain ⟨external, hexternal, hid⟩ := hingested.keyed
      obtain ⟨external', hexternal', hid'⟩ := hsame.keyed
      rw [hnative, hexternal'] at hexternal
      cases hexternal
      rw [hid, hid', hsource]
    · exact (hsent.outbound hfound).elim
  · exact (hsent.outbound hinbound).elim

/-- The rules hold after every run from a workspace without evidence. -/
theorem ingestsFiles_of_run {events : List PullEvent} (hencodes : channel.Encodes)
    (hempty : start.channelEvidence = ∅) (hmessages : 0 ≤ start.budget.messages)
    (hbytes : 0 ≤ start.budget.bytes) (hrun : Run (FilesSession channel limit) start events site) :
    site.IngestsFiles channel limit := by
  have hnone : ∀ (messageId : String) evidence,
      start.channelEvidence[messageId]? ≠ some evidence := by
    intro messageId evidence hget
    rw [hempty, Std.ExtTreeMap.getElem?_empty] at hget
    cases hget
  have hstart : start.Grown channel limit start :=
    ⟨.refl start, fun _ _ hget => (hnone _ _ hget).elim, hmessages, hbytes⟩
  have hsound := (hstart.run hencodes hrun).sound
  exact
    { unique := fun _ _ _ _ hget hother hinbound hfound hsource hnative =>
        hsound.unique hget hother hinbound hfound hsource hnative
      kept := fun _ _ hmore => (Site.Grown.run hencodes ⟨.refl site, hsound⟩ hmore).kept
      inputs := fun _ _ _ _ _ _ _ hsource hexec => attemptInput_ends hsound hsource hexec
      nonneg := ⟨hsound.messages_nonneg, hsound.bytes_nonneg⟩
      pulls := fun _ _ _ _ _ _ hexec hsynced =>
        pullFiles_bounded hsound.messages_nonneg hsound.bytes_nonneg hexec hsynced
      dryRuns := fun _ _ _ _ _ hexec => previewFiles_bounded hsound hexec }

end Runs

section Inquiries

/-- How many bytes a byte of a text takes in JSON. -/
def jsonByteLength (byte : UInt8) : Nat :=
  if byte ∈ ([8, 9, 10, 12, 13, 34, 92] : List UInt8) then 2 else if byte < 32 then 6 else 1

def inquiryJson (externalMessageId subject : String) : Bytes :=
  textBytes ("\x7b\"schema_name\":\"channel_message\",\"schema_version\":1,".toList ++
    "\"external_message_id\":\"".toList ++ externalMessageId.toList ++
    "\",\"conversation_id\":\"c\",\"sender_id\":\"ann\",\"recipient_ids\":[\"shop\"],".toList ++
    "\"subject\":\"".toList ++ subject.toList ++ "\",\"body_text\":\"\"\x7d".toList)

/-- A channel that knows three inquiries. -/
def inquiryChannel : ChannelHost where
  native raw :=
    if raw = inquiryJson "q1" "Hi" ∨ raw = inquiryJson "q1" "Ho" then .ok "q1"
    else if raw = inquiryJson "q2" "Hi" then .ok "q2"
    else .error { errorCode := "channel_message_invalid", message := "not an inquiry" }
  evidenceId sourceId externalMessageId := "message_file_" ++ sourceId ++ "_" ++ externalMessageId
  encodedLength evidence := (evidence.contentJson.map jsonByteLength).sum +
    (evidence.sourceId.utf8ByteSize + evidence.direction.utf8ByteSize +
      evidence.timestampRfc3339.utf8ByteSize) + 72

theorem inquiryChannel_encodes : inquiryChannel.Encodes := by
  intro evidence
  have hbyte : ∀ byte, jsonByteLength byte ≤ 6 := by
    intro byte
    unfold jsonByteLength
    split
    · exact Nat.le_of_ble_eq_true rfl
    · split
      · exact Nat.le_refl 6
      · exact Nat.le_of_ble_eq_true rfl
  have hsum : ∀ bytes : Bytes, (bytes.map jsonByteLength).sum ≤ bytes.length * 6 := by
    intro bytes
    induction bytes with
    | nil => exact Nat.le_refl 0
    | cons byte rest ih =>
      have hfirst := hbyte byte
      rw [List.map_cons, List.sum_cons, List.length_cons]
      omega
  have hcontent := hsum evidence.contentJson
  change (evidence.contentJson.map jsonByteLength).sum + _ + 72 ≤ _
  omega

def inquirySource : FileSource where
  sourceId := "inquiries"
  maxMessageBytes := 1024
  maxInputFiles := 10

/-- An inbox with three files: an inquiry, the same again, and other bytes under its id. -/
def twinInbox (_ : Unit) (request : PullRequest) : Except AppError request.Reply × Unit :=
  match request with
  | .listFileInbox _ => (.ok ["a.json", "b.json", "c.json"], ())
  | .readFileInput path => (.ok (inquiryJson "q1" (if path = "c.json" then "Ho" else "Hi")), ())
  | .linkEvidence _ => (.ok (), ())
  | .syncEvidence _ => (.ok (), ())
  | .renderRefresh => (.ok (), ())
  | _ => (.error { errorCode := "imap_error", message := "no reply" }, ())

def pullInquiries : Pull FilesTally :=
  pullFiles plainPullHost inquiryChannel [inquirySource] onlyOneMessage

def twinsPulled : Site := (pullInquiries.run twinInbox neverPulled ()).2.1

/-- One message is stored of the three inputs. -/
theorem ingestsFiles_of_run_twins : ∃ events,
    Run (FilesSession inquiryChannel fun _ => 1024) neverPulled events twinsPulled ∧
    twinsPulled.channelEvidence.toList.map (fun entry => (entry.1, entry.2.contentJson)) =
      [("message_file_inquiries_q1", inquiryJson "q1" "Hi")] ∧
    twinsPulled.IngestsFiles inquiryChannel fun _ => 1024 := by
  obtain ⟨events, hpulled⟩ := Program.run_exec twinInbox pullInquiries neverPulled ()
  have hsource : ∀ source ∈ [inquirySource], source.Configured fun _ => 1024 := by
    intro source hmem
    rw [List.mem_singleton] at hmem
    rw [hmem]
    exact ⟨by decide, rfl⟩
  have hrun : Run (FilesSession inquiryChannel fun _ => 1024) neverPulled ([] ++ events)
      twinsPulled := .next .start (.pull hsource (by decide) hpulled)
  refine ⟨_, hrun, by decide +kernel, ?_⟩
  exact ingestsFiles_of_run inquiryChannel_encodes rfl (Int.le_refl 0) (Int.le_refl 0) hrun

/-- An inbox with two inquiries, in a workspace whose directory of evidence does not sync. -/
def unsyncedInbox (_ : Unit) (request : PullRequest) : Except AppError request.Reply × Unit :=
  match request with
  | .listFileInbox _ => (.ok ["a.json", "b.json"], ())
  | .readFileInput path => (.ok (inquiryJson (if path = "a.json" then "q1" else "q2") "Hi"), ())
  | .linkEvidence _ => (.ok (), ())
  | .renderRefresh => (.ok (), ())
  | _ => (.error { errorCode := "io_error", message := "sync channel output directory" }, ())

/-- Both inquiries are stored where one message was allowed. -/
theorem pullInquiries_overdraws : ∃ events outcome site,
    Exec pullInquiries neverPulled events outcome site ∧
      onlyOneMessage.maxNewMessages < storedCount neverPulled site := by
  refine ⟨_, _, _, Program.trace_exec unsyncedInbox pullInquiries neverPulled (), ?_⟩
  decide +kernel

end Inquiries
end AgentFirstMail
