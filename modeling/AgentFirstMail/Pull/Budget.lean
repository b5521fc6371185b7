import AgentFirstMail.Data.Growth
import AgentFirstMail.Effect.Unless
import AgentFirstMail.Imap.ReconcileInterval

namespace AgentFirstMail
open Effect Growth Ingest

/-- What a message weighs once its evidence is there. -/
def mailWeight (record : MessageRecord) : Option Nat := record.eml.map (·.length)

def channelWeight (evidence : ChannelEvidence) : Option Nat := some evidence.contentJson.length

/-- How many messages were stored since a site was as it was at the start. -/
def storedCount (start site : Site) : Nat :=
  (newKeys mailWeight start.workspace.messages site.workspace.messages).card +
    (newKeys channelWeight start.channelEvidence site.channelEvidence).card

/-- What these messages weigh. -/
def storedBytes (start site : Site) : Nat :=
  newTotal mailWeight start.workspace.messages site.workspace.messages +
    newTotal channelWeight start.channelEvidence site.channelEvidence

/-- No budget was overdrawn, and no more was stored than a pull was allowed to. -/
structure Bounded (options : PullOptions) (start site : Site) : Prop where
  messages_nonneg : 0 ≤ site.budget.messages
  bytes_nonneg : 0 ≤ site.budget.bytes
  count_le : storedCount start site ≤ options.maxNewMessages
  total_le : storedBytes start site ≤ options.maxTotalBytes

/-- What is stored, what is reserved for messages to come and what is left make up no more than
a pull was allowed; a message that is still to be charged counts as reserved below zero. -/
structure Within (options : PullOptions) (start : Site) (count bytes : Int) (site : Site) : Prop where
  messages_nonneg : 0 ≤ site.budget.messages
  bytes_nonneg : 0 ≤ site.budget.bytes
  messages_covered : 0 ≤ count + site.budget.messages
  bytes_covered : 0 ≤ bytes + site.budget.bytes
  count_le : storedCount start site + count + site.budget.messages ≤ options.maxNewMessages
  total_le : storedBytes start site + bytes + site.budget.bytes ≤ options.maxTotalBytes

variable {options : PullOptions} {start site site' : Site} {count bytes : Int} {size : Nat}

theorem weightAt_mailWeight (w : Workspace) (messageId : String) :
    weightAt mailWeight w.messages messageId = (w.eml messageId).map (·.length) := by
  unfold weightAt Workspace.eml Workspace.record
  cases w.messages[messageId]? <;> rfl

theorem AddsMail.adds {w w' : Workspace} {raw : Bytes} (h : AddsMail raw w w') :
    Adds mailWeight raw.length w.messages w'.messages := by
  obtain ⟨messageId, hnone, hsome, hother⟩ := h
  refine ⟨messageId, ?_, ?_, fun other hne => ?_⟩
  · rw [weightAt_mailWeight, hnone]
    rfl
  · rw [weightAt_mailWeight, hsome]
    rfl
  · rw [weightAt_mailWeight, weightAt_mailWeight, hother other hne]

theorem stored_eq (start : Site) (hmail : KeepsMail site.workspace site'.workspace)
    (hchannel : site'.channelEvidence = site.channelEvidence) :
    storedCount start site' = storedCount start site ∧
      storedBytes start site' = storedBytes start site := by
  have hweights : ∀ messageId, weightAt mailWeight site'.workspace.messages messageId =
      weightAt mailWeight site.workspace.messages messageId := by
    intro messageId
    rw [weightAt_mailWeight, weightAt_mailWeight, hmail messageId]
  unfold storedCount storedBytes
  rw [newKeys_congr hweights, newTotal_congr hweights, hchannel]
  exact ⟨rfl, rfl⟩

theorem stored_le_of_mail {raw : Bytes} (start : Site)
    (hmail : AddsMail raw site.workspace site'.workspace)
    (hchannel : site'.channelEvidence = site.channelEvidence) :
    storedCount start site' ≤ storedCount start site + 1 ∧
      storedBytes start site' ≤ storedBytes start site + raw.length := by
  have hcard := hmail.adds.card_le start.workspace.messages
  have htotal := hmail.adds.total_le start.workspace.messages
  unfold storedCount storedBytes
  rw [hchannel]
  omega

theorem stored_le_of_channel (start : Site) (hmail : site'.workspace = site.workspace)
    (hchannel : Adds channelWeight size site.channelEvidence site'.channelEvidence) :
    storedCount start site' ≤ storedCount start site + 1 ∧
      storedBytes start site' ≤ storedBytes start site + size := by
  have hcard := hchannel.card_le start.channelEvidence
  have htotal := hchannel.total_le start.channelEvidence
  unfold storedCount storedBytes
  rw [hmail]
  omega

namespace Within

theorem bounded (h : Within options start count bytes site) : Bounded options start site := by
  obtain ⟨hmessages, hbytes, hcovered, hcovered', hcount, htotal⟩ := h
  exact ⟨hmessages, hbytes, by omega, by omega⟩

theorem unstored (h : Within options start count bytes site) (hsame : Unstored site site') :
    Within options start count bytes site' := by
  obtain ⟨hcount, htotal⟩ := stored_eq start hsame.mail hsame.channel
  obtain ⟨hmessages, hbytes, hcovered, hcovered', hcount_le, htotal_le⟩ := h
  rw [← hsame.budget] at hmessages hbytes hcovered hcovered' hcount_le htotal_le
  rw [← hcount] at hcount_le
  rw [← htotal] at htotal_le
  exact ⟨hmessages, hbytes, hcovered, hcovered', hcount_le, htotal_le⟩

theorem weaken {count' bytes' : Int} (h : Within options start count bytes site)
    (hcount : count' ≤ count) (hbytes : bytes' ≤ bytes) (hcount' : 0 ≤ count')
    (hbytes' : 0 ≤ bytes') : Within options start count' bytes' site := by
  obtain ⟨hmessages, hnonneg, _, _, hcount_le, htotal_le⟩ := h
  exact ⟨hmessages, hnonneg, by omega, by omega, by omega, by omega⟩

theorem stores (h : Within options start count bytes site)
    (hcount : 1 ≤ count + site.budget.messages) (hbytes : size ≤ bytes + site.budget.bytes)
    (hstored : storedCount start site' ≤ storedCount start site + 1 ∧
      storedBytes start site' ≤ storedBytes start site + size)
    (hbudget : site'.budget = site.budget) :
    Within options start (count - 1) (bytes - size) site' := by
  obtain ⟨hmessages, hnonneg, _, _, hcount_le, htotal_le⟩ := h
  obtain ⟨hcount', htotal'⟩ := hstored
  rw [← hbudget] at hcount hbytes hmessages hnonneg hcount_le htotal_le
  exact ⟨hmessages, hnonneg, by omega, by omega, by omega, by omega⟩

theorem charge {messages weight : Int} (h : Within options start count bytes site)
    (hmessages : messages ≤ site.budget.messages) (hweight : weight ≤ site.budget.bytes) :
    Within options start (count + messages) (bytes + weight) { site with
      budget := ⟨site.budget.messages - messages, site.budget.bytes - weight⟩ } := by
  obtain ⟨_, _, hcovered, hcovered', hcount_le, htotal_le⟩ := h
  constructor
  · exact Int.sub_nonneg.mpr hmessages
  · exact Int.sub_nonneg.mpr hweight
  · change 0 ≤ count + messages + (site.budget.messages - messages)
    omega
  · change 0 ≤ bytes + weight + (site.budget.bytes - weight)
    omega
  · change storedCount start site + (count + messages) + (site.budget.messages - messages) ≤ _
    omega
  · change storedBytes start site + (bytes + weight) + (site.budget.bytes - weight) ≤ _
    omega

end Within

/-- A message that is stored and then not charged: one whose view does not render, or one whose
directory is not synced. -/
def Uncharged (host : PullHost) (source : CloudflareSection) : PullEvent → Prop
  | ⟨.getObject _, site, some (.ok (some download))⟩ =>
    ∃ error, ViewFails host.triageView host.parser site.index source.importAs download.raw error ∧
      error.errorCode ≠ "store_error"
  | ⟨.syncEvidence _, _, some (.error _)⟩ => True
  | _ => False

variable {host : PullHost} {source : CloudflareSection}

/-- A program that keeps to the budget up to where it ends, wherever it is cut off. -/
abbrev Charged (host : PullHost) (source : CloudflareSection) (options : PullOptions)
    (start : Site) (post : α → Site → Prop) (p : Pull α) (site : Site) : Prop :=
  p.Keeps (Uncharged host source) (Bounded options start) post (fun _ => Bounded options start) site

theorem keeps_unstored {p : Pull α} (hp : p.Writes Unstored)
    (h : Within options start count bytes site) :
    p.Keeps (Uncharged host source) (Bounded options start)
      (fun _ site' => Unstored site site' ∧ Within options start count bytes site')
      (fun _ => Within options start count bytes) site := by
  apply Program.Keeps.of_writes hp Unstored.refl Unstored.trans
  · exact fun _ hsame => (h.unstored hsame).bounded
  · exact fun _ _ hsame => ⟨hsame, h.unstored hsame⟩
  · exact fun _ _ hsame => h.unstored hsame

theorem charged_unstored {p : Pull α} (hp : p.Writes Unstored)
    (h : Within options start count bytes site) :
    Charged host source options start
      (fun _ site' => Unstored site site' ∧ Within options start count bytes site') p site :=
  (keeps_unstored hp h).mono (fun _ _ hend => hend) fun _ _ hend => hend.bounded

theorem charged_unstored_end {p : Pull α} (hp : p.Writes Unstored)
    (h : Within options start count bytes site) :
    Charged host source options start (fun _ => Within options start count bytes) p site :=
  (charged_unstored hp h).mono (fun _ _ hend => hend.2) fun _ _ hend => hend

theorem charged_unstored_bind {p : Pull α} {f : α → Pull β} {post : β → Site → Prop}
    (hp : p.Writes Unstored) (h : Within options start count bytes site)
    (hf : ∀ value site', Unstored site site' → Within options start count bytes site' →
      Charged host source options start post (f value) site') :
    Charged host source options start post (p.bind f) site :=
  (charged_unstored hp h).bind fun value site' hend => hf value site' hend.1 hend.2

/-- What an ingestion stores was not charged by it. -/
def OutcomeWithin (options : PullOptions) (start : Site) (count bytes : Int) (size : Nat) :
    IngestOutcome → Site → Prop
  | .merged _ _ => Within options start count bytes
  | .stored _ _ => Within options start (count - 1) (bytes - size)

/-- An ingestion that the budget holds: only a view that fails leaves a message behind. -/
theorem keeps_ingestPulled {input : IngestMessage}
    (h : Within options start count bytes site) (hcount : 1 ≤ count + site.budget.messages)
    (hbytes : input.rawEml.length ≤ bytes + site.budget.bytes) :
    (ingestPulled host input).Keeps (Uncharged host source) (Bounded options start)
      (fun outcome site' => site'.budget = site.budget ∧
        OutcomeWithin options start count bytes input.rawEml.length outcome site')
      (fun error site' => Bounded options start site' ∧
        (ViewFails host.triageView host.parser site.index input.importAs input.rawEml error ∨
          Within options start count bytes site')) site := by
  have hkeeps : ∀ s : IngestState, KeepsMail site.workspace s.workspace →
      Within options start count bytes (Site.ingestion.put site s) := fun s hmail =>
    h.unstored ⟨hmail, rfl, rfl⟩
  have hadds : ∀ s : IngestState, AddsMail input.rawEml site.workspace s.workspace →
      Within options start (count - 1) (bytes - input.rawEml.length)
        (Site.ingestion.put site s) := fun s hmail =>
    h.stores hcount hbytes (stored_le_of_mail start hmail rfl) rfl
  apply Program.Keeps.zoom
  apply Program.wp_weaken accounts_ingestMessageWith
  · rintro _ s (hmail | ⟨_, hmail⟩)
    · exact (hkeeps s hmail).bounded
    · exact (hadds s hmail).bounded
  · intro outcome _ s hmail
    refine ⟨rfl, ?_⟩
    cases outcome with
    | merged messageId flagsUpdated => exact hkeeps s hmail
    | stored messageId duplicates => exact hadds s hmail.2
  · rintro error _ s (hmail | ⟨hview, hmail⟩)
    · exact ⟨(hkeeps s hmail).bounded, .inr (hkeeps s hmail)⟩
    · exact ⟨(hadds s hmail).bounded, .inl hview⟩

theorem charged_charge {messages weight : Int} (h : Within options start count bytes site)
    (hmessages : messages ≤ site.budget.messages) (hweight : weight ≤ site.budget.bytes) :
    Charged host source options start
      (fun _ => Within options start (count + messages) (bytes + weight))
      (Pull.charge messages weight) site := by
  have hend := h.charge hmessages hweight
  exact Program.Keeps.write hend.bounded hend

section Imap

def envelopeWeight (envelope : RemoteEnvelope) : Option Nat := some envelope.budgetSize

/-- The messages that were admitted are reserved for at the sizes their headers told. -/
def Reserves (options : PullOptions) (start : Site) (tallies : PullTally × MailboxTally)
    (site : Site) : Prop :=
  Within options start (newKeys envelopeWeight ∅ tallies.2.newEnvelopes).card
    (newTotal envelopeWeight ∅ tallies.2.newEnvelopes) site

variable {tallies : PullTally × MailboxTally}

theorem charged_admitEnvelope {envelope : RemoteEnvelope}
    (h : Reserves options start tallies site) :
    Charged host source options start (Reserves options start)
      (admitEnvelope host tallies envelope) site := by
  apply Program.Keeps.read
  dsimp only
  split
  · apply charged_unstored_bind (Unstored.of_refreshes (Refreshes.refreshKnown _ _ _)) h
    exact fun _ _ _ hend => Program.Keeps.ret hend
  · split
    · exact Program.Keeps.ret h
    · rename_i hfunds
      have hother : ∀ other, other ≠ envelope.uid →
          weightAt envelopeWeight (tallies.2.newEnvelopes.insert envelope.uid envelope) other =
            weightAt envelopeWeight tallies.2.newEnvelopes other := by
        intro other hne
        unfold weightAt
        rw [Std.ExtTreeMap.getElem?_insert, if_neg]
        rw [Std.LawfulEqCmp.compare_eq_iff_eq]
        exact hne.symm
      have hself : (weightAt envelopeWeight
          (tallies.2.newEnvelopes.insert envelope.uid envelope) envelope.uid).getD 0 =
            envelope.budgetSize := by
        unfold weightAt
        rw [Std.ExtTreeMap.getElem?_insert_self]
        rfl
      have hcard := card_newKeys_le ∅ hother
      have htotal := newTotal_le ∅ hother
      rw [hself] at htotal
      have hnonneg := h.messages_nonneg
      have hreserved : Charged host source options start
          (fun _ => Within options start
            ((newKeys envelopeWeight ∅ tallies.2.newEnvelopes).card + 1)
            (newTotal envelopeWeight ∅ tallies.2.newEnvelopes + envelope.budgetSize))
          (Pull.charge 1 envelope.budgetSize) site := by
        apply charged_charge h
        · omega
        · omega
      apply hreserved.bind
      intro _ site' hend
      apply Program.Keeps.ret
      apply hend.weaken
      · exact Int.ofNat_le.mpr hcard
      · exact Int.ofNat_le.mpr htotal
      · exact Int.natCast_nonneg _
      · exact Int.natCast_nonneg _

theorem newEnvelopes_foldl (block : MailboxTally → γ → MailboxTally)
    (hblock : ∀ tally item, (block tally item).newEnvelopes = tally.newEnvelopes)
    (items : List γ) (tally : MailboxTally) :
    (items.foldl block tally).newEnvelopes = tally.newEnvelopes := by
  induction items generalizing tally with
  | nil => rfl
  | cons item rest ih => exact (ih (block tally item)).trans (hblock tally item)

theorem charged_admitBatch {mailbox : String} {uidValidity : Nat} {uids : List Nat}
    (h : Reserves options start tallies site) :
    Charged host source options start (Reserves options start)
      (admitBatch host mailbox uidValidity tallies uids) site := by
  have hheaders : (fetchHeaderBatch mailbox uidValidity uids).Writes Unstored :=
    (Program.Writes.perform _).bind fun _ => Program.Writes.ret _
  apply charged_unstored_bind hheaders h
  rintro ⟨envelopes, missing⟩ site' _ hend
  apply Program.Keeps.gather fun _ => Reserves options start
  · have hsame := newEnvelopes_foldl MailboxTally.block (fun _ _ => rfl) missing tallies.2
    unfold Reserves
    dsimp only
    rw [hsame]
    exact hend
  · exact fun _ _ _ _ hreserves => charged_admitEnvelope hreserves

/-- What is reserved for a UID. -/
def reservedFor (envelopes : Std.ExtTreeMap Nat RemoteEnvelope) (uid : Nat) : Nat :=
  (weightAt envelopeWeight envelopes uid).getD 0

/-- Bodies of these UIDs are still to come. -/
def Expects (options : PullOptions) (start : Site) (envelopes : Std.ExtTreeMap Nat RemoteEnvelope)
    (uids : List Nat) (tallies : PullTally × MailboxTally) (site : Site) : Prop :=
  tallies.2.newEnvelopes = envelopes ∧
    Within options start uids.length (uids.map (reservedFor envelopes)).sum site

variable {envelopes : Std.ExtTreeMap Nat RemoteEnvelope} {uids uids' : List Nat}
  {target : PullTarget} {tally : PullTally} {remote : RemoteMessage}

theorem Reserves.expects (h : Reserves options start tallies site) :
    Expects options start tallies.2.newEnvelopes tallies.2.newEnvelopes.keys tallies site := by
  unfold Reserves at h
  have hcard := card_newKeys_empty RemoteEnvelope.budgetSize tallies.2.newEnvelopes
  have htotal := newTotal_empty RemoteEnvelope.budgetSize tallies.2.newEnvelopes
  refine ⟨rfl, h.weaken ?_ ?_ (Int.natCast_nonneg _) (Int.natCast_nonneg _)⟩
  · exact Int.ofNat_le.mpr hcard.ge
  · exact Int.ofNat_le.mpr htotal.ge

theorem Expects.subset (h : Expects options start envelopes uids tallies site)
    (hsub : List.Subperm uids' uids) : Expects options start envelopes uids' tallies site := by
  obtain ⟨hsame, hwithin⟩ := h
  have hsum : (uids'.map (reservedFor envelopes)).sum ≤ (uids.map (reservedFor envelopes)).sum := by
    obtain ⟨middle, hperm, hsublist⟩ := hsub
    calc (uids'.map (reservedFor envelopes)).sum
        = (middle.map (reservedFor envelopes)).sum := (hperm.map _).sum_eq.symm
      _ ≤ (uids.map (reservedFor envelopes)).sum :=
        (hsublist.map _).sum_le_sum fun _ _ => Nat.zero_le _
  refine ⟨hsame, hwithin.weaken ?_ ?_ (Int.natCast_nonneg _) (Int.natCast_nonneg _)⟩
  · exact Int.ofNat_le.mpr hsub.length_le
  · exact Int.ofNat_le.mpr hsum

/-- A body that came is stored within its charge, and merged bytes are given back. -/
theorem charged_storeFetched (h : Within options start count bytes site) (hcount : 1 ≤ count)
    (hbytes : remote.rawEml.length ≤ bytes) :
    Charged host source options start
      (fun _ => Within options start (count - 1) (bytes - remote.rawEml.length))
      (storeFetched host target tally remote) site := by
  have hmessages := h.messages_nonneg
  have hnonneg := h.bytes_nonneg
  have hheld : (pulledMessage host target remote).rawEml.length ≤ bytes + site.budget.bytes := by
    change (remote.rawEml.length : Int) ≤ _
    omega
  have hingest : Charged host source options start
      (fun outcome site' => site'.budget = site.budget ∧
        OutcomeWithin options start count bytes remote.rawEml.length outcome site')
      (ingestPulled host (pulledMessage host target remote)) site :=
    (keeps_ingestPulled h (by omega) hheld).mono (fun _ _ hend => hend) fun _ _ hend => hend.1
  apply hingest.bind
  rintro outcome site' ⟨hbudget, hend⟩
  cases outcome with
  | stored messageId duplicates => exact Program.Keeps.ret hend
  | merged messageId flagsUpdated =>
    have hrefunded : Charged host source options start
        (fun _ => Within options start (count + -1) (bytes + -remote.rawEml.length))
        (Pull.charge (-1) (-remote.rawEml.length)) site' := by
      apply charged_charge hend
      · rw [hbudget]
        omega
      · rw [hbudget]
        omega
    apply hrefunded.bind
    intro _ site' hend
    apply charged_unstored_bind
      (Unstored.of_refreshes (Refreshes.ingest (KeepsEvidence.restoreRemoteDeletedMessage _ _ _))) hend
    exact fun _ _ _ hend => Program.Keeps.ret hend

theorem charged_receiveFetched
    (h : Expects options start envelopes (remote.uid :: uids) tallies site) :
    Charged host source options start (Expects options start envelopes uids)
      (receiveFetched host target tallies remote) site := by
  have hskip : Expects options start envelopes uids tallies site := h.subset List.Subperm.cons_self
  unfold receiveFetched
  split
  · exact Program.Keeps.ret hskip
  · rename_i envelope hfound
    obtain ⟨hsame, hwithin⟩ := h
    have hreserved : reservedFor envelopes remote.uid = envelope.budgetSize := by
      unfold reservedFor weightAt
      rw [← hsame, hfound]
      rfl
    rw [List.map_cons, List.sum_cons, List.length_cons, hreserved] at hwithin
    apply Program.Keeps.read
    dsimp only
    split
    · exact Program.Keeps.ret hskip
    · rename_i hfunds
      have hmessages := hwithin.messages_nonneg
      have hbytes := hwithin.bytes_nonneg
      apply Program.Keeps.bind (charged_charge hwithin hmessages (by omega))
      intro _ site' hend
      apply (charged_storeFetched hend (by omega) (by omega)).bind
      intro tally site' hend
      apply Program.Keeps.ret
      refine ⟨hsame, hend.weaken ?_ ?_ (Int.natCast_nonneg _) (Int.natCast_nonneg _)⟩
      · omega
      · omega

/-- The bodies that were fetched are of UIDs that were asked for, each of them once. -/
structure Fetched (uids : List Nat) (batch : BodyFetchBatch) : Prop where
  nodup : (batch.messages.map (·.uid)).Nodup
  answered : ∀ uid ∈ batch.messages.map (·.uid), uid ∈ batch.answered
  asked : batch.messages.map (·.uid) ⊆ uids

theorem Fetched.skip {batch : BodyFetchBatch} (h : Fetched uids batch) (reason mailbox : String)
    (uid : Nat) : Fetched uids (batch.skip reason mailbox uid) :=
  ⟨h.nodup, h.answered, h.asked⟩

theorem Fetched.receive {batch : BodyFetchBatch} (h : Fetched uids batch)
    (hasked : remote.uid ∈ uids) (hnew : remote.uid ∉ batch.answered) :
    Fetched uids { batch with
      answered := remote.uid :: batch.answered, messages := batch.messages ++ [remote] } := by
  have huids : (batch.messages ++ [remote]).map (·.uid) =
      batch.messages.map (·.uid) ++ [remote.uid] := List.map_append
  constructor
  · rw [huids, ← List.concat_eq_append]
    exact h.nodup.concat fun hmem => hnew (h.answered _ hmem)
  · rw [huids]
    intro uid hmem
    rcases List.mem_append.mp hmem with hmem | hmem
    · exact List.mem_cons_of_mem _ (h.answered uid hmem)
    · rw [List.mem_singleton.mp hmem]
      exact List.mem_cons_self
  · rw [huids]
    exact List.append_subset.mpr ⟨h.asked, List.cons_subset.mpr ⟨hasked, List.nil_subset _⟩⟩

theorem charged_fetchAnswered {mailbox : String} {uidValidity : Nat} {mode : BodyFetchMode}
    {batch : BodyFetchBatch} {fetch : SizeFetch} (hbatch : Fetched uids batch)
    (h : Within options start count bytes site) :
    Charged host source options start
      (fun batch site' => Fetched uids batch ∧ Within options start count bytes site')
      (fetchAnswered mailbox uidValidity mode uids batch fetch) site := by
  unfold fetchAnswered
  split
  · exact Program.Keeps.ret ⟨hbatch, h⟩
  · rename_i uid _
    split
    · exact Program.Keeps.ret ⟨hbatch, h⟩
    · rename_i hnew
      obtain ⟨hasked, hunanswered⟩ := not_or.mp hnew
      have hanswered : Fetched uids { batch with answered := uid :: batch.answered } :=
        ⟨hbatch.nodup, fun other hmem => List.mem_cons_of_mem _ (hbatch.answered other hmem),
          hbatch.asked⟩
      unfold fetchSizedBody
      split
      · exact Program.Keeps.ret ⟨hanswered.skip _ _ _, h⟩
      · apply charged_unstored_bind (Program.Writes.perform _) h
        intro body site' _ hend
        split
        · exact Program.Keeps.ret ⟨hanswered.skip _ _ _, hend⟩
        · split
          · exact Program.Keeps.ret ⟨hanswered.skip _ _ _, hend⟩
          · exact Program.Keeps.ret ⟨hbatch.receive (not_not.mp hasked) hunanswered, hend⟩

theorem charged_fetchCurrentMailboxUidBatch {mailbox : String} {uidValidity : Nat}
    {mode : BodyFetchMode} (h : Within options start count bytes site) :
    Charged host source options start
      (fun batch site' => Fetched uids batch ∧ Within options start count bytes site')
      (fetchCurrentMailboxUidBatch mailbox uidValidity uids mode) site := by
  apply charged_unstored_bind (Program.Writes.perform _) h
  intro sizes site' _ hend
  have hgather : Charged host source options start
      (fun batch site' => Fetched uids batch ∧ Within options start count bytes site')
      (Program.gather sizes {} (fetchAnswered mailbox uidValidity mode uids)) site' := by
    apply Program.Keeps.gather
      fun _ batch site' => Fetched uids batch ∧ Within options start count bytes site'
    · exact ⟨⟨List.nodup_nil, fun _ hmem => (List.not_mem_nil hmem).elim, List.nil_subset _⟩, hend⟩
    · exact fun _ _ _ _ hround => charged_fetchAnswered hround.1 hround.2
  apply hgather.bind
  rintro batch site' ⟨hbatch, hend⟩
  refine Program.Keeps.ret ⟨?_, hend⟩
  generalize uids.filter (fun uid => decide (uid ∉ batch.answered)) = unanswered
  induction unanswered generalizing batch with
  | nil => exact hbatch
  | cons uid rest ih => exact ih _ (hbatch.skip _ _ _)

theorem charged_receiveBatch {uidValidity : Nat} {mode : BodyFetchMode}
    (h : Expects options start envelopes (uids ++ uids') tallies site) :
    Charged host source options start (Expects options start envelopes uids')
      (receiveBatch host target uidValidity mode tallies uids) site := by
  apply (charged_fetchCurrentMailboxUidBatch h.2).bind
  rintro fetched site' ⟨hfetched, hend⟩
  have hblocked := newEnvelopes_foldl (fun tally (skipped : SkippedMessage) => tally.block skipped.uid)
    (fun _ _ => rfl) fetched.skipped tallies.2
  have hsub : List.Subperm (fetched.messages.map (·.uid) ++ uids') (uids ++ uids') :=
    (List.subperm_append_right uids').mpr (List.subperm_of_subset hfetched.nodup hfetched.asked)
  dsimp only
  apply Program.Keeps.gather fun (messages : List RemoteMessage) =>
    Expects options start envelopes (messages.map (·.uid) ++ uids')
  · have hexpects : Expects options start envelopes (uids ++ uids')
        (tallies.1.skip fetched.skipped, fetched.skipped.foldl (fun mailbox skipped =>
          mailbox.block skipped.uid) tallies.2) site' := ⟨hblocked.trans h.1, hend⟩
    exact hexpects.subset hsub
  · exact fun _ _ _ _ hround => charged_receiveFetched hround

theorem flatten_chunksFrom {chunk fuel : Nat} {items : List α} (hchunk : 0 < chunk)
    (hfuel : items.length ≤ fuel) : (chunksFrom chunk fuel items).flatten = items := by
  induction fuel generalizing items with
  | zero =>
    rw [List.length_eq_zero_iff.mp (Nat.le_zero.mp hfuel)]
    rfl
  | succ fuel ih =>
    cases items with
    | nil => rfl
    | cons item rest =>
      have hrest : ((item :: rest).drop chunk).length ≤ fuel := by
        rw [List.length_cons] at hfuel
        rw [List.length_drop, List.length_cons]
        omega
      change ((item :: rest).take chunk ::
        chunksFrom chunk fuel ((item :: rest).drop chunk)).flatten = item :: rest
      rw [List.flatten_cons, ih hrest, List.take_append_drop]

theorem charged_pullTargetMailbox {mode : BodyFetchMode} {cursors : PullCursors}
    {limits : PullOptions} {report : PullReport} (h : Within options start 0 0 site) :
    Charged host source options start (fun _ => Within options start 0 0)
      (pullTargetMailbox host limits mode cursors report target) site := by
  apply charged_unstored_bind (Unstored.of_refreshes (Refreshes.selectMailboxHeaderUids _ _ _)) h
  intro selection site' _ hend
  have hadmitted : Charged host source options start (Reserves options start)
      (Program.gather (chunks bodyFetchBatchSize selection.uids)
        (report.tally, { highestObservedUid := selection.previousHighestUid.getD 0 })
        (admitBatch host target.mailbox selection.uidValidity)) site' := by
    apply Program.Keeps.gather fun _ => Reserves options start
    · have hnone : newKeys envelopeWeight ∅ (∅ : Std.ExtTreeMap Nat RemoteEnvelope) = ∅ :=
        newKeys_self _
      have htotal : newTotal envelopeWeight ∅ (∅ : Std.ExtTreeMap Nat RemoteEnvelope) = 0 :=
        newTotal_self _
      unfold Reserves
      rw [hnone, htotal]
      exact hend
    · exact fun _ _ _ _ hround => charged_admitBatch hround
  apply hadmitted.bind
  intro admitted site' hend
  have hreceived : Charged host source options start
      (Expects options start admitted.2.newEnvelopes [])
      (Program.gather (chunks bodyFetchBatchSize admitted.2.newEnvelopes.keys) admitted
        (receiveBatch host target selection.uidValidity mode)) site' := by
    apply Program.Keeps.gather
      fun batches => Expects options start admitted.2.newEnvelopes batches.flatten
    · have hflatten : (chunks bodyFetchBatchSize admitted.2.newEnvelopes.keys).flatten =
          admitted.2.newEnvelopes.keys := flatten_chunksFrom (by decide) (Nat.le_refl _)
      rw [hflatten]
      exact hend.expects
    · exact fun _ _ _ _ hround => charged_receiveBatch hround
  apply hreceived.bind
  exact fun _ _ hend => Program.Keeps.ret hend.2

/-- The budget of a source is what the pull has left. -/
structure Funded (options : PullOptions) (start : Site) (limits : PullOptions) (site : Site) :
    Prop where
  within : Within options start 0 0 site
  budget : site.budget = ⟨limits.maxNewMessages, limits.maxTotalBytes⟩

variable {limits : PullOptions}

theorem charged_setBudget (h : Funded options start limits site) :
    Charged host source options start (fun _ => Within options start 0 0)
      (Pull.setBudget limits) site := by
  have hsame : { site with budget := ⟨limits.maxNewMessages, limits.maxTotalBytes⟩ } = site := by
    rw [← h.budget]
  apply Program.Keeps.write
  · rw [hsame]
    exact h.within.bounded
  · rw [hsame]
    exact h.within

theorem charged_pullWithProgress {config : MailConfig} {allowUnbounded : Bool}
    {ids : List String} (h : Funded options start limits site) :
    Charged host source options start (fun _ => Within options start 0 0)
      (pullWithProgress host config allowUnbounded ids limits) site := by
  apply charged_unstored_bind (Unstored.of_refreshes (Refreshes.resolveTargets _ _)) h.within
  intro targets site' hsame hend
  have hfunded := hsame.budget.trans h.budget
  apply charged_unstored_bind (Unstored.of_refreshes (Refreshes.bodyFetchMode _ _)) hend
  intro mode site' hsame hend
  have hfunded := hsame.budget.trans hfunded
  have hsession : Charged host source options start (fun _ => Within options start 0 0)
      (pullWorkspaceSession host targets limits mode) site' := by
    apply charged_unstored_bind (Unstored.of_refreshes (Refreshes.loadIndex _)) hend
    intro _ site' hsame hend
    apply (charged_setBudget ⟨hend, hsame.budget.trans hfunded⟩).bind
    intro _ site' hend
    apply charged_unstored_bind Unstored.loadPullCursors hend
    rintro ⟨cursors, _⟩ site' _ hend
    apply Program.Keeps.gather fun _ _ => Within options start 0 0
    · exact hend
    · exact fun _ _ _ _ hround => charged_pullTargetMailbox hround
  apply hsession.bind
  intro report site' hend
  apply charged_unstored_end _ hend
  apply (Unstored.of_refreshes (Refreshes.reconcilePulled _)).bind
  intro _
  apply (Unstored.commitPullCursors _ _ _).bind
  intro _
  exact (Program.Writes.perform _).bind fun _ => Program.Writes.ret _

end Imap

section R2

variable {tally : R2Tally} {key : String} {download : R2Download} {object : R2Object}

theorem charged_cleanupObject {quotaManaged : Bool} (h : Within options start 0 0 site) :
    Charged host source options start (fun _ => Within options start 0 0)
      (cleanupObject host source key quotaManaged tally) site :=
  charged_unstored_end (Unstored.of_journalOnly (JournalOnly.cleanupObject _ _ _ _ _)) h

theorem charged_chargeOutcome {outcome : IngestOutcome} (hmessages : 0 < site.budget.messages)
    (hbytes : size ≤ site.budget.bytes) (h : OutcomeWithin options start 0 0 size outcome site) :
    Charged host source options start (fun _ => Within options start 0 0)
      (chargeOutcome size tally outcome) site := by
  cases outcome with
  | merged messageId flagsUpdated => exact Program.Keeps.ret h
  | stored messageId duplicates =>
    apply (charged_charge h (Int.add_one_le_of_lt hmessages) hbytes).bind
    intro _ site' hend
    apply Program.Keeps.ret
    exact hend.weaken (by omega) (by omega) (Int.le_refl 0) (Int.le_refl 0)

theorem charged_concludeImport {outcome : IngestOutcome} (hmessages : 0 < site.budget.messages)
    (hbytes : download.raw.length ≤ site.budget.bytes)
    (h : OutcomeWithin options start 0 0 download.raw.length outcome site) :
    Charged host source options start (fun _ => Within options start 0 0)
      (concludeImport host source key download tally outcome) site := by
  have hrecorded {receipt : Int → Receipt} : Charged host source options start
      (fun _ site' => Unstored site site' ∧
        OutcomeWithin options start 0 0 download.raw.length outcome site')
      (recordImport (source.objectId host.blake3 key) receipt tally.journal) site := by
    cases outcome with
    | merged messageId flagsUpdated =>
      exact charged_unstored (Unstored.of_journalOnly (JournalOnly.recordImport _ _ _)) h
    | stored messageId duplicates =>
      exact charged_unstored (Unstored.of_journalOnly (JournalOnly.recordImport _ _ _)) h
  apply hrecorded.bind
  rintro journal site' ⟨hsame, hend⟩
  rw [← hsame.budget] at hmessages hbytes
  apply (charged_chargeOutcome hmessages hbytes hend).bind
  exact fun _ _ hend => charged_cleanupObject hend

/-- The message of a download is stored without a charge only when its view fails. -/
theorem charged_importDownload
    (hgood : ∀ error, ViewFails host.triageView host.parser site.index source.importAs
      download.raw error → error.errorCode = "store_error")
    (hmessages : 0 < site.budget.messages) (hbytes : download.raw.length ≤ site.budget.bytes)
    (h : Within options start 0 0 site) :
    Charged host source options start (fun _ => Within options start 0 0)
      (importDownload host source key tally download) site := by
  have hprepare : Charged host source options start
      (fun _ site' => JournalOnly site site')
      (prepareTask host download.raw tally.journal) site := by
    apply Program.Keeps.of_writes (JournalOnly.prepareTask _ _ _) JournalOnly.refl JournalOnly.trans
    · exact fun _ hsame => (h.unstored hsame.unstored).bounded
    · exact fun _ _ hsame => hsame
    · exact fun _ _ hsame => (h.unstored hsame.unstored).bounded
  apply hprepare.bind
  rintro ⟨journal, prepared⟩ _ ⟨stored, rfl⟩
  have hpublished : Within options start 0 0 { site with journal := stored } :=
    h.unstored (JournalOnly.unstored ⟨stored, rfl⟩)
  have hingest : Charged host source options start
      (fun outcome site' => match outcome with
        | .ok outcome => site'.budget = site.budget ∧
            OutcomeWithin options start 0 0 download.raw.length outcome site'
        | .error error => Bounded options start site' ∧
            (ViewFails host.triageView host.parser site.index source.importAs download.raw error ∨
              Within options start 0 0 site'))
      (ingestPulled host (downloadedMessage source download)).attempt
      { site with journal := stored } := by
    have hheld : (downloadedMessage source download).rawEml.length ≤ 0 + site.budget.bytes := by
      rw [Int.zero_add]
      exact hbytes
    apply Program.Keeps.attempt
    exact keeps_ingestPulled hpublished
      (by change 1 ≤ 0 + site.budget.messages; omega) hheld
  apply hingest.bind
  intro outcome site' hend
  cases outcome with
  | ok outcome =>
    obtain ⟨hbudget, hend⟩ := hend
    apply charged_concludeImport _ _ hend
    · rw [hbudget]
      exact hmessages
    · rw [hbudget]
      exact hbytes
  | error error =>
    obtain ⟨hbounded, hend⟩ := hend
    change Program.Keeps _ _ _ _ (refuseImport host key download.raw prepared _ error) site'
    unfold refuseImport
    split
    · exact Program.Keeps.fail hbounded
    · rename_i hcode
      have hwithin := hend.resolve_left fun hview => hcode (hgood error hview)
      apply charged_unstored_bind (Unstored.of_journalOnly (JournalOnly.withdrawTask _ _ _)) hwithin
      exact fun _ _ _ hend => Program.Keeps.ret hend

theorem messages_ne_zero_of_skipReason {budget : PullBudget}
    (h : source.skipReason budget object = none) : budget.messages ≠ 0 := by
  intro hzero
  unfold CloudflareSection.skipReason at h
  rw [if_pos hzero] at h
  split at h
  · cases h
  · split at h <;> cases h

theorem charged_importObject (h : Within options start 0 0 site) :
    Charged host source options start (fun _ => Within options start 0 0)
      (importObject host source tally object) site := by
  apply Program.Keeps.read
  cases hskip : source.skipReason site.budget object with
  | some reason => exact Program.Keeps.ret h
  | none =>
    have hdownloaded : Charged host source options start
        (fun downloaded site' => site' = site ∧
          ¬ Uncharged host source ⟨.getObject object.key, site, some downloaded⟩)
        (Program.ask (PullRequest.getObject object.key)) site :=
      Program.Keeps.ask h.bounded fun _ hgood => ⟨rfl, hgood⟩
    apply hdownloaded.bind
    rintro downloaded _ ⟨rfl, hgood⟩
    match downloaded with
    | .error error =>
      dsimp only
      split
      · exact Program.Keeps.ret h
      · exact Program.Keeps.fail h.bounded
    | .ok none => exact Program.Keeps.ret h
    | .ok (some download) =>
      dsimp only
      split
      · exact Program.Keeps.ret h
      · rename_i hheld
        have hnonneg := h.messages_nonneg
        have hne := messages_ne_zero_of_skipReason hskip
        apply charged_importDownload _ (by omega) (Int.not_lt.mp hheld) h
        intro error hview
        by_contra hcode
        exact hgood ⟨error, hview, hcode⟩

theorem charged_pullObjects {limits : PullOptions} {pages : PageLimit}
    {selected : Option (List R2Object)} (h : Funded options start limits site) :
    Charged host source options start (fun _ => Within options start 0 0)
      (pullObjects host source limits pages selected) site := by
  apply charged_unstored_bind (Unstored.selectObjects _ _ _) h.within
  intro objects site' hsame hend
  apply (charged_setBudget ⟨hend, hsame.budget.trans h.budget⟩).bind
  intro _ site' hend
  apply charged_unstored_bind (Unstored.of_refreshes (Refreshes.loadIndex _)) hend
  intro _ site' _ hend
  apply charged_unstored_bind (Unstored.of_journalOnly (JournalOnly.loadJournal? _)) hend
  intro journal site' _ hend
  have hobjects {items : List R2Object} : Charged host source options start
      (fun _ => Within options start 0 0)
      (Program.gather items { journal } (importObject host source)) site' := by
    apply Program.Keeps.gather fun _ _ => Within options start 0 0
    · exact hend
    · exact fun _ _ _ _ hround => charged_importObject hround
  apply hobjects.bind
  intro tally site' hend
  apply charged_unstored_end _ hend
  exact (Program.Writes.perform _).bind fun _ => Program.Writes.ret _

end R2

section Files

variable {channel : ChannelHost} {file : FileSource} {tally : FilesTally} {messageId path : String}

/-- A problem with a file leaves the budget as it was. -/
abbrev Settled (host : PullHost) (source : CloudflareSection) (options : PullOptions)
    (start : Site) (post : α → Site → Prop) (p : Pull α) (site : Site) : Prop :=
  p.Keeps (Uncharged host source) (Bounded options start) post
    (fun _ => Within options start 0 0) site

theorem settled_unstored_bind {p : Pull α} {f : α → Pull β} {post : β → Site → Prop}
    (hp : p.Writes Unstored) (h : Within options start 0 0 site)
    (hf : ∀ value site', Unstored site site' → Within options start 0 0 site' →
      Settled host source options start post (f value) site') :
    Settled host source options start post (p.bind f) site :=
  (keeps_unstored hp h).bind fun value site' hend => hf value site' hend.1 hend.2

/-- Evidence that is linked is there; only a failing sync keeps it from being charged. -/
theorem settled_publishEvidence {evidence : ChannelEvidence}
    (hnew : site.channelEvidence[messageId]? = none) (hmessages : 0 < site.budget.messages)
    (hbytes : evidence.contentJson.length ≤ site.budget.bytes)
    (h : Within options start 0 0 site) :
    Settled host source options start
      (fun _ site' => site'.budget = site.budget ∧
        Within options start (0 - 1) (0 - evidence.contentJson.length) site')
      (publishEvidence messageId evidence) site := by
  have hadds : Adds channelWeight evidence.contentJson.length site.channelEvidence
      (site.channelEvidence.insert messageId evidence) := by
    refine ⟨messageId, ?_, ?_, fun other hne => ?_⟩
    · unfold weightAt
      rw [hnew]
      rfl
    · unfold weightAt
      rw [Std.ExtTreeMap.getElem?_insert_self]
      rfl
    · unfold weightAt
      rw [Std.ExtTreeMap.getElem?_insert, if_neg]
      rw [Std.LawfulEqCmp.compare_eq_iff_eq]
      exact hne.symm
  have hstored : Within options start (0 - 1) (0 - evidence.contentJson.length)
      { site with channelEvidence := site.channelEvidence.insert messageId evidence } := by
    refine h.stores ?_ ?_ (stored_le_of_channel start ?_ hadds) ?_
    · omega
    · omega
    · rfl
    · rfl
  have hlinked : Settled host source options start (fun _ site' => site' = site)
      (Program.perform (PullRequest.linkEvidence messageId)) site :=
    Program.Keeps.perform h.bounded (fun _ _ => rfl) fun _ _ => h
  apply hlinked.bind
  intro _ site' hsame
  rw [hsame]
  have hwritten : Settled host source options start
      (fun _ site' => site'.budget = site.budget ∧
        Within options start (0 - 1) (0 - evidence.contentJson.length) site')
      (Pull.write fun site =>
        { site with channelEvidence := site.channelEvidence.insert messageId evidence }) site :=
    Program.Keeps.write hstored.bounded ⟨rfl, hstored⟩
  apply hwritten.bind
  intro _ site' hend
  exact Program.Keeps.perform hend.2.bounded (fun _ _ => hend) fun _ hgood => (hgood trivial).elim

theorem settled_storeInput {raw : Bytes} (hnew : site.channelEvidence[messageId]? = none)
    (hmessages : 0 < site.budget.messages) (hbytes : raw.length ≤ site.budget.bytes)
    (h : Within options start 0 0 site) :
    Settled host source options start (fun _ => Within options start 0 0)
      (storeInput host file.sourceId messageId raw tally) site := by
  apply settled_unstored_bind (Unstored.persistChannelMetadata _) h
  intro _ site' hsame hend
  rw [← hsame.budget] at hmessages hbytes
  rw [← hsame.channel] at hnew
  apply (settled_publishEvidence hnew hmessages hbytes hend).bind
  rintro _ site' ⟨hbudget, hend⟩
  rw [← hbudget] at hmessages hbytes
  have hend := hend.charge (Int.add_one_le_of_lt hmessages) hbytes
  have hcharged : Settled host source options start (fun _ => Within options start 0 0)
      (Pull.charge 1 raw.length) site' :=
    Program.Keeps.write hend.bounded
      (hend.weaken (by omega) (Int.le_of_eq (Int.sub_add_cancel 0 _).symm) (Int.le_refl 0)
        (Int.le_refl 0))
  apply hcharged.bind
  intro _ site' hend
  apply settled_unstored_bind (Unstored.persistChannelMetadata _) hend
  intro _ site' _ hend
  apply settled_unstored_bind
    (Unstored.of_refreshes (Refreshes.writeWorkspace fun w => keepsMail_writeMessageMaterializedCache w _ _))
    hend
  exact fun _ _ _ hend => Program.Keeps.ret hend

theorem budgetReason_eq_none_iff {budget : PullBudget} {sizeBytes : Nat} :
    budgetReason budget sizeBytes = none ↔ budget.messages ≠ 0 ∧ sizeBytes ≤ budget.bytes := by
  unfold budgetReason
  split
  · rename_i hzero
    constructor
    · rintro ⟨⟩
    · exact fun h => (h.1 hzero).elim
  · rename_i hne
    split
    · rename_i hheld
      constructor
      · rintro ⟨⟩
      · exact fun h => (Int.not_le.mpr hheld h.2).elim
    · rename_i hheld
      exact ⟨fun _ => ⟨hne, Int.not_lt.mp hheld⟩, fun _ => rfl⟩

theorem settled_pullInput (h : Within options start 0 0 site) :
    Settled host source options start (fun _ => Within options start 0 0)
      (pullInput host channel file tally path) site := by
  apply settled_unstored_bind (Unstored.readInput _ _) h
  intro raw site' _ hend
  apply settled_unstored_bind (Program.Writes.ofExcept _) hend
  intro externalMessageId site' _ hend
  apply Program.Keeps.read
  split
  · apply settled_unstored_bind (Program.Writes.ofExcept _) hend
    exact fun _ _ _ hend => Program.Keeps.ret hend
  · rename_i hnew
    split
    · exact Program.Keeps.ret hend
    · rename_i hreason
      obtain ⟨hne, hheld⟩ := budgetReason_eq_none_iff.mp hreason
      have hnonneg := hend.messages_nonneg
      exact settled_storeInput hnew (by omega) hheld hend

theorem charged_attemptInput (h : Within options start 0 0 site) :
    Charged host source options start (fun _ => Within options start 0 0)
      (attemptInput host channel file tally path) site := by
  have hpulled : Charged host source options start (fun _ => Within options start 0 0)
      (pullInput host channel file { tally with candidateCount := tally.candidateCount + 1 }
        path).attempt site :=
    Program.Keeps.attempt (settled_pullInput h)
  apply hpulled.bind
  intro pulled site' hend
  cases pulled with
  | ok tally => exact Program.Keeps.ret hend
  | error error => exact Program.Keeps.ret hend

theorem charged_pullFileSource (h : Within options start 0 0 site) :
    Charged host source options start (fun _ => Within options start 0 0)
      (pullFileSource host channel tally file) site := by
  unfold pullFileSource
  split
  · exact Program.Keeps.ret h
  · have hlisted : Charged host source options start (fun _ => Within options start 0 0)
        (listInputs file).attempt site :=
      charged_unstored_end
        (((Unstored.listInputs _).bind fun _ => Program.Writes.ret _).tryCatch fun _ =>
          Program.Writes.ret _) h
    apply hlisted.bind
    intro listed site' hend
    cases listed with
    | error error => exact Program.Keeps.ret hend
    | ok paths =>
      apply Program.Keeps.gather fun _ _ => Within options start 0 0
      · exact hend
      · exact fun _ _ _ _ hround => charged_attemptInput hround

theorem charged_fileSources {files : List FileSource} (h : Within options start 0 0 site) :
    Charged host source options start (fun _ => Within options start 0 0)
      ((Program.gather files {} (pullFileSource host channel)).bind fun tally =>
        (Program.perform PullRequest.renderRefresh).bind fun _ => Program.ret tally) site := by
  have hfiles : Charged host source options start (fun _ => Within options start 0 0)
      (Program.gather files {} (pullFileSource host channel)) site := by
    apply Program.Keeps.gather fun _ _ => Within options start 0 0
    · exact h
    · exact fun _ _ _ _ hround => charged_pullFileSource hround
  apply hfiles.bind
  intro tally site' hend
  apply charged_unstored_end _ hend
  exact (Program.Writes.perform _).bind fun _ => Program.Writes.ret _

theorem charged_pullFiles {limits : PullOptions} {files : List FileSource}
    (h : Funded options start limits site) :
    Charged host source options start (fun _ => Within options start 0 0)
      (pullFiles host channel files limits) site := by
  apply (charged_setBudget h).bind
  exact fun _ _ hend => charged_fileSources hend

end Files

theorem charged_pullFrom {selected : Bool} {pull : PullOptions → Pull Unit}
    (hpull : ∀ limits site, Funded options start limits site →
      Charged host source options start (fun _ => Within options start 0 0) (pull limits) site)
    (h : Within options start 0 0 site) :
    Charged host source options start (fun _ => Within options start 0 0)
      (pullFrom selected options pull) site := by
  unfold pullFrom
  split
  · apply Program.Keeps.read
    apply hpull
    refine ⟨h, ?_⟩
    have hmessages := Int.toNat_of_nonneg h.messages_nonneg
    have hbytes := Int.toNat_of_nonneg h.bytes_nonneg
    dsimp only
    rw [hmessages, hbytes]
  · exact Program.Keeps.ret h

theorem stored_self (site : Site) : storedCount site site = 0 ∧ storedBytes site site = 0 := by
  unfold storedCount storedBytes
  rw [newKeys_self, newKeys_self, newTotal_self, newTotal_self]
  exact ⟨rfl, rfl⟩

theorem bounded_self (hmessages : 0 ≤ start.budget.messages) (hbytes : 0 ≤ start.budget.bytes) :
    Bounded options start start := by
  obtain ⟨hcount, htotal⟩ := stored_self start
  constructor
  · exact hmessages
  · exact hbytes
  · rw [hcount]
    exact Nat.zero_le _
  · rw [htotal]
    exact Nat.zero_le _

theorem within_options : Within options start 0 0
    { start with budget := ⟨options.maxNewMessages, options.maxTotalBytes⟩ } := by
  obtain ⟨hcount, htotal⟩ := stored_self start
  have hcount : storedCount start
      { start with budget := ⟨options.maxNewMessages, options.maxTotalBytes⟩ } = 0 := hcount
  have htotal : storedBytes start
      { start with budget := ⟨options.maxNewMessages, options.maxTotalBytes⟩ } = 0 := htotal
  constructor
  · exact Int.natCast_nonneg _
  · exact Int.natCast_nonneg _
  · exact Int.add_nonneg (Int.le_refl 0) (Int.natCast_nonneg _)
  · exact Int.add_nonneg (Int.le_refl 0) (Int.natCast_nonneg _)
  · rw [hcount]
    change 0 + 0 + (options.maxNewMessages : Int) ≤ _
    omega
  · rw [htotal]
    change 0 + 0 + (options.maxTotalBytes : Int) ≤ _
    omega

theorem charged_pullSources {channel : ChannelHost} {sources : PullSources} {pages : PageLimit}
    {selection : PullSelection} (hstart : Bounded options start start) :
    Charged host sources.cloudflare options start (fun _ => Within options start 0 0)
      (pullSources host channel sources pages selection options) start := by
  have hvalid : Charged host sources.cloudflare options start (fun _ site => site = start)
      (Program.ofExcept (selection.validate sources options)) start :=
    Program.Keeps.ofExcept (fun _ _ => rfl) fun _ _ => hstart
  apply hvalid.bind
  intro _ site hsame
  rw [hsame]
  have hset : Charged host sources.cloudflare options start (fun _ => Within options start 0 0)
      (Pull.setBudget options) start :=
    Program.Keeps.write within_options.bounded within_options
  apply hset.bind
  intro _ site hend
  have himap : Charged host sources.cloudflare options start (fun _ => Within options start 0 0)
      (pullFrom (selection.pullsImap sources) options (pullImapSource host sources selection))
      site := by
    apply charged_pullFrom _ hend
    intro limits site hfunded
    apply charged_unstored_bind (Program.Writes.ofExcept _) hfunded.within
    intro _ site' hsame hend
    apply (charged_pullWithProgress ⟨hend, hsame.budget.trans hfunded.budget⟩).bind
    exact fun _ _ hend => Program.Keeps.ret hend
  apply himap.bind
  intro _ site hend
  have hobjects : Charged host sources.cloudflare options start
      (fun _ => Within options start 0 0)
      (pullFrom (selection.pullsCloudflare sources) options
        (pullCloudflareSource host sources pages)) site := by
    apply charged_pullFrom _ hend
    intro limits site hfunded
    apply (charged_pullObjects hfunded).bind
    exact fun _ _ hend => Program.Keeps.ret hend
  apply hobjects.bind
  intro _ site hend
  have hfiles : Charged host sources.cloudflare options start (fun _ => Within options start 0 0)
      (pullFrom (selection.pullsFiles sources) options (pullFileSources host channel sources))
      site := by
    apply charged_pullFrom _ hend
    intro limits site hfunded
    apply (charged_pullFiles hfunded).bind
    exact fun _ _ hend => Program.Keeps.ret hend
  apply hfiles.bind
  intro _ site hend
  exact Program.Keeps.read (Program.Keeps.ret hend)

/-- A pull over all its sources keeps to its budget, wherever it is cut off, as long as whatever
it stores is charged. -/
theorem pullSources_keeps_budget {channel : ChannelHost} {sources : PullSources}
    {pages : PageLimit} {selection : PullSelection} {events : List PullEvent}
    {outcome : Outcome AppError PullOptions}
    (hpull : Exec (pullSources host channel sources pages selection options) start events outcome
      site)
    (hcharged : ∀ event ∈ events, ¬ Uncharged host sources.cloudflare event)
    (hmessages : 0 ≤ start.budget.messages) (hbytes : 0 ≤ start.budget.bytes) :
    Bounded options start site := by
  have hstart : Bounded options start start := bounded_self hmessages hbytes
  exact Program.Keeps.exec (charged_pullSources hstart) hpull hcharged hstart

def oneBucket : PullSources where
  config := MailConfig.default
  cloudflare := { r2 := { bucket := some "mail" } }

/-- A bucket with two messages. -/
def twoObjects (_ : Unit) (request : PullRequest) : Except AppError request.Reply × Unit :=
  match request with
  | .listObjects _ _ => (.ok { objects := [⟨"inbox/a", 1⟩, ⟨"inbox/b", 1⟩] }, ())
  | .getObject key => (.ok (some { raw := if key = "inbox/a" then [1] else [2] }), ())
  | .deleteObject _ => (.ok (), ())
  | .renderRefresh => (.ok (), ())
  | _ => (.error { errorCode := "cloudflare_r2_failed", message := "no reply" }, ())

def noFiles : ChannelHost where
  native _ := .error channelFileInvalid
  evidenceId source external := source ++ external
  encodedLength evidence := evidence.contentJson.length

def onlyOneMessage : PullOptions := { maxNewMessages := 1 }

def pullBothObjects (host : PullHost) :
    Trace Site PullRequest PullRequest.Reply AppError PullOptions Unit :=
  (pullSources host noFiles oneBucket 1 { cloudflare := true } onlyOneMessage).trace twoObjects
    neverPulled ()

/-- One object is pulled; the other one stays where it is. -/
theorem pullSources_keeps_budget_pullBothObjects :
    Bounded onlyOneMessage neverPulled (pullBothObjects plainPullHost).state := by
  have hgood : ∀ event ∈ (pullBothObjects plainPullHost).events,
      ¬ Uncharged plainPullHost oneBucket.cloudflare event := by
    intro event hevent hbad
    have hrequests : (pullBothObjects plainPullHost).events.all (fun event =>
        match event.request with
        | .syncEvidence _ => false
        | _ => true) = true := by decide +kernel
    have hrequest := List.all_eq_true.mp hrequests event hevent
    unfold Uncharged at hbad
    split at hbad
    · obtain ⟨error, ⟨_, _, hview⟩, _⟩ := hbad
      cases hview
    · cases hrequest
    · exact hbad
  exact pullSources_keeps_budget (Program.trace_exec _ _ _ _) hgood (by decide) (by decide)

/-- A workspace whose template for messages in triage does not render. -/
def brokenTemplate : PullHost :=
  { plainPullHost with
    triageView := fun _ => .error
      { errorCode := "template_render_failed", message := "failed to render template" } }

/-- Both messages are stored where one was allowed. -/
theorem pullBothObjects_overdraws : ∃ events outcome site,
    Exec (pullSources brokenTemplate noFiles oneBucket 1 { cloudflare := true } onlyOneMessage)
      neverPulled events outcome site ∧ neverPulled.budget = ⟨0, 0⟩ ∧
      onlyOneMessage.maxNewMessages < storedCount neverPulled site := by
  refine ⟨_, _, _, Program.trace_exec twoObjects _ _ (), rfl, ?_⟩
  decide +kernel

end AgentFirstMail
