import AgentFirstMail.Data.Unions
import AgentFirstMail.Review.Sessions
import AgentFirstMail.Store.RemoteMissingRules

namespace AgentFirstMail
open Effect TreeCommand
open Text (eqIgnoreAsciiCase)

theorem kinds_eqIgnoreAsciiCase : Unions.Kinds eqIgnoreAsciiCase where
  refl := Text.eqIgnoreAsciiCase_refl
  symm := Text.eqIgnoreAsciiCase_comm
  trans _ _ _ := Text.eqIgnoreAsciiCase_trans

theorem mergeEnvelopeTo_eq (envelopeTo recipients : List String) :
    mergeEnvelopeTo envelopeTo recipients = Unions.extend eqIgnoreAsciiCase envelopeTo recipients :=
  rfl

theorem kinds_beq [DecidableEq α] : Unions.Kinds (α := α) (· == ·) where
  refl := beq_self_eq_true
  symm _ _ := BEq.comm
  trans _ _ _ hab hbc := beq_iff_eq.mpr ((beq_iff_eq.mp hab).trans (beq_iff_eq.mp hbc))

theorem any_beq_iff [DecidableEq α] {items : List α} {item : α} :
    items.any (· == item) = true ↔ item ∈ items := by
  simp

namespace DeliveryEnvelope
variable {parser : MailParser} {delivery incoming merged stored : DeliveryEnvelope}

/-- The time of receipt after a merge: what was known, unless what comes is earlier. -/
inductive Received (parser : MailParser) : Option String → Option String → Option String → Prop
  | unsaid (known : Option String) : Received parser known none known
  | first {received : String} {date : Int} (hdate : parser.parseRfc3339 received = some date) :
      Received parser none (some received) (some received)
  | earlier {known received : String} {knownDate date : Int}
      (hdate : parser.parseRfc3339 received = some date)
      (hknown : parser.parseRfc3339 known = some knownDate) (hlt : date < knownDate) :
      Received parser (some known) (some received) (some received)
  | later {known received : String} {knownDate date : Int}
      (hdate : parser.parseRfc3339 received = some date)
      (hknown : parser.parseRfc3339 known = some knownDate) (hle : knownDate ≤ date) :
      Received parser (some known) (some received) (some known)

/-- What a merge comes to. -/
structure MergedInto (parser : MailParser) (delivery incoming merged : DeliveryEnvelope) :
    Prop where
  sender : merged.envelopeFrom = delivery.envelopeFrom.or incoming.envelopeFrom
  recipients : merged.envelopeTo =
    Unions.extend eqIgnoreAsciiCase delivery.envelopeTo incoming.envelopeTo
  sources : merged.sources = Unions.extend (· == ·) delivery.sources incoming.sources
  received : Received parser delivery.receivedRfc3339 incoming.receivedRfc3339
    merged.receivedRfc3339

theorem mergedSources_eq (known incoming : List DeliverySource) :
    incoming.foldl (fun out source => if source ∈ out then out else out ++ [source]) known =
      Unions.extend (· == ·) known incoming := by
  have hadd : (fun (out : List DeliverySource) source =>
      if source ∈ out then out else out ++ [source]) = Unions.add (· == ·) := by
    funext out source
    simp only [Unions.add, any_beq_iff]
  rw [hadd]
  rfl

theorem mergedInto_of_merge (h : delivery.merge parser incoming = .ok merged) :
    MergedInto parser delivery incoming merged := by
  obtain ⟨_, _, received, _⟩ := incoming
  obtain ⟨_, _, known, _⟩ := delivery
  simp only [merge, mergedSources_eq] at h
  cases received with
  | none =>
    cases h
    exact ⟨rfl, rfl, rfl, .unsaid known⟩
  | some received =>
    dsimp only at h
    cases hdate : parser.parseRfc3339 received with
    | none =>
      rw [hdate] at h
      cases h
    | some date =>
      rw [hdate] at h
      cases known with
      | none =>
        cases h
        exact ⟨rfl, rfl, rfl, .first hdate⟩
      | some known =>
        dsimp only at h
        cases hknown : parser.parseRfc3339 known with
        | none =>
          rw [hknown] at h
          cases h
        | some knownDate =>
          rw [hknown] at h
          cases h
          by_cases hlt : date < knownDate
          · rw [if_pos hlt]
            exact ⟨rfl, rfl, rfl, .earlier hdate hknown hlt⟩
          · rw [if_neg hlt]
            exact ⟨rfl, rfl, rfl, .later hdate hknown (Int.not_lt.mp hlt)⟩

/-- A time that is kept is known, and no later than another. -/
def NotLater (parser : MailParser) (kept : Option String) (received : String) : Prop :=
  ∃ known instant date, kept = some known ∧ parser.parseRfc3339 known = some instant ∧
    parser.parseRfc3339 received = some date ∧ instant ≤ date

namespace Received
variable {known next now : Option String} {received : String}

theorem eq_known (h : Received parser known none now) : now = known := by
  cases h
  rfl

theorem eq_or_eq (h : Received parser known next now) : now = known ∨ now = next := by
  cases h with
  | unsaid => exact .inl rfl
  | first => exact .inr rfl
  | earlier => exact .inr rfl
  | later => exact .inl rfl

theorem notLater_next (h : Received parser known (some received) now) :
    NotLater parser now received := by
  cases h with
  | first hdate => exact ⟨received, _, _, rfl, hdate, hdate, Int.le_refl _⟩
  | earlier hdate _ _ => exact ⟨received, _, _, rfl, hdate, hdate, Int.le_refl _⟩
  | later hdate hkept hle => exact ⟨_, _, _, rfl, hkept, hdate, hle⟩

theorem notLater_known (h : Received parser (some received) next now) (hnext : next.isSome) :
    NotLater parser now received := by
  cases h with
  | unsaid => cases hnext
  | earlier hdate hknown hlt => exact ⟨_, _, _, rfl, hdate, hknown, Int.le_of_lt hlt⟩
  | later _ hknown _ => exact ⟨_, _, _, rfl, hknown, hknown, Int.le_refl _⟩

theorem notLater (h : Received parser known next now) (hkept : NotLater parser known received) :
    NotLater parser now received := by
  obtain ⟨kept, instant, date, hkept, hinstant, hdate, hle⟩ := hkept
  cases h with
  | unsaid => exact ⟨kept, instant, date, hkept, hinstant, hdate, hle⟩
  | first => cases hkept
  | earlier hnext hknown hlt =>
    cases hkept
    cases hinstant.symm.trans hknown
    exact ⟨_, _, date, rfl, hnext, hdate, Int.le_trans (Int.le_of_lt hlt) hle⟩
  | later => exact ⟨kept, instant, date, hkept, hinstant, hdate, hle⟩

end Received

/-- An envelope tells nothing that is not known. -/
structure Told (parser : MailParser) (stored incoming : DeliveryEnvelope) : Prop where
  sender : incoming.envelopeFrom.isSome → stored.envelopeFrom.isSome
  recipients : ∀ recipient ∈ incoming.envelopeTo,
    stored.envelopeTo.any (eqIgnoreAsciiCase · recipient) = true
  sources : ∀ source ∈ incoming.sources, source ∈ stored.sources
  received : ∀ received ∈ incoming.receivedRfc3339,
    NotLater parser stored.receivedRfc3339 received

theorem Told.merge_eq (h : Told parser stored incoming) :
    stored.merge parser incoming = .ok stored := by
  have hsender : stored.envelopeFrom.or incoming.envelopeFrom = stored.envelopeFrom := by
    cases hstored : stored.envelopeFrom with
    | some sender => rfl
    | none =>
      cases hincoming : incoming.envelopeFrom with
      | none => rfl
      | some sender =>
        have hsome := h.sender (by rw [hincoming]; rfl)
        rw [hstored] at hsome
        cases hsome
  have hsources : Unions.extend (· == ·) stored.sources incoming.sources = stored.sources :=
    Unions.extend_eq_self fun source hmem => any_beq_iff.mpr (h.sources source hmem)
  have hrecipients : Unions.extend eqIgnoreAsciiCase stored.envelopeTo incoming.envelopeTo =
      stored.envelopeTo := Unions.extend_eq_self h.recipients
  have hmerged : ({ stored with
      envelopeFrom := stored.envelopeFrom.or incoming.envelopeFrom
      envelopeTo := Unions.extend eqIgnoreAsciiCase stored.envelopeTo incoming.envelopeTo
      sources := Unions.extend (· == ·) stored.sources incoming.sources } : DeliveryEnvelope) =
      stored := by
    rw [hsender, hsources, hrecipients]
  simp only [merge, mergedSources_eq]
  cases hreceived : incoming.receivedRfc3339 with
  | none => exact congrArg Except.ok hmerged
  | some received =>
    obtain ⟨kept, keptDate, date, hkept, hkeptDate, hdate, hle⟩ := h.received received hreceived
    simp only [hkept, hkeptDate, hdate, if_neg (Int.not_lt.mpr hle)]
    rw [← hkept]
    exact congrArg Except.ok hmerged

theorem Told.of_mergedInto (h : MergedInto parser delivery incoming merged) :
    Told parser merged incoming where
  sender hsome := by
    rw [h.sender]
    cases delivery.envelopeFrom with
    | none => exact hsome
    | some sender => rfl
  recipients := by
    rw [h.recipients]
    exact (kinds_eqIgnoreAsciiCase.isUnion_extend _ _).holds
  sources source hmem := by
    rw [h.sources, ← any_beq_iff]
    exact (kinds_beq.isUnion_extend _ _).holds source hmem
  received received hreceived := by
    have hcases := h.received
    rw [hreceived] at hcases
    exact hcases.notLater_next

theorem Told.of_merged (htold : Told parser delivery other)
    (h : MergedInto parser delivery incoming merged) : Told parser merged other where
  sender hsome := by
    rw [h.sender]
    obtain ⟨sender, hsender⟩ := Option.isSome_iff_exists.mp (htold.sender hsome)
    rw [hsender]
    rfl
  recipients recipient hmem := by
    rw [h.recipients, kinds_eqIgnoreAsciiCase.any_extend, htold.recipients recipient hmem,
      Bool.true_or]
  sources source hmem := by
    rw [h.sources, ← any_beq_iff, kinds_beq.any_extend, any_beq_iff.mpr (htold.sources source hmem),
      Bool.true_or]
  received received hreceived := h.received.notLater (htold.received received hreceived)

/-- The time of receipt after merges: as soon as an envelope tells one, the earliest instant of
all. -/
structure EarliestReceived (parser : MailParser) (prior : DeliveryEnvelope)
    (envelopes : List DeliveryEnvelope) (stored : DeliveryEnvelope) : Prop where
  unsaid : (∀ envelope ∈ envelopes, envelope.receivedRfc3339 = none) →
    stored.receivedRfc3339 = prior.receivedRfc3339
  among : ∃ envelope ∈ prior :: envelopes, stored.receivedRfc3339 = envelope.receivedRfc3339
  least : ∀ told ∈ envelopes, told.receivedRfc3339.isSome → ∀ envelope ∈ prior :: envelopes,
    ∀ received ∈ envelope.receivedRfc3339, NotLater parser stored.receivedRfc3339 received

/-- What merges come to one after another. -/
structure MergedAll (parser : MailParser) (prior : DeliveryEnvelope)
    (envelopes : List DeliveryEnvelope) (stored : DeliveryEnvelope) : Prop where
  sender : stored.envelopeFrom = (prior :: envelopes).findSome? (·.envelopeFrom)
  recipients : stored.envelopeTo =
    Unions.extend eqIgnoreAsciiCase prior.envelopeTo (envelopes.flatMap (·.envelopeTo))
  told : ∀ envelope ∈ envelopes, Told parser stored envelope
  received : EarliestReceived parser prior envelopes stored

variable {prior : DeliveryEnvelope} {envelopes others : List DeliveryEnvelope}

theorem MergedAll.nil : MergedAll parser prior [] prior where
  sender := by
    rw [List.findSome?_cons]
    cases prior.envelopeFrom with
    | none => rfl
    | some sender => rfl
  recipients := rfl
  told _ hmem := nomatch hmem
  received := ⟨fun _ => rfl, ⟨prior, List.mem_cons_self, rfl⟩, fun _ hmem => nomatch hmem⟩

theorem EarliestReceived.next (h : EarliestReceived parser prior envelopes delivery)
    (hmerged : MergedInto parser delivery incoming merged) :
    EarliestReceived parser prior (envelopes ++ [incoming]) merged where
  unsaid hnone := by
    obtain ⟨hnone, hincoming⟩ := List.forall_mem_append.mp hnone
    have hcases := hmerged.received
    rw [hincoming incoming List.mem_cons_self] at hcases
    exact hcases.eq_known.trans (h.unsaid hnone)
  among := by
    obtain ⟨envelope, hmem, heq⟩ := h.among
    cases hmerged.received.eq_or_eq with
    | inl hkept =>
      exact ⟨envelope, List.mem_append_left [incoming] hmem, hkept.trans heq⟩
    | inr hnew => exact ⟨incoming, List.mem_append_right (prior :: envelopes) List.mem_cons_self, hnew⟩
  least told htold hsome envelope hmem received hreceived := by
    rcases List.mem_append.mp (show envelope ∈ (prior :: envelopes) ++ [incoming] from hmem) with
      hknown | hnew
    · by_cases hearlier : ∃ earlier ∈ envelopes, earlier.receivedRfc3339.isSome
      · obtain ⟨earlier, hearlier, hsaid⟩ := hearlier
        exact hmerged.received.notLater (h.least earlier hearlier hsaid envelope hknown received
          hreceived)
      · -- the incoming envelope is the first to tell a time
        have hnone : ∀ earlier ∈ envelopes, earlier.receivedRfc3339 = none := fun earlier hmem =>
          Option.not_isSome_iff_eq_none.mp fun hsaid => hearlier ⟨earlier, hmem, hsaid⟩
        have hincoming : incoming.receivedRfc3339.isSome := by
          rcases List.mem_append.mp htold with hold | hlast
          · exact (hearlier ⟨told, hold, hsome⟩).elim
          · rw [← List.mem_singleton.mp hlast]
            exact hsome
        rcases List.mem_cons.mp hknown with rfl | hold
        · have hcases := hmerged.received
          rw [h.unsaid hnone, hreceived] at hcases
          exact hcases.notLater_known hincoming
        · rw [hnone envelope hold] at hreceived
          cases hreceived
    · have hcases := hmerged.received
      rw [← List.mem_singleton.mp hnew, hreceived] at hcases
      exact hcases.notLater_next

theorem MergedAll.next (h : MergedAll parser prior envelopes delivery)
    (hmerged : MergedInto parser delivery incoming merged) :
    MergedAll parser prior (envelopes ++ [incoming]) merged where
  sender := by
    have hlast : [incoming].findSome? (·.envelopeFrom) = incoming.envelopeFrom := by
      rw [List.findSome?_cons]
      cases incoming.envelopeFrom with
      | none => rfl
      | some sender => rfl
    rw [hmerged.sender, h.sender, ← List.cons_append, List.findSome?_append, hlast]
  recipients := by
    rw [hmerged.recipients, h.recipients, List.flatMap_append, Unions.extend_append,
      List.flatMap_singleton]
  told := List.forall_mem_append.mpr ⟨fun envelope hmem => (h.told envelope hmem).of_merged hmerged,
    List.forall_mem_singleton.mpr (.of_mergedInto hmerged)⟩
  received := h.received.next hmerged

theorem EarliestReceived.notLater (h : EarliestReceived parser prior envelopes stored)
    (hother : EarliestReceived parser prior others merged)
    (hsub : ∀ envelope ∈ prior :: others, envelope ∈ prior :: envelopes)
    (hsaid : ∃ told ∈ envelopes, told.receivedRfc3339.isSome) :
    ∀ received ∈ merged.receivedRfc3339, NotLater parser stored.receivedRfc3339 received := by
  intro received hreceived
  obtain ⟨told, htold, hsome⟩ := hsaid
  obtain ⟨envelope, hmem, heq⟩ := hother.among
  exact h.least told htold hsome envelope (hsub envelope hmem) received (heq ▸ hreceived)

theorem EarliestReceived.isSome (h : EarliestReceived parser prior envelopes stored)
    (hsaid : ∃ told ∈ envelopes, told.receivedRfc3339.isSome) :
    ∃ kept, stored.receivedRfc3339 = some kept := by
  obtain ⟨told, htold, hsome⟩ := hsaid
  obtain ⟨received, hreceived⟩ := Option.isSome_iff_exists.mp hsome
  obtain ⟨kept, _, _, hkept, _⟩ :=
    h.least told htold hsome told (List.mem_cons_of_mem prior htold) received hreceived
  exact ⟨kept, hkept⟩

theorem NotLater.antisymm {known received : String} (hkept : NotLater parser (some known) received)
    (hreceived : NotLater parser (some received) known) :
    parser.parseRfc3339 known = parser.parseRfc3339 received := by
  obtain ⟨_, instant, date, hsome, hinstant, hdate, hle⟩ := hkept
  obtain ⟨_, instant', date', hsome', hinstant', hdate', hle'⟩ := hreceived
  cases hsome
  cases hsome'
  cases hinstant.symm.trans hdate'
  cases hdate.symm.trans hinstant'
  rw [hinstant, hdate, Int.le_antisymm hle hle']

/-- Merging in another order comes to the same recipients and the same instant. -/
theorem MergedAll.perm (h : MergedAll parser prior envelopes stored)
    (hother : MergedAll parser prior others merged) (hperm : others.Perm envelopes) :
    (∀ recipient, merged.envelopeTo.any (eqIgnoreAsciiCase · recipient) =
      stored.envelopeTo.any (eqIgnoreAsciiCase · recipient)) ∧
    merged.receivedRfc3339.bind parser.parseRfc3339 =
      stored.receivedRfc3339.bind parser.parseRfc3339 := by
  constructor
  · intro recipient
    rw [h.recipients, hother.recipients, kinds_eqIgnoreAsciiCase.any_extend,
      kinds_eqIgnoreAsciiCase.any_extend, (hperm.flatMap_right _).any_eq]
  · by_cases hsaid : ∃ told ∈ envelopes, told.receivedRfc3339.isSome
    · have hall : ∀ envelope, envelope ∈ prior :: others ↔ envelope ∈ prior :: envelopes :=
        fun envelope => (hperm.cons prior).mem_iff
      have hsaid' : ∃ told ∈ others, told.receivedRfc3339.isSome := by
        obtain ⟨told, htold, hsome⟩ := hsaid
        exact ⟨told, hperm.mem_iff.mpr htold, hsome⟩
      obtain ⟨known, hknown⟩ := h.received.isSome hsaid
      obtain ⟨received, hreceived⟩ := hother.received.isSome hsaid'
      have hkept := h.received.notLater hother.received (fun e => (hall e).mp) hsaid received
        hreceived
      have hother := hother.received.notLater h.received (fun e => (hall e).mpr) hsaid' known hknown
      rw [hknown] at hkept
      rw [hreceived] at hother
      rw [hknown, hreceived]
      exact (hkept.antisymm hother).symm
    · have hnone : ∀ told ∈ envelopes, told.receivedRfc3339 = none := fun told hmem =>
        Option.not_isSome_iff_eq_none.mp fun hsome => hsaid ⟨told, hmem, hsome⟩
      rw [h.received.unsaid hnone,
        hother.received.unsaid fun told hmem => hnone told (hperm.mem_iff.mp hmem)]

end DeliveryEnvelope

/-- What is stored of how a message was delivered. -/
def Workspace.delivery (w : Workspace) (messageId : String) : DeliveryEnvelope :=
  ((w.metadataFile messageId).bind (·.delivery)).getD {}

section
variable {host : Host} {parser : MailParser} {messageId : String} {incoming : DeliveryEnvelope}
  {tree tree' first last : WorkspaceTree} {events : List TreeEvent}

theorem readMessageMetadataFile_eq_ok_iff {w : Workspace} {metadata : MessageMetadata} :
    w.readMessageMetadataFile host messageId = .ok (some metadata) ↔
      w.metadataFile messageId = some metadata ∧ checkMessageMetadata host metadata = .ok () := by
  rw [Workspace.readMessageMetadataFile]
  cases w.metadataFile messageId with
  | none => exact ⟨fun h => (nomatch h), fun h => (nomatch h.1)⟩
  | some stored =>
    dsimp only [checkMessageMetadata]
    cases hpair : validateMessageSuggestionPair host stored.agentSuggestion
        stored.humanSuggestion with
    | error error =>
      refine ⟨fun h => (nomatch h), fun ⟨heq, h⟩ => ?_⟩
      cases heq
      rw [hpair] at h
      cases h
    | ok =>
      cases hcases : validateCaseRelationshipSuggestion host stored.caseUids with
      | error error =>
        refine ⟨fun h => (nomatch h), fun ⟨heq, h⟩ => ?_⟩
        cases heq
        rw [hpair, hcases] at h
        cases h
      | ok =>
        refine ⟨fun h => ?_, fun ⟨heq, h⟩ => ?_⟩
        · cases h
          exact ⟨rfl, by rw [hpair, hcases]; rfl⟩
        · cases heq
          rfl

/-- Stores what a merge came to. -/
def WorkspaceTree.storeDelivery (tree : WorkspaceTree) (messageId : String)
    (prior : MessageMetadata) (delivery : DeliveryEnvelope) : WorkspaceTree :=
  { tree with
    workspace := tree.workspace.writeMessageMetadataFile messageId
      { prior with delivery := some delivery } }

/-- A merge stores what it came to, or it stops and changes nothing. -/
theorem mergeDelivery_exec {outcome : Outcome AppError Unit}
    (h : Exec (mergeDelivery host parser messageId incoming) tree events outcome tree') :
    tree' = tree ∧ outcome.Stopped ∨
    (∀ error, outcome ≠ .failed error) ∧ ∃ prior delivery,
      tree.workspace.metadataFile messageId = some prior ∧
      checkMessageMetadata host prior = .ok () ∧
      (prior.delivery.getD {}).merge parser incoming = .ok delivery ∧
      tree' = tree.storeDelivery messageId prior delivery := by
  rcases (Exec.of_load h).of_ofExcept_bind with ⟨stored, hread, h⟩ | ⟨_, _, rfl, _, hstopped⟩
  · cases stored with
    | none =>
      obtain ⟨rfl, hstopped, _⟩ := Exec.of_fail h
      exact .inl ⟨rfl, hstopped⟩
    | some prior =>
      obtain ⟨hget, hchecked⟩ := readMessageMetadataFile_eq_ok_iff.mp hread
      rcases h.of_ofExcept_bind with ⟨delivery, hmerge, h⟩ | ⟨_, _, rfl, _, hstopped⟩
      · rcases h.of_ofExcept_bind with ⟨_, _, h⟩ | ⟨_, _, rfl, _, hstopped⟩
        · cases h with
          | crash => exact .inl ⟨rfl, fun _ heq => (nomatch heq)⟩
          | store h =>
            have hfailed : tree' = tree.storeDelivery messageId prior delivery ∧
                ∀ error, outcome ≠ .failed error := by
              cases h with
              | ret => exact ⟨rfl, fun _ heq => (nomatch heq)⟩
              | crash => exact ⟨rfl, fun _ heq => (nomatch heq)⟩
            exact .inr ⟨hfailed.2, prior, delivery, hget, hchecked, hmerge, hfailed.1⟩
        · exact .inl ⟨rfl, .of_failed hstopped⟩
      · exact .inl ⟨rfl, .of_failed hstopped⟩
  · exact .inl ⟨rfl, .of_failed hstopped⟩

theorem mergeDelivery_returns {prior : MessageMetadata} {delivery : DeliveryEnvelope}
    (hget : tree.workspace.metadataFile messageId = some prior)
    (hchecked : checkMessageMetadata host prior = .ok ())
    (hmerge : (prior.delivery.getD {}).merge parser incoming = .ok delivery) :
    Exec (mergeDelivery host parser messageId incoming) tree [] (.returned ())
      (tree.storeDelivery messageId prior delivery) := by
  have hread := readMessageMetadataFile_eq_ok_iff.mpr ⟨hget, hchecked⟩
  have hnext : checkMessageMetadata host { prior with delivery := some delivery } = .ok () :=
    hchecked
  refine .load ?_
  change Exec ((Program.ofExcept (tree.workspace.readMessageMetadataFile host messageId)).bind _)
    _ _ _ _
  rw [hread]
  change Exec ((Program.ofExcept ((prior.delivery.getD {}).merge parser incoming)).bind _) _ _ _ _
  rw [hmerge]
  change Exec ((Program.ofExcept (checkMessageMetadata host _)).bind _) _ _ _ _
  rw [hnext]
  exact .store .ret

/-- Deliveries of a message that are merged one after another, among some that are refused. -/
inductive Deliveries (host : Host) (parser : MailParser) (messageId : String)
    (first : WorkspaceTree) : List DeliveryEnvelope → WorkspaceTree → Prop
  | start : Deliveries host parser messageId first [] first
  | merged {envelopes : List DeliveryEnvelope} {incoming : DeliveryEnvelope}
      {before after : WorkspaceTree} {events : List TreeEvent}
      (hrun : Deliveries host parser messageId first envelopes before)
      (hmerged : Exec (mergeDelivery host parser messageId incoming) before events (.returned ())
        after) : Deliveries host parser messageId first (envelopes ++ [incoming]) after
  | refused {envelopes : List DeliveryEnvelope} {incoming : DeliveryEnvelope}
      {before after : WorkspaceTree} {events : List TreeEvent} {error : AppError}
      (hrun : Deliveries host parser messageId first envelopes before)
      (hrefused : Exec (mergeDelivery host parser messageId incoming) before events (.failed error)
        after) : Deliveries host parser messageId first envelopes after

/-- What holds of the delivery of a message once envelopes are merged. -/
structure DeliveryRules (host : Host) (parser : MailParser) (messageId : String)
    (first : WorkspaceTree) (envelopes : List DeliveryEnvelope) (last : WorkspaceTree) : Prop where
  sender : (last.workspace.delivery messageId).envelopeFrom =
    (first.workspace.delivery messageId :: envelopes).findSome? (·.envelopeFrom)
  recipients : Unions.IsUnion eqIgnoreAsciiCase (first.workspace.delivery messageId).envelopeTo
    (envelopes.flatMap (·.envelopeTo)) (last.workspace.delivery messageId).envelopeTo
  received : (first.workspace.delivery messageId).EarliestReceived parser envelopes
    (last.workspace.delivery messageId)
  repeated : ∀ incoming ∈ envelopes,
    Exec (mergeDelivery host parser messageId incoming) last [] (.returned ()) last ∧
    ∀ events outcome after,
      Exec (mergeDelivery host parser messageId incoming) last events outcome after → after = last
  refused : ∀ incoming events error after,
    Exec (mergeDelivery host parser messageId incoming) last events (.failed error) after →
      after = last
  projected : ∀ envelopeTo,
    mergeEnvelopeTo envelopeTo (last.workspace.delivery messageId).envelopeTo =
      envelopes.foldl (fun out envelope => mergeEnvelopeTo out envelope.envelopeTo)
        (mergeEnvelopeTo envelopeTo (first.workspace.delivery messageId).envelopeTo)
  anyOrder : ∀ others after, Deliveries host parser messageId first others after →
    others.Perm envelopes →
    (∀ recipient, (after.workspace.delivery messageId).envelopeTo.any
        (eqIgnoreAsciiCase · recipient) =
      (last.workspace.delivery messageId).envelopeTo.any (eqIgnoreAsciiCase · recipient)) ∧
    (after.workspace.delivery messageId).receivedRfc3339.bind parser.parseRfc3339 =
      (last.workspace.delivery messageId).receivedRfc3339.bind parser.parseRfc3339

theorem mergeDelivery_refused {error : AppError}
    (h : Exec (mergeDelivery host parser messageId incoming) tree events (.failed error) tree') :
    tree' = tree := by
  rcases mergeDelivery_exec h with ⟨heq, _⟩ | ⟨hfailed, _⟩
  · exact heq
  · exact (hfailed error rfl).elim

/-- The metadata of a message tells a delivery and can be written again. -/
def WorkspaceTree.Delivered (host : Host) (messageId : String) (tree : WorkspaceTree) : Prop :=
  ∃ metadata, tree.workspace.metadataFile messageId = some metadata ∧
    metadata.delivery.isSome ∧ checkMessageMetadata host metadata = .ok ()

theorem metadataFile_storeDelivery (tree : WorkspaceTree) (messageId : String)
    (prior : MessageMetadata) (delivery : DeliveryEnvelope) :
    (tree.storeDelivery messageId prior delivery).workspace.metadataFile messageId =
      some { prior with delivery := some delivery } := by
  rw [WorkspaceTree.storeDelivery, metadataFile_writeMessageMetadataFile, if_pos rfl]

theorem mergeDelivery_merged
    (h : Exec (mergeDelivery host parser messageId incoming) tree events (.returned ()) tree') :
    DeliveryEnvelope.MergedInto parser (tree.workspace.delivery messageId) incoming
      (tree'.workspace.delivery messageId) ∧ tree'.Delivered host messageId := by
  rcases mergeDelivery_exec h with ⟨_, hstopped⟩ | ⟨_, prior, delivery, hget, hchecked, hmerge, rfl⟩
  · exact (hstopped () rfl).elim
  · have hafter := metadataFile_storeDelivery tree messageId prior delivery
    refine ⟨?_, _, hafter, rfl, hchecked⟩
    rw [Workspace.delivery, Workspace.delivery, hafter, hget]
    exact DeliveryEnvelope.mergedInto_of_merge hmerge

theorem Deliveries.mergedAll {envelopes : List DeliveryEnvelope}
    (hrun : Deliveries host parser messageId first envelopes last) :
    DeliveryEnvelope.MergedAll parser (first.workspace.delivery messageId) envelopes
      (last.workspace.delivery messageId) ∧
    (envelopes ≠ [] → last.Delivered host messageId) := by
  induction hrun with
  | start => exact ⟨.nil, fun hne => (hne rfl).elim⟩
  | refused hrun hrefused ih => rwa [mergeDelivery_refused hrefused]
  | merged hrun hmerged ih =>
    obtain ⟨hinto, hdelivered⟩ := mergeDelivery_merged hmerged
    exact ⟨ih.1.next hinto, fun _ => hdelivered⟩

theorem WorkspaceTree.storeDelivery_eq_self {metadata : MessageMetadata}
    (hget : tree.workspace.metadataFile messageId = some metadata)
    (hsome : metadata.delivery.isSome) :
    tree.storeDelivery messageId metadata (metadata.delivery.getD {}) = tree := by
  have hmetadata : { metadata with delivery := some (metadata.delivery.getD {}) } = metadata := by
    obtain ⟨delivery, hdelivery⟩ := Option.isSome_iff_exists.mp hsome
    rw [hdelivery, Option.getD_some, ← hdelivery]
  have hrecord : (tree.workspace.record messageId).metadata = some metadata := by
    rw [Workspace.metadataFile] at hget
    cases hmessage : tree.workspace.messages[messageId]? with
    | none =>
      rw [hmessage] at hget
      cases hget
    | some record =>
      rw [hmessage] at hget
      rw [Workspace.record, hmessage]
      exact hget
  rw [storeDelivery, hmetadata, Workspace.writeMessageMetadataFile, Workspace.alterMessage_eq_self]
  · rw [hrecord]
    rfl
  · rw [← hrecord]

theorem mergeDelivery_told (hdelivered : tree.Delivered host messageId)
    (htold : DeliveryEnvelope.Told parser (tree.workspace.delivery messageId) incoming) :
    Exec (mergeDelivery host parser messageId incoming) tree [] (.returned ()) tree ∧
    ∀ events outcome after,
      Exec (mergeDelivery host parser messageId incoming) tree events outcome after →
        after = tree := by
  obtain ⟨metadata, hget, hsome, hchecked⟩ := hdelivered
  have hmerge : (metadata.delivery.getD {}).merge parser incoming =
      .ok (metadata.delivery.getD {}) := by
    rw [Workspace.delivery, hget] at htold
    exact htold.merge_eq
  have hsame := WorkspaceTree.storeDelivery_eq_self hget hsome
  constructor
  · have hreturns := mergeDelivery_returns hget hchecked hmerge
    rwa [hsame] at hreturns
  · intro events outcome after h
    rcases mergeDelivery_exec h with ⟨heq, _⟩ | ⟨_, prior, delivery, hprior, _, hother, rfl⟩
    · exact heq
    · cases hget.symm.trans hprior
      cases hmerge.symm.trans hother
      exact hsame

theorem deliveryRules_of_run {envelopes : List DeliveryEnvelope}
    (hrun : Deliveries host parser messageId first envelopes last) :
    DeliveryRules host parser messageId first envelopes last := by
  obtain ⟨hmerged, hdelivered⟩ := hrun.mergedAll
  refine ⟨hmerged.sender, ?_, hmerged.received, ?_, ?_, ?_, ?_⟩
  · rw [hmerged.recipients]
    exact kinds_eqIgnoreAsciiCase.isUnion_extend _ _
  · intro incoming hmem
    exact mergeDelivery_told (hdelivered (List.ne_nil_of_mem hmem)) (hmerged.told incoming hmem)
  · intro incoming events error after h
    exact mergeDelivery_refused h
  · intro envelopeTo
    rw [hmerged.recipients, mergeEnvelopeTo_eq, kinds_eqIgnoreAsciiCase.extend_extend,
      List.flatMap_def, Unions.extend_flatten, List.foldl_map]
    rfl
  · intro others after hother hperm
    exact hmerged.perm hother.mergedAll.1 hperm

end

/-- Reads the two times of the mail below. -/
def twoTimes : MailParser where
  parse _ := none
  parseHeaders _ := none
  dayOf _ _ := none
  sha256 := id
  parseRfc3339
    | "2026-10-21T02:00:00+02:00" => some 1792540800
    | "2026-10-21T00:30:00Z" => some 1792542600
    | _ => none

def storedMail : WorkspaceTree :=
  { workspace :=
      { config := .default
        messages := (∅ : Std.ExtTreeMap String MessageRecord).insert "m1"
          { eml := some [], metadata := some {} } } }

/-- To the alias, half an hour after midnight. -/
def toAlias : DeliveryEnvelope :=
  { envelopeFrom := some "sender@example.net", envelopeTo := ["alias@example.com"]
    receivedRfc3339 := some "2026-10-21T00:30:00Z" }

/-- To the alias in another spelling and to a second recipient, at midnight. -/
def toBoth : DeliveryEnvelope :=
  { envelopeFrom := some "bounce@example.net"
    envelopeTo := ["Alias@example.com", "hidden@example.com"]
    receivedRfc3339 := some "2026-10-21T02:00:00+02:00" }

def deliveredBoth : DeliveryEnvelope :=
  { envelopeFrom := some "sender@example.net"
    envelopeTo := ["alias@example.com", "hidden@example.com"]
    receivedRfc3339 := some "2026-10-21T02:00:00+02:00" }

theorem deliveryRules_bothDelivered : ∃ last : WorkspaceTree,
    last.workspace.delivery "m1" = deliveredBoth ∧
    DeliveryRules plainHost twoTimes "m1" storedMail [toAlias, toBoth] last := by
  have halias : Exec (mergeDelivery plainHost twoTimes "m1" toAlias) storedMail [] (.returned ())
      (storedMail.storeDelivery "m1" {} toAlias) :=
    mergeDelivery_returns (by decide +kernel) rfl (by decide)
  have hmerge : toAlias.merge twoTimes toBoth = .ok deliveredBoth := by decide
  have hboth : Exec (mergeDelivery plainHost twoTimes "m1" toBoth)
      (storedMail.storeDelivery "m1" {} toAlias) [] (.returned ()) _ :=
    mergeDelivery_returns (metadataFile_storeDelivery storedMail "m1" {} toAlias) rfl hmerge
  refine ⟨_, ?_, deliveryRules_of_run (.merged (.merged .start halias) hboth)⟩
  rw [Workspace.delivery, metadataFile_storeDelivery]
  rfl

end AgentFirstMail
