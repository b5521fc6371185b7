import AgentFirstMail.Projection.Message
import AgentFirstMail.PushQueue.Draft
import AgentFirstMail.Requests.Mutations
import AgentFirstMail.Store.Contacts

namespace AgentFirstMail

structure IdentityConfig where
  identity : String
  name : String
  email : String
  default : Bool := false

def addIdentityEmail (out : List String) (identity : IdentityConfig) : List String :=
  let email := normalizedEmail identity.email
  if email ≠ "" ∧ email ∉ out then out ++ [email] else out

/-- The addresses that a workspace sends from. -/
def identityEmails (identities : List IdentityConfig) : List String :=
  identities.foldl addIdentityEmail []

/-- The file sources that are configured, in a build that may not know any. -/
structure FileChannels where
  compiled : Bool
  sources : List String

/-- Addresses that are taken over into a draft, and those that were seen before. -/
structure TakenRecipients where
  seen : Std.ExtTreeSet String
  taken : List String := []

/-- An address is taken over unless it was seen or is none. -/
def TakenRecipients.take (recipients : TakenRecipients) (address : String) : TakenRecipients :=
  let key := emailAddress address
  if key ≠ "" ∧ key ∉ recipients.seen then
    { seen := recipients.seen.insert key, taken := recipients.taken ++ [address] }
  else recipients

/-- Whom a mail asks to answer. -/
def MessageContent.replyTargets (content : MessageContent) : List String :=
  if content.replyTo.isEmpty then content.from_.toList else content.replyTo

/-- To and Cc of a reply to a mail. -/
def mailReplyRecipients (identities : List IdentityConfig) (content : MessageContent)
    (replyAll : Bool) : List String × List String :=
  let seen := (identityEmails identities).foldl (·.insert ·) (∅ : Std.ExtTreeSet String)
  let toSources := content.replyTargets ++ if replyAll then content.to_ else []
  let to_ := toSources.foldl TakenRecipients.take { seen }
  let cc := (if replyAll then content.cc else []).foldl TakenRecipients.take { seen := to_.seen }
  (to_.taken, cc.taken)

/-- To and Cc of a reply; an answer through a file source goes to the sender alone. -/
def replyRecipients (files : FileChannels) (identities : List IdentityConfig)
    (message : MessageBase) (draft : ReplyDraft) : Result (List String × List String) :=
  match message.origin with
  | none => .ok (mailReplyRecipients identities message.content draft.replyAll)
  | some origin => do
    ensure (!draft.replyAll && draft.bcc.isEmpty)
      (channelOperationUnsupported "file replies do not support reply-all or bcc")
    ensure files.compiled
      { errorCode := "feature_disabled", message := "file channels require the files feature" }
    ensure (decide (origin.replyRoute.sourceId ∈ files.sources))
      { errorCode := "config_missing", message := "file reply source is no longer configured" }
    return (message.content.from_.toList, [])

variable {identities : List IdentityConfig} {content : MessageContent} {email address : String}

theorem mem_addIdentityEmail {out : List String} {identity : IdentityConfig} :
    email ∈ addIdentityEmail out identity ↔
      email ∈ out ∨ email ≠ "" ∧ normalizedEmail identity.email = email := by
  simp only [addIdentityEmail]
  generalize normalizedEmail identity.email = own
  by_cases hempty : own = ""
  · simp only [hempty, ne_eq, not_true_eq_false, false_and, if_false]
    refine (or_iff_left ?_).symm
    rintro ⟨hne, rfl⟩
    exact hne rfl
  · by_cases hmem : own ∈ out
    · rw [if_neg (fun h => h.2 hmem)]
      refine (or_iff_left_of_imp ?_).symm
      rintro ⟨_, rfl⟩
      exact hmem
    · rw [if_pos ⟨hempty, hmem⟩, List.mem_append, List.mem_singleton]
      refine or_congr_right ⟨?_, fun h => h.2.symm⟩
      rintro rfl
      exact ⟨hempty, rfl⟩

theorem mem_foldl_addIdentityEmail {out : List String} :
    email ∈ identities.foldl addIdentityEmail out ↔
      email ∈ out ∨ email ≠ "" ∧ ∃ identity ∈ identities, normalizedEmail identity.email = email := by
  induction identities generalizing out with
  | nil => simp
  | cons first rest ih =>
    rw [List.foldl_cons, ih, mem_addIdentityEmail, or_assoc, ← and_or_left]
    simp only [List.mem_cons, exists_eq_or_imp]

theorem mem_identityEmails : email ∈ identityEmails identities ↔
    email ≠ "" ∧ ∃ identity ∈ identities, normalizedEmail identity.email = email := by
  rw [identityEmails, mem_foldl_addIdentityEmail]
  simp

theorem mem_foldl_insert {emails : List String} {seen : Std.ExtTreeSet String} :
    email ∈ emails.foldl (·.insert ·) seen ↔ email ∈ seen ∨ email ∈ emails := by
  induction emails generalizing seen with
  | nil => simp
  | cons first rest ih =>
    rw [List.foldl_cons, ih, Std.ExtTreeSet.mem_insert, Std.LawfulEqCmp.compare_eq_iff_eq,
      List.mem_cons, or_comm (a := first = email), or_assoc, eq_comm (a := first)]

namespace TakenRecipients
variable {recipients : TakenRecipients} {addresses : List String} {before : String → Prop}

/-- What is taken over: each address once, none of those that were seen before, and of all that
came some entry. -/
structure Takes (before : String → Prop) (addresses : List String)
    (recipients : TakenRecipients) : Prop where
  seen : ∀ key, key ∈ recipients.seen ↔ before key ∨ key ∈ recipients.taken.map emailAddress
  fresh : ∀ address ∈ recipients.taken,
    emailAddress address ≠ "" ∧ ¬ before (emailAddress address)
  once : (recipients.taken.map emailAddress).Nodup
  complete : ∀ address ∈ addresses, emailAddress address ≠ "" →
    emailAddress address ∈ recipients.seen
  among : recipients.taken ⊆ addresses

theorem Takes.start {start : Std.ExtTreeSet String} (h : ∀ key, key ∈ start ↔ before key) :
    Takes before [] { seen := start } where
  seen key := by simp [h]
  fresh _ hmem := nomatch hmem
  once := .nil
  complete _ hmem := nomatch hmem
  among := List.Subset.refl _

theorem Takes.take (h : Takes before addresses recipients) (address : String) :
    Takes before (addresses ++ [address]) (recipients.take address) := by
  rw [TakenRecipients.take]
  split
  · rename_i hnew
    obtain ⟨hkey, hunseen⟩ := hnew
    have hinsert (key : String) : key ∈ recipients.seen.insert (emailAddress address) ↔
        key ∈ recipients.seen ∨ key = emailAddress address := by
      rw [Std.ExtTreeSet.mem_insert, Std.LawfulEqCmp.compare_eq_iff_eq, or_comm, eq_comm (a := key)]
    have hfresh : ¬ before (emailAddress address) ∧
        emailAddress address ∉ recipients.taken.map emailAddress := by
      rw [← not_or, ← h.seen]
      exact hunseen
    refine ⟨fun key => ?_, ?_, ?_, ?_, ?_⟩
    · rw [hinsert, h.seen, List.map_append, List.mem_append, or_assoc]
      exact Iff.rfl.or (Iff.rfl.or List.mem_singleton.symm)
    · exact List.forall_mem_append.mpr ⟨h.fresh, List.forall_mem_singleton.mpr ⟨hkey, hfresh.1⟩⟩
    · rw [List.map_append]
      exact h.once.append (List.nodup_singleton _) (List.disjoint_singleton.mpr hfresh.2)
    · refine List.forall_mem_append.mpr ⟨fun other hother hne => ?_, ?_⟩
      · exact (hinsert _).mpr (.inl (h.complete other hother hne))
      · exact List.forall_mem_singleton.mpr fun _ => (hinsert _).mpr (.inr rfl)
    · exact List.append_subset.mpr ⟨List.subset_append_of_subset_left _ h.among,
        List.subset_append_right _ _⟩
  · rename_i hold
    refine ⟨h.seen, h.fresh, h.once, ?_, List.subset_append_of_subset_left _ h.among⟩
    refine List.forall_mem_append.mpr ⟨h.complete, List.forall_mem_singleton.mpr fun hne => ?_⟩
    by_contra hunseen
    exact hold ⟨hne, hunseen⟩

theorem Takes.foldl (h : Takes before addresses recipients) (more : List String) :
    Takes before (addresses ++ more) (more.foldl TakenRecipients.take recipients) := by
  induction more generalizing addresses recipients with
  | nil => rwa [List.append_nil]
  | cons first rest ih =>
    have hrest := ih (h.take first)
    rwa [List.append_assoc, List.singleton_append] at hrest

end TakenRecipients

/-- Whom a reply to all goes to. -/
structure ReplyAllRules (identities : List IdentityConfig) (content : MessageContent)
    (to_ cc : List String) : Prop where
  notOwn : ∀ address ∈ to_ ++ cc, ∀ identity ∈ identities,
    emailAddress address ≠ normalizedEmail identity.email
  once : ((to_ ++ cc).map emailAddress).Nodup
  everyone : ∀ address ∈ content.replyTargets ++ content.to_ ++ content.cc,
    emailAddress address ≠ "" →
    (∀ identity ∈ identities, emailAddress address ≠ normalizedEmail identity.email) →
    ((to_ ++ cc).map emailAddress).count (emailAddress address) = 1
  inTo : to_ ⊆ content.replyTargets ++ content.to_
  inCc : cc ⊆ content.cc

theorem mailReplyRecipients_rules (identities : List IdentityConfig) (content : MessageContent) :
    ReplyAllRules identities content (mailReplyRecipients identities content true).1
      (mailReplyRecipients identities content true).2 := by
  have hown (key : String) :
      key ∈ (identityEmails identities).foldl (·.insert ·) (∅ : Std.ExtTreeSet String) ↔
        key ∈ identityEmails identities := by
    rw [mem_foldl_insert]
    simp
  have htoAll := (TakenRecipients.Takes.start hown).foldl (content.replyTargets ++ content.to_)
  have hccAll := (TakenRecipients.Takes.start htoAll.seen).foldl content.cc
  rw [List.nil_append] at htoAll hccAll
  simp only [mailReplyRecipients, if_true]
  generalize List.foldl TakenRecipients.take { seen := _ } (content.replyTargets ++ content.to_) =
    taken at htoAll hccAll ⊢
  generalize List.foldl TakenRecipients.take { seen := taken.seen } content.cc = carried at hccAll ⊢
  have hnotOwn (key : String) (hne : key ≠ "") : key ∉ identityEmails identities ↔
      ∀ identity ∈ identities, key ≠ normalizedEmail identity.email := by
    rw [mem_identityEmails]
    constructor
    · intro h identity hmem heq
      exact h ⟨hne, identity, hmem, heq.symm⟩
    · rintro h ⟨_, identity, hmem, heq⟩
      exact h identity hmem heq.symm
  have honce : ((taken.taken ++ carried.taken).map emailAddress).Nodup := by
    rw [List.map_append]
    refine htoAll.once.append hccAll.once fun key htaken hcarried => ?_
    obtain ⟨address, hmem, heq⟩ := List.mem_map.mp hcarried
    exact (hccAll.fresh address hmem).2 (.inr (heq ▸ htaken))
  refine ⟨?_, honce, ?_, htoAll.among, hccAll.among⟩
  · intro address hmem
    rcases List.mem_append.mp hmem with htaken | hcarried
    · obtain ⟨hne, hfresh⟩ := htoAll.fresh address htaken
      exact (hnotOwn _ hne).mp hfresh
    · obtain ⟨hne, hfresh⟩ := hccAll.fresh address hcarried
      exact (hnotOwn _ hne).mp fun hown => hfresh (.inl hown)
  · intro address hmem hne hforeign
    have hforeign : emailAddress address ∉ identityEmails identities := (hnotOwn _ hne).mpr hforeign
    refine List.count_eq_one_of_mem honce ?_
    rw [List.map_append, List.mem_append]
    rcases List.mem_append.mp hmem with hto | hcc
    · have hseen := (htoAll.seen _).mp (htoAll.complete address hto hne)
      exact .inl (hseen.resolve_left hforeign)
    · have hseen := (hccAll.seen _).mp (hccAll.complete address hcc hne)
      rw [or_assoc] at hseen
      exact hseen.resolve_left hforeign

/-- Where a reply to all goes: a mail is answered by these rules, and what came through a file
source is not answered to all. -/
structure ReplyAllAnswered (files : FileChannels) (identities : List IdentityConfig)
    (message : MessageBase) (draft : ReplyDraft) : Prop where
  mail : draft.replyAll = true → message.origin = none → ∃ to_ cc,
    replyRecipients files identities message draft = .ok (to_, cc) ∧
      ReplyAllRules identities message.content to_ cc
  file : draft.replyAll = true → message.origin.isSome → ∃ error,
    replyRecipients files identities message draft = .error error

theorem replyAll_answered (files : FileChannels) (identities : List IdentityConfig)
    (message : MessageBase) (draft : ReplyDraft) :
    ReplyAllAnswered files identities message draft where
  mail hall hmail := by
    refine ⟨_, _, ?_, mailReplyRecipients_rules identities message.content⟩
    rw [replyRecipients, hmail, hall]
  file hall hfile := by
    obtain ⟨origin, horigin⟩ := Option.isSome_iff_exists.mp hfile
    rw [replyRecipients, horigin, hall]
    exact ⟨_, rfl⟩

/-- A mail that asks for answers elsewhere than its sender. -/
def elsewhere : MessageContent :=
  { from_ := some "Ann <ann@example.net>", replyTo := ["List <list@example.net>"] }

/-- The sender of a mail that asks for answers elsewhere is not answered. -/
theorem replyAll_leaves_sender : ∃ sender, elsewhere.from_ = some sender ∧
    emailAddress sender ≠ "" ∧
    emailAddress sender ∉ ((mailReplyRecipients [] elsewhere true).1 ++
      (mailReplyRecipients [] elsewhere true).2).map emailAddress :=
  ⟨"Ann <ann@example.net>", by decide +kernel⟩

end AgentFirstMail
