import Mathlib.Data.List.Nodup
import AgentFirstMail.Config.Actions

namespace AgentFirstMail

/-- Where the workspace believes the server holds a message. -/
structure RemoteLocation where
  mailboxId : Option String := none
  mailboxName : String
  uidValidity : Option Nat := none
  uid : Option Nat := none
  flags : List String := []
  observedRfc3339 : String := ""
  missingRfc3339 : Option String := none
deriving DecidableEq

/-- A message's place on the server as a planned action names it. -/
structure PushLocation where
  messageId : String
  mailboxName : String
  uidValidity : Nat
  uid : Nat
deriving DecidableEq

structure MailboxIdLocation where
  mailboxId : Option String
  push : PushLocation

namespace RemoteLocation

def isActive (location : RemoteLocation) : Bool := location.missingRfc3339.isNone

/-- Both sides name the same mailbox, validity epoch and UID. -/
def matchesPush (existing : RemoteLocation) (planned : PushLocation) : Bool :=
  existing.mailboxName == planned.mailboxName &&
    existing.uidValidity == some planned.uidValidity && existing.uid == some planned.uid

def samePlace (existing other : RemoteLocation) : Bool :=
  existing.mailboxName == other.mailboxName &&
    existing.uidValidity == other.uidValidity && existing.uid == other.uid

/-- An active location with a known UID, as planned actions read it. -/
def toMailboxIdLocation (messageId : String) (location : RemoteLocation) :
    Option MailboxIdLocation :=
  if location.isActive then
    match location.uidValidity, location.uid with
    | some uidValidity, some uid =>
      some ⟨location.mailboxId, ⟨messageId, location.mailboxName, uidValidity, uid⟩⟩
    | _, _ => none
  else none

end RemoteLocation

/-- What a pull of a target records for a message it stores. -/
def pulledLocation (mailboxId mailboxName : String) (uidValidity uid : Nat) (flags : List String)
    (now : String) : RemoteLocation :=
  { mailboxId := some mailboxId, mailboxName, uidValidity := some uidValidity, uid := some uid,
    flags, observedRfc3339 := now }

/-- What the IMAP client reports for a message it moved into, or found in, a folder. -/
def clientLocation (folder : String) (uidValidity uid : Nat) (now : String) : RemoteLocation :=
  { mailboxId := none, mailboxName := folder, uidValidity := some uidValidity, uid := some uid,
    observedRfc3339 := now }

/-- The configured id that a recorded location belongs to. -/
def resolveLocationMailboxId (config : MailConfig) (location : MailboxIdLocation) :
    Result (Option String) :=
  let offline :=
    match config.matchingMailboxIdsOffline location.push.mailboxName with
    | [id] => .ok (some id)
    | [] => .ok none
    | ids =>
      let name := location.push.mailboxName
      let list := ", ".intercalate ids
      .error { errorCode := "imap_mailbox_ambiguous"
               message := s!"remote mailbox {name} matches multiple mailbox ids: {list}" }
  match location.mailboxId with
  | some id => if id ∈ config.mailboxes then .ok (some id) else offline
  | none => offline

def mailboxIdMatchesSpecialUse (config : MailConfig) (mailboxId : String)
    (kind : SpecialUseKind) : Bool :=
  mailboxId == kind.asStr || (config.mailboxes[mailboxId]?).any (·.containsSpecialUse kind)

/-- Whether a location belongs to a mailbox of one of `kinds`. -/
def locationHasMailboxKind (config : MailConfig) (kinds : List SpecialUseKind)
    (location : MailboxIdLocation) : Result Bool := do
  match ← resolveLocationMailboxId config location with
  | some sourceId => return kinds.any (mailboxIdMatchesSpecialUse config sourceId)
  | none => return false

/-- The locations inside a mailbox of one of `kinds`. -/
def locationsForMailboxKinds (config : MailConfig) (kinds : List SpecialUseKind) :
    List MailboxIdLocation → Result (List PushLocation)
  | [] => .ok []
  | location :: rest => do
    let inside ← locationHasMailboxKind config kinds location
    let locations ← locationsForMailboxKinds config kinds rest
    return if inside then location.push :: locations else locations

/-- The locations outside every mailbox of one of `kinds`. -/
def locationsExceptMailboxKinds (config : MailConfig) (kinds : List SpecialUseKind) :
    List MailboxIdLocation → Result (List PushLocation)
  | [] => .ok []
  | location :: rest => do
    let inside ← locationHasMailboxKind config kinds location
    let locations ← locationsExceptMailboxKinds config kinds rest
    return if inside then locations else location.push :: locations

theorem MailConfig.mem_matchingMailboxIdsOffline {config : MailConfig} {id : String} :
    id ∈ config.matchingMailboxIdsOffline name ↔
      ∃ mailbox, config.mailboxes[id]? = some mailbox ∧ mailbox.matchesMailboxOffline name = true := by
  simp only [matchingMailboxIdsOffline, List.mem_filterMap, Option.ite_none_right_eq_some,
    Option.some.injEq]
  constructor
  · rintro ⟨⟨key, mailbox⟩, hmem, hmatch, rfl⟩
    exact ⟨mailbox, Std.ExtTreeMap.mem_toList_iff_getElem?_eq_some.mp hmem, hmatch⟩
  · rintro ⟨mailbox, hget, hmatch⟩
    exact ⟨(id, mailbox), Std.ExtTreeMap.mem_toList_iff_getElem?_eq_some.mpr hget, hmatch, rfl⟩

theorem MailConfig.nodup_matchingMailboxIdsOffline (config : MailConfig) (name : String) :
    (config.matchingMailboxIdsOffline name).Nodup := by
  have hkeys := @Std.ExtTreeMap.distinct_keys_toList _ _ _ config.mailboxes _
  apply List.Pairwise.filterMap _ _ hkeys
  rintro ⟨key, mailbox⟩ ⟨other, mailbox'⟩ hne id hid id' hid' rfl
  simp only [Option.ite_none_right_eq_some, Option.some.injEq] at hid hid'
  obtain ⟨_, rfl⟩ := hid
  obtain ⟨_, rfl⟩ := hid'
  exact hne Std.ReflCmp.compare_self

/-- Offline lookup names one id exactly when that id and no other one recognizes the folder. -/
theorem MailConfig.matchingMailboxIdsOffline_eq_singleton_iff {config : MailConfig} {id : String} :
    config.matchingMailboxIdsOffline name = [id] ↔
      (∃ mailbox, config.mailboxes[id]? = some mailbox ∧
        mailbox.matchesMailboxOffline name = true) ∧
      ∀ other mailbox, config.mailboxes[other]? = some mailbox →
        mailbox.matchesMailboxOffline name = true → other = id := by
  constructor
  · intro h
    refine ⟨mem_matchingMailboxIdsOffline.mp (h ▸ List.mem_singleton_self id), ?_⟩
    intro other mailbox hget hmatch
    have hmem := mem_matchingMailboxIdsOffline.mpr ⟨mailbox, hget, hmatch⟩
    exact List.mem_singleton.mp (h ▸ hmem)
  · rintro ⟨hid, hother⟩
    refine List.perm_singleton.mp ((List.perm_ext_iff_of_nodup
      (config.nodup_matchingMailboxIdsOffline name) (List.nodup_singleton id)).mpr ?_)
    intro other
    rw [List.mem_singleton]
    constructor
    · intro hmem
      obtain ⟨mailbox, hget, hmatch⟩ := mem_matchingMailboxIdsOffline.mp hmem
      exact hother other mailbox hget hmatch
    · rintro rfl
      exact mem_matchingMailboxIdsOffline.mpr hid

theorem resolveLocationMailboxId_of_mem {config : MailConfig} {id : String}
    (h : id ∈ config.mailboxes) (push : PushLocation) :
    resolveLocationMailboxId config ⟨some id, push⟩ = .ok (some id) := by
  simp [resolveLocationMailboxId, h]

theorem resolveLocationMailboxId_none_eq_iff {config : MailConfig} {id : String}
    {push : PushLocation} :
    resolveLocationMailboxId config ⟨none, push⟩ = .ok (some id) ↔
      config.matchingMailboxIdsOffline push.mailboxName = [id] := by
  simp only [resolveLocationMailboxId]
  generalize config.matchingMailboxIdsOffline push.mailboxName = ids
  match ids with
  | [] => simp
  | [_] => simp
  | _ :: _ :: _ => simp

end AgentFirstMail
