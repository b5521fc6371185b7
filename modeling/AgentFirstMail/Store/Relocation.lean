import AgentFirstMail.Data.SortedSet
import AgentFirstMail.Store.Process

namespace AgentFirstMail
open Effect
open Text (eqIgnoreAsciiCase)

/-- Flags in order and without repetition; `\Recent` belongs to the server alone. -/
def canonicalFlags (flags : List String) : List String :=
  dedupAdjacent ((flags.filter (!eqIgnoreAsciiCase · "\\Recent")).insertionSort (· ≤ ·))

def mergeFlags (existing flags : List String) : List String := canonicalFlags (existing ++ flags)

/-- Adds flags to the recorded location of a place, which is added when it is missing. -/
def addFlagsAt (now : String) (place : PushLocation) (flags : List String) :
    List RemoteLocation → List RemoteLocation
  | [] => [{ mailboxName := place.mailboxName, uidValidity := some place.uidValidity
             uid := some place.uid, flags, observedRfc3339 := now }]
  | location :: rest =>
    if location.matchesPush place then
      { location with flags := mergeFlags location.flags flags } :: rest
    else location :: addFlagsAt now place flags rest

/-- Keeps the first of several locations that name one place. -/
def dedupLocations (locations : List RemoteLocation) : List RemoteLocation :=
  locations.foldl (fun out location =>
    if out.any (·.samePlace location) then out else out ++ [location]) []

def removeSource (source : PushLocation) (locations : List RemoteLocation) :
    List RemoteLocation :=
  locations.filter (!·.matchesPush source)

def addTarget (target : RemoteLocation) (locations : List RemoteLocation) :
    List RemoteLocation :=
  if locations.any (·.samePlace target) then locations else locations ++ [target]

/-- What identifies a recorded location on the server. -/
def RemoteLocation.place (location : RemoteLocation) : String × Option Nat × Option Nat :=
  (location.mailboxName, location.uidValidity, location.uid)

/-- Two lists of locations that name the same places. -/
def SamePlaces (left right : List RemoteLocation) : Prop :=
  ∀ place, place ∈ left.map (·.place) ↔ place ∈ right.map (·.place)

def PushLocation.place (location : PushLocation) : String × Option Nat × Option Nat :=
  (location.mailboxName, some location.uidValidity, some location.uid)

theorem RemoteLocation.matchesPush_iff {location : RemoteLocation} {planned : PushLocation} :
    location.matchesPush planned = true ↔ location.place = planned.place := by
  simp only [matchesPush, place, PushLocation.place, Bool.and_eq_true, beq_iff_eq, Prod.mk.injEq,
    and_assoc]

theorem RemoteLocation.samePlace_iff {location other : RemoteLocation} :
    location.samePlace other = true ↔ location.place = other.place := by
  simp only [samePlace, place, Bool.and_eq_true, beq_iff_eq, Prod.mk.injEq, and_assoc]

theorem any_samePlace_iff {locations : List RemoteLocation} {location : RemoteLocation} :
    locations.any (·.samePlace location) = true ↔ location.place ∈ locations.map (·.place) := by
  simp only [List.any_eq_true, RemoteLocation.samePlace_iff, List.mem_map]

theorem any_matchesPush_iff {locations : List RemoteLocation} {planned : PushLocation} :
    locations.any (·.matchesPush planned) = true ↔ planned.place ∈ locations.map (·.place) := by
  simp only [List.any_eq_true, RemoteLocation.matchesPush_iff, List.mem_map]

namespace SamePlaces

theorem refl (locations : List RemoteLocation) : SamePlaces locations locations := fun _ => .rfl

theorem trans (h₁ : SamePlaces left middle) (h₂ : SamePlaces middle right) :
    SamePlaces left right := fun place => (h₁ place).trans (h₂ place)

theorem mem_removeSource {place : String × Option Nat × Option Nat} :
    place ∈ (removeSource source locations).map (·.place) ↔
      place ∈ locations.map (·.place) ∧ place ≠ source.place := by
  simp only [removeSource, List.mem_map, List.mem_filter, Bool.not_eq_true',
    ← Bool.not_eq_true, RemoteLocation.matchesPush_iff]
  constructor
  · intro ⟨location, ⟨hmem, hne⟩, heq⟩
    exact ⟨⟨location, hmem, heq⟩, heq ▸ hne⟩
  · intro ⟨⟨location, hmem, heq⟩, hne⟩
    exact ⟨location, ⟨hmem, heq ▸ hne⟩, heq⟩

theorem mem_addTarget {place : String × Option Nat × Option Nat} :
    place ∈ (addTarget target locations).map (·.place) ↔
      place ∈ locations.map (·.place) ∨ place = target.place := by
  unfold addTarget
  split
  · rename_i hany
    have hin := any_samePlace_iff.mp hany
    constructor
    · exact .inl
    · intro h
      cases h with
      | inl hmem => exact hmem
      | inr heq =>
        rw [heq]
        exact hin
  · simp only [List.map_append, List.map_cons, List.map_nil, List.mem_append, List.mem_singleton]

theorem removeSource (h : SamePlaces left right) (source : PushLocation) :
    SamePlaces (removeSource source left) (AgentFirstMail.removeSource source right) := by
  intro place
  rw [mem_removeSource, mem_removeSource, h place]

theorem addTarget (h : SamePlaces left right) (target : RemoteLocation) :
    SamePlaces (addTarget target left) (AgentFirstMail.addTarget target right) := by
  intro place
  rw [mem_addTarget, mem_addTarget, h place]

end SamePlaces

theorem dedup_foldl (locations kept : List RemoteLocation) :
    SamePlaces (locations.foldl (fun out location =>
      if out.any (·.samePlace location) then out else out ++ [location]) kept)
      (kept ++ locations) := by
  induction locations generalizing kept with
  | nil =>
    rw [List.append_nil]
    exact .refl _
  | cons location rest ih =>
    intro place
    rw [List.foldl_cons, ih]
    split
    · rename_i hany
      have hin := any_samePlace_iff.mp hany
      simp only [List.map_append, List.map_cons, List.mem_append, List.mem_cons]
      constructor
      · intro h
        exact h.imp id .inr
      · intro h
        cases h with
        | inl hkept => exact .inl hkept
        | inr hmem =>
          cases hmem with
          | inl heq =>
            rw [heq]
            exact .inl hin
          | inr hrest => exact .inr hrest
    · simp only [List.map_append, List.map_cons, List.map_nil, List.mem_append, List.mem_cons,
        List.not_mem_nil, or_false, or_assoc]

theorem samePlaces_dedupLocations (locations : List RemoteLocation) :
    SamePlaces (dedupLocations locations) locations := dedup_foldl locations []

theorem dedupLocations_subset (locations : List RemoteLocation) :
    dedupLocations locations ⊆ locations := by
  have hfold : ∀ (rest kept : List RemoteLocation), kept ⊆ locations → rest ⊆ locations →
      rest.foldl (fun out location =>
        if out.any (·.samePlace location) then out else out ++ [location]) kept ⊆ locations := by
    intro rest
    induction rest with
    | nil => exact fun kept hkept _ => hkept
    | cons location rest ih =>
      intro kept hkept hrest
      obtain ⟨hlocation, hrest⟩ := List.cons_subset.mp hrest
      apply ih _ _ hrest
      dsimp only
      split
      · exact hkept
      · exact List.append_subset.mpr ⟨hkept, List.cons_subset.mpr ⟨hlocation, List.nil_subset _⟩⟩
  exact hfold locations [] (List.nil_subset _) (List.Subset.refl _)

theorem subset_addFlagsAt (now : String) (place : PushLocation) (flags : List String)
    (locations : List RemoteLocation) :
    locations.map (·.place) ⊆ (addFlagsAt now place flags locations).map (·.place) := by
  induction locations with
  | nil => exact List.nil_subset _
  | cons first rest ih =>
    rw [addFlagsAt]
    split
    · exact List.Subset.refl _
    · exact List.cons_subset_cons _ ih

namespace Workspace

/-- What is recorded about where a message is. -/
def remoteLocations (w : Workspace) (messageId : String) : List RemoteLocation :=
  ((w.messages[messageId]?.bind (·.metadata)).bind (·.remote)).getD []

/-- The places a message is still recorded at. -/
def activeLocations (w : Workspace) (messageId : String) : List RemoteLocation :=
  (w.remoteLocations messageId).filter (·.isActive)

/-- Replaces the recorded locations of a message that has metadata. -/
def setMessageRemote (w : Workspace) (messageId : String) (locations : List RemoteLocation) :
    Workspace :=
  { w with messages := w.messages.alter messageId fun record =>
      record.map fun record =>
        { record with
          metadata := some { record.metadata.getD {} with remote := some locations } } }

theorem remoteLocations_setMessageRemote (w : Workspace) (messageId other : String)
    (locations : List RemoteLocation) :
    (w.setMessageRemote messageId locations).remoteLocations other =
      if other = messageId ∧ messageId ∈ w.messages then locations
      else w.remoteLocations other := by
  simp only [remoteLocations, setMessageRemote, Std.ExtTreeMap.getElem?_alter,
    Std.LawfulEqCmp.compare_eq_iff_eq]
  by_cases heq : other = messageId
  · subst heq
    cases hget : w.messages[other]? with
    | none => simp [hget, Std.ExtTreeMap.mem_iff_isSome_getElem?]
    | some record => simp [hget, Std.ExtTreeMap.mem_iff_isSome_getElem?]
  · simp [heq, Ne.symm heq]

theorem mem_of_readMessageById {w : Workspace} {messageId : String}
    (h : w.readMessageById messageId = .ok message) :
    messageId ∈ w.messages ∧ message.messageId = messageId ∧
      message.remote.getD [] = w.remoteLocations messageId := by
  obtain ⟨index, _, h⟩ := Result.bind_ok h
  obtain ⟨record, metadata, hget, _, hmetadata, hid, hremote, _⟩ := readMessageUnder_eq_ok h
  refine ⟨Std.ExtTreeMap.mem_iff_isSome_getElem?.mpr (by rw [hget]; rfl), hid, ?_⟩
  rw [hremote]
  simp [remoteLocations, hget, hmetadata]

end Workspace

namespace Command

def addRemoteFlags (host : Host) (place : PushLocation) (flags : List String) :
    Command Unit := do
  let w ← workspace
  let message ← Program.ofExcept (w.readMessageById place.messageId)
  let before := message.remote.getD []
  let after := addFlagsAt host.now place (canonicalFlags flags) before
  if after = before then return ()
  else writeWorkspace (·.setMessageRemote place.messageId after)

def relocateMessage (messageId : String) (targets : List RemoteLocation) : Command Unit := do
  let locations := dedupLocations targets
  if locations.isEmpty then return ()
  else
    let w ← workspace
    let _ ← Program.ofExcept (w.readMessageById messageId)
    writeWorkspace (·.setMessageRemote messageId locations)

end Command
end AgentFirstMail
