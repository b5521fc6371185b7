import AgentFirstMail.Config.Defaults
import AgentFirstMail.Store.RemoteMissing

namespace AgentFirstMail
open Effect Effect.Local

variable {snapshots : List FolderUidSnapshot} {now : String} {locations : List RemoteLocation}
  {others : List RemoteLocation} {place : LocalRemoteLocation} {w w' : MaterializedWorkspace}

/-- A location that is still active although its folder no longer holds it. -/
def RemoteLocation.GoneFrom (snapshots : List FolderUidSnapshot) (location : RemoteLocation) :
    Prop :=
  location.isActive = true ∧ ∃ place snapshot, location.place? = some place ∧
    (snapshotByFolder snapshots)[place.mailbox]? = some snapshot ∧
    ¬(snapshot.uidValidity = place.uidValidity ∧ place.uid ∈ snapshot.uids)

/-- No earlier location on the list is at the same place. -/
def FirstAtPlace (locations : List RemoteLocation) (i : Nat) (location : RemoteLocation) : Prop :=
  location.place? ∉ (locations.take i).map (·.place?)

instance (locations : List RemoteLocation) (i : Nat) (location : RemoteLocation) :
    Decidable (FirstAtPlace locations i location) :=
  inferInstanceAs (Decidable (location.place? ∉ (locations.take i).map (·.place?)))

/-- A message's locations before and after a reconciliation with some folders. -/
structure Reconciled (snapshots : List FolderUidSnapshot) (now : String)
    (before after : List RemoteLocation) : Prop where
  length : after.length = before.length
  missing : ∀ i location, before[i]? = some location →
    location.GoneFrom snapshots → FirstAtPlace before i location →
    after[i]? = some { location with missingRfc3339 := some now }
  untouched : ∀ i location, before[i]? = some location →
    ¬(location.GoneFrom snapshots ∧ FirstAtPlace before i location) → after[i]? = some location

section Marking

@[simp] theorem place?_markMissing (location : RemoteLocation) :
    (location.markMissing now).place? = location.place? := by
  unfold RemoteLocation.markMissing
  split <;> rfl

@[simp] theorem markMissing_markMissing (location : RemoteLocation) :
    (location.markMissing now).markMissing now = location.markMissing now := by
  unfold RemoteLocation.markMissing
  by_cases hactive : location.isActive
  · rw [if_pos hactive]
    rfl
  · rw [if_neg hactive, if_neg hactive]

/-- Marking a recorded place changes the first location at it and no other. -/
theorem getElem?_markRemoteLocationMissing (now : String)
    (h : some place ∈ locations.map (·.place?)) (i : Nat) :
    (markRemoteLocationMissing now place locations)[i]? = locations[i]?.map fun location =>
      if location.place? = some place ∧ some place ∉ (locations.take i).map (·.place?) then
        location.markMissing now else location := by
  induction locations generalizing i with
  | nil => cases h
  | cons first rest ih =>
    unfold markRemoteLocationMissing
    by_cases hfirst : first.place? = some place
    · rw [if_pos hfirst]
      cases i with
      | zero => simp [hfirst]
      | succ i => simp [hfirst]
    · rw [if_neg hfirst]
      cases i with
      | zero => simp [hfirst]
      | succ i =>
        have hrest : some place ∈ rest.map (·.place?) := by
          rcases List.mem_cons.mp h with heq | hmem
          · exact (hfirst heq.symm).elim
          · exact hmem
        rw [List.getElem?_cons_succ, List.getElem?_cons_succ, ih hrest i]
        congr 1
        funext location
        simp [Ne.symm hfirst]

theorem map_place?_markRemoteLocationMissing (now : String)
    (h : some place ∈ locations.map (·.place?)) :
    (markRemoteLocationMissing now place locations).map (·.place?) =
      locations.map (·.place?) := by
  apply List.ext_getElem?
  intro i
  rw [List.getElem?_map, List.getElem?_map, getElem?_markRemoteLocationMissing now h, Option.map_map]
  congr 1
  funext location
  simp only [Function.comp_apply]
  split
  · exact place?_markMissing location
  · rfl

theorem firstAtPlace_congr {location other : RemoteLocation}
    (h : locations.map (·.place?) = others.map (·.place?)) (hplace : location.place? = other.place?) :
    FirstAtPlace locations i location ↔ FirstAtPlace others i other := by
  unfold FirstAtPlace
  rw [List.map_take, List.map_take, h, hplace]

theorem map_place?_markRemoteLocationsMissing (now : String) {places : List LocalRemoteLocation}
    (h : ∀ place ∈ places, some place ∈ locations.map (·.place?)) :
    (markRemoteLocationsMissing now places locations).map (·.place?) =
      locations.map (·.place?) := by
  induction places generalizing locations with
  | nil => rfl
  | cons first rest ih =>
    have hplaces := map_place?_markRemoteLocationMissing now (h first List.mem_cons_self)
    have hrest := ih fun place hmem => hplaces ▸ h place (List.mem_cons_of_mem _ hmem)
    exact hrest.trans hplaces

/-- Marking recorded places changes the first location at each of them and no other. -/
theorem getElem?_markRemoteLocationsMissing (now : String) {places : List LocalRemoteLocation}
    (h : ∀ place ∈ places, some place ∈ locations.map (·.place?)) (i : Nat) :
    (markRemoteLocationsMissing now places locations)[i]? = locations[i]?.map fun location =>
      if location.place? ∈ places.map some ∧ FirstAtPlace locations i location then
        location.markMissing now else location := by
  induction places generalizing locations with
  | nil => simp [markRemoteLocationsMissing]
  | cons first rest ih =>
    have hfirst := h first List.mem_cons_self
    have hplaces := map_place?_markRemoteLocationMissing now hfirst
    have hrest : ∀ place ∈ rest, some place ∈
        (markRemoteLocationMissing now first locations).map (·.place?) :=
      fun place hmem => hplaces ▸ h place (List.mem_cons_of_mem _ hmem)
    have hstep : markRemoteLocationsMissing now (first :: rest) locations =
        markRemoteLocationsMissing now rest (markRemoteLocationMissing now first locations) := rfl
    rw [hstep, ih hrest, getElem?_markRemoteLocationMissing now hfirst, Option.map_map]
    congr 1
    funext location
    rw [Function.comp_apply]
    by_cases hat : location.place? = some first ∧ some first ∉ (locations.take i).map (·.place?)
    · have hmarked : FirstAtPlace locations i location := by
        unfold FirstAtPlace
        rw [hat.1]
        exact hat.2
      rw [if_pos hat, markMissing_markMissing, ite_self,
        if_pos ⟨hat.1 ▸ List.mem_cons_self, hmarked⟩]
    · rw [if_neg hat]
      apply if_congr _ rfl rfl
      rw [firstAtPlace_congr hplaces rfl, List.map_cons, List.mem_cons]
      constructor
      · rintro ⟨hmem, hmarked⟩
        exact ⟨.inr hmem, hmarked⟩
      · rintro ⟨heq | hmem, hmarked⟩
        · unfold FirstAtPlace at hmarked
          rw [heq] at hmarked
          exact (hat ⟨heq, hmarked⟩).elim
        · exact ⟨hmem, hmarked⟩

end Marking

section Missing

theorem RemoteLocation.place?_mailbox {location : RemoteLocation}
    (h : location.place? = some place) : location.mailboxName = place.mailbox := by
  unfold place? at h
  split at h
  · cases h
    rfl
  · cases h

/-- What a location adds to the places that are active. -/
def addActive (selected : List String) (out : List LocalRemoteLocation)
    (location : RemoteLocation) : List LocalRemoteLocation :=
  if !location.isActive || !decide (location.mailboxName ∈ selected) then out
  else match location.place? with
    | some place => if place ∈ out then out else out ++ [place]
    | none => out

theorem mem_activeRemoteLocations {selected : List String} :
    place ∈ activeRemoteLocations selected locations ↔ ∃ location ∈ locations,
      location.isActive = true ∧ location.mailboxName ∈ selected ∧
        location.place? = some place := by
  suffices hfrom : ∀ out : List LocalRemoteLocation,
      place ∈ locations.foldl (addActive selected) out ↔ place ∈ out ∨ ∃ location ∈ locations,
      location.isActive = true ∧ location.mailboxName ∈ selected ∧
        location.place? = some place by
    have h := hfrom []
    rw [or_iff_right List.not_mem_nil] at h
    exact h
  induction locations with
  | nil => simp
  | cons first rest ih =>
    intro out
    rw [List.foldl_cons, ih, addActive]
    simp only [List.exists_mem_cons_iff, ← or_assoc]
    apply or_congr_left
    by_cases hactive : first.isActive = true ∧ first.mailboxName ∈ selected
    · rw [if_neg (by simp [hactive])]
      cases hplace : first.place? with
      | none => simp
      | some known =>
        by_cases hmem : known ∈ out
        · simp only [if_pos hmem, hactive, Option.some.injEq, true_and]
          constructor
          · exact .inl
          · rintro (hout | rfl)
            · exact hout
            · exact hmem
        · simp [hmem, hactive, eq_comm]
    · rw [if_pos (by simpa [Decidable.or_iff_not_not_and_not] using hactive)]
      constructor
      · exact .inl
      · rintro (hout | ⟨h₁, h₂, _⟩)
        · exact hout
        · exact (hactive ⟨h₁, h₂⟩).elim

theorem mem_of_snapshotByFolder {mailbox : String} {snapshot : FolderUidSnapshot}
    (h : (snapshotByFolder snapshots)[mailbox]? = some snapshot) :
    mailbox ∈ snapshots.map (·.mailbox) := by
  suffices hfrom : ∀ out : Std.ExtTreeMap String FolderUidSnapshot,
      (snapshots.foldl (fun out snapshot => out.insert snapshot.mailbox snapshot) out)[mailbox]? =
        some snapshot → out[mailbox]? = some snapshot ∨ mailbox ∈ snapshots.map (·.mailbox) by
    rcases hfrom ∅ h with hnone | hmem
    · simp at hnone
    · exact hmem
  clear h
  induction snapshots with
  | nil => exact fun out h => .inl h
  | cons first rest ih =>
    intro out hget
    rw [List.foldl_cons] at hget
    rcases ih _ hget with hinsert | hmem
    · rw [Std.ExtTreeMap.getElem?_insert] at hinsert
      split at hinsert
      · rename_i heq
        right
        rw [← Std.LawfulEqCmp.compare_eq_iff_eq.mp heq]
        exact List.mem_cons_self
      · exact .inl hinsert
    · exact .inr (List.mem_cons_of_mem _ hmem)

/-- The places of a message that the folders no longer hold. -/
def missingPlaces (snapshots : List FolderUidSnapshot) (locations : List RemoteLocation) :
    List LocalRemoteLocation :=
  (activeRemoteLocations (snapshots.map (·.mailbox)) locations).filter
    (remoteLocationMissing (snapshotByFolder snapshots))

theorem remoteLocationMissing_iff {folders : Std.ExtTreeMap String FolderUidSnapshot} :
    remoteLocationMissing folders place = true ↔ ∃ snapshot : FolderUidSnapshot,
      folders[place.mailbox]? = some snapshot ∧
        ¬(snapshot.uidValidity = place.uidValidity ∧ place.uid ∈ snapshot.uids) := by
  unfold remoteLocationMissing
  cases hget : folders[place.mailbox]? with
  | none => simp
  | some snapshot =>
    simp only [Option.some.injEq, exists_eq_left', Bool.or_eq_true, bne_iff_ne, Bool.not_eq_true',
      not_and_or, ← Bool.not_eq_true, Std.ExtTreeSet.contains_iff_mem, ne_eq]

theorem mem_missingPlaces :
    place ∈ missingPlaces snapshots locations ↔ ∃ location ∈ locations,
      location.GoneFrom snapshots ∧ location.place? = some place := by
  unfold missingPlaces
  rw [List.mem_filter, mem_activeRemoteLocations, remoteLocationMissing_iff]
  constructor
  · rintro ⟨⟨location, hmem, hactive, _, hplace⟩, snapshot, hget, hnot⟩
    exact ⟨location, hmem, ⟨hactive, place, snapshot, hplace, hget, hnot⟩, hplace⟩
  · rintro ⟨location, hmem, ⟨hactive, place', snapshot, hplace', hget, hnot⟩, hplace⟩
    cases Option.some.inj (hplace'.symm.trans hplace)
    refine ⟨⟨location, hmem, hactive, ?_, hplace⟩, snapshot, hget, hnot⟩
    rw [RemoteLocation.place?_mailbox hplace]
    exact mem_of_snapshotByFolder hget

theorem RemoteLocation.GoneFrom.same_place {location other : RemoteLocation}
    (h : location.GoneFrom snapshots) (hactive : other.isActive = true)
    (hplace : other.place? = location.place?) : other.GoneFrom snapshots := by
  obtain ⟨_, place, snapshot, hat, hget, hnot⟩ := h
  exact ⟨hactive, place, snapshot, hplace.trans hat, hget, hnot⟩

/-- The locations a reconciliation leaves of those it finds. -/
def reconcileLocations (snapshots : List FolderUidSnapshot) (now : String)
    (locations : List RemoteLocation) : List RemoteLocation :=
  markRemoteLocationsMissing now (missingPlaces snapshots locations) locations

theorem places_recorded : ∀ place ∈ missingPlaces snapshots locations,
    some place ∈ locations.map (·.place?) := by
  intro place hmem
  obtain ⟨location, hlocation, _, hplace⟩ := mem_missingPlaces.mp hmem
  exact List.mem_map.mpr ⟨location, hlocation, hplace⟩

theorem place?_mem_missingPlaces {location : RemoteLocation} (hmem : location ∈ locations) :
    location.isActive = true ∧ location.place? ∈ (missingPlaces snapshots locations).map some ↔
      location.GoneFrom snapshots := by
  constructor
  · rintro ⟨hactive, hplace⟩
    obtain ⟨place, hmissing, heq⟩ := List.mem_map.mp hplace
    obtain ⟨other, _, hgone, hother⟩ := mem_missingPlaces.mp hmissing
    exact hgone.same_place hactive (heq.symm.trans hother.symm)
  · intro hgone
    obtain ⟨hactive, place, _, hplace, _⟩ := id hgone
    refine ⟨hactive, ?_⟩
    rw [hplace]
    exact List.mem_map.mpr ⟨place, mem_missingPlaces.mpr ⟨location, hmem, hgone, hplace⟩, rfl⟩

theorem map_place?_reconcileLocations (snapshots : List FolderUidSnapshot) (now : String)
    (locations : List RemoteLocation) :
    (reconcileLocations snapshots now locations).map (·.place?) = locations.map (·.place?) :=
  map_place?_markRemoteLocationsMissing now places_recorded

theorem getElem?_reconcileLocations (snapshots : List FolderUidSnapshot) (now : String)
    (locations : List RemoteLocation) (i : Nat) :
    (reconcileLocations snapshots now locations)[i]? = locations[i]?.map fun location =>
      if location.place? ∈ (missingPlaces snapshots locations).map some ∧
        FirstAtPlace locations i location then location.markMissing now else location :=
  getElem?_markRemoteLocationsMissing now places_recorded i

/-- What a reconciliation does to the locations of one message. -/
theorem reconcileLocations_reconciled :
    Reconciled snapshots now locations (reconcileLocations snapshots now locations) := by
  refine ⟨?_, ?_, ?_⟩
  · have hlength := congrArg List.length (map_place?_reconcileLocations snapshots now locations)
    rw [List.length_map, List.length_map] at hlength
    exact hlength
  · intro i location hat hgone hfirst
    have hmem := List.mem_of_getElem? hat
    obtain ⟨hactive, hplace⟩ := (place?_mem_missingPlaces hmem).mpr hgone
    rw [getElem?_reconcileLocations, hat, Option.map_some, if_pos ⟨hplace, hfirst⟩]
    unfold RemoteLocation.markMissing
    rw [if_pos hactive]
  · intro i location hat hnot
    have hmem := List.mem_of_getElem? hat
    rw [getElem?_reconcileLocations, hat, Option.map_some]
    split
    · rename_i hmark
      unfold RemoteLocation.markMissing
      rw [if_neg]
      intro hactive
      exact hnot ⟨(place?_mem_missingPlaces hmem).mp ⟨hactive, hmark.1⟩, hmark.2⟩
    · rfl

theorem Reconciled.not_gone {after : List RemoteLocation} {location : RemoteLocation}
    (h : Reconciled snapshots now locations after)
    (hplaces : after.map (·.place?) = locations.map (·.place?))
    (hat : after[i]? = some location) (hgone : location.GoneFrom snapshots) :
    ¬FirstAtPlace after i location := by
  intro hfirst
  have hlt : i < locations.length := by
    rw [← h.length]
    exact (List.getElem?_eq_some_iff.mp hat).1
  have hbefore : locations[i]? = some locations[i] := List.getElem?_eq_getElem hlt
  by_cases hmark : locations[i].GoneFrom snapshots ∧ FirstAtPlace locations i locations[i]
  · have hafter := h.missing i _ hbefore hmark.1 hmark.2
    cases Option.some.inj (hat.symm.trans hafter)
    exact Bool.noConfusion hgone.1
  · have hafter := h.untouched i _ hbefore hmark
    cases Option.some.inj (hat.symm.trans hafter)
    exact hmark ⟨hgone, (firstAtPlace_congr hplaces rfl).mp hfirst⟩

theorem reconcileLocations_again (now' : String) :
    reconcileLocations snapshots now' (reconcileLocations snapshots now locations) =
      reconcileLocations snapshots now locations := by
  apply List.ext_getElem?
  intro i
  rw [getElem?_reconcileLocations]
  cases hat : (reconcileLocations snapshots now locations)[i]? with
  | none => rfl
  | some location =>
    rw [Option.map_some, Option.some.injEq]
    split
    · rename_i hmark
      unfold RemoteLocation.markMissing
      rw [if_neg]
      intro hactive
      have hgone := (place?_mem_missingPlaces (List.mem_of_getElem? hat)).mp ⟨hactive, hmark.1⟩
      exact reconcileLocations_reconciled.not_gone
        (map_place?_reconcileLocations snapshots now locations) hat hgone hmark.2
    · rfl

theorem hasAnyActiveRemoteLocation_of_missing (h : missingPlaces snapshots locations ≠ []) :
    hasAnyActiveRemoteLocation locations = true := by
  obtain ⟨place, hmem⟩ := List.exists_mem_of_ne_nil _ h
  obtain ⟨location, hlocation, hgone, hplace⟩ := mem_missingPlaces.mp hmem
  apply List.any_eq_true.mpr
  refine ⟨location, hlocation, ?_⟩
  rw [hgone.1, hplace]
  rfl

end Missing

namespace Workspace
variable {w w' : Workspace} {messageId : String}

/-- Only messages changed, and each is as readable as before. -/
def SameReaders (w w' : Workspace) : Prop :=
  ∃ messages, w' = { w with messages := messages } ∧ ∀ messageId : String,
    (messages[messageId]?.map fun record => (record.eml.isSome, record.metadata.isSome)) =
      w.messages[messageId]?.map fun record => (record.eml.isSome, record.metadata.isSome)

theorem SameReaders.refl : SameReaders w w := ⟨w.messages, rfl, fun _ => rfl⟩

theorem SameReaders.trans (h : SameReaders w w') (hnext : SameReaders w' w'') :
    SameReaders w w'' := by
  obtain ⟨messages, rfl, hsame⟩ := h
  obtain ⟨messages', rfl, hsame'⟩ := hnext
  exact ⟨messages', rfl, fun messageId => (hsame' messageId).trans (hsame messageId)⟩

theorem readMessageUnder_notificationUid (index : OverlayIndex) (messageId : String) :
    (w.readMessageUnder index messageId).toOption.bind (·.notificationUid) =
      match w.messages[messageId]?.map fun record => (record.eml.isSome, record.metadata.isSome) with
      | some (true, true) => index.notificationUid messageId
      | _ => none := by
  unfold readMessageUnder
  cases w.messages[messageId]? with
  | none => rfl
  | some record =>
    obtain ⟨eml, _, _, metadata⟩ := record
    cases eml <;> cases metadata <;> rfl

theorem collectNotificationReferences_eq (w : Workspace) (messageId : String) :
    w.collectNotificationReferences messageId = w.materializedOverlayIndex.map fun index =>
      if ((w.readMessageUnder index messageId).toOption.bind (·.notificationUid)).isSome then
        [s!"messages/{messageId}.json:notification_uid"] else [] := by
  unfold collectNotificationReferences
  cases w.materializedOverlayIndex with
  | error error => rfl
  | ok index =>
    cases hread : w.readMessageUnder index messageId with
    | error _ =>
      simp only [bind, Except.bind, Except.map, hread]
      rfl
    | ok _ =>
      simp only [bind, Except.bind, Except.map, hread]
      rfl

theorem SameReaders.messageReferences (h : SameReaders w w') (messageId : String)
    (allowedPush : Option String) (allowed : List MessagePushAction) :
    w'.messageReferences messageId allowedPush allowed =
      w.messageReferences messageId allowedPush allowed := by
  obtain ⟨messages, rfl, hsame⟩ := h
  have hnotifications : collectNotificationReferences { w with messages := messages } messageId =
      w.collectNotificationReferences messageId := by
    have hindex : materializedOverlayIndex { w with messages := messages } =
        w.materializedOverlayIndex := rfl
    simp only [collectNotificationReferences_eq, hindex, readMessageUnder_notificationUid, hsame]
  unfold Workspace.messageReferences
  rw [hnotifications]
  rfl

theorem mem_referencedMessageIds {messageIds referenced : List String}
    (h : w.referencedMessageIds messageIds = .ok referenced) (hmem : messageId ∈ messageIds) :
    messageId ∈ referenced ↔ w.messageReferences messageId none [] ≠ .ok [] := by
  obtain ⟨references, hreferences, h⟩ := Result.bind_ok h
  cases h
  have hall := Result.mapM_eq_ok_iff.mp hreferences
  rw [List.mem_filterMap]
  constructor
  · rintro ⟨⟨other, found⟩, hentry, hsome⟩
    dsimp only at hsome
    split at hsome
    · cases hsome
    · rename_i hne
      cases hsome
      rw [List.forall₂_zip hall hentry]
      intro heq
      cases heq
      exact hne rfl
  · intro hne
    obtain ⟨i, hlt, rfl⟩ := List.mem_iff_getElem.mp hmem
    have hlt' : i < references.length := hall.length_eq ▸ hlt
    have hboth : i < (messageIds.zip references).length := by
      rw [List.length_zip]
      exact Nat.lt_min.mpr ⟨hlt, hlt'⟩
    have hentry : (messageIds[i], references[i]) ∈ messageIds.zip references :=
      List.mem_iff_getElem.mpr ⟨i, hboth, List.getElem_zip⟩
    refine ⟨_, hentry, ?_⟩
    rw [if_neg]
    intro hempty
    have hnil : references[i] = [] := List.isEmpty_iff.mp hempty
    exact hne (hnil ▸ List.forall₂_zip hall hentry)

theorem sameReaders_alterMessage {change : MessageRecord → MessageRecord}
    (hmetadata : (w.record messageId).metadata.isSome)
    (hchange : (change (w.record messageId)).eml = (w.record messageId).eml ∧
      (change (w.record messageId)).metadata.isSome) :
    SameReaders w (w.alterMessage messageId change) := by
  refine ⟨_, rfl, ?_⟩
  intro other
  rw [Std.ExtTreeMap.getElem?_alter]
  by_cases heq : messageId = other
  · subst heq
    rw [if_pos Std.ReflCmp.compare_self]
    unfold record at hmetadata hchange
    cases hget : w.messages[messageId]? with
    | none =>
      rw [hget] at hmetadata
      cases hmetadata
    | some record =>
      rw [hget, Option.getD_some] at hmetadata hchange
      rw [Option.map_some, Option.map_some, Option.getD_some, hchange.1, hchange.2, hmetadata]
  · rw [if_neg (fun h => heq (Std.LawfulEqCmp.compare_eq_iff_eq.mp h))]

/-- A change that leaves a known message as it is changes nothing. -/
theorem alterMessage_eq_self {change : MessageRecord → MessageRecord}
    (hmetadata : (w.record messageId).metadata.isSome)
    (hchange : change (w.record messageId) = w.record messageId) :
    w.alterMessage messageId change = w := by
  have hmessages : w.messages.alter messageId (fun record => some (change (record.getD {}))) =
      w.messages := by
    apply Std.ExtTreeMap.ext_getElem?
    intro other
    rw [Std.ExtTreeMap.getElem?_alter]
    split
    · rename_i heq
      cases Std.LawfulEqCmp.compare_eq_iff_eq.mp heq
      unfold record at hmetadata hchange
      cases hget : w.messages[messageId]? with
      | none =>
        rw [hget] at hmetadata
        cases hmetadata
      | some record =>
        rw [hget] at hchange
        rw [hchange]
        rfl
    · rfl
  unfold alterMessage
  rw [hmessages]

theorem remoteLocations_eq_record :
    w.remoteLocations messageId = ((w.record messageId).metadata.bind (·.remote)).getD [] := by
  unfold remoteLocations record
  cases w.messages[messageId]? <;> rfl

end Workspace

namespace MaterializedWorkspace

/-- Every readable cache is of its own message and says of it what the canonical files say. -/
def InStep (w : MaterializedWorkspace) : Prop :=
  ∀ (messageId : String) message, w.caches[messageId]? = some (.ok message) →
    message.messageId = messageId ∧
      (w.canonical.record messageId).direction = message.direction ∧
      ∃ metadata, (w.canonical.record messageId).metadata = some metadata ∧
        metadata.remote = message.remote

/-- The workspace after a message was written back. -/
def withArtifacts (w : MaterializedWorkspace) (message : Message) : MaterializedWorkspace :=
  { canonical := (w.canonical.persistMessageMetadata message.messageId message.remote none
      ).writeMessageMaterializedCache message.messageId message.direction
    caches := w.caches.insert message.messageId (.ok message) }

theorem writeMessageArtifacts_returns {message : Message} {value : Unit} :
    Returns (Reconcile.writeMessageArtifacts message) w value w' ↔ w' = w.withArtifacts message := by
  constructor
  · intro h
    cases h
    rfl
  · rintro rfl
    rfl

theorem InStep.remoteLocations (h : w.InStep) {messageId : String} {message : Message}
    (hcache : w.caches[messageId]? = some (.ok message)) :
    w.canonical.remoteLocations messageId = message.remote.getD [] := by
  obtain ⟨_, _, metadata, hmetadata, hremote⟩ := h messageId message hcache
  rw [Workspace.remoteLocations_eq_record, hmetadata, Option.bind_some, hremote]

section WithArtifacts
variable {message : Message}

theorem getElem?_caches_withArtifacts (messageId : String) :
    (w.withArtifacts message).caches[messageId]? =
      if messageId = message.messageId then some (.ok message) else w.caches[messageId]? := by
  unfold withArtifacts
  rw [Std.ExtTreeMap.getElem?_insert]
  by_cases heq : message.messageId = messageId
  · subst heq
    rw [if_pos Std.ReflCmp.compare_self, if_pos rfl]
  · rw [if_neg (fun h => heq (Std.LawfulEqCmp.compare_eq_iff_eq.mp h)), if_neg (Ne.symm heq)]

theorem record_withArtifacts (messageId : String) :
    (w.withArtifacts message).canonical.record messageId =
      if messageId = message.messageId then
        { w.canonical.record messageId with
          direction := message.direction
          metadata := some {
            ((w.canonical.record messageId).metadata.getD {}) with remote := message.remote } }
      else w.canonical.record messageId := by
  unfold withArtifacts Workspace.writeMessageMaterializedCache Workspace.persistMessageMetadata
    Workspace.writeMessageMetadataFile
  simp only [Workspace.record_alterMessage]
  by_cases heq : messageId = message.messageId
  · subst heq
    simp only [if_pos]
    rfl
  · simp only [if_neg heq]

theorem remoteLocations_withArtifacts (messageId : String) :
    (w.withArtifacts message).canonical.remoteLocations messageId =
      if messageId = message.messageId then message.remote.getD []
      else w.canonical.remoteLocations messageId := by
  simp only [Workspace.remoteLocations_eq_record, record_withArtifacts]
  split <;> rfl

theorem InStep.withArtifacts (h : w.InStep) : (w.withArtifacts message).InStep := by
  intro messageId cached hcache
  rw [getElem?_caches_withArtifacts] at hcache
  rw [record_withArtifacts]
  split at hcache
  · rename_i heq
    cases hcache
    rw [if_pos heq]
    exact ⟨heq.symm, rfl, _, rfl, rfl⟩
  · rename_i hne
    rw [if_neg hne]
    exact h messageId cached hcache

theorem sameReaders_withArtifacts
    (hmetadata : (w.canonical.record message.messageId).metadata.isSome) :
    w.canonical.SameReaders (w.withArtifacts message).canonical := by
  have hpersist : w.canonical.SameReaders
      (w.canonical.persistMessageMetadata message.messageId message.remote none) := by
    unfold Workspace.persistMessageMetadata Workspace.writeMessageMetadataFile
    exact Workspace.sameReaders_alterMessage hmetadata ⟨rfl, rfl⟩
  have hpresent : ((w.canonical.persistMessageMetadata message.messageId message.remote none).record
      message.messageId).metadata.isSome := by
    unfold Workspace.persistMessageMetadata Workspace.writeMessageMetadataFile
    rw [Workspace.record_alterMessage, if_pos rfl]
    rfl
  apply hpersist.trans
  change Workspace.SameReaders _ (Workspace.writeMessageMaterializedCache _ _ _)
  unfold Workspace.writeMessageMaterializedCache
  exact Workspace.sameReaders_alterMessage hpresent ⟨rfl, hpresent⟩

/-- A message that is in step is written back without a change. -/
theorem InStep.withArtifacts_eq_self {messageId : String} (h : w.InStep)
    (hcache : w.caches[messageId]? = some (.ok message)) : w.withArtifacts message = w := by
  obtain ⟨rfl, hdirection, metadata, hmetadata, hremote⟩ := h messageId message hcache
  have hcaches : w.caches.insert message.messageId (.ok message) = w.caches := by
    apply Std.ExtTreeMap.ext_getElem?
    intro other
    rw [Std.ExtTreeMap.getElem?_insert]
    split
    · rename_i heq
      rw [← Std.LawfulEqCmp.compare_eq_iff_eq.mp heq, hcache]
    · rfl
  have hpersist : w.canonical.persistMessageMetadata message.messageId message.remote none =
      w.canonical := by
    unfold Workspace.persistMessageMetadata Workspace.writeMessageMetadataFile
    apply Workspace.alterMessage_eq_self (by rw [hmetadata]; rfl)
    rw [hmetadata, Option.getD_some, ← hremote]
    change { w.canonical.record message.messageId with metadata := some metadata } = _
    rw [← hmetadata]
  have hwrite : w.canonical.writeMessageMaterializedCache message.messageId message.direction =
      w.canonical := by
    unfold Workspace.writeMessageMaterializedCache
    apply Workspace.alterMessage_eq_self (by rw [hmetadata]; rfl)
    rw [← hdirection]
  unfold MaterializedWorkspace.withArtifacts
  rw [hpersist, hwrite, hcaches]

end WithArtifacts
end MaterializedWorkspace

open MaterializedWorkspace

/-- A message with the locations that a reconciliation leaves it. -/
def Message.reconciled (snapshots : List FolderUidSnapshot) (now : String → String)
    (message : Message) : Message :=
  { message with
    remote := some (reconcileLocations snapshots (now message.messageId)
      (message.remote.getD [])) }

@[simp] theorem Message.reconciled_messageId {now : String → String} (message : Message) :
    (message.reconciled snapshots now).messageId = message.messageId := rfl

/-- What one round does: nothing is missing, the message keeps an active location, or it is
put aside. -/
inductive ReconcileRound (snapshots : List FolderUidSnapshot) (now : String → String)
    (w : MaterializedWorkspace) (message : Message) (gone : List Message) :
    List Message → MaterializedWorkspace → Prop
  | nothing : missingPlaces snapshots (message.remote.getD []) = [] →
      ReconcileRound snapshots now w message gone gone w
  | kept : missingPlaces snapshots (message.remote.getD []) ≠ [] →
      hasAnyActiveRemoteLocation ((message.reconciled snapshots now).remote.getD []) = true →
      ReconcileRound snapshots now w message gone gone
        (w.withArtifacts (message.reconciled snapshots now))
  | gone : missingPlaces snapshots (message.remote.getD []) ≠ [] →
      hasAnyActiveRemoteLocation ((message.reconciled snapshots now).remote.getD []) = false →
      ReconcileRound snapshots now w message gone (gone ++ [message.reconciled snapshots now]) w

theorem reconcileMessage_returns {now : String → String} {found found' : ReconcileReport × List Message}
    (h : Returns (reconcileMessage snapshots now found path) w found' w') :
    ∃ message, w.caches[path]? = some (.ok message) ∧
      ReconcileRound snapshots now w message found.2 found'.2 w' := by
  obtain ⟨message, middle, hread, hround⟩ := Returns.bind_iff.mp h
  have hcache : w.caches[path]? = some (.ok message) ∧ middle = w := by
    unfold Reconcile.readMessageCache at hread
    have hread := Returns.read_iff.mp hread
    cases hget : w.caches[path]? with
    | none =>
      rw [hget] at hread
      cases hread
    | some content =>
      rw [hget] at hread
      cases content with
      | error error => cases hread
      | ok cached =>
        cases hread
        exact ⟨rfl, rfl⟩
  obtain ⟨hcache, rfl⟩ := hcache
  refine ⟨message, hcache, ?_⟩
  dsimp only at hround
  split at hround
  · rename_i hempty
    obtain ⟨rfl, rfl⟩ := Returns.ret_iff.mp hround
    exact .nothing (List.isEmpty_iff.mp hempty)
  · rename_i hne
    have hmissing : missingPlaces snapshots (message.remote.getD []) ≠ [] := by
      intro hempty
      exact hne (List.isEmpty_iff.mpr hempty)
    split at hround
    · rename_i hactive
      obtain ⟨_, _, hwrite, hround⟩ := Returns.bind_iff.mp hround
      obtain rfl := writeMessageArtifacts_returns.mp hwrite
      obtain ⟨rfl, rfl⟩ := Returns.ret_iff.mp hround
      exact .kept hmissing hactive
    · rename_i hactive
      obtain ⟨rfl, rfl⟩ := Returns.ret_iff.mp hround
      exact .gone hmissing (Bool.eq_false_iff.mpr hactive)

/-- The workspace after a message was marked as deleted. -/
def MaterializedWorkspace.deleted (w : MaterializedWorkspace) (messageId now : String) :
    MaterializedWorkspace :=
  { w with
    canonical :=
      let cleared := (w.canonical.clearDisposition messageId .spam).clearDisposition messageId .trashed
      cleared.setDisposition .deletedRemote
        ((cleared.disposition .deletedRemote).upsertItem messageId none now) }

theorem MaterializedWorkspace.mem_deleted {messageId other now : String} :
    other ∈ (w.deleted messageId now).canonical.deletedRemote ↔
      other = messageId ∨ other ∈ w.canonical.deletedRemote := by
  change other ∈ (w.deleted messageId now).canonical.disposition .deletedRemote ↔ _
  unfold deleted
  rw [Workspace.disposition_setDisposition, if_pos rfl, Members.mem_upsertItem,
    Workspace.mem_clearDisposition, Workspace.mem_clearDisposition]
  simp [Workspace.disposition]

theorem Workspace.messages_clearDisposition {w : Workspace} (messageId : String)
    (kind : Disposition) : (w.clearDisposition messageId kind).messages = w.messages := by
  unfold clearDisposition
  split
  · cases kind <;> rfl
  · rfl

theorem MaterializedWorkspace.messages_deleted {messageId now : String} :
    (w.deleted messageId now).canonical.messages = w.canonical.messages := by
  change (Workspace.clearDisposition _ _ _).messages = _
  rw [Workspace.messages_clearDisposition, Workspace.messages_clearDisposition]

theorem settleGoneMessage_returns {now : String → String} {message : Message}
    (h : Returns (settleGoneMessage referenced now report message) w report' w') :
    if message.messageId ∈ referenced then w' = w.withArtifacts message
    else w' = (w.deleted message.messageId (now message.messageId)).withArtifacts
      { message with status := .deletedRemote, notificationUid := none, pending := [] } := by
  unfold settleGoneMessage at h
  split at h
  · rename_i hmem
    obtain ⟨_, _, hwrite, h⟩ := Returns.bind_iff.mp h
    obtain rfl := writeMessageArtifacts_returns.mp hwrite
    rw [if_pos hmem]
    exact (Returns.ret_iff.mp h).2
  · rename_i hnot
    obtain ⟨_, middle, hdispose, h⟩ := Returns.bind_iff.mp h
    obtain ⟨_, _, hwrite, h⟩ := Returns.bind_iff.mp h
    obtain rfl := writeMessageArtifacts_returns.mp hwrite
    cases hdispose
    rw [if_neg hnot]
    exact (Returns.ret_iff.mp h).2

/-- A message that the folders lost: a location is gone, and none is left active. -/
def Vanished (snapshots : List FolderUidSnapshot) (before after : List RemoteLocation) : Prop :=
  (∃ location ∈ before, location.GoneFrom snapshots) ∧
    ∀ location ∈ after, location.isActive = true → location.place? = none

theorem missingPlaces_ne_nil_iff :
    missingPlaces snapshots locations ≠ [] ↔
      ∃ location ∈ locations, location.GoneFrom snapshots := by
  constructor
  · intro h
    obtain ⟨place, hmem⟩ := List.exists_mem_of_ne_nil _ h
    obtain ⟨location, hlocation, hgone, _⟩ := mem_missingPlaces.mp hmem
    exact ⟨location, hlocation, hgone⟩
  · rintro ⟨location, hlocation, hgone⟩
    obtain ⟨_, place, _, hplace, _⟩ := id hgone
    exact List.ne_nil_of_mem (mem_missingPlaces.mpr ⟨location, hlocation, hgone, hplace⟩)

theorem hasAnyActiveRemoteLocation_eq_false_iff :
    hasAnyActiveRemoteLocation locations = false ↔
      ∀ location ∈ locations, location.isActive = true → location.place? = none := by
  unfold hasAnyActiveRemoteLocation
  simp [List.any_eq_false]

theorem reconcileLocations_of_nothing (h : missingPlaces snapshots locations = []) :
    reconcileLocations snapshots now locations = locations := by
  rw [reconcileLocations, h]
  rfl

section Rounds
variable {start : MaterializedWorkspace} {now : String → String} {done paths : List String}
  {gone : List Message} {messageId : String}

/-- The locations of a message after a reconciliation that starts here. -/
def MaterializedWorkspace.reconciledLocations (start : MaterializedWorkspace)
    (snapshots : List FolderUidSnapshot) (now : String → String) (messageId : String) :
    List RemoteLocation :=
  reconcileLocations snapshots (now messageId) (start.canonical.remoteLocations messageId)

/-- Whether a reconciliation that starts here finds the message lost. -/
def MaterializedWorkspace.Loses (start : MaterializedWorkspace)
    (snapshots : List FolderUidSnapshot) (now : String → String) (messageId : String) : Prop :=
  Vanished snapshots (start.canonical.remoteLocations messageId)
    (start.reconciledLocations snapshots now messageId)

/-- The workspace after the messages in `done` were gone through; `gone` are those put aside. -/
structure Surveyed (start : MaterializedWorkspace) (snapshots : List FolderUidSnapshot)
    (now : String → String) (done : List String) (gone : List Message)
    (w : MaterializedWorkspace) : Prop where
  inStep : w.InStep
  readers : start.canonical.SameReaders w.canonical
  cached : ∀ messageId, messageId ∈ w.caches ↔ messageId ∈ start.caches
  readable : ∀ messageId ∈ done, ∃ message, w.caches[messageId]? = some (.ok message)
  waiting : ∀ messageId, messageId ∉ done ∨ messageId ∈ gone.map (·.messageId) →
    w.canonical.remoteLocations messageId = start.canonical.remoteLocations messageId
  settled : ∀ messageId ∈ done, messageId ∉ gone.map (·.messageId) →
    w.canonical.remoteLocations messageId = start.reconciledLocations snapshots now messageId ∧
      ¬start.Loses snapshots now messageId
  lost : ∀ message ∈ gone, message.messageId ∈ done ∧
    message.remote = some (start.reconciledLocations snapshots now message.messageId) ∧
      start.Loses snapshots now message.messageId
  distinct : (gone.map (·.messageId)).Nodup

theorem Surveyed.refl (h : start.InStep) : Surveyed start snapshots now [] [] start :=
  ⟨h, .refl, fun _ => .rfl, fun _ h => (List.not_mem_nil h).elim, fun _ _ => rfl,
    fun _ h => (List.not_mem_nil h).elim, fun _ h => (List.not_mem_nil h).elim, List.nodup_nil⟩

theorem mem_caches_withArtifacts {message : Message} :
    messageId ∈ (w.withArtifacts message).caches ↔
      messageId = message.messageId ∨ messageId ∈ w.caches := by
  rw [Std.ExtTreeMap.mem_iff_isSome_getElem?, getElem?_caches_withArtifacts,
    Std.ExtTreeMap.mem_iff_isSome_getElem?]
  split
  · rename_i heq
    simp [heq]
  · rename_i hne
    simp [hne]

section Round
variable {message : Message} {gone' : List Message}

theorem mem_done_iff : messageId ∈ done ++ [message.messageId] ↔
    messageId ∈ done ∨ messageId = message.messageId := by simp

variable (h : Surveyed start snapshots now done gone w) (hnew : message.messageId ∉ done)
  (hcache : w.caches[message.messageId]? = some (.ok message))
include h hnew hcache

theorem Surveyed.remote_eq :
    message.remote.getD [] = start.canonical.remoteLocations message.messageId :=
  (h.inStep.remoteLocations hcache).symm.trans (h.waiting message.messageId (.inl hnew))

theorem Surveyed.marked : (message.reconciled snapshots now).remote =
    some (start.reconciledLocations snapshots now message.messageId) := by
  unfold Message.reconciled MaterializedWorkspace.reconciledLocations
  rw [h.remote_eq hnew hcache]

omit hnew in
theorem Surveyed.readable_next : ∀ messageId ∈ done ++ [message.messageId],
    ∃ other, w.caches[messageId]? = some (.ok other) := by
  intro messageId hmem
  rcases mem_done_iff.mp hmem with hmem | rfl
  · exact h.readable messageId hmem
  · exact ⟨message, hcache⟩

theorem Surveyed.nothing (hmissing : missingPlaces snapshots (message.remote.getD []) = []) :
    Surveyed start snapshots now (done ++ [message.messageId]) gone w := by
  rw [h.remote_eq hnew hcache] at hmissing
  refine ⟨h.inStep, h.readers, h.cached, h.readable_next hcache, ?_, ?_, ?_, h.distinct⟩
  · intro messageId hwait
    apply h.waiting messageId
    apply hwait.imp_left
    exact fun hnot hmem => hnot (mem_done_iff.mpr (.inl hmem))
  · intro messageId hmem hnot
    rcases mem_done_iff.mp hmem with hmem | rfl
    · exact h.settled messageId hmem hnot
    · refine ⟨(h.waiting _ (.inl hnew)).trans (reconcileLocations_of_nothing hmissing).symm, ?_⟩
      rintro ⟨hgone, _⟩
      exact missingPlaces_ne_nil_iff.mpr hgone hmissing
  · intro other hother
    obtain ⟨hmem, hrest⟩ := h.lost other hother
    exact ⟨mem_done_iff.mpr (.inl hmem), hrest⟩

theorem Surveyed.kept
    (hactive : hasAnyActiveRemoteLocation ((message.reconciled snapshots now).remote.getD []) = true) :
    Surveyed start snapshots now (done ++ [message.messageId]) gone
      (w.withArtifacts (message.reconciled snapshots now)) := by
  have hmarked := h.marked hnew hcache
  rw [hmarked, Option.getD_some] at hactive
  have hrecorded : (w.canonical.record message.messageId).metadata.isSome = true := by
    obtain ⟨_, _, metadata, hmetadata, _⟩ := h.inStep _ message hcache
    exact Option.isSome_of_eq_some hmetadata
  refine ⟨h.inStep.withArtifacts, h.readers.trans (sameReaders_withArtifacts hrecorded),
    ?_, ?_, ?_, ?_, ?_, h.distinct⟩
  · intro messageId
    rw [mem_caches_withArtifacts, h.cached]
    constructor
    · rintro (rfl | hmem)
      · apply (h.cached _).mp
        change message.messageId ∈ w.caches
        rw [Std.ExtTreeMap.mem_iff_isSome_getElem?, hcache]
        rfl
      · exact hmem
    · exact .inr
  · intro messageId hmem
    rw [getElem?_caches_withArtifacts]
    split
    · exact ⟨_, rfl⟩
    · exact h.readable_next hcache messageId hmem
  · intro messageId hwait
    rw [remoteLocations_withArtifacts, if_neg]
    · apply h.waiting messageId
      apply hwait.imp_left
      exact fun hnot hmem => hnot (mem_done_iff.mpr (.inl hmem))
    · rintro rfl
      rcases hwait with hnot | hmem
      · exact hnot (mem_done_iff.mpr (.inr rfl))
      · obtain ⟨other, hother, heq⟩ := List.mem_map.mp hmem
        exact hnew (heq ▸ (h.lost other hother).1)
  · intro messageId hmem hnot
    rw [remoteLocations_withArtifacts, Message.reconciled_messageId]
    by_cases heq : messageId = message.messageId
    · subst heq
      rw [if_pos rfl, hmarked, Option.getD_some]
      refine ⟨rfl, ?_⟩
      rintro ⟨_, hleft⟩
      rw [hasAnyActiveRemoteLocation_eq_false_iff.mpr hleft] at hactive
      cases hactive
    · rw [if_neg heq]
      exact h.settled messageId ((mem_done_iff.mp hmem).resolve_right heq) hnot
  · intro other hother
    obtain ⟨hmem, hrest⟩ := h.lost other hother
    exact ⟨mem_done_iff.mpr (.inl hmem), hrest⟩

theorem Surveyed.vanished (hmissing : missingPlaces snapshots (message.remote.getD []) ≠ [])
    (hactive : hasAnyActiveRemoteLocation ((message.reconciled snapshots now).remote.getD []) = false) :
    Surveyed start snapshots now (done ++ [message.messageId])
      (gone ++ [message.reconciled snapshots now]) w := by
  have hmarked := h.marked hnew hcache
  rw [hmarked, Option.getD_some] at hactive
  rw [h.remote_eq hnew hcache] at hmissing
  have hgone : ∀ messageId,
      messageId ∈ (gone ++ [message.reconciled snapshots now]).map (·.messageId) ↔
        messageId ∈ gone.map (·.messageId) ∨ messageId = message.messageId := by
    intro messageId
    rw [List.map_append, List.mem_append]
    exact or_congr_right List.mem_singleton
  refine ⟨h.inStep, h.readers, h.cached, h.readable_next hcache, ?_, ?_, ?_, ?_⟩
  · intro messageId hwait
    by_cases heq : messageId = message.messageId
    · subst heq
      exact h.waiting _ (.inl hnew)
    · apply h.waiting messageId
      rcases hwait with hnot | hmem
      · exact .inl fun hmem => hnot (mem_done_iff.mpr (.inl hmem))
      · exact .inr (((hgone messageId).mp hmem).resolve_right heq)
  · intro messageId hmem hnot
    have hne : messageId ≠ message.messageId := fun heq => hnot ((hgone _).mpr (.inr heq))
    apply h.settled messageId ((mem_done_iff.mp hmem).resolve_right hne)
    exact fun hmem => hnot ((hgone messageId).mpr (.inl hmem))
  · intro other hother
    rcases List.mem_append.mp hother with hold | hlast
    · obtain ⟨hmem, hrest⟩ := h.lost other hold
      exact ⟨mem_done_iff.mpr (.inl hmem), hrest⟩
    · cases List.mem_singleton.mp hlast
      exact ⟨mem_done_iff.mpr (.inr rfl), hmarked, missingPlaces_ne_nil_iff.mp hmissing,
        hasAnyActiveRemoteLocation_eq_false_iff.mp hactive⟩
  · rw [List.map_append]
    apply List.Nodup.append h.distinct (List.nodup_singleton _)
    apply List.disjoint_singleton.mpr
    intro hmem
    obtain ⟨other, hother, heq⟩ := List.mem_map.mp hmem
    change other.messageId = message.messageId at heq
    exact hnew (heq ▸ (h.lost other hother).1)

omit hnew hcache in
/-- A round adds its message to those that were gone through. -/
theorem Surveyed.round (hnew : path ∉ done) (hcache : w.caches[path]? = some (.ok message))
    (hround : ReconcileRound snapshots now w message gone gone' w') :
    Surveyed start snapshots now (done ++ [path]) gone' w' := by
  obtain ⟨rfl, _⟩ := h.inStep path message hcache
  cases hround with
  | nothing hmissing => exact h.nothing hnew hcache hmissing
  | kept _ hactive => exact h.kept hnew hcache hactive
  | gone hmissing hactive => exact h.vanished hnew hcache hmissing hactive

end Round

/-- Every cache can be read. -/
def MaterializedWorkspace.Readable (w : MaterializedWorkspace) : Prop :=
  ∀ messageId ∈ w.caches, ∃ message, w.caches[messageId]? = some (.ok message)

/-- The workspace after `settled` of the messages put aside were settled. -/
structure Settling (start : MaterializedWorkspace) (snapshots : List FolderUidSnapshot)
    (now : String → String) (gone : List Message) (referenced : List String)
    (settled : List Message) (w : MaterializedWorkspace) : Prop where
  inStep : w.InStep
  readable : w.Readable
  known : ∀ messageId ∈ w.caches, messageId ∈ start.caches
  locations : ∀ messageId ∈ start.caches,
    messageId ∉ gone.map (·.messageId) ∨ messageId ∈ settled.map (·.messageId) →
    w.canonical.remoteLocations messageId = start.reconciledLocations snapshots now messageId
  deleted : ∀ messageId, messageId ∈ w.canonical.deletedRemote ↔
    messageId ∈ start.canonical.deletedRemote ∨
      messageId ∈ settled.map (·.messageId) ∧ messageId ∉ referenced

theorem Readable.withArtifacts {message : Message} (h : w.Readable) :
    (w.withArtifacts message).Readable := by
  intro messageId hmem
  rw [getElem?_caches_withArtifacts]
  split
  · exact ⟨message, rfl⟩
  · rename_i hne
    exact h messageId ((mem_caches_withArtifacts.mp hmem).resolve_left hne)

theorem MaterializedWorkspace.InStep.deleted {at_ : String} (h : w.InStep) :
    (w.deleted messageId at_).InStep := by
  intro other message hcache
  have hrecord : (w.deleted messageId at_).canonical.record other = w.canonical.record other := by
    unfold Workspace.record
    rw [messages_deleted]
  rw [hrecord]
  exact h other message hcache

theorem remoteLocations_deleted {at_ other : String} :
    (w.deleted messageId at_).canonical.remoteLocations other =
      w.canonical.remoteLocations other := by
  unfold Workspace.remoteLocations
  rw [messages_deleted]

/-- Writing a message back with its reconciled locations. -/
theorem Settling.write {settled : List Message} {referenced : List String} {message : Message}
    (stored : Message) (h : Settling start snapshots now gone referenced settled w)
    (hremote : stored.remote =
      some (start.reconciledLocations snapshots now message.messageId))
    (hid : stored.messageId = message.messageId) (hknown : message.messageId ∈ start.caches)
    (hdeleted : ∀ messageId, messageId ∈ w'.canonical.deletedRemote ↔
      messageId ∈ start.canonical.deletedRemote ∨
        messageId ∈ (settled ++ [message]).map (·.messageId) ∧ messageId ∉ referenced)
    (hinStep : w'.InStep) (hcaches : w'.caches = w.caches)
    (hlocations : ∀ messageId, w'.canonical.remoteLocations messageId =
      w.canonical.remoteLocations messageId) :
    Settling start snapshots now gone referenced (settled ++ [message])
      (w'.withArtifacts stored) := by
  have hreadable : w'.Readable := by
    unfold MaterializedWorkspace.Readable
    rw [hcaches]
    exact h.readable
  refine ⟨hinStep.withArtifacts, Readable.withArtifacts hreadable, ?_, ?_, hdeleted⟩
  · intro messageId hmem
    rcases mem_caches_withArtifacts.mp hmem with heq | hmem
    · rw [heq, hid]
      exact hknown
    · exact h.known messageId (hcaches ▸ hmem)
  intro messageId hmem hsettled
  rw [remoteLocations_withArtifacts, hid]
  by_cases heq : messageId = message.messageId
  · subst heq
    rw [if_pos rfl, hremote, Option.getD_some]
  · rw [if_neg heq, hlocations]
    apply h.locations messageId hmem
    apply hsettled.imp_right
    intro hin
    rw [List.map_append, List.mem_append] at hin
    exact hin.resolve_right fun hlast => heq (List.mem_singleton.mp hlast)

theorem Settling.step {settled : List Message} {referenced : List String} {message : Message}
    (h : Settling start snapshots now gone referenced settled w)
    (hremote : message.remote =
      some (start.reconciledLocations snapshots now message.messageId))
    (hknown : message.messageId ∈ start.caches)
    (hstep : Returns (settleGoneMessage referenced now report message) w report' w') :
    Settling start snapshots now gone referenced (settled ++ [message]) w' := by
  have hdone : ∀ messageId, messageId ∈ (settled ++ [message]).map (·.messageId) ↔
      messageId ∈ settled.map (·.messageId) ∨ messageId = message.messageId := by simp
  have hresult := settleGoneMessage_returns hstep
  split at hresult
  · rename_i hreferenced
    subst hresult
    apply Settling.write message h hremote rfl hknown _ h.inStep rfl fun _ => rfl
    intro messageId
    rw [h.deleted, hdone]
    apply or_congr_right
    constructor
    · rintro ⟨hmem, hnot⟩
      exact ⟨.inl hmem, hnot⟩
    · rintro ⟨hmem | rfl, hnot⟩
      · exact ⟨hmem, hnot⟩
      · exact (hnot hreferenced).elim
  · rename_i hfree
    subst hresult
    apply Settling.write
      { message with status := .deletedRemote, notificationUid := none, pending := [] }
      h hremote rfl hknown _ h.inStep.deleted rfl fun _ => remoteLocations_deleted
    intro messageId
    rw [mem_deleted, h.deleted, hdone]
    constructor
    · rintro (rfl | hstart | ⟨hmem, hnot⟩)
      · exact .inr ⟨.inr rfl, hfree⟩
      · exact .inl hstart
      · exact .inr ⟨.inl hmem, hnot⟩
    · rintro (hstart | ⟨hmem | rfl, hnot⟩)
      · exact .inr (.inl hstart)
      · exact .inr (.inr ⟨hmem, hnot⟩)
      · exact .inl rfl

theorem mem_messageJsonPaths : messageId ∈ w.messageJsonPaths ↔ messageId ∈ w.caches := by
  unfold MaterializedWorkspace.messageJsonPaths
  rw [(List.perm_insertionSort _ _).mem_iff, Std.ExtTreeMap.mem_keys]

theorem nodup_messageJsonPaths (w : MaterializedWorkspace) : w.messageJsonPaths.Nodup := by
  unfold MaterializedWorkspace.messageJsonPaths
  rw [(List.perm_insertionSort _ _).nodup_iff]
  apply (Std.ExtTreeMap.distinct_keys).imp
  rintro key _ hne rfl
  exact hne Std.ReflCmp.compare_self

theorem reconcileRemoteMissing_surveyed {found : ReconcileReport × List Message}
    (hstart : start.InStep)
    (h : Returns (Program.gather start.messageJsonPaths ({}, [])
      (reconcileMessage snapshots now)) start found w) :
    Surveyed start snapshots now start.messageJsonPaths found.2 w := by
  apply Returns.gather_invariant
    (fun done found w => Surveyed start snapshots now done found.2 w) h (.refl hstart)
  intro done path rest found w found' w' hpaths hsurveyed hround
  obtain ⟨message, hcache, hround⟩ := reconcileMessage_returns hround
  apply hsurveyed.round _ hcache hround
  have hnodup := nodup_messageJsonPaths start
  rw [hpaths] at hnodup
  intro hmem
  exact (List.nodup_append.mp hnodup).2.2 path hmem path List.mem_cons_self rfl

theorem Surveyed.mem_gone_iff (h : Surveyed start snapshots now start.messageJsonPaths gone w)
    (hmem : messageId ∈ start.caches) :
    messageId ∈ gone.map (·.messageId) ↔ start.Loses snapshots now messageId := by
  constructor
  · intro hgone
    obtain ⟨message, hmessage, rfl⟩ := List.mem_map.mp hgone
    exact (h.lost message hmessage).2.2
  · intro hloses
    by_contra hnot
    exact (h.settled messageId (mem_messageJsonPaths.mpr hmem) hnot).2 hloses

theorem Surveyed.settling (h : Surveyed start snapshots now start.messageJsonPaths gone w)
    (referenced : List String) : Settling start snapshots now gone referenced [] w := by
  refine ⟨h.inStep, ?_, fun messageId => (h.cached messageId).mp, ?_, ?_⟩
  · intro messageId hmem
    exact h.readable messageId (mem_messageJsonPaths.mpr ((h.cached messageId).mp hmem))
  · rintro messageId hmem (hnot | hnil)
    · exact (h.settled messageId (mem_messageJsonPaths.mpr hmem) hnot).1
    · exact (List.not_mem_nil hnil).elim
  · intro messageId
    obtain ⟨messages, heq, _⟩ := h.readers
    rw [heq, or_iff_left fun hnil => List.not_mem_nil hnil.1]

theorem reconcileRemoteMissing_settled (hstart : start.InStep)
    (h : Returns (reconcileRemoteMissing snapshots now) start report w') :
    ∃ gone referenced w, Surveyed start snapshots now start.messageJsonPaths gone w ∧
      w.canonical.referencedMessageIds (gone.map (·.messageId)) = .ok referenced ∧
      Settling start snapshots now gone referenced gone w' := by
  have h := Returns.read_iff.mp h
  obtain ⟨⟨surveyed, gone⟩, w, hsurvey, h⟩ := Returns.bind_iff.mp h
  have hsurveyed := reconcileRemoteMissing_surveyed hstart hsurvey
  have h := Returns.read_iff.mp h
  obtain ⟨referenced, hreferenced, h⟩ := Returns.ofExcept_bind_iff.mp h
  refine ⟨gone, referenced, w, hsurveyed, hreferenced, ?_⟩
  apply Returns.gather_invariant
    (fun settled _ w => Settling start snapshots now gone referenced settled w) h
    (hsurveyed.settling referenced)
  intro done message rest report w report' w' hgone hsettling hstep
  have hmem : message ∈ gone := hgone ▸ List.mem_append_right _ List.mem_cons_self
  obtain ⟨hknown, hremote, _⟩ := hsurveyed.lost message hmem
  exact hsettling.step hremote (mem_messageJsonPaths.mp hknown) hstep

/-- A message that the same folders were applied to is left as it is. -/
theorem reconcileMessage_again {message : Message} (hinStep : w.InStep)
    (hcache : w.caches[path]? = some (.ok message))
    (hsame : (message.reconciled snapshots now).remote.getD [] = message.remote.getD [])
    (report : ReconcileReport) : ∃ report',
      Returns (reconcileMessage snapshots now (report, gone) path) w (report', gone) w := by
  have hread : Returns (Reconcile.readMessageCache path) w message w := by
    apply Returns.read_iff.mpr
    rw [hcache]
    rfl
  let counted := report.checked
    (activeRemoteLocations (snapshots.map (·.mailbox)) (message.remote.getD []))
    (missingPlaces snapshots (message.remote.getD []))
  by_cases hmissing : missingPlaces snapshots (message.remote.getD []) = []
  · refine ⟨counted, Returns.bind_iff.mpr ⟨message, w, hread, ?_⟩⟩
    change Returns (if (missingPlaces snapshots (message.remote.getD [])).isEmpty then _ else _) w
      (counted, gone) w
    rw [if_pos (List.isEmpty_iff.mpr hmissing)]
    rfl
  · have hunchanged : message.reconciled snapshots now = message := by
      unfold Message.reconciled at hsame ⊢
      rw [Option.getD_some] at hsame
      rw [hsame]
      cases hremote : message.remote with
      | none =>
        rw [hremote] at hmissing
        exact (hmissing rfl).elim
      | some locations =>
        rw [Option.getD_some, ← hremote]
    have hactive : hasAnyActiveRemoteLocation
        ((message.reconciled snapshots now).remote.getD []) = true := by
      rw [hunchanged]
      exact hasAnyActiveRemoteLocation_of_missing hmissing
    have hwrite : Returns (Reconcile.writeMessageArtifacts (message.reconciled snapshots now)) w ()
        w := by
      apply writeMessageArtifacts_returns.mpr
      rw [hunchanged, hinStep.withArtifacts_eq_self hcache]
    refine ⟨counted.kept message.messageId, Returns.bind_iff.mpr ⟨message, w, hread, ?_⟩⟩
    change Returns (if (missingPlaces snapshots (message.remote.getD [])).isEmpty then _
      else if hasAnyActiveRemoteLocation ((message.reconciled snapshots now).remote.getD []) then _
      else _) w (counted.kept message.messageId, gone) w
    rw [if_neg (fun hempty => hmissing (List.isEmpty_iff.mp hempty)), if_pos hactive]
    exact Returns.bind_iff.mpr ⟨(), w, hwrite, rfl⟩

theorem reconcileRemoteMissing_again (hinStep : w.InStep) (hreadable : w.Readable)
    (hsame : ∀ messageId ∈ w.caches, w.reconciledLocations snapshots now messageId =
      w.canonical.remoteLocations messageId) :
    ∃ report, Returns (reconcileRemoteMissing snapshots now) w report w := by
  have hrounds : ∀ paths : List String, (∀ path ∈ paths, path ∈ w.caches) →
      ∀ report, ∃ report', Returns
        (Program.gather paths (report, []) (reconcileMessage snapshots now)) w (report', []) w := by
    intro paths
    induction paths with
    | nil => exact fun _ report => ⟨report, rfl⟩
    | cons path rest ih =>
      intro hpaths report
      obtain ⟨message, hcache⟩ := hreadable path (hpaths path List.mem_cons_self)
      have hlocations := hinStep.remoteLocations hcache
      obtain ⟨rfl, _⟩ := hinStep path message hcache
      have hmessage : (message.reconciled snapshots now).remote.getD [] =
          message.remote.getD [] := by
        have h := hsame message.messageId (hpaths _ List.mem_cons_self)
        unfold MaterializedWorkspace.reconciledLocations at h
        rw [hlocations] at h
        exact h
      obtain ⟨report', hfirst⟩ : ∃ report',
          Returns (reconcileMessage snapshots now (report, []) message.messageId) w (report', []) w :=
        reconcileMessage_again hinStep hcache hmessage report
      obtain ⟨report'', hrest⟩ := ih (fun path hmem => hpaths path (List.mem_cons_of_mem _ hmem))
        report'
      exact ⟨report'', Returns.bind_iff.mpr ⟨_, w, hfirst, hrest⟩⟩
  obtain ⟨report, hsurvey⟩ := hrounds w.messageJsonPaths
    (fun path hmem => mem_messageJsonPaths.mp hmem) {}
  exact ⟨report, Returns.read_iff.mpr (Returns.bind_iff.mpr ⟨_, w, hsurvey, rfl⟩)⟩

end Rounds

/-- What applying a snapshot of some folders does to every cached message, and that applying it
once more changes nothing. -/
theorem reconcileRemoteMissing_spec {now : String → String} {report : ReconcileReport}
    (hinStep : w.InStep) (h : Returns (reconcileRemoteMissing snapshots now) w report w') :
    (∀ messageId ∈ w.caches,
      Reconciled snapshots (now messageId) (w.canonical.remoteLocations messageId)
        (w'.canonical.remoteLocations messageId) ∧
      (messageId ∈ w'.canonical.deletedRemote ↔ messageId ∈ w.canonical.deletedRemote ∨
        Vanished snapshots (w.canonical.remoteLocations messageId)
            (w'.canonical.remoteLocations messageId) ∧
          w.canonical.messageReferences messageId none [] = .ok [])) ∧
    ∀ now', ∃ report', Returns (reconcileRemoteMissing snapshots now') w' report' w' := by
  obtain ⟨gone, referenced, middle, hsurveyed, hreferenced, hsettled⟩ :=
    reconcileRemoteMissing_settled hinStep h
  have hlocations : ∀ messageId ∈ w.caches, w'.canonical.remoteLocations messageId =
      w.reconciledLocations snapshots now messageId := by
    intro messageId hmem
    apply hsettled.locations messageId hmem
    exact (Decidable.em _).symm
  constructor
  · intro messageId hmem
    rw [hlocations messageId hmem, hsettled.deleted]
    refine ⟨reconcileLocations_reconciled, or_congr_right ?_⟩
    rw [hsurveyed.mem_gone_iff hmem]
    apply and_congr_right
    intro hloses
    have hgone := (hsurveyed.mem_gone_iff hmem).mpr hloses
    rw [Workspace.mem_referencedMessageIds hreferenced hgone, not_not,
      hsurveyed.readers.messageReferences]
  · intro now'
    apply reconcileRemoteMissing_again hsettled.inStep hsettled.readable
    intro messageId hmem
    unfold MaterializedWorkspace.reconciledLocations
    rw [hlocations messageId (hsettled.known messageId hmem)]
    exact reconcileLocations_again (now' messageId)

/-- A workspace with one message. -/
def workspaceWith (locations : Option (List RemoteLocation))
    (caches : Std.ExtTreeMap String (Result Message)) : MaterializedWorkspace where
  canonical :=
    { config := .default
      messages := (∅ : Std.ExtTreeMap String MessageRecord).insert "m"
        { eml := some [], metadata := some { remote := locations } } }
  caches

/-- A message in the inbox, and its cache. -/
def cachedInInbox : MaterializedWorkspace :=
  let locations := some [pulledLocation "inbox" "INBOX" 1 7 [] "t0"]
  workspaceWith locations ((∅ : Std.ExtTreeMap String (Result Message)).insert "m"
    (.ok ⟨"m", none, none, locations, .triage, none, []⟩))

/-- The same message when its cache file is not there. -/
def uncachedInInbox : MaterializedWorkspace :=
  workspaceWith (some [pulledLocation "inbox" "INBOX" 1 7 [] "t0"]) ∅

/-- A message that was never in a folder, and its cache. -/
def cachedFromSpool : MaterializedWorkspace :=
  workspaceWith none ((∅ : Std.ExtTreeMap String (Result Message)).insert "m"
    (.ok ⟨"m", none, none, none, .triage, none, []⟩))

def emptyInbox : FolderUidSnapshot := { mailbox := "INBOX", uidValidity := 1 }

def reconcileEmptyInbox (w : MaterializedWorkspace) : MaterializedWorkspace :=
  ((reconcileRemoteMissing [emptyInbox] fun _ => "t1").eval w).2

theorem reconcileRemoteMissing_spec_cachedInInbox :
    "m" ∈ (reconcileEmptyInbox cachedInInbox).canonical.deletedRemote ∧
      ∃ report, Returns (reconcileRemoteMissing [emptyInbox] fun _ => "t2")
        (reconcileEmptyInbox cachedInInbox) report (reconcileEmptyInbox cachedInInbox) := by
  have hreturns : Returns (reconcileRemoteMissing [emptyInbox] fun _ => "t1") cachedInInbox
      { checkedLocationCount := 1, missingLocationCount := 1, deletedRemoteMessageIds := ["m"] }
      (reconcileEmptyInbox cachedInInbox) := by decide +kernel
  have hinStep : cachedInInbox.InStep := by
    intro messageId message hcache
    unfold cachedInInbox workspaceWith at hcache
    rw [Std.ExtTreeMap.getElem?_insert] at hcache
    split at hcache
    · rename_i heq
      cases hcache
      cases Std.LawfulEqCmp.compare_eq_iff_eq.mp heq
      exact ⟨rfl, by decide +kernel, _, rfl, rfl⟩
    · simp at hcache
  exact ⟨by decide +kernel, (reconcileRemoteMissing_spec hinStep hreturns).2 _⟩

/-- A location is not looked at while its message has no cache, and a message that was in no
folder is not marked although it has no active location and nothing refers to it. -/
theorem reconcileEmptyInbox_skips :
    (Returns (reconcileRemoteMissing [emptyInbox] fun _ => "t1") uncachedInInbox {}
        uncachedInInbox ∧
      ∃ location ∈ uncachedInInbox.canonical.remoteLocations "m",
        location.GoneFrom [emptyInbox]) ∧
    Returns (reconcileRemoteMissing [emptyInbox] fun _ => "t1") cachedFromSpool {}
        cachedFromSpool ∧
      cachedFromSpool.canonical.activeLocations "m" = [] ∧
      cachedFromSpool.canonical.messageReferences "m" none [] = .ok [] ∧
      "m" ∉ cachedFromSpool.canonical.deletedRemote := by
  refine ⟨⟨by decide +kernel, pulledLocation "inbox" "INBOX" 1 7 [] "t0", by decide +kernel, ?_⟩,
    by decide +kernel, by decide +kernel, by decide +kernel, by decide +kernel⟩
  exact ⟨rfl, ⟨"INBOX", 1, 7⟩, emptyInbox, rfl, by decide +kernel, by decide +kernel⟩

end AgentFirstMail
