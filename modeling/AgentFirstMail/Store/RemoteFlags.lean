import AgentFirstMail.Store.RemoteMissingRules

namespace AgentFirstMail
open Effect Effect.Local
open Text (foldAscii eqIgnoreAsciiCase)

/-- Takes flags away, whatever their letter case. -/
def removeFlags (existing flags : List String) : List String :=
  existing.filter fun flag => foldAscii flag ∉ flags.map foldAscii

/-- Changes the flags of the first recorded location of a place. -/
def modifyFlagsAt (change : List String → List String) (place : PushLocation) :
    List RemoteLocation → List RemoteLocation
  | [] => []
  | location :: rest =>
    if location.matchesPush place then { location with flags := change location.flags } :: rest
    else location :: modifyFlagsAt change place rest

def removeFlagsAt (place : PushLocation) (flags : List String) :
    List RemoteLocation → List RemoteLocation :=
  modifyFlagsAt (removeFlags · flags) place

/-- What is recorded for a place that was not known. -/
def PushLocation.recorded (place : PushLocation) (now : String) (flags : List String) :
    RemoteLocation :=
  { mailboxName := place.mailboxName, uidValidity := some place.uidValidity
    uid := some place.uid, flags, observedRfc3339 := now }

def updateFlagsAt (now : String) (add : Bool) (place : PushLocation) (flags : List String)
    (locations : List RemoteLocation) : List RemoteLocation :=
  if add then addFlagsAt now place flags locations else removeFlagsAt place flags locations

/-- Updates the flags of one place; only what changes is written. -/
def updateRemoteFlagsAt (host : Host) (index : OverlayIndex) (flags : List String) (add : Bool)
    (place : PushLocation) : Local Workspace AppError Unit := do
  Program.ofExcept (validateId host "message_id" place.messageId)
  let w ← Program.read
  let message ← Program.ofExcept (w.readMessageUnder index place.messageId)
  let before := message.remote.getD []
  let after := updateFlagsAt host.now add place (canonicalFlags flags) before
  if after = before then return ()
  else Program.write (·.setMessageRemote place.messageId after)

/-- Adds flags to places, or takes them away. -/
def updateRemoteFlags (host : Host) (places : List PushLocation) (flags : List String)
    (add : Bool) : Local Workspace AppError Unit :=
  if places.isEmpty then return ()
  else do
    let w ← Program.read
    let index ← Program.ofExcept w.materializedOverlayIndex
    Program.forEach places (updateRemoteFlagsAt host index flags add)

/-- The flag is held in some spelling. -/
def HasFlag (flags : List String) (flag : String) : Prop :=
  ∃ held ∈ flags, eqIgnoreAsciiCase held flag = true

def IsRecent (flag : String) : Prop := eqIgnoreAsciiCase flag "\\Recent" = true

/-- One case-insensitive set of flags: in order, each flag in one spelling, and none of the
server's own. -/
structure FlagSet (flags : List String) : Prop where
  sorted : StrictlySorted flags
  distinct : ∀ flag ∈ flags, ∀ other ∈ flags, eqIgnoreAsciiCase flag other = true → flag = other
  noRecent : ∀ flag ∈ flags, ¬ IsRecent flag

/-- Flags that are the same but for letter case are spelled in one way. -/
def SpelledAlike (flags : List String) : Prop :=
  ∀ flag ∈ flags, ∀ other ∈ flags, ¬ IsRecent flag → eqIgnoreAsciiCase flag other = true →
    flag = other

/-- The flags that are recorded for a place. -/
def flagsAt (locations : List RemoteLocation) (place : PushLocation) : List String :=
  ((locations.find? (·.matchesPush place)).map (·.flags)).getD []

def updateFlags (add : Bool) (existing flags : List String) : List String :=
  if add then mergeFlags existing flags else removeFlags existing (canonicalFlags flags)

variable {existing flags : List String} {flag : String} {locations : List RemoteLocation}
  {location : RemoteLocation} {place other : PushLocation} {add : Bool} {now : String}

theorem mem_canonicalFlags :
    flag ∈ canonicalFlags flags ↔ flag ∈ flags ∧ ¬ IsRecent flag := by
  rw [canonicalFlags, mem_sortedSet, List.mem_filter, IsRecent, Bool.not_eq_true',
    Bool.not_eq_true]

theorem mem_mergeFlags :
    flag ∈ mergeFlags existing flags ↔ (flag ∈ existing ∨ flag ∈ flags) ∧ ¬ IsRecent flag := by
  rw [mergeFlags, mem_canonicalFlags, List.mem_append]

theorem mem_removeFlags :
    flag ∈ removeFlags existing flags ↔ flag ∈ existing ∧ ¬ HasFlag flags flag := by
  simp only [removeFlags, List.mem_filter, decide_not, Bool.not_eq_true', decide_eq_false_iff_not,
    List.mem_map, HasFlag, Text.eqIgnoreAsciiCase_iff]

theorem strictlySorted_canonicalFlags (flags : List String) :
    StrictlySorted (canonicalFlags flags) := strictlySorted_sortedSet _

theorem canonicalFlags_congr {others : List String}
    (h : ∀ flag, ¬ IsRecent flag → (flag ∈ flags ↔ flag ∈ others)) :
    canonicalFlags flags = canonicalFlags others := by
  refine (strictlySorted_canonicalFlags flags).eq_of_mem_iff (strictlySorted_canonicalFlags others)
    fun flag => ?_
  rw [mem_canonicalFlags, mem_canonicalFlags]
  exact and_congr_left (h flag)

theorem mergeFlags_canonicalFlags (existing flags : List String) :
    mergeFlags existing (canonicalFlags flags) = mergeFlags existing flags := by
  refine canonicalFlags_congr fun flag hflag => ?_
  rw [List.mem_append, List.mem_append, mem_canonicalFlags, and_iff_left hflag]

theorem HasFlag.congr (h : eqIgnoreAsciiCase flag held = true) :
    HasFlag flags flag ↔ HasFlag flags held := by
  have heq := Text.eqIgnoreAsciiCase_iff.mp h
  simp only [HasFlag, Text.eqIgnoreAsciiCase_iff, heq]

theorem IsRecent.congr (h : eqIgnoreAsciiCase flag held = true) : IsRecent flag ↔ IsRecent held := by
  have heq := Text.eqIgnoreAsciiCase_iff.mp h
  simp only [IsRecent, Text.eqIgnoreAsciiCase_iff, heq]

theorem hasFlag_canonicalFlags (hflag : ¬ IsRecent flag) :
    HasFlag (canonicalFlags flags) flag ↔ HasFlag flags flag := by
  constructor
  · intro ⟨held, hmem, heq⟩
    exact ⟨held, (mem_canonicalFlags.mp hmem).1, heq⟩
  · intro ⟨held, hmem, heq⟩
    exact ⟨held, mem_canonicalFlags.mpr ⟨hmem, fun h => hflag ((IsRecent.congr heq).mp h)⟩, heq⟩

theorem hasFlag_updateFlags (hflag : ¬ IsRecent flag) :
    HasFlag (updateFlags add existing flags) flag ↔
      if add then HasFlag existing flag ∨ HasFlag flags flag
      else HasFlag existing flag ∧ ¬ HasFlag flags flag := by
  cases add with
  | true =>
    simp only [updateFlags, if_true]
    rw [mergeFlags, hasFlag_canonicalFlags hflag]
    simp only [HasFlag, List.mem_append, or_and_right, exists_or]
  | false =>
    simp only [updateFlags, Bool.false_eq_true, if_false]
    constructor
    · intro ⟨held, hmem, heq⟩
      obtain ⟨hmem, hkept⟩ := mem_removeFlags.mp hmem
      refine ⟨⟨held, hmem, heq⟩, fun hremoved => hkept ?_⟩
      exact (HasFlag.congr heq).mpr ((hasFlag_canonicalFlags hflag).mpr hremoved)
    · intro ⟨⟨held, hmem, heq⟩, hkept⟩
      refine ⟨held, mem_removeFlags.mpr ⟨hmem, fun hremoved => hkept ?_⟩, heq⟩
      exact (hasFlag_canonicalFlags hflag).mp ((HasFlag.congr heq).mp hremoved)

theorem updateFlags_twice (add : Bool) (existing flags : List String) :
    updateFlags add (updateFlags add existing flags) flags = updateFlags add existing flags := by
  cases add with
  | true =>
    refine canonicalFlags_congr fun flag hflag => ?_
    simp only [updateFlags, if_true, List.mem_append, mem_mergeFlags, and_iff_left hflag, or_assoc,
      or_self]
  | false =>
    simp only [updateFlags, Bool.false_eq_true, if_false, removeFlags, List.filter_filter,
      Bool.and_self]

theorem canonicalFlags_flagSet (flags : List String) :
    FlagSet (canonicalFlags flags) ↔ SpelledAlike flags := by
  constructor
  · intro h flag hmem other hother hflag heq
    have hrecent : ¬ IsRecent other := fun hother => hflag ((IsRecent.congr heq).mpr hother)
    exact h.distinct flag (mem_canonicalFlags.mpr ⟨hmem, hflag⟩) other
      (mem_canonicalFlags.mpr ⟨hother, hrecent⟩) heq
  · intro h
    refine ⟨strictlySorted_canonicalFlags flags, fun flag hmem other hother heq => ?_,
      fun flag hmem => (mem_canonicalFlags.mp hmem).2⟩
    obtain ⟨hmem, hflag⟩ := mem_canonicalFlags.mp hmem
    exact h flag hmem other (mem_canonicalFlags.mp hother).1 hflag heq

theorem FlagSet.removeFlags (h : FlagSet existing) (flags : List String) :
    FlagSet (removeFlags existing flags) where
  sorted := h.sorted.sublist List.filter_sublist
  distinct flag hmem other hother :=
    h.distinct flag (mem_removeFlags.mp hmem).1 other (mem_removeFlags.mp hother).1
  noRecent flag hmem := h.noRecent flag (mem_removeFlags.mp hmem).1

theorem FlagSet.updateFlags_iff (h : FlagSet existing) :
    FlagSet (updateFlags add existing flags) ↔
      (add = true → SpelledAlike (existing ++ flags)) := by
  cases add with
  | true =>
    simp only [updateFlags, if_true, true_imp_iff, mergeFlags]
    exact canonicalFlags_flagSet (existing ++ flags)
  | false =>
    simp only [updateFlags, Bool.false_eq_true, if_false, false_imp_iff, iff_true]
    exact h.removeFlags _

theorem flagsAt_cons (place : PushLocation) : flagsAt (location :: locations) place =
    if location.matchesPush place then location.flags else flagsAt locations place := by
  rw [flagsAt, List.find?_cons]
  cases location.matchesPush place with
  | true => rfl
  | false => rfl

theorem matchesPush_congr (h : location.matchesPush place = true) :
    location.matchesPush other = true ↔ other.place = place.place := by
  rw [RemoteLocation.matchesPush_iff] at h ⊢
  rw [h]
  exact eq_comm

/-- A change of the flags of a place is seen at that place alone. -/
theorem flagsAt_modifyFlagsAt (change : List String → List String) (place other : PushLocation)
    {locations : List RemoteLocation}
    (hplace : place.place ∈ locations.map (·.place) ∨ change [] = []) :
    flagsAt (modifyFlagsAt change place locations) other =
      if other.place = place.place then change (flagsAt locations place)
      else flagsAt locations other := by
  induction locations with
  | nil =>
    have hempty : change [] = [] := hplace.resolve_left List.not_mem_nil
    rw [modifyFlagsAt]
    split
    · exact hempty.symm
    · rfl
  | cons first rest ih =>
    rw [modifyFlagsAt]
    by_cases hfirst : first.matchesPush place = true
    · rw [if_pos hfirst, flagsAt_cons, flagsAt_cons place, if_pos hfirst]
      by_cases h : other.place = place.place
      · rw [if_pos h]
        exact if_pos ((matchesPush_congr hfirst).mpr h)
      · have hother : ¬ first.matchesPush other = true := fun hmatch =>
          h ((matchesPush_congr hfirst).mp hmatch)
        rw [if_neg h, flagsAt_cons, if_neg hother]
        exact if_neg hother
    · have hrest : place.place ∈ rest.map (·.place) ∨ change [] = [] := by
        refine hplace.imp_left fun hmem => ?_
        rcases List.mem_cons.mp hmem with heq | hrest
        · exact (hfirst (RemoteLocation.matchesPush_iff.mpr heq.symm)).elim
        · exact hrest
      rw [if_neg hfirst, flagsAt_cons, ih hrest, flagsAt_cons place,
        if_neg hfirst, flagsAt_cons other]
      by_cases h : other.place = place.place
      · have hother : ¬ first.matchesPush other = true := fun hmatch =>
          hfirst (RemoteLocation.matchesPush_iff.mpr
            ((RemoteLocation.matchesPush_iff.mp hmatch).trans h))
        rw [if_pos h, if_pos h, if_neg hother]
      · rw [if_neg h, if_neg h]

theorem places_modifyFlagsAt (change : List String → List String) (place : PushLocation)
    (locations : List RemoteLocation) :
    (modifyFlagsAt change place locations).map (·.place) = locations.map (·.place) := by
  induction locations with
  | nil => rfl
  | cons first rest ih =>
    rw [modifyFlagsAt]
    split
    · rfl
    · rw [List.map_cons, List.map_cons, ih]

theorem filter_modifyFlagsAt (change : List String → List String)
    {key : String × Option Nat × Option Nat} (hkey : place.place ≠ key)
    (locations : List RemoteLocation) :
    (modifyFlagsAt change place locations).filter (·.place = key) =
      locations.filter (·.place = key) := by
  induction locations with
  | nil => rfl
  | cons first rest ih =>
    rw [modifyFlagsAt]
    split
    · rename_i hfirst
      have hother : ¬ decide (first.place = key) = true := by
        rw [decide_eq_true_eq, RemoteLocation.matchesPush_iff.mp hfirst]
        exact hkey
      rw [List.filter_cons, List.filter_cons]
      exact (if_neg hother).trans (if_neg hother).symm
    · rw [List.filter_cons, List.filter_cons, ih]

theorem mem_modifyFlagsAt {change : List String → List String}
    (hmem : location ∈ modifyFlagsAt change place locations) :
    location ∈ locations ∨ location.flags = change (flagsAt locations place) := by
  induction locations with
  | nil => cases hmem
  | cons first rest ih =>
    rw [modifyFlagsAt] at hmem
    rw [flagsAt_cons]
    split at hmem
    · rename_i hfirst
      rw [if_pos hfirst]
      rcases List.mem_cons.mp hmem with heq | hrest
      · exact .inr (heq ▸ rfl)
      · exact .inl (List.mem_cons_of_mem first hrest)
    · rename_i hfirst
      rw [if_neg hfirst]
      rcases List.mem_cons.mp hmem with heq | hrest
      · exact .inl (heq ▸ List.mem_cons_self)
      · exact (ih hrest).imp (List.mem_cons_of_mem first) id

theorem modifyFlagsAt_eq_self {change : List String → List String}
    (h : change (flagsAt locations place) = flagsAt locations place) :
    modifyFlagsAt change place locations = locations := by
  induction locations with
  | nil => rfl
  | cons first rest ih =>
    rw [flagsAt_cons] at h
    rw [modifyFlagsAt]
    split
    · rename_i hfirst
      rw [if_pos hfirst] at h
      rw [h]
    · rename_i hfirst
      rw [if_neg hfirst] at h
      rw [ih h]

theorem addFlagsAt_eq (now : String) (place : PushLocation) (flags : List String)
    (locations : List RemoteLocation) :
    addFlagsAt now place flags locations =
      if place.place ∈ locations.map (·.place) then
        modifyFlagsAt (mergeFlags · flags) place locations
      else locations ++ [place.recorded now flags] := by
  induction locations with
  | nil => rfl
  | cons first rest ih =>
    rw [addFlagsAt, ih, List.map_cons]
    by_cases hfirst : first.matchesPush place = true
    · have hplace := RemoteLocation.matchesPush_iff.mp hfirst
      rw [if_pos hfirst, if_pos (hplace ▸ List.mem_cons_self), modifyFlagsAt, if_pos hfirst]
    · have hplace : place.place ≠ first.place := fun heq =>
        hfirst (RemoteLocation.matchesPush_iff.mpr heq.symm)
      rw [if_neg hfirst]
      by_cases hrest : place.place ∈ rest.map (·.place)
      · rw [if_pos hrest, if_pos (List.mem_cons_of_mem _ hrest), modifyFlagsAt, if_neg hfirst]
      · rw [if_neg hrest, if_neg, List.cons_append]
        exact List.not_mem_cons_of_ne_of_not_mem hplace hrest

theorem recorded_place (place : PushLocation) (now : String) (flags : List String) :
    (place.recorded now flags).place = place.place := rfl

theorem flagsAt_eq_nil (hplace : place.place ∉ locations.map (·.place)) :
    flagsAt locations place = [] := by
  have hnone : locations.find? (·.matchesPush place) = none :=
    List.find?_eq_none.mpr fun location hmem hmatch => hplace (any_matchesPush_iff.mp
      (List.any_eq_true.mpr ⟨location, hmem, hmatch⟩))
  rw [flagsAt, hnone]
  rfl

theorem flagsAt_append_recorded (now : String) (flags : List String) (other : PushLocation)
    (hplace : place.place ∉ locations.map (·.place)) :
    flagsAt (locations ++ [place.recorded now flags]) other =
      if other.place = place.place then flags else flagsAt locations other := by
  induction locations with
  | nil =>
    have hmatch : (place.recorded now flags).matchesPush other = true ↔ other.place = place.place :=
      RemoteLocation.matchesPush_iff.trans eq_comm
    rw [List.nil_append, flagsAt_cons]
    by_cases h : other.place = place.place
    · rw [if_pos h]
      exact if_pos (hmatch.mpr h)
    · rw [if_neg h]
      exact if_neg fun hfirst => h (hmatch.mp hfirst)
  | cons first rest ih =>
    have hfirst : place.place ≠ first.place := List.ne_of_not_mem_cons hplace
    have hrest := List.not_mem_of_not_mem_cons hplace
    rw [List.cons_append, flagsAt_cons, flagsAt_cons, ih hrest]
    by_cases h : other.place = place.place
    · have hother : ¬ first.matchesPush other = true := fun hmatch =>
        hfirst (h.symm.trans (RemoteLocation.matchesPush_iff.mp hmatch).symm)
      rw [if_neg hother, if_pos h, if_pos h]
    · rw [if_neg h, if_neg h]

theorem flagsAt_updateFlagsAt (now : String) (add : Bool) (place other : PushLocation)
    (flags : List String) (locations : List RemoteLocation) :
    flagsAt (updateFlagsAt now add place (canonicalFlags flags) locations) other =
      if other.place = place.place then updateFlags add (flagsAt locations place) flags
      else flagsAt locations other := by
  cases add with
  | false => exact flagsAt_modifyFlagsAt _ place other (.inr rfl)
  | true =>
    simp only [updateFlagsAt, updateFlags, if_true, addFlagsAt_eq]
    by_cases hplace : place.place ∈ locations.map (·.place)
    · rw [if_pos hplace, flagsAt_modifyFlagsAt _ place other (.inl hplace),
        mergeFlags_canonicalFlags]
    · rw [if_neg hplace, flagsAt_append_recorded now _ other hplace, flagsAt_eq_nil hplace]
      rfl

theorem filter_updateFlagsAt {key : String × Option Nat × Option Nat} (hkey : place.place ≠ key) :
    (updateFlagsAt now add place flags locations).filter (·.place = key) =
      locations.filter (·.place = key) := by
  cases add with
  | false => exact filter_modifyFlagsAt _ hkey locations
  | true =>
    simp only [updateFlagsAt, if_true, addFlagsAt_eq]
    split
    · exact filter_modifyFlagsAt _ hkey locations
    · rw [List.filter_append, List.filter_cons_of_neg, List.filter_nil, List.append_nil]
      rw [decide_eq_true_eq, recorded_place]
      exact hkey

theorem mem_updateFlagsAt
    (hmem : location ∈ updateFlagsAt now add place (canonicalFlags flags) locations) :
    location ∈ locations ∨ location.flags = updateFlags add (flagsAt locations place) flags := by
  cases add with
  | false => exact mem_modifyFlagsAt hmem
  | true =>
    simp only [updateFlagsAt, if_true, addFlagsAt_eq] at hmem
    split at hmem
    · have h := mem_modifyFlagsAt hmem
      rw [mergeFlags_canonicalFlags] at h
      exact h
    · rename_i hplace
      rw [flagsAt_eq_nil hplace]
      rcases List.mem_append.mp hmem with hold | hnew
      · exact .inl hold
      · exact .inr (List.mem_singleton.mp hnew ▸ rfl)

theorem updateFlagsAt_eq_self (hplace : add = true → place.place ∈ locations.map (·.place))
    (h : updateFlags add (flagsAt locations place) flags = flagsAt locations place) :
    updateFlagsAt now add place (canonicalFlags flags) locations = locations := by
  cases add with
  | false => exact modifyFlagsAt_eq_self h
  | true =>
    simp only [updateFlagsAt, if_true, addFlagsAt_eq, hplace rfl]
    exact modifyFlagsAt_eq_self ((mergeFlags_canonicalFlags _ _).trans h)

theorem mem_places_updateFlagsAt {key : String × Option Nat × Option Nat} :
    key ∈ (updateFlagsAt now add place flags locations).map (·.place) ↔
      key ∈ locations.map (·.place) ∨ add = true ∧ key = place.place := by
  cases add with
  | false =>
    simp only [updateFlagsAt, Bool.false_eq_true, if_false, removeFlagsAt, places_modifyFlagsAt,
      false_and, or_false]
  | true =>
    simp only [updateFlagsAt, if_true, addFlagsAt_eq, true_and]
    split
    · rename_i hplace
      rw [places_modifyFlagsAt]
      exact (or_iff_left_of_imp fun heq => heq ▸ hplace).symm
    · rw [List.map_append, List.mem_append]
      exact or_congr_right List.mem_singleton

/-- Updates a place of a message. -/
def updatePlace (now : String) (add : Bool) (flags : List String) (messageId : String)
    (locations : List RemoteLocation) (place : PushLocation) : List RemoteLocation :=
  if place.messageId = messageId then updateFlagsAt now add place (canonicalFlags flags) locations
  else locations

/-- Updates those of some places that are of one message. -/
def updatePlaces (now : String) (add : Bool) (flags : List String) (messageId : String)
    (places : List PushLocation) (locations : List RemoteLocation) : List RemoteLocation :=
  places.foldl (updatePlace now add flags messageId) locations

variable {messageId : String} {places : List PushLocation}
  {key : String × Option Nat × Option Nat}

theorem PushLocation.eq_of_place (hid : place.messageId = other.messageId)
    (h : place.place = other.place) : place = other := by
  obtain ⟨_, _, _, _⟩ := place
  obtain ⟨_, _, _, _⟩ := other
  simp only [PushLocation.place, Prod.mk.injEq, Option.some.injEq] at h hid
  obtain ⟨rfl, rfl, rfl⟩ := h
  rw [hid]

theorem flagsAt_updatePlace (now : String) (add : Bool) (flags : List String)
    (place : PushLocation) (locations : List RemoteLocation) (hid : other.messageId = messageId) :
    flagsAt (updatePlace now add flags messageId locations place) other =
      if other = place then updateFlags add (flagsAt locations other) flags
      else flagsAt locations other := by
  rw [updatePlace]
  split
  · rename_i hplace
    rw [flagsAt_updateFlagsAt]
    by_cases h : other.place = place.place
    · have heq : other = place := PushLocation.eq_of_place (hid.trans hplace.symm) h
      rw [if_pos h, if_pos heq, heq]
    · have hne : other ≠ place := fun heq => h (congrArg PushLocation.place heq)
      rw [if_neg h, if_neg hne]
  · rename_i hplace
    have hne : other ≠ place := fun heq => hplace (heq ▸ hid)
    rw [if_neg hne]

theorem flagsAt_updatePlaces (now : String) (add : Bool) (flags : List String)
    (places : List PushLocation) (locations : List RemoteLocation)
    (hid : other.messageId = messageId) :
    flagsAt (updatePlaces now add flags messageId places locations) other =
      if other ∈ places then updateFlags add (flagsAt locations other) flags
      else flagsAt locations other := by
  induction places generalizing locations with
  | nil => rfl
  | cons place rest ih =>
    rw [updatePlaces, List.foldl_cons, ← updatePlaces, ih, flagsAt_updatePlace _ _ _ _ _ hid]
    by_cases heq : other = place
    · rw [if_pos heq, updateFlags_twice, ite_self, if_pos (List.mem_cons.mpr (.inl heq))]
    · rw [if_neg heq]
      by_cases hrest : other ∈ rest
      · rw [if_pos hrest, if_pos (List.mem_cons_of_mem place hrest)]
      · rw [if_neg hrest, if_neg (List.not_mem_cons_of_ne_of_not_mem heq hrest)]

theorem filter_updatePlaces
    (hkey : ∀ place ∈ places, place.messageId = messageId → place.place ≠ key) :
    (updatePlaces now add flags messageId places locations).filter (·.place = key) =
      locations.filter (·.place = key) := by
  induction places generalizing locations with
  | nil => rfl
  | cons place rest ih =>
    obtain ⟨hplace, hrest⟩ := List.forall_mem_cons.mp hkey
    rw [updatePlaces, List.foldl_cons, ← updatePlaces, ih hrest, updatePlace]
    split
    · rename_i hid
      exact filter_updateFlagsAt (hplace hid)
    · rfl

theorem mem_updatePlaces (hmem : location ∈ updatePlaces now add flags messageId places locations) :
    location ∈ locations ∨ ∃ place ∈ places, place.messageId = messageId ∧
      location.flags = updateFlags add (flagsAt locations place) flags := by
  induction places generalizing locations with
  | nil => exact .inl hmem
  | cons place rest ih =>
    rw [updatePlaces, List.foldl_cons, ← updatePlaces] at hmem
    rcases ih hmem with hfirst | ⟨later, hlater, hid, hflags⟩
    · rw [updatePlace] at hfirst
      split at hfirst
      · rename_i hid
        exact (mem_updateFlagsAt hfirst).imp id fun hflags =>
          ⟨place, List.mem_cons_self, hid, hflags⟩
      · exact .inl hfirst
    · refine .inr ⟨later, List.mem_cons_of_mem place hlater, hid, ?_⟩
      rw [hflags, flagsAt_updatePlace _ _ _ _ _ hid]
      split
      · exact updateFlags_twice add _ flags
      · rfl

theorem mem_places_updatePlaces :
    key ∈ (updatePlaces now add flags messageId places locations).map (·.place) ↔
      key ∈ locations.map (·.place) ∨
        add = true ∧ ∃ place ∈ places, place.messageId = messageId ∧ key = place.place := by
  induction places generalizing locations with
  | nil => simp [updatePlaces]
  | cons place rest ih =>
    rw [updatePlaces, List.foldl_cons, ← updatePlaces, ih, updatePlace]
    split
    · rename_i hid
      rw [mem_places_updateFlagsAt, or_assoc, ← and_or_left]
      simp [hid]
    · rename_i hid
      simp [hid]

theorem updatePlaces_again {others : List RemoteLocation}
    (hdone : locations = updatePlaces earlier add flags messageId places others)
    (hmem : place ∈ places) (hid : place.messageId = messageId) :
    updateFlagsAt now add place (canonicalFlags flags) locations = locations := by
  subst hdone
  refine updateFlagsAt_eq_self (fun hadd => ?_) ?_
  · exact mem_places_updatePlaces.mpr (.inr ⟨hadd, place, hmem, hid, rfl⟩)
  · rw [flagsAt_updatePlaces _ _ _ _ _ hid, if_pos hmem, updateFlags_twice]

end AgentFirstMail
