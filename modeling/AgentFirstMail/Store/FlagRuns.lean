import AgentFirstMail.Store.RemoteFlags

namespace AgentFirstMail
open Effect Effect.Local
open Text (eqIgnoreAsciiCase)

variable {existing flags : List String} {flag : String} {location : RemoteLocation}
  {place other : PushLocation} {places : List PushLocation} {add : Bool} {messageId : String}
  {key : String × Option Nat × Option Nat}
  {host : Host} {index : OverlayIndex} {w w' : Workspace}

theorem readMessageUnder_remote (h : w.readMessageUnder index messageId = .ok message) :
    messageId ∈ w.messages ∧ message.remote.getD [] = w.remoteLocations messageId := by
  obtain ⟨record, metadata, hget, _, hmetadata, _, hremote, _⟩ := Workspace.readMessageUnder_eq_ok h
  refine ⟨Std.ExtTreeMap.mem_iff_isSome_getElem?.mpr (by rw [hget]; rfl), ?_⟩
  rw [hremote]
  simp [Workspace.remoteLocations, hget, hmetadata]

theorem exists_readMessageUnder_iff : (∃ message, w.readMessageUnder index messageId = .ok message) ↔
    ∃ record, w.messages[messageId]? = some record ∧ record.eml.isSome ∧ record.metadata.isSome := by
  constructor
  · intro ⟨message, hread⟩
    obtain ⟨record, metadata, hget, heml, hmetadata, _⟩ := Workspace.readMessageUnder_eq_ok hread
    exact ⟨record, hget, heml, hmetadata ▸ rfl⟩
  · intro ⟨record, hget, heml, hmetadata⟩
    obtain ⟨metadata, hmetadata⟩ := Option.isSome_iff_exists.mp hmetadata
    simp [Workspace.readMessageUnder, hget, heml, hmetadata, ensure, bind, Except.bind, pure,
      Except.pure]

theorem readMessageUnder_setMessageRemote (id : String) (locations : List RemoteLocation)
    (h : ∃ message, w.readMessageUnder index messageId = .ok message) :
    ∃ message, (w.setMessageRemote id locations).readMessageUnder index messageId = .ok message := by
  rw [exists_readMessageUnder_iff] at h ⊢
  obtain ⟨record, hget, heml, hmetadata⟩ := h
  rw [Workspace.setMessageRemote, Std.ExtTreeMap.getElem?_alter]
  by_cases heq : id = messageId
  · subst heq
    rw [if_pos Std.ReflCmp.compare_self, hget]
    exact ⟨_, rfl, heml, rfl⟩
  · rw [if_neg (by simpa using heq)]
    exact ⟨record, hget, heml, hmetadata⟩

/-- What a round of updates leaves behind. -/
structure FlagsUpdated (host : Host) (index : OverlayIndex) (add : Bool) (flags : List String)
    (places : List PushLocation) (w w' : Workspace) : Prop where
  messagesOnly : ∃ messages, w' = { w with messages }
  locations : ∀ messageId, w'.remoteLocations messageId =
    updatePlaces host.now add flags messageId places (w.remoteLocations messageId)
  valid : ∀ place ∈ places, validateId host "message_id" place.messageId = .ok ()
  readable : ∀ place ∈ places, ∃ message, w'.readMessageUnder index place.messageId = .ok message
  keeps : ∀ messageId, (∃ message, w.readMessageUnder index messageId = .ok message) →
    ∃ message, w'.readMessageUnder index messageId = .ok message

namespace FlagsUpdated

theorem nil : FlagsUpdated host index add flags [] w w :=
  ⟨⟨w.messages, rfl⟩, fun _ => rfl, fun _ hmem => (nomatch hmem), fun _ hmem => (nomatch hmem),
    fun _ => id⟩

theorem cons {middle : Workspace} (hfirst : FlagsUpdated host index add flags [place] w middle)
    (hrest : FlagsUpdated host index add flags places middle w') :
    FlagsUpdated host index add flags (place :: places) w w' where
  messagesOnly := by
    obtain ⟨messages, rfl⟩ := hfirst.messagesOnly
    obtain ⟨messages', rfl⟩ := hrest.messagesOnly
    exact ⟨messages', rfl⟩
  locations messageId := by
    rw [hrest.locations, hfirst.locations]
    rfl
  valid := List.forall_mem_cons.mpr ⟨hfirst.valid place List.mem_cons_self, hrest.valid⟩
  readable := List.forall_mem_cons.mpr
    ⟨hrest.keeps _ (hfirst.readable place List.mem_cons_self), hrest.readable⟩
  keeps messageId h := hrest.keeps messageId (hfirst.keeps messageId h)

/-- One place is updated. -/
theorem single {value : Unit}
    (h : (updateRemoteFlagsAt host index flags add place).Returns w value w') :
    FlagsUpdated host index add flags [place] w w' := by
  obtain ⟨_, hvalid, h⟩ := Returns.ofExcept_bind_iff.mp h
  obtain ⟨message, hread, h⟩ := Returns.ofExcept_bind_iff.mp (Returns.read_iff.mp h)
  obtain ⟨hmem, hremote⟩ := readMessageUnder_remote hread
  have hreadable : ∃ message, w.readMessageUnder index place.messageId = .ok message :=
    ⟨message, hread⟩
  dsimp only at h
  rw [hremote] at h
  split at h
  · rename_i hsame
    obtain ⟨_, rfl⟩ := Returns.ret_iff.mp h
    refine ⟨⟨w'.messages, rfl⟩, fun messageId => ?_, List.forall_mem_singleton.mpr hvalid,
      List.forall_mem_singleton.mpr hreadable, fun _ => id⟩
    rw [updatePlaces, List.foldl_cons, List.foldl_nil, updatePlace]
    split
    · rename_i hid
      rw [← hid, hsame]
    · rfl
  · cases Returns.write_iff.mp h
    refine ⟨⟨_, rfl⟩, fun messageId => ?_, List.forall_mem_singleton.mpr hvalid,
      List.forall_mem_singleton.mpr (readMessageUnder_setMessageRemote _ _ hreadable),
      fun _ => readMessageUnder_setMessageRemote _ _⟩
    rw [Workspace.remoteLocations_setMessageRemote, updatePlaces, List.foldl_cons, List.foldl_nil,
      updatePlace]
    by_cases hid : messageId = place.messageId
    · rw [if_pos ⟨hid, hmem⟩, if_pos hid.symm, hid]
    · rw [if_neg (fun hboth => hid hboth.1), if_neg (fun heq => hid heq.symm)]

theorem of_forEach {value : Unit}
    (h : Returns (Program.forEach places (updateRemoteFlagsAt host index flags add)) w value w') :
    FlagsUpdated host index add flags places w w' := by
  induction places generalizing w with
  | nil =>
    obtain ⟨_, rfl⟩ := Returns.ret_iff.mp h
    exact .nil
  | cons place rest ih =>
    obtain ⟨_, middle, hfirst, hrest⟩ := Returns.bind_iff.mp h
    exact (single hfirst).cons (ih hrest)

theorem forEach_again (hupdated : FlagsUpdated host index add flags places w w') (now : String)
    {rest : List PushLocation} (hrest : rest ⊆ places) :
    Returns (Program.forEach rest (updateRemoteFlagsAt { host with now } index flags add))
      w' () w' := by
  induction rest with
  | nil => exact Returns.ret_iff.mpr ⟨rfl, rfl⟩
  | cons place rest ih =>
    obtain ⟨hmem, hrest⟩ := List.cons_subset.mp hrest
    obtain ⟨message, hread⟩ := hupdated.readable place hmem
    have hsame : updateFlagsAt now add place (canonicalFlags flags)
        (w'.remoteLocations place.messageId) = w'.remoteLocations place.messageId :=
      updatePlaces_again (hupdated.locations place.messageId) hmem rfl
    have hfirst : (updateRemoteFlagsAt { host with now } index flags add place).Returns
        w' () w' := by
      refine Returns.ofExcept_bind_iff.mpr ⟨(), hupdated.valid place hmem, Returns.read_iff.mpr ?_⟩
      refine Returns.ofExcept_bind_iff.mpr ⟨message, hread, ?_⟩
      dsimp only
      rw [(readMessageUnder_remote hread).2, if_pos hsame]
      exact Returns.ret_iff.mpr ⟨rfl, rfl⟩
    exact Returns.bind_iff.mpr ⟨(), w', hfirst, ih hrest⟩

end FlagsUpdated

/-- A call that adds flags to places or takes them away. -/
structure FlagCall where
  now : String
  places : List PushLocation
  flags : List String
  add : Bool

namespace FlagCall

def program (host : Host) (call : FlagCall) : Local Workspace AppError Unit :=
  updateRemoteFlags { host with now := call.now } call.places call.flags call.add

def Adds (call : FlagCall) (place : PushLocation) (flag : String) : Prop :=
  call.add = true ∧ place ∈ call.places ∧ HasFlag call.flags flag

def Removes (call : FlagCall) (place : PushLocation) (flag : String) : Prop :=
  call.add = false ∧ place ∈ call.places ∧ HasFlag call.flags flag

/-- What a call adds to the places of a message is spelled as the place has it. -/
def SpelledAlike (call : FlagCall) (messageId : String) (before : Workspace) : Prop :=
  call.add = true → ∀ place ∈ call.places, place.messageId = messageId →
    AgentFirstMail.SpelledAlike (flagsAt (before.remoteLocations messageId) place ++ call.flags)

end FlagCall

/-- Every recorded location of a message holds one case-insensitive set of flags. -/
def Workspace.HoldsFlagSets (w : Workspace) (messageId : String) : Prop :=
  ∀ location ∈ w.remoteLocations messageId, FlagSet location.flags

variable {call : FlagCall}

/-- What a call leaves behind. -/
structure FlagsCalled (host : Host) (call : FlagCall) (w w' : Workspace) : Prop where
  locations : ∀ messageId, w'.remoteLocations messageId =
    updatePlaces call.now call.add call.flags messageId call.places (w.remoteLocations messageId)
  again : ∀ now, (FlagCall.program host { call with now }).Returns w' () w'

theorem flagsCalled_of_returns {value : Unit} (h : (call.program host).Returns w value w') :
    FlagsCalled host call w w' := by
  obtain ⟨now, places, flags, add⟩ := call
  rw [FlagCall.program, updateRemoteFlags] at h
  cases hplaces : places.isEmpty with
  | true =>
    rw [hplaces, if_pos rfl] at h
    obtain ⟨_, rfl⟩ := Returns.ret_iff.mp h
    rw [List.isEmpty_iff] at hplaces
    subst hplaces
    exact ⟨fun _ => rfl, fun _ => Returns.ret_iff.mpr ⟨rfl, rfl⟩⟩
  | false =>
    rw [hplaces, if_neg (by decide)] at h
    obtain ⟨index, hindex, h⟩ := Returns.ofExcept_bind_iff.mp (Returns.read_iff.mp h)
    have hupdated := FlagsUpdated.of_forEach h
    refine ⟨hupdated.locations, fun again => ?_⟩
    -- no overlay reads where a message is
    have hindex' : w'.materializedOverlayIndex = .ok index := by
      obtain ⟨messages, rfl⟩ := hupdated.messagesOnly
      exact hindex
    rw [FlagCall.program, updateRemoteFlags, hplaces, if_neg (by decide)]
    exact Returns.read_iff.mpr (Returns.ofExcept_bind_iff.mpr
      ⟨index, hindex', hupdated.forEach_again again (List.Subset.refl _)⟩)

namespace FlagsCalled

theorem flagsAt_eq (h : FlagsCalled host call w w') (place : PushLocation) :
    flagsAt (w'.remoteLocations place.messageId) place =
      if place ∈ call.places then
        updateFlags call.add (flagsAt (w.remoteLocations place.messageId) place) call.flags
      else flagsAt (w.remoteLocations place.messageId) place := by
  rw [h.locations, flagsAt_updatePlaces _ _ _ _ _ rfl]

theorem hasFlag_iff (h : FlagsCalled host call w w') (place : PushLocation)
    (hflag : ¬ IsRecent flag) :
    HasFlag (flagsAt (w'.remoteLocations place.messageId) place) flag ↔
      call.Adds place flag ∨
        HasFlag (flagsAt (w.remoteLocations place.messageId) place) flag ∧
          ¬ call.Removes place flag := by
  rw [h.flagsAt_eq, FlagCall.Adds, FlagCall.Removes]
  by_cases hplace : place ∈ call.places
  · rw [if_pos hplace, hasFlag_updateFlags hflag]
    cases call.add with
    | true => simp [hplace, or_comm]
    | false => simp [hplace]
  · simp [hplace]

/-- After a call the locations of a message hold sets of flags exactly when the call adds no flag
in a second spelling. -/
theorem holdsFlagSets_iff (h : FlagsCalled host call w w') (hbefore : w.HoldsFlagSets messageId) :
    w'.HoldsFlagSets messageId ↔ call.SpelledAlike messageId w := by
  have hflagsAt (place : PushLocation) :
      FlagSet (flagsAt (w.remoteLocations messageId) place) := by
    rw [flagsAt]
    cases hfind : (w.remoteLocations messageId).find? (·.matchesPush place) with
    | none =>
      exact ⟨.nil, fun _ hmem => (List.not_mem_nil hmem).elim, fun _ hmem => (List.not_mem_nil hmem).elim⟩
    | some location => exact hbefore location (List.mem_of_find?_eq_some hfind)
  constructor
  · intro hafter hadd place hplace hid
    subst hid
    have hflags := h.flagsAt_eq place
    rw [if_pos hplace] at hflags
    refine (hflagsAt place).updateFlags_iff.mp ?_ hadd
    rw [← hflags]
    have hrecorded : place.place ∈ (w'.remoteLocations place.messageId).map (·.place) := by
      rw [h.locations]
      exact mem_places_updatePlaces.mpr (.inr ⟨hadd, place, hplace, rfl, rfl⟩)
    have hsome : ((w'.remoteLocations place.messageId).find? (·.matchesPush place)).isSome :=
      List.find?_isSome.mpr (List.any_eq_true.mp (any_matchesPush_iff.mpr hrecorded))
    obtain ⟨found, hfound⟩ := Option.isSome_iff_exists.mp hsome
    rw [flagsAt, hfound]
    exact hafter found (List.mem_of_find?_eq_some hfound)
  · intro halike location hmem
    rw [h.locations] at hmem
    rcases mem_updatePlaces hmem with hold | ⟨place, hplace, hid, hflags⟩
    · exact hbefore location hold
    · rw [hflags]
      exact (hflagsAt place).updateFlags_iff.mpr fun hadd => halike hadd place hplace hid

end FlagsCalled

/-- A call with the workspace that it met. -/
structure FlagStep where
  before : Workspace
  call : FlagCall

/-- Calls one after another, from a first workspace to a last. -/
inductive FlagRun (host : Host) (first : Workspace) : List FlagStep → Workspace → Prop
  | start : FlagRun host first [] first
  | call {steps : List FlagStep} {before after : Workspace} {call : FlagCall}
      (hrun : FlagRun host first steps before)
      (hcall : (call.program host).Returns before () after) :
      FlagRun host first (steps ++ [⟨before, call⟩]) after

/-- A flag was added to a place after its last removal, or was there and never taken away. -/
def PresentAfter (first : Workspace) (steps : List FlagStep) (place : PushLocation)
    (flag : String) : Prop :=
  (∃ earlier step later, steps = earlier ++ step :: later ∧ step.call.Adds place flag ∧
    ∀ next ∈ later, ¬ next.call.Removes place flag) ∨
  HasFlag (flagsAt (first.remoteLocations place.messageId) place) flag ∧
    ∀ step ∈ steps, ¬ step.call.Removes place flag

/-- What holds of the flags of a message after calls. -/
structure FlagRules (host : Host) (messageId : String) (first : Workspace)
    (steps : List FlagStep) (last : Workspace) : Prop where
  sets : (∀ step ∈ steps, step.before.HoldsFlagSets messageId) ∧ last.HoldsFlagSets messageId ↔
    first.HoldsFlagSets messageId ∧
      ∀ step ∈ steps, step.call.SpelledAlike messageId step.before
  present : ∀ place, place.messageId = messageId → ∀ flag, ¬ IsRecent flag →
    (HasFlag (flagsAt (last.remoteLocations messageId) place) flag ↔
      PresentAfter first steps place flag)
  repeats : ∀ earlier step, steps = earlier ++ [step] → ∀ now,
    (FlagCall.program host { step.call with now }).Returns last () last
  apart : ∀ key, (∀ step ∈ steps, ∀ place ∈ step.call.places, place.messageId = messageId →
      place.place ≠ key) →
    (last.remoteLocations messageId).filter (·.place = key) =
      (first.remoteLocations messageId).filter (·.place = key)

variable {first last : Workspace} {steps : List FlagStep}

theorem PresentAfter.nil : PresentAfter first [] place flag ↔
    HasFlag (flagsAt (first.remoteLocations place.messageId) place) flag := by
  simp [PresentAfter]

theorem PresentAfter.append_singleton (step : FlagStep) :
    PresentAfter first (steps ++ [step]) place flag ↔
      step.call.Adds place flag ∨
        PresentAfter first steps place flag ∧ ¬ step.call.Removes place flag := by
  constructor
  · rintro (⟨earlier, added, later, heq, hadds, hkept⟩ | ⟨hfirst, hkept⟩)
    · -- the adding call is the last one, or it is followed by the last one
      rcases List.eq_nil_or_concat later with rfl | ⟨between, final, rfl⟩
      · obtain ⟨_, hstep⟩ := List.append_inj' heq rfl
        cases hstep
        exact .inl hadds
      · rw [List.concat_eq_append, ← List.cons_append, ← List.append_assoc] at heq
        obtain ⟨hsteps, hstep⟩ := List.append_inj' heq rfl
        cases hstep
        rw [List.concat_eq_append] at hkept
        obtain ⟨hbetween, hlast⟩ := List.forall_mem_append.mp hkept
        exact .inr ⟨.inl ⟨earlier, added, between, hsteps, hadds, hbetween⟩,
          hlast step List.mem_cons_self⟩
    · obtain ⟨hsteps, hlast⟩ := List.forall_mem_append.mp hkept
      exact .inr ⟨.inr ⟨hfirst, hsteps⟩, hlast step List.mem_cons_self⟩
  · rintro (hadds | ⟨⟨earlier, added, later, rfl, hadds, hkept⟩ | ⟨hfirst, hkept⟩, hlast⟩)
    · exact .inl ⟨steps, step, [], rfl, hadds, fun _ hmem => (nomatch hmem)⟩
    · refine .inl ⟨earlier, added, later ++ [step], by simp, hadds, ?_⟩
      exact List.forall_mem_append.mpr ⟨hkept, List.forall_mem_singleton.mpr hlast⟩
    · exact .inr ⟨hfirst, List.forall_mem_append.mpr
        ⟨hkept, List.forall_mem_singleton.mpr hlast⟩⟩

theorem FlagRules.start (host : Host) (messageId : String) (first : Workspace) :
    FlagRules host messageId first [] first where
  sets := by simp
  present place hid flag hflag := by rw [PresentAfter.nil, hid]
  repeats earlier step heq := by simp at heq
  apart _ _ := rfl

theorem FlagRules.next (hrules : FlagRules host messageId first steps w)
    (hcalled : FlagsCalled host call w w') :
    FlagRules host messageId first (steps ++ [⟨w, call⟩]) w' where
  sets := by
    rw [List.forall_mem_append, List.forall_mem_append, List.forall_mem_singleton,
      List.forall_mem_singleton, hrules.sets, ← and_assoc (c := call.SpelledAlike messageId w),
      ← hrules.sets]
    exact and_congr_right fun hbefore => hcalled.holdsFlagSets_iff hbefore.2
  present place hid flag hflag := by
    subst hid
    rw [hcalled.hasFlag_iff place hflag, hrules.present place rfl flag hflag,
      PresentAfter.append_singleton]
  repeats earlier step heq := by
    obtain ⟨_, hstep⟩ := List.append_inj' heq rfl
    cases hstep
    exact hcalled.again
  apart key hkey := by
    obtain ⟨hsteps, hlast⟩ := List.forall_mem_append.mp hkey
    rw [hcalled.locations, filter_updatePlaces (hlast ⟨w, call⟩ List.mem_cons_self),
      hrules.apart key hsteps]

theorem flagRules_of_run (hrun : FlagRun host first steps last) (messageId : String) :
    FlagRules host messageId first steps last := by
  induction hrun with
  | start => exact .start host messageId first
  | call hrun hcall ih => exact ih.next (flagsCalled_of_returns hcall)

/-- A mail that was seen at its place. -/
def seenMail : Workspace :=
  { config := .default
    messages := (∅ : Std.ExtTreeMap String MessageRecord).insert "m1"
      { eml := some [], metadata := some { remote := some [{
          mailboxName := "INBOX", uidValidity := some 1, uid := some 7
          flags := ["\\Seen"] }] } } }

def seenPlace : PushLocation :=
  { messageId := "m1", mailboxName := "INBOX", uidValidity := 1, uid := 7 }

/-- Marks the mail seen once more, in another spelling. -/
def seenAgain : FlagCall :=
  { now := "2024-01-01T00:00:00Z", places := [seenPlace], flags := ["\\seen"], add := true }

def seenTwice : Workspace :=
  seenMail.setMessageRemote "m1"
    [{ mailboxName := "INBOX", uidValidity := some 1, uid := some 7
       flags := ["\\Seen", "\\seen"] }]

theorem run_seenAgain : FlagRun plainHost seenMail [⟨seenMail, seenAgain⟩] seenTwice :=
  .call .start (by decide +kernel)

theorem flagRules_seenTwice : FlagRun plainHost seenMail [⟨seenMail, seenAgain⟩] seenTwice ∧
    FlagRules plainHost "m1" seenMail [⟨seenMail, seenAgain⟩] seenTwice :=
  ⟨run_seenAgain, flagRules_of_run run_seenAgain "m1"⟩

/-- A flag that is added in another spelling is held twice. -/
theorem seenAgain_leaves_both : FlagRun plainHost seenMail [⟨seenMail, seenAgain⟩] seenTwice ∧
    seenMail.HoldsFlagSets "m1" ∧ ¬ seenTwice.HoldsFlagSets "m1" := by
  refine ⟨run_seenAgain, ?_, ?_⟩
  · have hlocations : (seenMail.remoteLocations "m1").map (·.flags) = [["\\Seen"]] := by
      decide +kernel
    intro location hmem
    have hflags : location.flags = ["\\Seen"] :=
      List.mem_singleton.mp (hlocations ▸ List.mem_map_of_mem hmem)
    rw [hflags]
    refine ⟨List.pairwise_singleton _ _, fun flag hflag other hother _ => ?_, fun flag hflag => ?_⟩
    · rw [List.mem_singleton.mp hflag, List.mem_singleton.mp hother]
    · rw [List.mem_singleton.mp hflag, IsRecent]
      decide
  · intro hsets
    have hlocations : (seenTwice.remoteLocations "m1").map (·.flags) = [["\\Seen", "\\seen"]] := by
      decide +kernel
    obtain ⟨location, hmem, hflags⟩ := List.mem_map.mp (hlocations ▸ List.mem_cons_self)
    have hset : FlagSet ["\\Seen", "\\seen"] := hflags ▸ hsets location hmem
    exact absurd (hset.distinct "\\Seen" (by decide) "\\seen" (by decide) (by decide)) (by decide)

end AgentFirstMail
