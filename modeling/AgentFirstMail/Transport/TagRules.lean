import AgentFirstMail.Transport.Tags

namespace AgentFirstMail
open Effect Wire

section Verdicts
variable {library : ImapLibrary} {h events : List WireEvent} {error : AppError}

/-- What an error of an operation says of the calls that led to it. -/
def Verdict (library : ImapLibrary) (error : AppError) (h : List WireEvent) : Prop :=
  HonestReplies library h → (TagsSound error h ↔ ReliableReplies library h)

/-- An error that claims nothing. -/
def Untagged (error : AppError) : Prop := remoteEffectNotApplied error = false

/-- A call that no error makes a wrong claim of. -/
def WireEvent.Plain (library : ImapLibrary) (event : WireEvent) : Prop :=
  WireEvent.Of (WireCall.Reliable library) event ∧ ¬ WireEvent.RefusedMove event

/-- A call that changes nothing but flags. -/
structure WireEvent.Marking (library : ImapLibrary) (event : WireEvent) : Prop where
  plain : event.Plain library
  applied : WireEvent.Applied event → event.request.storesFlags = true

/-- A call that changes nothing. -/
structure WireEvent.Idle (library : ImapLibrary) (event : WireEvent) : Prop where
  plain : event.Plain library
  applied : ¬ WireEvent.Applied event

theorem WireEvent.Idle.marking {event : WireEvent} (h : event.Idle library) :
    event.Marking library := ⟨h.plain, fun happlied => (h.applied happlied).elim⟩

theorem reliable_of_plain (hplain : ∀ event ∈ h, event.Plain library) :
    ReliableReplies library h where
  refusals event hmem := (hplain event hmem).1
  unmarked hrefused := by
    obtain ⟨event, hmem, hrefused⟩ := hrefused
    exact ((hplain event hmem).2 hrefused).elim

theorem Untagged.verdict (huntagged : Untagged error) (hplain : ∀ event ∈ h, event.Plain library) :
    Verdict library error h := by
  intro _
  refine iff_of_true ?_ (reliable_of_plain hplain)
  intro htagged
  cases huntagged.symm.trans htagged

theorem verdict_of_idle (hidle : ∀ event ∈ h, event.Idle library) : Verdict library error h := by
  intro _
  refine iff_of_true ?_ (reliable_of_plain fun event hmem => (hidle event hmem).plain)
  intro _ event hmem
  exact (hidle event hmem).applied

theorem verdict_of_unanswered {event : WireEvent} (hunanswered : ¬ event.Answered) :
    Verdict library error (h ++ [event]) := by
  intro hhonest
  exact (hunanswered (hhonest.answered event (List.mem_append_right _ (.head _)))).elim

abbrev WireAssertion := Assertion Unit WireCall WireCall.Reply AppError

/-- A judgement of errors that allows what claims nothing. -/
structure Judges (library : ImapLibrary) (abort : AppError → WireAssertion) : Prop where
  unanswered : ∀ error h (event : WireEvent), ¬ event.Answered → abort error (h ++ [event]) ()
  untagged : ∀ error h, Untagged error → (∀ event ∈ h, WireEvent.Plain library event) →
    abort error h ()

theorem judges_verdict : Judges library fun error h _ => Verdict library error h where
  unanswered _ _ _ := verdict_of_unanswered
  untagged _ _ := Untagged.verdict

end Verdicts
section Calls
variable {library : ImapLibrary} {h : List WireEvent} {K : WireEvent → Prop}
  {abort : AppError → WireAssertion}

/-- The assertions that an operation is checked with: its errors are judged by the calls so far. -/
abbrev WireWp (library : ImapLibrary) (program : Wire α) (h : List WireEvent)
    (post : α → WireAssertion) : Prop :=
  Program.wp (fun _ _ => True) post (fun error h _ => Verdict library error h) program h ()

/-- The calls that only ask. -/
def WireCall.reads : WireCall → Bool
  | .select _ | .examine _ | .capabilities | .uidSearch _ => true
  | _ => false

theorem idle_of_reads {request : WireCall} (hreads : request.reads = true)
    (value : request.Reply) : WireEvent.Idle library ⟨request, (), some (.ok value)⟩ := by
  cases request with
  | select | examine | capabilities | uidSearch =>
    refine ⟨⟨fun _ _ => trivial, ?_⟩, ?_⟩
    · rintro ⟨_, _, hrefused⟩
      cases hrefused
    · rintro ⟨_, _, happlied⟩
      cases happlied
  | _ => cases hreads

theorem marking_uidStore (uidSet query : String) (served : Served ImapFailure Unit) :
    WireEvent.Marking library ⟨.uidStore uidSet query, (), some (.ok served)⟩ := by
  refine ⟨⟨fun _ _ => trivial, ?_⟩, fun _ => rfl⟩
  rintro ⟨_, _, hrefused⟩
  cases hrefused

theorem plain_uidExpunge (uidSet : String) (served : Served ImapFailure Unit) :
    WireEvent.Plain library ⟨.uidExpunge uidSet, (), some (.ok served)⟩ := by
  refine ⟨fun _ _ => trivial, ?_⟩
  rintro ⟨_, _, hrefused⟩
  cases hrefused

theorem forall_concat {event : WireEvent} (hall : ∀ event ∈ h, K event) (hevent : K event) :
    ∀ other ∈ h ++ [event], K other :=
  List.forall_mem_append.mpr ⟨hall, List.forall_mem_singleton.mpr hevent⟩

theorem judged_call (hjudges : Judges library abort) {request : WireCall}
    {post : request.Reply → WireAssertion}
    (hpost : ∀ value, post value (h ++ [⟨request, (), some (.ok value)⟩]) ()) :
    Program.wp (fun _ _ => True) post abort (call request) h () := by
  refine ⟨trivial, fun reply => ⟨trivial, ?_⟩⟩
  cases reply with
  | ok value => exact hpost value
  | error error =>
    apply hjudges.unanswered
    rintro ⟨value, hreply⟩
    cases hreply

theorem judged_imap (hjudges : Judges library abort) {code : String}
    {reply : Except ImapFailure α} {post : α → WireAssertion}
    (hplain : ∀ event ∈ h, event.Plain library) (hpost : ∀ value, post value h ()) :
    Program.wp (fun _ _ => True) post abort (imap code reply) h () := by
  cases reply with
  | ok value => exact hpost value
  | error failure => exact hjudges.untagged _ h rfl hplain

theorem wire_call {request : WireCall} {post : request.Reply → WireAssertion}
    (hpost : ∀ value, post value (h ++ [⟨request, (), some (.ok value)⟩]) ()) :
    WireWp library (call request) h post := judged_call judges_verdict hpost

theorem wire_imap {code : String} {reply : Except ImapFailure α} {post : α → WireAssertion}
    (hplain : ∀ event ∈ h, event.Plain library) (hpost : ∀ value, post value h ()) :
    WireWp library (imap code reply) h post := judged_imap judges_verdict hplain hpost

theorem wire_check {result : Result α} {post : α → WireAssertion}
    (hpost : ∀ value, result = .ok value → post value h ())
    (herror : ∀ error, result = .error error → Verdict library error h) :
    WireWp library (Program.ofExcept result) h post := by
  cases result with
  | ok value => exact hpost value rfl
  | error error => exact herror error rfl

theorem wire_read {request : WireCall} {post : request.Reply → WireAssertion}
    (hreads : request.reads = true) (hidle : ∀ event, WireEvent.Idle library event → K event)
    (hall : ∀ event ∈ h, K event)
    (hpost : ∀ value h', (∀ event ∈ h', K event) → post value h' ()) :
    WireWp library (call request) h post := by
  apply wire_call
  intro value
  exact hpost value _ (forall_concat hall (hidle _ (idle_of_reads hreads value)))

theorem wire_mark {uidSet query : String} {post : Served ImapFailure Unit → WireAssertion}
    (hmarking : ∀ event, WireEvent.Marking library event → K event) (hall : ∀ event ∈ h, K event)
    (hpost : ∀ served h', (∀ event ∈ h', K event) → post served h' ()) :
    WireWp library (call (.uidStore uidSet query)) h post := by
  apply wire_call
  intro served
  exact hpost served _ (forall_concat hall (hmarking _ (marking_uidStore uidSet query served)))

theorem wire_expunge {uidSet : String} {post : Served ImapFailure Unit → WireAssertion}
    (hall : ∀ event ∈ h, event.Plain library)
    (hpost : ∀ served h', (∀ event ∈ h', WireEvent.Plain library event) → post served h' ()) :
    WireWp library (call (.uidExpunge uidSet)) h post := by
  apply wire_call
  intro served
  exact hpost served _ (forall_concat hall (plain_uidExpunge uidSet served))

theorem wire_capabilityHas {capability : String} {post : Bool → WireAssertion}
    (hall : ∀ event ∈ h, event.Idle library)
    (hpost : ∀ supported h', (∀ event ∈ h', WireEvent.Idle library event) → post supported h' ()) :
    WireWp library (capabilityHas capability) h post := by
  unfold capabilityHas
  apply wp_then
  apply wire_read rfl (fun _ hidle => hidle) hall
  intro reply h' hall
  apply wp_then
  apply wire_imap fun event hmem => (hall event hmem).plain
  intro capabilities
  exact hpost _ h' hall

/-- Without support for the move nothing was begun. -/
theorem wire_moveSupport {moved : Bool} {post : Bool → WireAssertion}
    (hall : ∀ event ∈ h, event.Idle library)
    (hpost : ∀ supported h', (∀ event ∈ h', WireEvent.Idle library event) → post supported h' ()) :
    WireWp library (moveSupport moved) h post := by
  unfold moveSupport
  cases moved with
  | false => exact hpost false h hall
  | true =>
    rw [if_pos rfl]
    apply wp_then
    apply wire_capabilityHas hall
    intro supported h' hall
    cases supported with
    | true => exact hpost true h' hall
    | false =>
      rw [if_neg Bool.false_ne_true]
      unfold requireUidplusForPreciseMoveFallback
      apply wp_then
      apply wp_then
      apply wire_capabilityHas hall
      intro uidplus h' hall
      cases uidplus with
      | true => exact hpost false h' hall
      | false => exact verdict_of_idle hall

theorem wire_storeSeen {uid : Nat} {markSeen : Bool} {post : Bool → WireAssertion}
    (hall : ∀ event ∈ h, event.Marking library)
    (hpost : ∀ seen h', (∀ event ∈ h', WireEvent.Marking library event) → post seen h' ()) :
    WireWp library (storeSeen uid markSeen) h post := by
  unfold storeSeen
  cases markSeen with
  | false => exact hpost false h hall
  | true =>
    rw [if_pos rfl]
    apply wp_then
    apply wire_mark (fun _ hmarking => hmarking) hall
    intro served h' hall
    apply wp_then
    apply wire_imap fun event hmem => (hall event hmem).plain
    intro _
    exact hpost true h' hall

theorem wire_storeKeyword {uid : Nat} {keyword : Option String}
    {post : Bool × Option String → WireAssertion}
    (hall : ∀ event ∈ h, event.Marking library)
    (hpost : ∀ stored h', (∀ event ∈ h', WireEvent.Marking library event) → post stored h' ()) :
    WireWp library (storeKeyword uid keyword) h post := by
  cases keyword with
  | none => exact hpost _ h hall
  | some keyword =>
    unfold storeKeyword
    apply wp_then
    apply wire_mark (fun _ hmarking => hmarking) hall
    intro served h' hall
    split
    · exact hpost _ h' hall
    · exact hpost _ h' hall

theorem verdict_of_refusedMove {event : WireEvent} {error : AppError}
    (hall : ∀ event ∈ h, event.Marking library) (hrefused : event.RefusedMove)
    (hreliable : WireEvent.Of (WireCall.Reliable library) event)
    (htagged : remoteEffectNotApplied error = true)
    (hhonest : WireEvent.Of (WireCall.Honest library) event → ¬ event.Applied) :
    Verdict library error (h ++ [event]) := by
  intro hreplies
  have hmem : event ∈ h ++ [event] := List.mem_append_right _ (.head _)
  have hevent := hhonest (hreplies.honest event hmem)
  constructor
  · intro hsound
    refine ⟨?_, fun _ other hother _ => hsound htagged other hother⟩
    exact forall_concat (fun other hother => (hall other hother).plain.1) hreliable
  · intro hreliable _ other hother happlied
    rcases List.mem_append.mp hother with hbefore | hlast
    · have hstores := (hall other hbefore).applied happlied
      exact hreliable.unmarked ⟨event, hmem, hrefused⟩ other hother hstores happlied
    · rw [List.mem_singleton] at hlast
      rw [hlast] at happlied
      exact hevent happlied

theorem tagged_of_rejected {code message : String} {rejected : Bool} :
    remoteEffectNotApplied { errorCode := code, message
                             details := if rejected then some effectRejected else none } =
      rejected := by
  cases rejected <;> rfl

theorem rejectedEffectError_tagged {code : String} {failure : ImapFailure} :
    remoteEffectNotApplied (rejectedEffectError code failure) = failure.rejected :=
  tagged_of_rejected

theorem plain_of_unrefused {request : WireCall} {value : request.Reply}
    (hreliable : WireCall.Reliable library request value)
    (hrefused : request.refusedMove value = false) :
    WireEvent.Plain library ⟨request, (), some (.ok value)⟩ := by
  constructor
  · intro other hother
    cases hother
    exact hreliable
  · rintro ⟨other, hother, hmove⟩
    cases hother
    cases hrefused.symm.trans hmove

/-- A move that fails is judged by whether the server refused it. -/
theorem verdict_of_move {request : WireCall} {value : request.Reply} {code : String}
    {failure : ImapFailure} (hall : ∀ event ∈ h, event.Marking library)
    (hreliable : WireCall.Reliable library request value)
    (hrefused : request.refusedMove value = failure.rejected)
    (hhonest : WireCall.Honest library request value → failure.rejected = true →
      request.applied value = false) :
    Verdict library (rejectedEffectError code failure)
      (h ++ [⟨request, (), some (.ok value)⟩]) := by
  cases hrejected : failure.rejected with
  | true =>
    rw [hrejected] at hrefused
    have hevent : WireEvent.RefusedMove ⟨request, (), some (.ok value)⟩ := ⟨value, rfl, hrefused⟩
    apply verdict_of_refusedMove hall hevent
    · intro other hother
      cases hother
      exact hreliable
    · rw [rejectedEffectError_tagged, hrejected]
    · rintro hevent ⟨other, hother, happlied⟩
      cases hother
      cases (hhonest (hevent value rfl) hrejected).symm.trans happlied
  | false =>
    rw [hrejected] at hrefused
    apply Untagged.verdict
    · rw [Untagged, rejectedEffectError_tagged, hrejected]
    · exact forall_concat (fun event hmem => (hall event hmem).plain)
        (plain_of_unrefused hreliable hrefused)

theorem Served.refused_error {served : Served ε α} {failure : ε} {rejected : ε → Bool}
    (hreply : served.reply = .error failure) : served.refused rejected = rejected failure := by
  rw [Served.refused, hreply]

theorem Served.refused_ok {served : Served ε α} {value : α} {rejected : ε → Bool}
    (hreply : served.reply = .ok value) : served.refused rejected = false := by
  rw [Served.refused, hreply]

theorem wire_uidMoveWithReceipt {uid : Nat} {targetFolder : String}
    {post : Option CopyUidReceipt → WireAssertion}
    (hall : ∀ event ∈ h, event.Marking library)
    (hpost : ∀ receipt h', (∀ event ∈ h', WireEvent.Plain library event) → post receipt h' ()) :
    WireWp library (uidMoveWithReceipt library uid targetFolder) h post := by
  unfold uidMoveWithReceipt
  apply wp_then
  apply wire_call
  intro served
  split
  · rename_i response hreply
    apply hpost
    apply forall_concat fun event hmem => (hall event hmem).plain
    exact @plain_of_unrefused library (.uidMove uid _) served trivial (Served.refused_ok hreply)
  · rename_i failure hreply
    have hrefused : served.refused ImapFailure.rejected = failure.rejected :=
      Served.refused_error hreply
    refine verdict_of_move hall ?_ hrefused ?_
    · trivial
    · intro hhonest hrejected
      exact hhonest (hrefused.trans hrejected)

/-- Once the copy is made no error claims anything. -/
theorem wire_uidCopyDeleteExpunge {uid : Nat} {targetFolder : String}
    {post : Option CopyUidReceipt → WireAssertion}
    (hall : ∀ event ∈ h, event.Marking library)
    (hpost : ∀ receipt h', (∀ event ∈ h', WireEvent.Plain library event) → post receipt h' ()) :
    WireWp library (uidCopyDeleteExpunge library uid targetFolder) h post := by
  unfold uidCopyDeleteExpunge
  apply wp_then
  apply wire_call
  intro served
  split
  · rename_i failure hreply
    have hrefused : served.refused ImapFailure.rejected = failure.rejected :=
      Served.refused_error hreply
    refine verdict_of_move hall ?_ hrefused ?_
    · trivial
    · intro hhonest hrejected
      exact hhonest (hrefused.trans hrejected)
  · rename_i response hreply
    have hcopied := forall_concat (fun event hmem => (hall event hmem).plain)
      (@plain_of_unrefused library (.uidCopy _ _) served trivial (Served.refused_ok hreply))
    apply wp_then
    apply wire_mark (fun _ hmarking => hmarking.plain) hcopied
    intro deleted h' hdeleted
    apply wp_then
    apply wire_imap hdeleted
    intro _
    apply wp_then
    apply wire_expunge hdeleted
    intro expunged h' hexpunged
    apply wp_then
    apply wire_imap hexpunged
    intro _
    exact hpost _ h' hexpunged

theorem wire_moveOrCopy {moveSupported : Bool} {uid : Nat} {targetFolder : String}
    {post : Option CopyUidReceipt → WireAssertion}
    (hall : ∀ event ∈ h, event.Marking library)
    (hpost : ∀ receipt h', (∀ event ∈ h', WireEvent.Plain library event) → post receipt h' ()) :
    WireWp library (moveOrCopy library moveSupported uid targetFolder) h post := by
  unfold moveOrCopy
  split
  · exact wire_uidMoveWithReceipt hall hpost
  · exact wire_uidCopyDeleteExpunge hall hpost

/-- A search that fails claims nothing. -/
theorem judged_findUidByMessageId (hjudges : Judges library abort)
    {now folder rfc822MessageId : String} {post : RemoteLocation → WireAssertion}
    (hall : ∀ event ∈ h, event.Plain library) (hpost : ∀ location h', post location h' ()) :
    Program.wp (fun _ _ => True) post abort (findUidByMessageId now folder rfc822MessageId) h
      () := by
  unfold findUidByMessageId
  apply wp_then
  apply judged_call hjudges
  intro status
  have hexamined := forall_concat hall (@idle_of_reads library (.examine _) rfl status).plain
  apply wp_then
  apply judged_imap hjudges hexamined
  intro uidValidity
  apply wp_then
  apply judged_call hjudges
  intro found
  have hsearched := forall_concat hexamined (@idle_of_reads library (.uidSearch _) rfl found).plain
  apply wp_then
  apply judged_imap hjudges hsearched
  intro uids
  split
  · exact hjudges.untagged _ _ rfl hsearched
  · exact hpost _ _
  · exact hjudges.untagged _ _ rfl hsearched

theorem wire_locateMoved {now : String} {moved : Bool} {receipt : Option CopyUidReceipt} {uid : Nat}
    {targetFolder : String} {rfc822MessageId : Option String}
    (hall : ∀ event ∈ h, event.Plain library) :
    WireWp library (locateMoved now moved receipt uid targetFolder rfc822MessageId) h
      fun _ _ _ => True := by
  unfold locateMoved
  split
  · trivial
  · apply Program.wp_tryCatch.mpr
    apply wp_then
    refine judged_findUidByMessageId ⟨?_, ?_⟩ hall fun _ _ => trivial
    · intro error h event hunanswered
      split
      · exact verdict_of_unanswered hunanswered
      · exact verdict_of_unanswered hunanswered
    · intro error h huntagged hplain
      split
      · exact Untagged.verdict rfl hplain
      · exact Untagged.verdict huntagged hplain
  · trivial

end Calls

section Operations
variable {library : ImapLibrary}

theorem wire_uidMove {sourceFolder : String} {uid : Nat} {targetFolder : String} :
    WireWp library (uidMove library sourceFolder uid targetFolder) [] fun _ _ _ => True := by
  unfold uidMove
  apply wp_then
  apply wire_moveSupport (List.forall_mem_nil _)
  intro supported h hidle
  apply wp_then
  apply wire_read rfl (fun _ hidle => hidle) hidle
  intro status h hidle
  apply wp_then
  apply wire_imap fun event hmem => (hidle event hmem).plain
  intro _
  split
  · apply wp_then
    apply wire_moveOrCopy fun event hmem => (hidle event hmem).marking
    intro _ _ _
    trivial
  · trivial

theorem wire_uidStoreFlags {sourceFolder : String} {expectedUidValidity : Option Nat} {uid : Nat}
    {flags : List String} {add : Bool} :
    WireWp library (uidStoreFlags sourceFolder expectedUidValidity uid flags add) []
      fun _ _ _ => True := by
  unfold uidStoreFlags
  apply wp_then
  apply wire_read rfl (fun _ hidle => hidle) (List.forall_mem_nil _)
  intro status h hidle
  apply wp_then
  apply wire_imap fun event hmem => (hidle event hmem).plain
  intro actual
  apply wp_then
  apply wire_check
  · intro _ _
    apply wp_then
    apply wire_mark (fun _ hmarking => hmarking) fun event hmem => (hidle event hmem).marking
    intro served h hmarking
    apply wire_imap fun event hmem => (hmarking event hmem).plain
    intro _
    trivial
  · intro error _
    exact verdict_of_idle hidle

theorem wire_uidMarkAndMove {now sourceFolder : String} {expectedUidValidity : Option Nat}
    {uid : Nat} {targetFolder : String} {rfc822MessageId : Option String}
    {flagUpdates : MoveFlagUpdates} :
    WireWp library (uidMarkAndMove library now sourceFolder expectedUidValidity uid targetFolder
      rfc822MessageId flagUpdates) [] fun _ _ _ => True := by
  unfold uidMarkAndMove
  apply wp_then
  apply wire_read rfl (fun _ hidle => hidle) (List.forall_mem_nil _)
  intro status h hidle
  apply wp_then
  apply wire_imap fun event hmem => (hidle event hmem).plain
  intro actual
  apply wp_then
  refine wire_check ?_ fun error _ => verdict_of_idle hidle
  intro _ _
  apply wp_then
  apply wire_moveSupport hidle
  intro supported h hidle
  apply wp_then
  apply wire_storeSeen fun event hmem => (hidle event hmem).marking
  intro seen h hmarking
  apply wp_then
  apply wire_storeKeyword hmarking
  intro (keywordSet, keywordError) h hmarking
  have hlocate (receipt : Option CopyUidReceipt) (h : List WireEvent)
      (hplain : ∀ event ∈ h, event.Plain library) : WireWp library (do
        let targetLocation ← locateMoved now (sourceFolder != targetFolder) receipt uid
          targetFolder rfc822MessageId
        return ({ keywordSet, keywordError, seenSet := seen, seenError := none
                  moved := sourceFolder != targetFolder, targetLocation } : MoveOutcome)) h
        fun _ _ _ => True := by
    apply wp_then
    exact wire_locateMoved hplain
  dsimp only
  split
  · apply wp_then
    apply wire_moveOrCopy hmarking
    intro receipt h hplain
    exact hlocate receipt h hplain
  · exact hlocate none h fun event hmem => (hmarking event hmem).plain

/-- A single call whose error claims that nothing was applied exactly if its server refused it. -/
theorem verdict_of_single {request : WireCall} {value : request.Reply} {error : AppError}
    (hrefused : request.refusedMove value = false)
    (hiff : WireCall.Honest library request value →
      ((remoteEffectNotApplied error = true → request.applied value = false) ↔
        WireCall.Reliable library request value)) :
    Verdict library error ([] ++ [⟨request, (), some (.ok value)⟩]) := by
  rw [List.nil_append]
  intro hreplies
  have hhonest := hreplies.honest _ (.head _) value rfl
  have happlied : ¬ WireEvent.Applied ⟨request, (), some (.ok value)⟩ ↔
      request.applied value = false := by
    rw [← Bool.not_eq_true]
    refine not_congr ⟨?_, fun happlied => ⟨value, rfl, happlied⟩⟩
    rintro ⟨other, hother, happlied⟩
    cases hother
    exact happlied
  have hunmoved : ¬ WireEvent.RefusedMove ⟨request, (), some (.ok value)⟩ := by
    rintro ⟨other, hother, hmove⟩
    cases hother
    cases hrefused.symm.trans hmove
  have hsound : TagsSound error [⟨request, (), some (.ok value)⟩] ↔
      (remoteEffectNotApplied error = true → request.applied value = false) := by
    rw [TagsSound, ← happlied]
    simp only [List.forall_mem_singleton]
  rw [hsound, hiff hhonest]
  constructor
  · intro hreliable
    refine ⟨?_, ?_⟩
    · rw [List.forall_mem_singleton]
      intro other hother
      cases hother
      exact hreliable
    · rintro ⟨event, hmem, hmove⟩
      rw [List.mem_singleton] at hmem
      exact (hunmoved (hmem ▸ hmove)).elim
  · intro hreliable
    exact hreliable.refusals _ (.head _) value rfl

theorem wire_smtpSendRawMessage {host : Host} {buildTransport : SmtpSection → Result Unit}
    {envelopeFrom : String} {envelopeTo : List String} {raw : Bytes} :
    WireWp library (smtpSendRawMessage host buildTransport envelopeFrom envelopeTo raw) []
      fun _ _ _ => True := by
  unfold smtpSendRawMessage
  split
  · exact verdict_of_idle (List.forall_mem_nil _)
  · apply wp_then
    apply wire_call
    intro served
    split
    · trivial
    · rename_i failure hreply
      refine @verdict_of_single library (.sendRaw envelopeFrom envelopeTo raw) served _ rfl ?_
      intro hhonest
      have hpermanent : served.refused (·.kind == .permanent) = (failure.kind == .permanent) :=
        Served.refused_error hreply
      have htransient : served.refused (·.kind == .transient) = (failure.kind == .transient) :=
        Served.refused_error hreply
      have htagged : remoteEffectNotApplied { smtpSendFailed failure.text with
          details := if failure.rejected then some effectRejected else none } =
            failure.rejected := tagged_of_rejected
      simp only [WireCall.Honest, WireCall.Reliable, WireCall.applied, hpermanent,
        htransient] at hhonest ⊢
      rw [htagged, SmtpFailure.rejected, Bool.or_eq_true, or_imp]
      exact and_iff_right hhonest

theorem refusedWith_rejectionStatuses {reply : PostReply} :
    WireCall.refusedWith rejectionStatuses reply =
      (WireCall.refusedWith [400, 401, 403, 404, 413, 422] reply ||
        WireCall.refusedWith [429] reply) := by
  cases reply with
  | failed | unreadable => rfl
  | body status parsed =>
    cases parsed with
    | none => rfl
    | some api =>
      have hstatuses : rejectionStatuses = [400, 401, 403, 404, 413, 422] ++ [429] := rfl
      simp only [WireCall.refusedWith, ← Bool.and_or_distrib_left, hstatuses,
        List.contains_eq_any_beq, List.any_append]

/-- An error of the service's response claims that nothing was applied only if it is a refusal. -/
theorem judgeResponse_tagged {host : CloudflareHost} {prepared : PreparedOutbound}
    {reply : PostReply} {error : AppError}
    (h : judgeResponse host prepared reply = .error error) :
    remoteEffectNotApplied error = WireCall.refusedWith rejectionStatuses reply := by
  cases reply with
  | failed | unreadable =>
    cases h
    rfl
  | body status parsed =>
    cases parsed with
    | none =>
      cases h
      rfl
    | some api =>
      rw [judgeResponse] at h
      rw [WireCall.refusedWith]
      split at h
      · rename_i hrefused
        cases h
        exact hrefused.symm
      · rename_i hrefused
        rw [Bool.not_eq_true] at hrefused
        rw [hrefused]
        split at h
        · cases h
          rfl
        · split at h
          · cases h
            rfl
          · cases hemail : prepared.email with
            | error failure =>
              rw [hemail] at h
              cases h
              rw [PreparedOutbound.email] at hemail
              split at hemail
              · cases hemail
              · cases hemail
                rfl
            | ok email =>
              rw [hemail] at h
              change (ensure _ outcomeNotEstablished >>= fun _ => _) = _ at h
              rw [ensure] at h
              split at h
              · cases h
              · cases h
                rfl

theorem wire_cloudflareSendRawMessage {host : CloudflareHost} {prepared : PreparedOutbound} :
    WireWp library (cloudflareSendRawMessage host prepared) [] fun _ _ _ => True := by
  unfold cloudflareSendRawMessage
  apply wp_then
  refine wire_check ?_ fun error _ => verdict_of_idle (List.forall_mem_nil _)
  intro endpoint _
  apply wp_then
  refine wire_check ?_ fun error _ => verdict_of_idle (List.forall_mem_nil _)
  intro submission _
  apply wp_then
  apply wire_call
  intro served
  split
  rename_i reply hreply
  refine wire_check (fun _ _ => trivial) ?_
  intro error hjudged
  refine @verdict_of_single library (.post endpoint submission) served _ rfl ?_
  intro hhonest
  have hiff : (∀ answer, served.reply = .ok answer → WireCall.refusedWith [429] answer = true →
      served.applied = false) ↔ (WireCall.refusedWith [429] reply = true → served.applied = false) :=
    ⟨fun h => h reply hreply, fun h answer hanswer => Except.ok.inj (hreply.symm.trans hanswer) ▸ h⟩
  simp only [WireCall.Reliable, WireCall.applied, hiff]
  rw [judgeResponse_tagged hjudged, refusedWith_rejectionStatuses, Bool.or_eq_true, or_imp]
  exact and_iff_right (hhonest reply hreply)

theorem enrich_tagged {reader : StatusReader} {code : String} {failure : ImapFailure} :
    remoteEffectNotApplied (reader.enrich (rejectedEffectError code failure)) = true ↔
      failure.rejected = true ∨ reader.rejection.any (·.2) = true := by
  have hdetails : (rejectedEffectError code failure).details.any
      (·.remoteEffectRejected == some true) = failure.rejected := by
    rw [rejectedEffectError]
    cases failure.rejected <;> rfl
  rw [StatusReader.enrich]
  match reader.rejection with
  | none =>
    rw [rejectedEffectError_tagged]
    simp
  | some (response, rejected) =>
    simp only [hdetails, remoteEffectNotApplied]
    cases rejected <;> cases failure.rejected <;> simp

theorem observe_rejected {exchange : AppendExchange} :
    (exchange.observe library .clear).stop.rejection.any (·.2) = true ↔
      ∃ line ∈ exchange.observedLines, StatusReader.Refuses library line := by
  have hbegun : StatusReader.clear.Holds [] := ⟨rfl, rfl⟩
  have hactive : StatusReader.clear.active = true := rfl
  rw [AppendExchange.observe, StatusReader.foldl_read, StatusReader.read, if_pos hactive]
  rw [StatusReader.stop, StatusReader.rejected_iff hbegun, AppendExchange.observedLines]
  exact or_iff_right Bool.false_ne_true

theorem wire_appendMessage {folder : String} {raw : Bytes} {draft : Bool} :
    WireWp library (appendMessage library folder raw draft) [] fun _ _ _ => True := by
  unfold appendMessage appendMessageSession
  apply wp_then
  split
  · exact verdict_of_idle (List.forall_mem_nil _)
  · apply wp_then
    apply wire_call
    intro exchange
    cases hresult : exchange.result library with
    | ok _ => trivial
    | error failure =>
      refine @verdict_of_single library (.append true _ raw draft) exchange _ rfl ?_
      intro ⟨hown, hrejected⟩
      rw [enrich_tagged, observe_rejected]
      constructor
      · rintro hsound _ happlied ⟨line, hline, hrefuses, _⟩
        cases happlied.symm.trans (hsound (.inr ⟨line, hline, hrefuses⟩))
      · intro hreliable htagged
        rw [← Bool.not_eq_true]
        intro happlied
        rcases htagged with hfailure | ⟨line, hline, hrefuses⟩
        · cases happlied.symm.trans (hrejected failure hresult hfailure)
        · refine hreliable rfl happlied ⟨line, hline, hrefuses, fun hmine => ?_⟩
          cases happlied.symm.trans (hown line hmine)

/-- An append that is not read along with claims only what the library knows. -/
theorem wire_appendDraftAndFindUid {now folder rfc822MessageId : String} {raw : Bytes} :
    WireWp library (appendDraftAndFindUid library now folder raw rfc822MessageId) []
      fun _ _ _ => True := by
  unfold appendDraftAndFindUid appendMessageSession
  apply wp_then
  split
  · exact verdict_of_idle (List.forall_mem_nil _)
  · apply wp_then
    apply wire_call
    intro exchange
    cases hresult : exchange.result library with
    | error failure =>
      refine @verdict_of_single library (.append false _ raw true) exchange _ rfl ?_
      intro ⟨_, hrejected⟩
      rw [rejectedEffectError_tagged]
      exact iff_of_true (hrejected failure hresult) fun hobserved => nomatch hobserved
    | ok _ =>
      have hplain : ∀ event ∈ ([⟨.append false _ raw true, (), some (.ok exchange)⟩] :
          List WireEvent), WireEvent.Plain library event :=
        List.forall_mem_singleton.mpr
          (plain_of_unrefused (fun hobserved => nomatch hobserved) rfl)
      apply wp_then
      refine wire_check ?_ fun _ herror => nomatch herror
      intro _ _
      apply wp_then
      apply wire_read rfl (fun _ hidle => hidle.plain) hplain
      intro status h hplain
      apply wp_then
      apply wire_imap hplain
      intro uidValidity
      apply wp_then
      apply wire_read rfl (fun _ hidle => hidle.plain) hplain
      intro found h hplain
      apply wp_then
      apply wire_imap hplain
      intro uids
      split
      · trivial
      · exact Untagged.verdict rfl hplain

theorem TransportOperation.tagsSound_iff {program : Wire α}
    (hoperation : TransportOperation library program)
    (hexec : Exec program () events (.failed error) ()) (hhonest : HonestReplies library events) :
    TagsSound error events ↔ ReliableReplies library events := by
  have hjudged : WireWp library program [] (fun _ _ _ => True) →
      (TagsSound error events ↔ ReliableReplies library events) := by
    intro hwp
    have hverdict := (Program.wp_sound hexec trivial hwp).2
    exact hverdict hhonest
  cases hoperation with
  | append => exact hjudged wire_appendMessage
  | appendDraft => exact hjudged wire_appendDraftAndFindUid
  | move => exact hjudged wire_uidMove
  | markAndMove => exact hjudged wire_uidMarkAndMove
  | copyDeleteExpunge =>
    exact hjudged (wire_uidCopyDeleteExpunge (List.forall_mem_nil _) fun _ _ _ => trivial)
  | storeFlags => exact hjudged wire_uidStoreFlags
  | smtp => exact hjudged wire_smtpSendRawMessage
  | cloudflare => exact hjudged wire_cloudflareSendRawMessage

/-- What an append that is read along with comes to. -/
def AppendExchange.verdict (library : ImapLibrary) (exchange : AppendExchange) : Result Unit :=
  match exchange.result library with
  | .ok () => .ok ()
  | .error failure => .error ((exchange.observe library .clear).stop.enrich
      (rejectedEffectError "imap_append_failed" failure))

theorem appendMessage_eq {folder : String} {raw : Bytes} {draft : Bool}
    (hfolder : ¬ (folder.toList.any fun c => c == '\r' || c == '\n') = true) :
    appendMessage library folder raw draft =
      (call (.append true (escapeQuoted folder) raw draft) >>= fun exchange : AppendExchange =>
        Program.ofExcept (exchange.verdict library)) := by
  unfold appendMessage appendMessageSession
  rw [if_neg hfolder]
  simp only [Program.bind_eq, Program.bind_assoc]
  apply congrArg (Program.bind _)
  funext exchange
  rw [AppendExchange.verdict]
  cases exchange.result library <;> rfl

theorem verdict_congr {exchange exchange' : AppendExchange}
    (hlost : exchange.lost = exchange'.lost) (hbuffered : exchange.buffered = exchange'.buffered)
    (hbytes : exchange.chunks.flatten = exchange'.chunks.flatten) :
    exchange.verdict library = exchange'.verdict library := by
  have hresult : exchange.result library = exchange'.result library := by
    rw [AppendExchange.result, AppendExchange.result, hlost, hbuffered, hbytes]
  have hobserve : exchange.observe library .clear = exchange'.observe library .clear := by
    rw [AppendExchange.observe, AppendExchange.observe, StatusReader.foldl_read,
      StatusReader.foldl_read, hbytes]
  rw [AppendExchange.verdict, AppendExchange.verdict, hresult, hobserve]

end Operations

/-- An error of a transport that says that nothing was applied is right exactly if the replies of
the server are to be relied on; and what an append comes to depends on what was received, not on
how it fell into reads. -/
theorem transportTags (library : ImapLibrary) :
    (∀ {α : Type} {program : Wire α} {events : List WireEvent} {error : AppError},
      TransportOperation library program → Exec program () events (.failed error) () →
        HonestReplies library events →
          (TagsSound error events ↔ ReliableReplies library events)) ∧
    ∀ (folder : String) (raw : Bytes) (draft : Bool) (exchange exchange' : AppendExchange)
      (outcome : Outcome AppError Unit), exchange.lost = exchange'.lost →
      exchange.buffered = exchange'.buffered →
      exchange.chunks.flatten = exchange'.chunks.flatten →
      Exec (appendMessage library folder raw draft) ()
        [⟨.append true (escapeQuoted folder) raw draft, (), some (.ok exchange)⟩] outcome () →
      Exec (appendMessage library folder raw draft) ()
        [⟨.append true (escapeQuoted folder) raw draft, (), some (.ok exchange')⟩] outcome () := by
  refine ⟨fun hoperation hexec hhonest => hoperation.tagsSound_iff hexec hhonest, ?_⟩
  intro folder raw draft exchange exchange' outcome hlost hbuffered hbytes hexec
  by_cases hfolder : (folder.toList.any fun c => c == '\r' || c == '\n') = true
  · unfold appendMessage appendMessageSession at hexec
    rw [if_pos hfolder] at hexec
    cases hexec
  · rw [appendMessage_eq hfolder] at hexec ⊢
    cases hexec with
    | call reply hnext =>
      have hanswered : Exec (Program.ofExcept (exchange'.verdict library) : Wire Unit) () []
          outcome () := by
        rw [← verdict_congr hlost hbuffered hbytes]
        exact hnext
      exact .call _ hanswered

/-- Reads a line as a status if its second word is one. -/
def parseStatusLine (line : Bytes) : Option (Bytes × ProtoResponse) :=
  match (line.map fun byte => Char.ofNat byte.toNat).splitOn ' ' with
  | tag :: status :: _ =>
    let status? : Option ProtoStatus :=
      if status = ['O', 'K'] then some .ok
      else if status = ['N', 'O'] then some .no
      else if status = ['B', 'A', 'D'] then some .bad
      else none
    status?.map fun status =>
      ([], if tag = ['*'] then .data status none else .done (String.ofList tag) status none)
  | _ => none

/-- A library that goes by the last line: the end of the command or a lost connection. -/
def plainLibrary : ImapLibrary where
  parse := parseStatusLine
  lineText line := String.ofList
    (Text.trim (line.map fun byte => Char.ofNat byte.toNat))
  append lost bytes :=
    match (Lines.complete lineFeed [] bytes).getLast?.bind parseStatusLine with
    | some (_, .done _ .ok _) => .ok ()
    | some (_, .done _ .no _) => .error ⟨.no, "No Response"⟩
    | some (_, .done _ .bad _) => .error ⟨.bad, "Bad Response"⟩
    | _ => .error ⟨.other, lost.getD "Connection Lost"⟩

def wireText (text : String) : Bytes := text.toList.map fun c => UInt8.ofNat c.toNat

/-- The server asks for the message and refuses it then; the refusal arrives in two parts. -/
def refusedAppend : AppendExchange where
  tag := "a2"
  sent := [.line (wireText "+ go ahead\r\n"), .line (wireText "a2 NO mailbox full\r\n")]
  buffered := []
  chunks := [wireText "+ go ahead\r\na2 N", wireText "O mailbox full\r\n"]
  lost := none
  applied := false
  received := by decide +kernel

/-- The server stores the message, sends another one along, and is lost. -/
def lostAppend : AppendExchange where
  tag := "a2"
  sent := [.line (wireText "+ go ahead\r\n"),
    .literals (wireText "* 1 FETCH (BODY[TEXT] {9}\r\na2 NO x\r\n)\r\n"),
    .line (wireText "a2 OK stored\r\n")]
  buffered := []
  chunks := [wireText "+ go ahead\r\n",
    wireText "* 1 FETCH (BODY[TEXT] {9}\r\na2 NO x\r\n)\r\n"]
  lost := some "Connection Lost"
  applied := true
  received := by decide +kernel

def appendToSent : Wire Unit := appendMessage plainLibrary "Sent" [] false

def appendEvent (exchange : AppendExchange) : WireEvent :=
  ⟨.append true (escapeQuoted "Sent") [] false, (), some (.ok exchange)⟩

theorem appendToSent_exec {exchange : AppendExchange} {error : AppError}
    (hverdict : exchange.verdict plainLibrary = .error error) :
    Exec appendToSent () [appendEvent exchange] (.failed error) () := by
  have hanswered : Exec (Program.ofExcept (exchange.verdict plainLibrary) : Wire Unit) () []
      (.failed error) () := by
    rw [hverdict]
    exact .fail
  rw [appendToSent, appendMessage_eq (by decide)]
  exact .call _ hanswered

theorem transportTags_refusedAppend : ∃ error,
    Exec appendToSent () [appendEvent refusedAppend] (.failed error) () ∧
      remoteEffectNotApplied error = true ∧
      (TagsSound error [appendEvent refusedAppend] ↔
        ReliableReplies plainLibrary [appendEvent refusedAppend]) ∧
      Exec appendToSent ()
        [appendEvent { refusedAppend with chunks := [refusedAppend.chunks.flatten]
                                          received := by decide +kernel }] (.failed error) () := by
  have hverdict : refusedAppend.verdict plainLibrary = .error
      { errorCode := "imap_append_failed", message := "a2 NO mailbox full"
        details := some effectRejected } := by decide +kernel
  have hexec := appendToSent_exec hverdict
  have hhonest : HonestReplies plainLibrary [appendEvent refusedAppend] := by
    refine ⟨List.forall_mem_singleton.mpr ⟨refusedAppend, rfl⟩, List.forall_mem_singleton.mpr ?_⟩
    intro exchange hexchange
    cases hexchange
    exact ⟨fun _ _ => rfl, fun _ _ _ => rfl⟩
  obtain ⟨htags, hfragments⟩ := transportTags plainLibrary
  refine ⟨_, hexec, rfl, htags (.append "Sent" [] false) hexec hhonest, ?_⟩
  exact hfragments "Sent" [] false refusedAppend _ _ rfl rfl (by decide +kernel) hexec

/-- A line of a message that the server sent along passes for a refusal of the append, which the
server applied. -/
theorem transportTags_lostAppend : ∃ error,
    TransportOperation plainLibrary appendToSent ∧
      Exec appendToSent () [appendEvent lostAppend] (.failed error) () ∧
      HonestReplies plainLibrary [appendEvent lostAppend] ∧
      remoteEffectNotApplied error = true ∧ WireEvent.Applied (appendEvent lostAppend) := by
  have hverdict : lostAppend.verdict plainLibrary = .error
      { errorCode := "imap_append_failed", message := "a2 NO x"
        details := some effectRejected } := by decide +kernel
  refine ⟨_, .append "Sent" [] false, appendToSent_exec hverdict, ?_, rfl, lostAppend, rfl, rfl⟩
  refine ⟨List.forall_mem_singleton.mpr ⟨lostAppend, rfl⟩, List.forall_mem_singleton.mpr ?_⟩
  intro exchange hexchange
  cases hexchange
  constructor
  · rintro line ⟨hsent, rest, status, copyUid, hparse, hstatus⟩
    have hlines : line = wireText "+ go ahead\r\n" ∨ line = wireText "a2 OK stored\r\n" := by
      simpa [lostAppend] using hsent
    have hasked : parseStatusLine (wireText "+ go ahead\r\n") = none := by decide +kernel
    have hstored : parseStatusLine (wireText "a2 OK stored\r\n") =
        some ([], .done "a2" .ok none) := by decide +kernel
    rcases hlines with rfl | rfl
    · cases hasked.symm.trans hparse
    · cases hstored.symm.trans hparse
      rcases hstatus with hstatus | hstatus <;> cases hstatus
  · intro failure hfailure hrejected
    have hlost : lostAppend.result plainLibrary = .error ⟨.other, "Connection Lost"⟩ := by
      decide +kernel
    cases hlost.symm.trans hfailure
    cases hrejected

end AgentFirstMail
