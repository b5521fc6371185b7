import AgentFirstMail.Review.PageStaleness
import AgentFirstMail.Review.Sessions

namespace AgentFirstMail
open Effect TreeCommand

/-- What holds of a page as long as its session lasts. -/
structure ReviewPage.Sound (host : PageHost) (surface : ReviewSurface) (session : ReviewSession)
    (page : ReviewPage) : Prop where
  hashed : page.shown.Hashed host surface
  agrees : ∀ messageId, ¬page.overtaken messageId →
    page.shown.item? messageId = (session.upcoming host surface).item? messageId
  current : ∀ messageId, page.undisturbed messageId →
    LeftTriage host surface session.tree messageId ∨
      (Shows host surface session.tree page.shown messageId ∧ ¬page.overtaken messageId)
  kept : ∀ messageId, page.undisturbed messageId →
    session.unrecorded = none ∨ session.kept messageId

/-- The pages of a session, with the one that would be rendered now. -/
def ReviewSession.Has (session : ReviewSession) (page : ReviewPage) : Prop :=
  page = session.reading ∨ ∃ n, session.pages n = some page

structure ReviewSession.Sound (host : PageHost) (surface : ReviewSurface)
    (session : ReviewSession) : Prop where
  hashed : session.model.Hashed host surface
  contained : ∀ saved messageId current, session.unrecorded = some saved →
    session.kept messageId → currentItem host session.tree surface messageId = .ok current →
    current.toShownItem.withSaved saved = current.toShownItem
  pages : ∀ page, session.Has page → page.Sound host surface session

section Steps
variable {host : PageHost} {surface : ReviewSurface} {session : ReviewSession}

theorem ReviewSession.Has.of_mapPages {page : ReviewPage} (change : ReviewPage → ReviewPage)
    (h : (session.mapPages change).Has page) :
    ∃ before, session.Has before ∧ page = change before := by
  rcases h with rfl | ⟨n, hn⟩
  · exact ⟨session.reading, .inl rfl, rfl⟩
  · obtain ⟨before, hbefore, rfl⟩ := Option.map_eq_some_iff.mp hn
    exact ⟨before, .inr ⟨n, hbefore⟩, rfl⟩

theorem ReviewSession.Sound.started {tree : WorkspaceTree} {model : ReviewContents}
    (hbuilt : Built host tree surface model) :
    (ReviewSession.started surface tree model).Sound host surface where
  hashed := hbuilt.hashed
  contained _ _ _ h := by cases h
  pages page h := by
    rcases h with rfl | ⟨n, hn⟩
    · refine ⟨hbuilt.hashed, fun _ _ => rfl, fun messageId hreadable => ?_, fun _ _ => .inl rfl⟩
      exact (hbuilt.shows hreadable messageId).imp_right fun hshows => ⟨hshows, fun h => h⟩
    · cases hn

theorem LeftTriage.of_same {tree tree' : WorkspaceTree} {messageId : String}
    (hleft : LeftTriage host surface tree messageId)
    (hsame : SameItem host surface tree tree' messageId) :
    LeftTriage host surface tree' messageId :=
  ⟨hleft.1, (hsame.proposal hleft.1).trans hleft.2⟩

theorem Shows.of_same {tree tree' : WorkspaceTree} {contents : ReviewContents} {messageId : String}
    (hshows : Shows host surface tree contents messageId)
    (hsame : SameItem host surface tree tree' messageId) :
    Shows host surface tree' contents messageId := by
  intro shown hshown
  rw [hsame.item]
  exact hshows shown hshown

namespace ReviewSession.Sound

theorem disturbed (h : session.Sound host surface) (tree' : WorkspaceTree) :
    (session.disturbed host surface tree').Sound host surface where
  hashed := h.hashed
  contained saved messageId current hsaved hkept hcurrent := by
    refine h.contained saved messageId current hsaved hkept.1 ?_
    rw [← hkept.2.item]
    exact hcurrent
  pages page hpage := by
    obtain ⟨before, hbefore, rfl⟩ :=
      ReviewSession.Has.of_mapPages (·.disturbed host surface session.tree tree') hpage
    obtain ⟨hhashed, hagrees, hcurrent, hkept⟩ := h.pages before hbefore
    refine ⟨hhashed, hagrees, fun messageId hsame => ?_, fun messageId hsame => ?_⟩
    · exact (hcurrent messageId hsame.1).imp (·.of_same hsame.2)
        (And.imp_left (·.of_same hsame.2))
    · exact (hkept messageId hsame.1).imp_right fun hkept => ⟨hkept, hsame.2⟩

/-- What is read of an undisturbed item is what the model has then, with the save that is not
recorded yet. -/
theorem upcoming_read (h : session.Sound host surface) {contents : ReviewContents}
    {messageId : String} (hhashed : contents.Hashed host surface)
    (hshows : Shows host surface session.tree contents messageId)
    (hkept : session.unrecorded = none ∨ session.kept messageId) :
    ((session.read contents).upcoming host surface).item? messageId =
      contents.item? messageId := by
  unfold upcoming read
  dsimp only
  cases hsaved : session.unrecorded with
  | none => rfl
  | some saved =>
    dsimp only
    rw [ReviewContents.item?_recordSaved hhashed]
    cases hitem : contents.item? messageId with
    | none => rfl
    | some shown =>
      obtain ⟨current, hcurrent, rfl⟩ := hshows shown hitem
      have hkept : session.kept messageId := by
        rcases hkept with hnone | hkept
        · cases hnone.symm.trans hsaved
        · exact hkept
      exact congrArg some (h.contained saved messageId current hsaved hkept hcurrent)

theorem upcoming_item? (h : session.Sound host surface) (messageId : String) :
    ((session.upcoming host surface).item? messageId).isSome =
      (session.model.item? messageId).isSome := by
  unfold upcoming
  split
  · rfl
  · rw [ReviewContents.item?_recordSaved h.hashed, Option.isSome_map]

theorem item?_eq_of_shows {tree : WorkspaceTree} {contents contents' : ReviewContents}
    {messageId : String} (hshows : Shows host surface tree contents messageId)
    (hshows' : Shows host surface tree contents' messageId)
    (hboth : (contents.item? messageId).isSome = (contents'.item? messageId).isSome) :
    contents.item? messageId = contents'.item? messageId := by
  cases hitem : contents.item? messageId with
  | none =>
    rw [hitem, Option.isSome_none, eq_comm, Option.isSome_eq_false_iff, Option.isNone_iff_eq_none]
      at hboth
    exact hboth.symm
  | some shown =>
    rw [hitem] at hboth
    obtain ⟨shown', hitem'⟩ := Option.isSome_iff_exists.mp hboth.symm
    obtain ⟨current, hcurrent, rfl⟩ := hshows shown hitem
    obtain ⟨current', hcurrent', rfl⟩ := hshows' shown' hitem'
    cases hcurrent.symm.trans hcurrent'
    exact hitem'.symm

theorem refreshed (h : session.Sound host surface) {contents : ReviewContents}
    (hread : refreshedReviewRenderDocument host session.tree surface session.model =
      .ok contents) :
    (session.refreshed host surface contents).Sound host surface := by
  have hbuilt := Built.of_refreshed hread
  refine ⟨hbuilt.hashed, h.contained, fun page hpage => ?_⟩
  obtain ⟨before, hbefore, rfl⟩ := ReviewSession.Has.of_mapPages
    (·.met surface session.tree ((session.read contents).upcoming host surface)) hpage
  have hmet : before.shown.Hashed host surface ∧ ∀ messageId, before.undisturbed messageId →
      surface.Readable session.tree → (session.unrecorded = none ∨ session.kept messageId) ∧
        (LeftTriage host surface session.tree messageId ∨
          Shows host surface session.tree before.shown messageId ∧
            (Shows host surface session.tree contents messageId →
              before.shown.item? messageId = contents.item? messageId)) := by
    rcases hbefore with rfl | ⟨n, hn⟩
    · exact ⟨hbuilt.hashed, fun messageId hkept hreadable => ⟨hkept,
        (hbuilt.shows hreadable messageId).imp_right fun hshows => ⟨hshows, fun _ => rfl⟩⟩⟩
    · obtain ⟨hhashed, hagrees, hcurrent, hkept⟩ := h.pages before (.inr ⟨n, hn⟩)
      refine ⟨hhashed, fun messageId hundisturbed hreadable => ⟨hkept messageId hundisturbed, ?_⟩⟩
      refine (hcurrent messageId hundisturbed).imp_right fun ⟨hshows, hcaught⟩ =>
        ⟨hshows, fun hnow => item?_eq_of_shows hshows hnow ?_⟩
      rw [hagrees messageId hcaught, h.upcoming_item?, item?_refreshed h.hashed hreadable hread]
  refine ⟨hmet.1, fun messageId => not_not.mp, fun messageId hundisturbed => ?_,
    fun messageId hundisturbed => (hmet.2 messageId hundisturbed.1 hundisturbed.2).1⟩
  obtain ⟨hkept, hleft | ⟨hshows, hsame⟩⟩ := hmet.2 messageId hundisturbed.1 hundisturbed.2
  · exact .inl hleft
  · refine (hbuilt.shows hundisturbed.2 messageId).imp_right fun hnow => ⟨hshows, not_not.mpr ?_⟩
    rw [h.upcoming_read hbuilt.hashed hnow hkept]
    exact hsame hnow

theorem rendered (h : session.Sound host surface) (n : Nat) :
    (session.rendered n).Sound host surface where
  hashed := h.hashed
  contained := h.contained
  pages page hpage := by
    have hbefore : session.Has page := by
      rcases hpage with rfl | ⟨other, hother⟩
      · exact .inl rfl
      · unfold ReviewSession.rendered at hother
        dsimp only at hother
        split at hother
        · exact .inl (Option.some.inj hother).symm
        · exact .inr ⟨other, hother⟩
    obtain ⟨hhashed, hagrees, hcurrent, hkept⟩ := h.pages page hbefore
    exact ⟨hhashed, hagrees, hcurrent, hkept⟩

theorem closed (h : session.Sound host surface) (n : Nat) :
    (session.closed n).Sound host surface where
  hashed := h.hashed
  contained := h.contained
  pages page hpage := by
    have hbefore : session.Has page := by
      rcases hpage with rfl | ⟨other, hother⟩
      · exact .inl rfl
      · unfold ReviewSession.closed at hother
        dsimp only at hother
        split at hother
        · cases hother
        · exact .inr ⟨other, hother⟩
    obtain ⟨hhashed, hagrees, hcurrent, hkept⟩ := h.pages page hbefore
    exact ⟨hhashed, hagrees, hcurrent, hkept⟩

theorem saved (h : session.Sound host surface) {tree' : WorkspaceTree} {edit : SavedEdit}
    (hrecorded : session.unrecorded = none) (hsurface : surface ≠ .triage)
    (hsaves : SavesItems host surface session.tree tree' edit) :
    (session.saved host surface tree' edit).Sound host surface where
  hashed := h.hashed
  contained saved messageId current hsaved _ hcurrent := by
    cases hsaved
    exact hsaves.contained messageId current hcurrent
  pages page hpage := by
    obtain ⟨before, hbefore, rfl⟩ :=
      ReviewSession.Has.of_mapPages (·.saved host surface edit) hpage
    obtain ⟨hhashed, hagrees, hcurrent, _⟩ := h.pages before hbefore
    refine ⟨hhashed.recordSaved edit, fun messageId hcaught => ?_, fun messageId hundisturbed => ?_,
      fun _ _ => .inr trivial⟩
    · have hsame := hagrees messageId hcaught
      unfold upcoming at hsame ⊢
      rw [hrecorded] at hsame
      change (before.shown.recordSaved host surface edit).item? messageId =
        (session.model.recordSaved host surface edit).item? messageId
      rw [ReviewContents.item?_recordSaved hhashed, ReviewContents.item?_recordSaved h.hashed,
        hsame]
    · rcases hcurrent messageId hundisturbed with ⟨htriage, _⟩ | ⟨hshows, hcaught⟩
      · exact (hsurface htriage).elim
      · refine .inr ⟨fun shown hshown => ?_, hcaught⟩
        change (before.shown.recordSaved host surface edit).item? messageId = some shown at hshown
        rw [ReviewContents.item?_recordSaved hhashed] at hshown
        obtain ⟨shown', hitem, rfl⟩ := Option.map_eq_some_iff.mp hshown
        obtain ⟨current, hread, rfl⟩ := hshows shown' hitem
        exact hsaves.shown messageId current hread

theorem recorded (h : session.Sound host surface) {edit : SavedEdit}
    (hunrecorded : session.unrecorded = some edit) :
    (session.recorded host surface edit).Sound host surface where
  hashed := h.hashed.recordSaved edit
  contained _ _ _ hsaved := by cases hsaved
  pages page hpage := by
    obtain ⟨hhashed, hagrees, hcurrent, _⟩ := h.pages page hpage
    refine ⟨hhashed, fun messageId hcaught => ?_, hcurrent, fun _ _ => .inl rfl⟩
    have hsame := hagrees messageId hcaught
    unfold upcoming at hsame
    rw [hunrecorded] at hsame
    exact hsame

theorem settled (h : session.Sound host surface) {fields : SettleFields}
    {events : List TreeEvent} {outcome : Outcome AppError Unit} {tree' : WorkspaceTree}
    (hrecorded : session.unrecorded = none)
    (hexec : Exec (settleFromFields host surface session.model fields) session.tree events outcome
      tree') : (session.settled host surface tree').Sound host surface := by
  by_cases hsurface : surface = .triage
  · subst hsurface
    exact h.disturbed tree'
  · have hkeeps := KeepsItems.of_settled hsurface hexec
    have hsettled : session.settled host surface tree' = { session with tree := tree' } := by
      cases surface with
      | triage => exact (hsurface rfl).elim
      | case _ => rfl
      | notification _ => rfl
      | draft _ _ => rfl
    rw [hsettled]
    refine ⟨h.hashed, fun saved _ _ hsaved => ?_, fun page hpage => ?_⟩
    · cases hrecorded.symm.trans hsaved
    · obtain ⟨hhashed, hagrees, hcurrent, hkept⟩ := h.pages page hpage
      refine ⟨hhashed, hagrees, fun messageId hundisturbed => ?_, hkept⟩
      rcases hcurrent messageId hundisturbed with ⟨htriage, _⟩ | ⟨hshows, hcaught⟩
      · exact (hsurface htriage).elim
      · refine .inr ⟨fun shown hshown => ?_, hcaught⟩
        obtain ⟨current, hread, rfl⟩ := hshows shown hshown
        exact hkeeps messageId current hread

theorem step {session' : ReviewSession} (h : session.Sound host surface)
    (hstep : ReviewStep host surface session session') : session'.Sound host surface := by
  cases hstep with
  | command tree' => exact h.disturbed tree'
  | refresh hread => exact h.refreshed hread
  | render n => exact h.rendered n
  | close n => exact h.closed n
  | saveNotes hrecorded hexec =>
    refine h.saved hrecorded ?_ (.of_notes hexec)
    rintro rfl
    cases hexec
  | saveDraft hrecorded hexec =>
    refine h.saved hrecorded ?_ (.of_drafts hexec)
    rintro rfl
    cases hexec
  | record hunrecorded => exact h.recorded hunrecorded
  | settle hrecorded hexec => exact h.settled hrecorded hexec

end ReviewSession.Sound
end Steps

theorem Reviews.sound {host : PageHost} {surface : ReviewSurface} {session : ReviewSession}
    (h : Reviews host surface session) : session.Sound host surface := by
  induction h with
  | start hbuilt => exact .started hbuilt
  | step _ hstep ih => exact ih.step hstep

/-- A settlement from a page that no later load has overtaken is written only when the workspace
has the documents and the round that the page shows; and while nothing but the session's saves and
settlements changed the item, it is not refused as stale, unless it answers a proposal that was
made for other documents. -/
theorem settlement_of_review {host : PageHost} {surface : ReviewSurface}
    {session : ReviewSession} (hreviews : Reviews host surface session)
    (hrecorded : session.unrecorded = none) {n : Nat} {page : ReviewPage}
    (hpage : session.pages n = some page) {fields : SettleFields} {events : List TreeEvent}
    {outcome : Outcome AppError Unit} {tree' : WorkspaceTree}
    (hexec : Exec (settleFromFields host surface session.model fields) session.tree events outcome
      tree') :
    (¬page.overtaken (settledMessageId fields) → tree' ≠ session.tree ∨ outcome = .returned () →
      SettlesItem host surface session.tree page.shown (settledMessageId fields) ∧
      (Function.Injective host.fingerprint → ∃ current,
        currentItem host session.tree surface (settledMessageId fields) = .ok current ∧
        page.shown.item? (settledMessageId fields) = some current.toShownItem)) ∧
    (page.undisturbed (settledMessageId fields) → (∀ event ∈ events, event.Answered) →
      (fields.Answers → ∀ current,
        currentItem host session.tree surface (settledMessageId fields) = .ok current →
        current.Proposed host) →
      ∀ error, outcome = .failed error → error.NotStale) := by
  have hsound := hreviews.sound
  obtain ⟨_, hagrees, hcurrent, _⟩ := hsound.pages page (.inr ⟨n, hpage⟩)
  have hmodel : ∀ {messageId : String}, ¬page.overtaken messageId →
      page.shown.item? messageId = session.model.item? messageId := by
    intro messageId hcaught
    have hsame := hagrees messageId hcaught
    unfold ReviewSession.upcoming at hsame
    rw [hrecorded] at hsame
    exact hsame
  constructor
  · intro hcaught hwritten
    have hsettles : SettlesItem host surface session.tree session.model
        (settledMessageId fields) := by
      have hwp := @wp_settleFromFields host session.tree surface session.model [] fields
        hsound.hashed
      obtain ⟨hinv, hended⟩ := Program.wp_sound hexec (.inl rfl) hwp
      rcases hwritten with hchanged | rfl
      · exact hinv.resolve_left hchanged
      · exact hended
    obtain ⟨shown, current, hshown, hcurrent, hround, hsame⟩ := hsettles.agrees
    rw [← hmodel hcaught] at hshown
    refine ⟨⟨shown, current, hshown, hcurrent, hround, hsame⟩, fun hinjective => ?_⟩
    refine ⟨current, hcurrent, hshown.trans (congrArg some ?_)⟩
    have hdocument := hinjective hsame
    obtain ⟨⟨document, round⟩, _⟩ := current
    cases hround
    cases hdocument
    rfl
  · rintro hundisturbed hanswered hanswers error rfl
    have hnow : LeftTriage host surface session.tree (settledMessageId fields) ∨
        Shows host surface session.tree session.model (settledMessageId fields) := by
      refine (hcurrent _ hundisturbed).imp_right fun ⟨hshows, hcaught⟩ shown hshown => ?_
      exact hshows shown ((hmodel hcaught).trans hshown)
    have hwp := @wp_settleFromFields_notStale host session.tree [] fields surface session.model
      hsound.hashed hnow hanswers
    exact (Program.wp_sound hexec trivial hwp).2 hanswered

/-- A host whose fingerprints and hashes tell notes apart. -/
def plainPageHost : PageHost where
  toReviewHost := { plainReviewHost with
    fingerprint := fun
      | .notification _ notes => "sha256 of " ++ notes.text
      | _ => "sha256" }
  notesHash notes := notes.text
  draftHash draft := draft.draftName
  changeDraft _ _ _ draft _ := .ok (draft, "")

abbrev newsSurface : ReviewSurface := .notification "n20240101001"

def newsRecord (text : String) (agent : Option NotificationAgentSuggestion) : NotificationRecord where
  group := ""
  dirName := "n20240101001-news"
  notificationName := "News"
  notes := some text
  agentSuggestion := agent.map .notification

def newsTree (text : String) (agent : Option NotificationAgentSuggestion) : WorkspaceTree :=
  { oneNotification with
    workspace := oneNotification.workspace.putNotification "n20240101001" (newsRecord text agent) }

def newsContents (text : String) (agent : Option NotificationAgentSuggestion) :
    NotificationReviewContents where
  collection := ⟨(newsRecord text agent).collection "n20240101001", [], none⟩
  notificationReviewBaseHash := "sha256 of " ++ text
  expectedAgentSuggestionUid := agent.map (·.agentSuggestionUid)
  stale := agent.any (·.staleAt ("sha256 of " ++ text))
  notes := ⟨⟨"notifications/n20240101001-news/notes.md", text⟩, text⟩

def renameProposal : NotificationAgentSuggestion where
  agentSuggestionUid := "agent_suggestion_1"
  reviewBaseHash := "sha256 of "
  suggestedAction := .notificationRename "Letters"
  reason := "shorter"
  confidencePercent := none
  createdRfc3339 := "2024-01-01T00:00:00Z"

/-- One command after another, each answered. -/
def treeTrace (program : TreeCommand α) (tree : WorkspaceTree) :
    Trace WorkspaceTree TreeRequest (fun _ => String) AppError α Unit :=
  program.trace answerTreeRequests tree ()

theorem built_newsTree (text : String) (agent : Option NotificationAgentSuggestion)
    (h : (buildNotificationReviewContents plainPageHost (newsTree text agent)
      "n20240101001").toOption = some (newsContents text agent)) :
    buildNotificationReviewContents plainPageHost (newsTree text agent) "n20240101001" =
      .ok (newsContents text agent) := by
  cases hbuilt : buildNotificationReviewContents plainPageHost (newsTree text agent)
      "n20240101001" with
  | ok contents =>
    rw [hbuilt] at h
    exact congrArg Except.ok (Option.some.inj h)
  | error error =>
    rw [hbuilt] at h
    cases h

/-- A page that showed empty notes, after another page was loaded when they had changed. -/
def overtakenSession : ReviewSession :=
  ((((ReviewSession.started newsSurface (newsTree "" none)
    (.notification (newsContents "" none))).rendered 1).disturbed plainPageHost newsSurface
    (newsTree "x" none)).refreshed plainPageHost newsSurface
    (.notification (newsContents "x" none))).rendered 2

theorem reviews_overtakenSession : Reviews plainPageHost newsSurface overtakenSession := by
  have hold := built_newsTree "" none (by decide +kernel)
  have hnew := built_newsTree "x" none (by decide +kernel)
  refine .step (.step (.step (.step (.start (.notification hold)) (.render 1)) (.command _))
    (.refresh ?_)) (.render 2)
  exact Result.bind_eq_ok_iff.mpr ⟨_, hnew, rfl⟩

def savedNews : SavedEdit where
  baseHash := "x\n"
  document := .notes ⟨"notifications/n20240101001-news/notes.md", "x\n"⟩

def saveNews : TreeCommand (Except String SavedEdit) :=
  saveNotes plainPageHost newsSurface { text := "x" }

/-- A page with a proposal, after notes were saved from it. -/
def savedSession : ReviewSession :=
  (((ReviewSession.started newsSurface (newsTree "" (some renameProposal))
    (.notification (newsContents "" (some renameProposal)))).rendered 1).saved plainPageHost
    newsSurface (treeTrace saveNews (newsTree "" (some renameProposal))).state
    savedNews).recorded plainPageHost newsSurface savedNews

theorem reviews_savedSession : Reviews plainPageHost newsSurface savedSession := by
  have hbuilt := built_newsTree "" (some renameProposal) (by decide +kernel)
  have hsaved := Program.trace_exec answerTreeRequests saveNews
    (newsTree "" (some renameProposal)) ()
  have houtcome : (saveNews.trace answerTreeRequests (newsTree "" (some renameProposal)) ()).outcome =
      .returned (.ok savedNews) := by decide +kernel
  rw [houtcome] at hsaved
  exact .step (.step (.step (.start (.notification hbuilt)) (.render 1)) (.saveNotes rfl hsaved))
    (.record rfl)

def settleNews (session : ReviewSession) (decision : String) : TreeCommand Unit :=
  settleFromFields plainPageHost newsSurface session.model [("decision", decision)]

/-- A settlement from an overtaken page is written over documents that it did not show, and a
proposal is not accepted any more when notes were saved from its page. -/
theorem settlement_not_of_page :
    (∃ (session : ReviewSession) (page : ReviewPage) (events : List TreeEvent)
      (tree' : WorkspaceTree), Reviews plainPageHost newsSurface session ∧
      session.unrecorded = none ∧ session.pages 1 = some page ∧
      Exec (settleNews session "decide_delete") session.tree events (.returned ()) tree' ∧
      ¬SettlesItem plainPageHost newsSurface session.tree page.shown "") ∧
    ∃ (session : ReviewSession) (page : ReviewPage) (tree' : WorkspaceTree) (error : AppError),
      Reviews plainPageHost newsSurface session ∧ session.unrecorded = none ∧
      session.pages 1 = some page ∧ page.undisturbed "" ∧
      Exec (settleNews session "accept") session.tree [] (.failed error) tree' ∧
      error.errorCode = "review_stale" := by
  constructor
  · have hsettled := Program.trace_exec answerTreeRequests
      (settleNews overtakenSession "decide_delete") overtakenSession.tree ()
    have houtcome : ((settleNews overtakenSession "decide_delete").trace answerTreeRequests
        overtakenSession.tree ()).outcome = .returned () := by decide +kernel
    rw [houtcome] at hsettled
    refine ⟨overtakenSession, _, _, _, reviews_overtakenSession, rfl, rfl, hsettled, ?_⟩
    rintro ⟨shown, current, hshown, hcurrent, _, hsame⟩
    have hnow : (currentItem plainPageHost overtakenSession.tree newsSurface "").toOption.map
        (fun current => plainPageHost.fingerprint current.document) = some "sha256 of x" := by
      decide +kernel
    rw [hcurrent] at hnow
    cases hshown
    exact absurd ((Option.some.inj hnow).symm.trans hsame) (by decide +kernel)
  · have hsettled := Program.trace_exec answerTreeRequests (settleNews savedSession "accept")
      savedSession.tree ()
    have houtcome : ((settleNews savedSession "accept").trace answerTreeRequests
        savedSession.tree ()).outcome =
        .failed (staleSuggestionError "notification" "n20240101001") := by decide +kernel
    have hevents : ((settleNews savedSession "accept").trace answerTreeRequests
        savedSession.tree ()).events.length = 0 := by decide +kernel
    rw [houtcome, List.eq_nil_of_length_eq_zero hevents] at hsettled
    exact ⟨savedSession, _, _, _, reviews_savedSession, rfl, rfl, fun h => (nomatch h), hsettled,
      rfl⟩

theorem settlement_of_reloadedPage : ∃ (page : ReviewPage) (events : List TreeEvent)
    (tree' : WorkspaceTree), overtakenSession.pages 2 = some page ∧
      Exec (settleNews overtakenSession "decide_delete") overtakenSession.tree events
        (.returned ()) tree' ∧
      SettlesItem plainPageHost newsSurface overtakenSession.tree page.shown "" := by
  have hsettled := Program.trace_exec answerTreeRequests
    (settleNews overtakenSession "decide_delete") overtakenSession.tree ()
  have houtcome : ((settleNews overtakenSession "decide_delete").trace answerTreeRequests
      overtakenSession.tree ()).outcome = .returned () := by decide +kernel
  rw [houtcome] at hsettled
  have hsettles := (settlement_of_review reviews_overtakenSession rfl (n := 2) rfl hsettled).1
    (not_not.mpr rfl) (.inr rfl)
  exact ⟨_, _, _, rfl, hsettled, hsettles.1⟩

end AgentFirstMail
