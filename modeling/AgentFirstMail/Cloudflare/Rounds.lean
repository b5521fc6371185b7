import AgentFirstMail.Cloudflare.Dispatch
import AgentFirstMail.Cloudflare.ConsumerConformance
import AgentFirstMail.Imap.ReconcileInterval

namespace AgentFirstMail
open Effect Indexing

/-- Where a consumer is in its round; the workspace is not locked while the handler runs. -/
inductive RoundPhase where
  | idle
  | running (batch : Batch)
  | completed (batch : Batch)

/-- A workspace with the consumer that works on it. -/
structure Round where
  site : Site
  phase : RoundPhase := .idle

/-- What was done to the workspace. -/
inductive RoundAction where
  | pulled (host : PullHost) (source : CloudflareSection)
  | altered
  | begun
  | given (batch : Batch)
  | failed
  | stopped
  | marked (batch : Batch)
  | folded

/-- A part of a round, or of another command, that held the workspace. -/
structure RoundEntry where
  action : RoundAction
  before : Site
  events : List PullEvent
  site : Site

/-- One part of a round or of another command. Each may be cut off between any two writes, the
handler may end in any way, and pulls and other commands may come in between. -/
inductive RoundStep : Round → List RoundEntry → Round → Prop
  | pull (h : source.journalEnabled = true)
      (hexec : Exec (pullObjects host source options pages selected) w.site events outcome site) :
      RoundStep w [⟨.pulled host source, w.site, events, site⟩] { w with site }
  | receive (h : source.journalEnabled = true)
      (hexec : Exec (receiveEvents host source pages reconcile) w.site events outcome site) :
      RoundStep w [⟨.pulled host source, w.site, events, site⟩] { w with site }
  | alter (hjournal : site.journal = w.site.journal)
      (hmarkers : site.completedMarkers = w.site.completedMarkers) :
      RoundStep w [⟨.altered, w.site, [], site⟩] { w with site }
  | give (hphase : w.phase = .idle)
      (hexec : Exec (beginDispatch host source) w.site events (.returned (some batch)) site) :
      RoundStep w [⟨.given batch, w.site, events, site⟩] ⟨site, .running batch⟩
  | begin (hphase : w.phase = .idle)
      (hexec : Exec (beginDispatch host source) w.site events outcome site) :
      RoundStep w [⟨.begun, w.site, events, site⟩] ⟨site, .idle⟩
  | fail {failure : HandlerFailure} (hphase : w.phase = .running batch)
      (hexec : Exec (recordFailure source batch failure) w.site events outcome site) :
      RoundStep w [⟨.failed, w.site, events, site⟩] ⟨site, .idle⟩
  | stop : RoundStep w [⟨.stopped, w.site, [], w.site⟩] { w with phase := .idle }
  | mark (hphase : w.phase = .running batch)
      (hexec : Exec (writeMarker batch) w.site events (.returned ()) site) :
      RoundStep w [⟨.marked batch, w.site, events, site⟩] ⟨site, .completed batch⟩
  | fold (hphase : w.phase = .completed batch)
      (hexec : Exec foldCompleted w.site events outcome site) :
      RoundStep w [⟨.folded, w.site, events, site⟩] ⟨site, .idle⟩

/-- The marker of a batch was written that has a task, which is owed ever since. -/
def Covered (history : List RoundEntry) (key : String) : Prop :=
  ∃ before entry after, history = before ++ entry :: after ∧
    (∃ batch, entry.action = .marked batch ∧ key ∈ batch.contentKeys) ∧
    ∀ later ∈ entry :: after, key ∈ later.site.journal.tasks

/-- The last marker of an id was written for a batch. -/
def LastMarked (history : List RoundEntry) (taskId : String) (batch : Batch) : Prop :=
  ∃ before entry after, history = before ++ entry :: after ∧
    entry.action = .marked batch ∧ batch.taskId = taskId ∧
    ∀ later ∈ after, ∀ other, later.action = .marked other → other.taskId ≠ taskId

/-- What the phase of a consumer tells of the journal. -/
def RoundPhase.Fits (phase : RoundPhase) (site : Site) : Prop :=
  match phase with
  | .idle => True
  | .running batch => (∃ active, site.journal.active = some active ∧ active.Same batch) ∧
      ∀ marker, marker ∉ site.completedMarkers
  | .completed batch => ∃ active, site.journal.active = some active ∧ active.Same batch

/-- The invariant of rounds. -/
structure Coherent (history : List RoundEntry) (w : Round) : Prop where
  sound : w.site.journal.Sound
  phase : w.phase.Fits w.site
  marked : ∀ batch, w.site.Folds batch → ∃ marked, LastMarked history batch.taskId marked ∧
    batch.contentKeys = marked.contentKeys
  covered : ∀ key, Covered history key ↔ ∃ batch, w.site.Folds batch ∧ key ∈ batch.contentKeys

variable {history : List RoundEntry} {entry : RoundEntry} {w w' : Round} {site : Site}
  {batch : Batch} {key taskId : String}

theorem Covered.of_concat (h : Covered (history ++ [entry]) key) :
    key ∈ entry.site.journal.tasks ∧ (Covered history key ∨
      ∃ batch, entry.action = .marked batch ∧ key ∈ batch.contentKeys) := by
  obtain ⟨before, marking, after, hsplit, hbatch, hlater⟩ := h
  rcases List.eq_nil_or_concat' after with rfl | ⟨init, last, rfl⟩
  · obtain ⟨_, hlast⟩ := List.append_inj' hsplit rfl
    obtain rfl := List.singleton_inj.mp hlast
    exact ⟨hlater entry List.mem_cons_self, .inr hbatch⟩
  · rw [← List.cons_append, ← List.append_assoc] at hsplit
    obtain ⟨hbefore, hlast⟩ := List.append_inj' hsplit rfl
    obtain rfl := List.singleton_inj.mp hlast
    refine ⟨hlater entry (List.mem_cons_of_mem _ List.mem_concat_self), .inl ?_⟩
    refine ⟨before, marking, init, hbefore, hbatch, fun later hmem => hlater later ?_⟩
    rw [← List.cons_append]
    exact List.mem_append_left _ hmem

theorem Covered.concat (h : Covered history key) (howed : key ∈ entry.site.journal.tasks) :
    Covered (history ++ [entry]) key := by
  obtain ⟨before, marking, after, rfl, hbatch, hlater⟩ := h
  refine ⟨before, marking, after ++ [entry], ?_, hbatch, fun later hmem => ?_⟩
  · rw [List.append_assoc, List.cons_append]
  · rw [← List.cons_append] at hmem
    rcases List.mem_append.mp hmem with hearlier | hlast
    · exact hlater later hearlier
    · rw [List.mem_singleton.mp hlast]
      exact howed

theorem Site.Folds.mem_tasks (h : site.Folds batch) (hsound : site.journal.Sound)
    (hkey : key ∈ batch.contentKeys) : key ∈ site.journal.tasks := by
  obtain ⟨active, hactive, hsame, _⟩ := h
  rw [← hsame.2] at hkey
  obtain ⟨task, htask, _⟩ :=
    Journal.isPending_iff.mp ((hsound.valid active hactive).pending key hkey)
  exact mem_of_getElem? htask

theorem LastMarked.concat (h : LastMarked history taskId batch)
    (haction : ∀ other, entry.action ≠ .marked other) :
    LastMarked (history ++ [entry]) taskId batch := by
  obtain ⟨before, marking, after, rfl, hbatch, hid, hlater⟩ := h
  refine ⟨before, marking, after ++ [entry], ?_, hbatch, hid, ?_⟩
  · rw [List.append_assoc, List.cons_append]
  · intro later hmem other hother
    rcases List.mem_append.mp hmem with hearlier | hlast
    · exact hlater later hearlier other hother
    · rw [List.mem_singleton.mp hlast] at hother
      exact (haction other hother).elim

theorem lastMarked_concat (haction : entry.action = .marked batch) :
    LastMarked (history ++ [entry]) batch.taskId batch :=
  ⟨history, entry, [], rfl, haction, rfl, fun _ hmem => nomatch hmem⟩

namespace Coherent

theorem dispatch {phase : RoundPhase} (h : Coherent history w) (hdispatches : Dispatches w.site site)
    (hbefore : entry.site = site) (haction : ∀ other, entry.action ≠ .marked other)
    (hphase : phase.Fits site) : Coherent (history ++ [entry]) ⟨site, phase⟩ where
  sound := hdispatches.sound
  phase := hphase
  marked batch hfolds := by
    obtain ⟨marked, hlast, hkeys⟩ := h.marked batch (hdispatches.marked batch hfolds)
    exact ⟨marked, hlast.concat haction, hkeys⟩
  covered key := by
    constructor
    · intro hcovered
      obtain ⟨howed, hearlier | ⟨batch, hmarked, _⟩⟩ := hcovered.of_concat
      · obtain ⟨batch, hfolds, hkey⟩ := (h.covered key).mp hearlier
        rw [hbefore] at howed
        exact ⟨batch, hdispatches.folded batch hfolds key hkey howed, hkey⟩
      · exact (haction batch hmarked).elim
    · rintro ⟨batch, hfolds, hkey⟩
      apply ((h.covered key).mpr ⟨batch, hdispatches.marked batch hfolds, hkey⟩).concat
      rw [hbefore]
      exact hfolds.mem_tasks hdispatches.sound hkey

/-- So does everything that leaves the active batch, its tasks and the markers alone. -/
theorem other (h : Coherent history w) (hsound : site.journal.Sound)
    (hactive : site.journal.active = w.site.journal.active)
    (hmarkers : site.completedMarkers = w.site.completedMarkers)
    (hentry : entry.site = site) (haction : ∀ other, entry.action ≠ .marked other) :
    Coherent (history ++ [entry]) { w with site } := by
  have hfolds (batch : Batch) : site.Folds batch ↔ w.site.Folds batch :=
    Site.Folds.congr hactive hmarkers
  constructor
  · exact hsound
  · have hphase := h.phase
    cases hcase : w.phase with
    | idle => trivial
    | running batch =>
      rw [hcase] at hphase
      unfold RoundPhase.Fits at hphase ⊢
      rw [hactive, hmarkers]
      exact hphase
    | completed batch =>
      rw [hcase] at hphase
      unfold RoundPhase.Fits at hphase ⊢
      rw [hactive]
      exact hphase
  · intro batch hbatch
    obtain ⟨marked, hlast, hkeys⟩ := h.marked batch ((hfolds batch).mp hbatch)
    exact ⟨marked, hlast.concat haction, hkeys⟩
  · intro key
    constructor
    · intro hcovered
      obtain ⟨_, hearlier | ⟨batch, hmarked, _⟩⟩ := hcovered.of_concat
      · obtain ⟨batch, hbatch, hkey⟩ := (h.covered key).mp hearlier
        exact ⟨batch, (hfolds batch).mpr hbatch, hkey⟩
      · exact (haction batch hmarked).elim
    · rintro ⟨batch, hbatch, hkey⟩
      apply ((h.covered key).mpr ⟨batch, (hfolds batch).mp hbatch, hkey⟩).concat
      rw [hentry]
      exact hbatch.mem_tasks hsound hkey

theorem pull {host : PullHost} {source : CloudflareSection} {events : List PullEvent}
    (h : Coherent history w) (htracks : Tracks host source w.site w.site.workspace events site) :
    Coherent (history ++ [⟨.pulled host source, w.site, events, site⟩]) { w with site } :=
  h.other ⟨htracks.valid h.sound.valid, htracks.tidy⟩ htracks.active htracks.markers
    rfl fun _ heq => nomatch heq

/-- The marker of the batch is written that the handler was given. -/
theorem mark {events : List PullEvent} (h : Coherent history w) (hphase : w.phase = .running batch) :
    Coherent (history ++ [⟨.marked batch, w.site, events,
        { w.site with completedMarkers := w.site.completedMarkers.insert batch.taskId }⟩])
      ⟨{ w.site with completedMarkers := w.site.completedMarkers.insert batch.taskId },
        .completed batch⟩ := by
  have hfits := h.phase
  rw [hphase] at hfits
  obtain ⟨⟨active, hactive, hsame⟩, hmarkers⟩ := hfits
  constructor
  · exact h.sound
  · exact ⟨active, hactive, hsame⟩
  · rintro folded ⟨found, hfound, hfolded, _⟩
    obtain rfl := Option.some.inj (hactive.symm.trans hfound)
    refine ⟨batch, ?_, hfolded.2.symm.trans hsame.2⟩
    rw [← hfolded.1, hsame.1]
    exact lastMarked_concat rfl
  · intro key
    have hfolds : Site.Folds
        { w.site with completedMarkers := w.site.completedMarkers.insert batch.taskId } batch :=
      ⟨active, hactive, hsame, Std.ExtTreeSet.mem_insert_self⟩
    constructor
    · intro hcovered
      refine ⟨batch, hfolds, ?_⟩
      obtain ⟨_, hearlier | ⟨marked, hmarked, hkey⟩⟩ := hcovered.of_concat
      · obtain ⟨_, ⟨_, _, _, hmarker⟩, _⟩ := (h.covered key).mp hearlier
        exact (hmarkers _ hmarker).elim
      · cases hmarked
        exact hkey
    · rintro ⟨folded, ⟨found, hfound, hfolded, _⟩, hkey⟩
      obtain rfl := Option.some.inj (hactive.symm.trans hfound)
      rw [← hfolded.2, hsame.2] at hkey
      refine ⟨history, _, [], rfl, ⟨batch, rfl, hkey⟩, fun later hlater => ?_⟩
      rw [List.mem_singleton.mp hlater]
      exact hfolds.mem_tasks h.sound hkey

/-- Every part of a round keeps the invariant. -/
theorem step {entries : List RoundEntry} (h : Coherent history w) (hstep : RoundStep w entries w') :
    Coherent (history ++ entries) w' := by
  cases hstep with
  | pull hjournal hexec =>
    exact h.pull (.exec h.sound.tidy hexec (tracked_pullObjects hjournal (.refl h.sound.tidy)))
  | receive hjournal hexec =>
    exact h.pull (.exec h.sound.tidy hexec (tracked_receiveEvents hjournal (.refl h.sound.tidy)))
  | alter hjournal hmarkers =>
    exact h.other (hjournal ▸ h.sound) (congrArg Journal.active hjournal) hmarkers
      rfl fun _ heq => nomatch heq
  | give hphase hexec =>
    have hgiven := (Dispatches.exec h.sound hexec (dispatched_beginDispatch h.sound)).2.2 _ rfl
    exact h.dispatch hgiven.dispatches rfl (fun _ heq => nomatch heq)
      ⟨hgiven.active, hgiven.markers⟩
  | begin hphase hexec =>
    have hend := Dispatches.exec h.sound hexec (dispatched_beginDispatch h.sound)
    exact h.dispatch hend.1 rfl (fun _ heq => nomatch heq) trivial
  | fail hphase hexec =>
    have hfits := h.phase
    rw [hphase] at hfits
    have hend := Dispatches.exec h.sound hexec (dispatched_recordFailure h.sound hfits.2)
    exact h.dispatch hend.1 rfl (fun _ heq => nomatch heq) trivial
  | stop => exact h.dispatch (.refl h.sound) rfl (fun _ heq => nomatch heq) trivial
  | mark hphase hexec =>
    cases hexec with
    | store hend =>
      obtain ⟨rfl, rfl, _⟩ := hend.of_ret
      exact h.mark hphase
  | fold hphase hexec =>
    have hend := Dispatches.exec h.sound hexec (dispatched_foldCompleted h.sound)
    exact h.dispatch hend.1 rfl (fun _ heq => nomatch heq) trivial

end Coherent

/-- The handler was never given a task whose completion was durable by then. -/
def GivenOnce (history : List RoundEntry) : Prop :=
  ∀ before entry after batch, history = before ++ entry :: after → entry.action = .given batch →
    ∀ key ∈ batch.contentKeys, ¬Covered before key

/-- Markers complete only tasks of the batch that they were written for. -/
def FoldsMarked (history : List RoundEntry) (site : Site) : Prop :=
  ∀ events folded site', Exec site.journal.applyCompleted site events (.returned (folded, true)) site' →
    ∃ active marked, site.journal.active = some active ∧ LastMarked history active.taskId marked ∧
      ∀ (key : String) (task : JournalTask), folded.tasks[key]? = some task →
        task.status = .completed → key ∈ marked.contentKeys

theorem Coherent.not_covered {host : PullHost} {source : CloudflareSection} {events : List PullEvent}
    (h : Coherent history w)
    (hexec : Exec (beginDispatch host source) w.site events (.returned (some batch)) site)
    (hkey : key ∈ batch.contentKeys) : ¬Covered history key := by
  intro hcovered
  obtain ⟨_, _, hpost⟩ := Dispatches.exec h.sound hexec (dispatched_beginDispatch h.sound)
  obtain ⟨hdispatches, ⟨active, hactive, hsame⟩, hmarkers⟩ := hpost batch rfl
  rw [← hsame.2] at hkey
  obtain ⟨task, htask, _⟩ :=
    Journal.isPending_iff.mp ((hdispatches.sound.valid active hactive).pending key hkey)
  obtain ⟨folded, hfolds, hmem⟩ := (h.covered key).mp hcovered
  obtain ⟨_, _, _, hmarker⟩ := hdispatches.folded folded hfolds key hmem (mem_of_getElem? htask)
  exact hmarkers _ hmarker

/-- What a fold completes is in the active batch, whose marker is there. -/
theorem Coherent.foldsMarked (h : Coherent history w) : FoldsMarked history w.site := by
  intro events folded site' hexec
  have hfolded : ∃ active, w.site.journal.active = some active ∧
      active.taskId ∈ w.site.completedMarkers ∧ folded = w.site.journal.completeActive := by
    rcases hexec.of_ofExcept_bind with ⟨_, _, hexec⟩ | ⟨_, _, _, _, hstopped | hstopped⟩
    · have hmatch := hexec.of_load
      cases hactive : w.site.journal.active with
      | none =>
        rw [hactive] at hmatch
        cases hmatch
      | some active =>
        rw [hactive] at hmatch
        dsimp only [Program.bind] at hmatch
        split at hmatch
        · cases hmatch
          exact ⟨active, rfl, by assumption, rfl⟩
        · cases hmatch
    · cases hstopped
    · cases hstopped
  obtain ⟨active, hactive, hmarker, rfl⟩ := hfolded
  obtain ⟨marked, hlast, hkeys⟩ := h.marked active ⟨active, hactive, .refl active, hmarker⟩
  refine ⟨active, marked, hactive, hlast, fun key task htask hcompleted => ?_⟩
  rw [← hkeys]
  unfold Journal.completeActive at htask
  rw [hactive] at htask
  dsimp only at htask
  rw [Journal.getElem?_complete] at htask
  split at htask
  · assumption
  · exact (h.sound.tidy key task htask hcompleted).elim

/-- A workspace without a consumer's journal. -/
def Round.fresh (w : Workspace) : Round := { site := { workspace := w } }

theorem coherent_fresh (w : Workspace) : Coherent [] (.fresh w) where
  sound := by
    constructor
    · exact fun _ hactive => nomatch hactive
    · intro key task htask
      have hempty : (∅ : Std.ExtTreeMap String JournalTask)[key]? = none :=
        Std.ExtTreeMap.getElem?_empty
      cases hempty.symm.trans htask
  phase := trivial
  marked := by
    rintro batch ⟨_, hactive, _⟩
    cases hactive
  covered key := by
    constructor
    · rintro ⟨before, entry, after, hsplit, _⟩
      cases (List.append_eq_nil_iff.mp hsplit.symm).2
    · rintro ⟨batch, ⟨_, hactive, _⟩, _⟩
      cases hactive

theorem GivenOnce.concat (h : GivenOnce history)
    (hgiven : ∀ batch, entry.action = .given batch → ∀ key ∈ batch.contentKeys,
      ¬Covered history key) : GivenOnce (history ++ [entry]) := by
  intro before given after batch hsplit haction
  rcases List.eq_nil_or_concat' after with rfl | ⟨init, last, rfl⟩
  · obtain ⟨rfl, hlast⟩ := List.append_inj' hsplit rfl
    obtain rfl := List.singleton_inj.mp hlast
    exact hgiven batch haction
  · rw [← List.cons_append, ← List.append_assoc] at hsplit
    obtain ⟨hbefore, _⟩ := List.append_inj' hsplit rfl
    exact h before given init batch hbefore haction

/-- In every run of rounds the handler is never given a task again whose completion is durable,
a marker completes no task of another batch than its own, and the journal that is on disk is a
valid one. -/
theorem run_respects_markers {w : Workspace} {w' : Round}
    (h : Run RoundStep (.fresh w) history w') :
    GivenOnce history ∧ FoldsMarked history w'.site ∧ w'.site.journal.validateActive = .ok () := by
  have hinv : Coherent history w' ∧ GivenOnce history := by
    apply h.invariant
    · refine ⟨coherent_fresh w, fun before entry after batch hsplit => ?_⟩
      cases (List.append_eq_nil_iff.mp hsplit.symm).2
    · rintro history middle entries next ⟨hcoherent, hgiven⟩ hstep
      refine ⟨hcoherent.step hstep, ?_⟩
      cases hstep with
      | give hphase hexec =>
        apply hgiven.concat
        intro batch hbatch key hkey
        cases hbatch
        exact hcoherent.not_covered hexec hkey
      | _ => exact hgiven.concat fun _ hbatch => nomatch hbatch
  exact ⟨hinv.2, hinv.1.foldsMarked, Journal.validateActive_eq_ok_iff.mpr hinv.1.sound.valid⟩

def handledBucket : CloudflareSection where
  r2 := { bucket := some "mail" }
  consumer := { command := ["handle-mail"] }

/-- A bucket with one message. -/
def oneObject (_ : Unit) (request : PullRequest) : Except AppError request.Reply × Unit :=
  match request with
  | .listObjects _ _ => (.ok { objects := [⟨"inbox/a", 1⟩] }, ())
  | .getObject _ => (.ok (some { raw := [1] }), ())
  | .deleteObject _ => (.ok (), ())
  | .renderRefresh => (.ok (), ())
  | .epochSeconds => (.ok (0 : Int), ())
  | _ => (.error { errorCode := "cloudflare_r2_failed", message := "no reply" }, ())

def pullOneObject : Trace Site PullRequest PullRequest.Reply AppError R2Tally Unit :=
  (pullObjects plainPullHost handledBucket {} 1 none).trace oneObject neverPulled ()

def dispatchFrom (site : Site) :
    Trace Site PullRequest PullRequest.Reply AppError (Option Batch) Unit :=
  (beginDispatch plainPullHost handledBucket).trace oneObject site ()

/-- The batch of that message. -/
def oneBatch : Batch where
  taskId := batchTaskId zeroDigest [headerlessParser.messageContentKey [1]]
  contentKeys := [headerlessParser.messageContentKey [1]]

def markOneBatch : Trace Site PullRequest PullRequest.Reply AppError Unit Unit :=
  (writeMarker oneBatch).trace oneObject (dispatchFrom pullOneObject.state).state ()

/-- The message is pulled and handled; the consumer is cut off once the marker is written, and
the next round begins. -/
def handleOnce : List RoundEntry :=
  let given := dispatchFrom pullOneObject.state
  let next := dispatchFrom markOneBatch.state
  [⟨.pulled plainPullHost handledBucket, neverPulled, pullOneObject.events, pullOneObject.state⟩] ++
    [⟨.given oneBatch, pullOneObject.state, given.events, given.state⟩] ++
    [⟨.marked oneBatch, given.state, markOneBatch.events, markOneBatch.state⟩] ++
    [⟨.stopped, markOneBatch.state, [], markOneBatch.state⟩] ++
    [⟨.begun, markOneBatch.state, next.events, next.state⟩]

def handledRound : Round := { site := (dispatchFrom markOneBatch.state).state }

theorem run_handleOnce : Run RoundStep (.fresh freshWorkspace) handleOnce handledRound := by
  have hgiven : (dispatchFrom pullOneObject.state).outcome = .returned (some oneBatch) := by
    decide +kernel
  have hexec := Program.trace_exec oneObject (beginDispatch plainPullHost handledBucket)
    pullOneObject.state ()
  apply Run.next _ (.begin (w := ⟨markOneBatch.state, .idle⟩) rfl (Program.trace_exec _ _ _ _))
  apply Run.next _ (.stop (w := ⟨markOneBatch.state, .completed oneBatch⟩))
  apply Run.next _ (.mark (w := ⟨_, .running oneBatch⟩) rfl (Program.trace_exec _ _ _ _))
  apply Run.next _ (.give (w := ⟨pullOneObject.state, .idle⟩) rfl (hgiven ▸ hexec))
  exact Run.next .start (.pull rfl (Program.trace_exec _ _ _ _))

theorem run_respects_markers_handleOnce : GivenOnce handleOnce ∧
    FoldsMarked handleOnce handledRound.site ∧
    handledRound.site.journal.validateActive = .ok () :=
  run_respects_markers run_handleOnce

end AgentFirstMail
