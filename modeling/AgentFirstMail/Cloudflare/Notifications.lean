import AgentFirstMail.Cloudflare.Rounds

namespace AgentFirstMail
open Effect Indexing

/-- The receipt of an object was durable at some point together with the pending task of its
content. -/
def Founded (history : List RoundEntry) (objectId contentKey : String) : Prop :=
  ∃ entry ∈ history, entry.site.journal.Backs objectId contentKey ∨
    ∃ event ∈ entry.events, event.state.journal.Backs objectId contentKey

/-- A task stays until the marker of a batch with it is durable or its message is gone. -/
def OwedAfter (history after : List RoundEntry) (key : String) : Prop :=
  ∀ middle ending rest, after = middle ++ ending :: rest →
    (∀ later ∈ middle, key ∈ later.site.journal.tasks) →
    key ∈ ending.site.journal.tasks ∨ Covered (history ++ middle) key ∨ ending.before.Gone key

/-- Every message that was stored from a bucket is owed a notification from then on, unless its
intent was withdrawn while its object was in the bucket. -/
def NothingLost (history : List RoundEntry) : Prop :=
  ∀ before entry after host source messageId raw, history = before ++ entry :: after →
    entry.action = .pulled host source → entry.before.workspace.eml messageId = none →
    entry.site.workspace.eml messageId = some raw →
    Withdrawn host source entry.events entry.site raw ∨
      host.parser.messageContentKey raw ∈ entry.site.journal.tasks ∧
        OwedAfter (before ++ [entry]) after (host.parser.messageContentKey raw)

/-- What held when an object was taken out of the spool. -/
structure TakenSafely (host : PullHost) (source : CloudflareSection) (history : List RoundEntry)
    (earlier : List PullEvent) (event : PullEvent) (key : String) (receipt : Receipt) : Prop where
  durable : event.state.journal.receipts[source.objectId host.blake3 key]? = some receipt
  founded : Founded history (source.objectId host.blake3 key) receipt.contentKey ∨
    ∃ asked ∈ earlier ++ [event],
      asked.state.journal.Backs (source.objectId host.blake3 key) receipt.contentKey

/-- Objects are taken out of the spool only once their receipt and its pending task are durable. -/
def NothingTakenEarly (history : List RoundEntry) : Prop :=
  ∀ before entry after host source earlier event rest key, history = before ++ entry :: after →
    entry.action = .pulled host source → entry.events = earlier ++ event :: rest →
    event.request.takes? = some key → ∃ receipt,
      TakenSafely host source before earlier event key receipt

/-- No object is imported whose bytes are known already while the journal holds no task of them. -/
def RoundEntry.ImportsNew (entry : RoundEntry) : Prop :=
  ∀ host source, entry.action = .pulled host source → ∀ event ∈ entry.events,
    ∀ contentKey, ¬ Redelivers host source event contentKey

variable {history : List RoundEntry} {entry : RoundEntry} {w w' : Round}
  {objectId contentKey key : String}

theorem Founded.concat (h : Founded history objectId contentKey) :
    Founded (history ++ [entry]) objectId contentKey := by
  obtain ⟨earlier, hmem, hbacks⟩ := h
  exact ⟨earlier, List.mem_append_left _ hmem, hbacks⟩

/-- A pull keeps track of the journal, a dispatch changes it as dispatches do, and nothing else
changes it. -/
def RoundEntry.Does (entry : RoundEntry) (start site : Site) : Prop :=
  (∃ host source, entry.action = .pulled host source ∧
    Tracks host source start start.workspace entry.events site) ∨
  (∀ host source, entry.action ≠ .pulled host source) ∧
    (Dispatches start site ∨ site.journal = start.journal)

theorem RoundStep.does {entries : List RoundEntry} (h : Coherent history w)
    (hstep : RoundStep w entries w') : ∃ entry, entries = [entry] ∧ entry.before = w.site ∧
      entry.site = w'.site ∧ entry.Does w.site w'.site := by
  cases hstep with
  | pull hjournal hexec =>
    exact ⟨_, rfl, rfl, rfl, .inl ⟨_, _, rfl,
      .exec h.sound.tidy hexec (tracked_pullObjects hjournal (.refl h.sound.tidy))⟩⟩
  | receive hjournal hexec =>
    exact ⟨_, rfl, rfl, rfl, .inl ⟨_, _, rfl,
      .exec h.sound.tidy hexec (tracked_receiveEvents hjournal (.refl h.sound.tidy))⟩⟩
  | alter hjournal hmarkers =>
    exact ⟨_, rfl, rfl, rfl, .inr ⟨fun _ _ heq => (nomatch heq), .inr hjournal⟩⟩
  | give hphase hexec =>
    have hend := Dispatches.exec h.sound hexec (dispatched_beginDispatch h.sound)
    exact ⟨_, rfl, rfl, rfl, .inr ⟨fun _ _ heq => (nomatch heq), .inl hend.1⟩⟩
  | begin hphase hexec =>
    have hend := Dispatches.exec h.sound hexec (dispatched_beginDispatch h.sound)
    exact ⟨_, rfl, rfl, rfl, .inr ⟨fun _ _ heq => (nomatch heq), .inl hend.1⟩⟩
  | fail hphase hexec =>
    have hfits := h.phase
    rw [hphase] at hfits
    have hend := Dispatches.exec h.sound hexec (dispatched_recordFailure h.sound hfits.2)
    exact ⟨_, rfl, rfl, rfl, .inr ⟨fun _ _ heq => (nomatch heq), .inl hend.1⟩⟩
  | stop => exact ⟨_, rfl, rfl, rfl, .inr ⟨fun _ _ heq => (nomatch heq), .inr rfl⟩⟩
  | mark hphase hexec =>
    cases hexec with
    | store hend =>
      obtain ⟨rfl, _⟩ := hend.of_ret
      exact ⟨_, rfl, rfl, rfl, .inr ⟨fun _ _ heq => (nomatch heq), .inr rfl⟩⟩
  | fold hphase hexec =>
    have hend := Dispatches.exec h.sound hexec (dispatched_foldCompleted h.sound)
    exact ⟨_, rfl, rfl, rfl, .inr ⟨fun _ _ heq => (nomatch heq), .inl hend.1⟩⟩

theorem OwedAfter.concat {after : List RoundEntry} (h : OwedAfter history after key)
    (hlast : (∀ later ∈ after, key ∈ later.site.journal.tasks) →
      key ∈ entry.site.journal.tasks ∨ Covered (history ++ after) key ∨ entry.before.Gone key) :
    OwedAfter history (after ++ [entry]) key := by
  intro middle ending rest hsplit hmiddle
  rcases List.eq_nil_or_concat' rest with rfl | ⟨init, last, rfl⟩
  · obtain ⟨rfl, hending⟩ := List.append_inj' hsplit rfl
    obtain rfl := List.singleton_inj.mp hending
    exact hlast hmiddle
  · rw [← List.cons_append, ← List.append_assoc] at hsplit
    obtain ⟨hafter, _⟩ := List.append_inj' hsplit rfl
    exact h middle ending init hafter hmiddle

/-- The invariant of rounds and what their record shows. -/
structure Notifies (history : List RoundEntry) (w : Round) : Prop where
  coherent : Coherent history w
  founded : (∀ entry ∈ history, entry.ImportsNew) → ∀ (objectId : String) (receipt : Receipt),
    w.site.journal.receipts[objectId]? = some receipt →
    Founded history objectId receipt.contentKey
  current : ∀ before entry, history = before ++ [entry] → entry.site = w.site
  nothingLost : NothingLost history
  nothingTakenEarly : (∀ entry ∈ history, entry.ImportsNew) → NothingTakenEarly history

namespace Notifies

theorem fresh (workspace : Workspace) : Notifies [] (.fresh workspace) where
  coherent := coherent_fresh workspace
  founded _ objectId receipt hreceipt := by
    have hempty : (∅ : Std.ExtTreeMap String Receipt)[objectId]? = none :=
      Std.ExtTreeMap.getElem?_empty
    cases hempty.symm.trans hreceipt
  current before entry hsplit := by
    cases (List.append_eq_nil_iff.mp hsplit.symm).2
  nothingLost before entry after _ _ _ _ hsplit := by
    cases (List.append_eq_nil_iff.mp hsplit.symm).2
  nothingTakenEarly _ before entry after _ _ _ _ _ _ hsplit := by
    cases (List.append_eq_nil_iff.mp hsplit.symm).2

theorem owed (h : Notifies history w) (hbefore : entry.before = w.site)
    (hdoes : entry.Does w.site w'.site) (hkey : key ∈ w.site.journal.tasks) :
    key ∈ w'.site.journal.tasks ∨ Covered history key ∨ entry.before.Gone key := by
  rcases hdoes with ⟨host, source, _, htracks⟩ | ⟨_, hdispatches | hsame⟩
  · exact .inl (htracks.owed key hkey)
  · rcases hdispatches.dropped key hkey with howed | hfolds | hgone
    · exact .inl howed
    · exact .inr (.inl ((h.coherent.covered key).mpr hfolds))
    · rw [hbefore]
      exact .inr (.inr hgone)
  · rw [hsame]
    exact .inl hkey

theorem step {entries : List RoundEntry} (h : Notifies history w)
    (hstep : RoundStep w entries w') : Notifies (history ++ entries) w' := by
  have hcoherent := h.coherent.step hstep
  obtain ⟨entry, rfl, hbefore, hsite, hdoes⟩ := hstep.does h.coherent
  have hearlier : (∀ other ∈ history ++ [entry], other.ImportsNew) →
      ∀ other ∈ history, other.ImportsNew :=
    fun hnew other hmem => hnew other (List.mem_append_left _ hmem)
  constructor
  · exact hcoherent
  · intro hnew objectId receipt hreceipt
    have hfounded := h.founded (hearlier hnew) objectId
    rcases hdoes with ⟨host, source, hpulled, htracks⟩ | ⟨_, hdispatches | hsame⟩
    · rcases htracks.receipted objectId receipt hreceipt with ⟨earlier, hstart, hkey⟩ | hnow | hasked |
        ⟨event, hmem, hknown⟩
      · rw [← hkey]
        exact (hfounded earlier hstart).concat
      · refine ⟨entry, List.mem_concat_self, .inl ?_⟩
        rw [hsite]
        exact hnow
      · exact ⟨entry, List.mem_concat_self, .inr hasked⟩
      · exact (hnew entry List.mem_concat_self host source hpulled event hmem _ hknown).elim
    · exact (hfounded receipt (hdispatches.receipts objectId receipt hreceipt)).concat
    · rw [hsame] at hreceipt
      exact (hfounded receipt hreceipt).concat
  · intro before last hsplit
    obtain ⟨_, hlast⟩ := List.append_inj' hsplit rfl
    obtain rfl := List.singleton_inj.mp hlast
    exact hsite
  · intro before stored after host source messageId raw hsplit haction hnone hsome
    rcases List.eq_nil_or_concat' after with rfl | ⟨init, last, rfl⟩
    · obtain ⟨rfl, hlast⟩ := List.append_inj' hsplit rfl
      obtain rfl := List.singleton_inj.mp hlast
      rcases hdoes with ⟨_, _, hpulled, htracks⟩ | ⟨hother, _⟩
      · obtain ⟨rfl, rfl⟩ := RoundAction.pulled.inj (hpulled.symm.trans haction)
        rw [hbefore] at hnone
        rw [hsite] at hsome ⊢
        rcases htracks.intended messageId raw hnone hsome with hintended | hwithdrawn
        · refine .inr ⟨hintended, fun middle ending rest hnil => ?_⟩
          cases (List.append_eq_nil_iff.mp hnil.symm).2
        · exact .inl hwithdrawn
      · exact (hother host source haction).elim
    · rw [← List.cons_append, ← List.append_assoc] at hsplit
      obtain ⟨hhistory, hlast⟩ := List.append_inj' hsplit rfl
      obtain rfl := List.singleton_inj.mp hlast
      rcases h.nothingLost before stored init host source messageId raw hhistory haction hnone hsome
        with hwithdrawn | ⟨howed, hafter⟩
      · exact .inl hwithdrawn
      · refine .inr ⟨howed, hafter.concat fun hinit => ?_⟩
        have hkey : host.parser.messageContentKey raw ∈ w.site.journal.tasks := by
          rcases List.eq_nil_or_concat' init with rfl | ⟨init, last, rfl⟩
          · rw [← h.current before stored hhistory]
            exact howed
          · rw [← List.cons_append, ← List.append_assoc] at hhistory
            rw [← h.current _ last hhistory]
            exact hinit last List.mem_concat_self
        rw [hsite, List.append_assoc, List.singleton_append, ← hhistory]
        exact h.owed hbefore hdoes hkey
  · intro hnew before taking after host source earlier event rest key hsplit haction hevents htakes
    rcases List.eq_nil_or_concat' after with rfl | ⟨init, last, rfl⟩
    · obtain ⟨rfl, hlast⟩ := List.append_inj' hsplit rfl
      obtain rfl := List.singleton_inj.mp hlast
      rcases hdoes with ⟨_, _, hpulled, htracks⟩ | ⟨hother, _⟩
      · obtain ⟨rfl, rfl⟩ := RoundAction.pulled.inj (hpulled.symm.trans haction)
        have hpre : earlier ++ [event] <+: entry.events := by
          rw [hevents]
          exact ⟨rest, by rw [List.append_assoc, List.singleton_append]⟩
        obtain ⟨receipt, hreleases⟩ := htracks.taken earlier event hpre key htakes
        refine ⟨receipt, hreleases.durable, ?_⟩
        rcases hreleases.backed with ⟨before, hreceipt, hkey⟩ | hnow | ⟨asked, hmem, hbacks⟩ |
          ⟨known, hmem, hknown⟩
        · rw [← hkey]
          exact .inl (h.founded (hearlier hnew) _ before hreceipt)
        · exact .inr ⟨event, List.mem_concat_self, hnow⟩
        · exact .inr ⟨asked, List.mem_append_left _ hmem, hbacks⟩
        · have hmember := hpre.subset (List.mem_append_left [event] hmem)
          exact (hnew entry List.mem_concat_self _ _ hpulled known hmember _ hknown).elim
      · exact (hother host source haction).elim
    · rw [← List.cons_append, ← List.append_assoc] at hsplit
      obtain ⟨hhistory, _⟩ := List.append_inj' hsplit rfl
      exact h.nothingTakenEarly (hearlier hnew) before taking init host source earlier event rest key
        hhistory haction hevents htakes

end Notifies

/-- A host whose triage views do not render. -/
def viewlessHost : PullHost where
  parser := headerlessParser
  blake3 := zeroDigest
  triageView _ := .error { errorCode := "template_error", message := "view does not render" }
  timezoneOffset := 0
  now := "2024-01-01T00:00:00Z"

def pullViewless (site : Site) : Trace Site PullRequest PullRequest.Reply AppError R2Tally Unit :=
  (pullObjects viewlessHost handledBucket {} 1 none).trace oneObject site ()

/-- The view of a message fails when it is pulled, and its object is pulled again. -/
def pulledTwice : List RoundEntry :=
  let first := pullViewless neverPulled
  let second := pullViewless first.state
  [⟨.pulled viewlessHost handledBucket, neverPulled, first.events, first.state⟩] ++
    [⟨.pulled viewlessHost handledBucket, first.state, second.events, second.state⟩]

def unviewedRound : Round := { site := (pullViewless (pullViewless neverPulled).state).state }

theorem run_pulledTwice : Run RoundStep (.fresh freshWorkspace) pulledTwice unviewedRound := by
  apply Run.next _ (.pull (w := ⟨(pullViewless neverPulled).state, .idle⟩) rfl
    (Program.trace_exec _ _ _ _))
  exact Run.next .start (.pull rfl (Program.trace_exec _ _ _ _))

/-- Nothing was ever pending in the journal. -/
def NeverOwed (history : List RoundEntry) : Prop :=
  ∀ entry ∈ history, ∀ key, entry.site.journal.isPending key = false ∧
    ∀ event ∈ entry.events, event.state.journal.isPending key = false

theorem NeverOwed.not_founded (h : NeverOwed history) : ¬ Founded history objectId contentKey := by
  rintro ⟨entry, hentry, hnow | ⟨event, hevent, hasked⟩⟩
  · cases (h entry hentry contentKey).1.symm.trans hnow.pending
  · cases ((h entry hentry contentKey).2 event hevent).symm.trans hasked.pending

theorem Journal.isPending_eq_false {journal : Journal}
    (h : journal.tasks.toList.all (·.2.status != .pending) = true) (key : String) :
    journal.isPending key = false := by
  apply Bool.eq_false_iff.mpr
  intro hpending
  obtain ⟨task, htask, hstatus⟩ := Journal.isPending_iff.mp hpending
  have hmem := Std.ExtTreeMap.mem_toList_iff_getElem?_eq_some.mpr htask
  have hother := List.all_eq_true.mp h _ hmem
  rw [hstatus] at hother
  cases hother

end AgentFirstMail
