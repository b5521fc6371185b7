import AgentFirstMail.Cloudflare.Notifications

namespace AgentFirstMail
open Effect Indexing

/-- The bytes that stand under an object id are stored. -/
def Imported (parser : MailParser) (content : String → Option Bytes) (w : Workspace)
    (objectId : String) : Prop :=
  ∃ raw, content objectId = some raw ∧ w.Has parser (parser.messageContentKey raw)

/-- What was downloaded was what stands under its object id: no key of a spool is used twice.
Other commands keep the evidence of mail. -/
structure Unreused (parser : MailParser) (content : String → Option Bytes)
    (entry : RoundEntry) : Prop where
  parser : ∀ host source, entry.action = .pulled host source → host.parser = parser
  content : ∀ host source key raw, entry.action = .pulled host source →
    DownloadedFrom source entry.events key raw →
    content (source.objectId host.blake3 key) = some raw
  kept : entry.action = .altered → GrowsMail entry.before.workspace entry.site.workspace

/-- Every receipt is that of the bytes that stand under its object id, and they are stored. -/
def Grounded (parser : MailParser) (content : String → Option Bytes) (site : Site) : Prop :=
  ∀ (objectId : String) (receipt : Receipt), site.journal.receipts[objectId]? = some receipt →
    ∃ raw, content objectId = some raw ∧ parser.messageContentKey raw = receipt.contentKey ∧
      site.workspace.Has parser receipt.contentKey

/-- Objects are taken out of the spool only once they are imported. -/
def DeletesImported (parser : MailParser) (content : String → Option Bytes)
    (history : List RoundEntry) : Prop :=
  ∀ entry ∈ history, ∀ host source, entry.action = .pulled host source →
    ∀ event ∈ entry.events, ∀ key, event.request.takes? = some key →
      Imported parser content event.state.workspace (source.objectId host.blake3 key)

/-- What a consumer acknowledges next was leased, and the object of the event is imported. -/
def AcksImported (parser : MailParser) (content : String → Option Bytes) (start : Site) : Prop :=
  ∀ host source pages reconcile events tally site, source.journalEnabled = true →
    Exec (receiveEvents host source pages reconcile) start events (.returned tally) site →
    Unreused parser content ⟨.pulled host source, start, events, site⟩ →
    ∀ leaseId ∈ tally.acks, ∃ messages : List QueueMessage,
      (⟨.pullQueue, start, some (.ok messages)⟩ : PullEvent) ∈ events ∧
      ∃ message ∈ messages, message.leaseId = leaseId ∧ ∃ event, message.event = .ok event ∧
        Imported parser content site.workspace (source.objectId host.blake3 event.object.key)

variable {parser : MailParser} {content : String → Option Bytes} {host : PullHost}
  {source : CloudflareSection} {start site : Site} {events : List PullEvent}
  {history : List RoundEntry} {entry : RoundEntry} {w w' : Round} {objectId : String}

namespace Grounded

theorem imported {receipt : Receipt} (h : Grounded parser content site)
    (hreceipt : site.journal.receipts[objectId]? = some receipt) :
    Imported parser content site.workspace objectId := by
  obtain ⟨raw, hcontent, hkey, hhas⟩ := h objectId receipt hreceipt
  rw [← hkey] at hhas
  exact ⟨raw, hcontent, hhas⟩

theorem keep (h : Grounded parser content start)
    (hreceipts : ∀ (objectId : String) (receipt : Receipt),
      site.journal.receipts[objectId]? = some receipt →
      start.journal.receipts[objectId]? = some receipt)
    (hgrows : GrowsMail start.workspace site.workspace) : Grounded parser content site := by
  intro objectId receipt hreceipt
  obtain ⟨raw, hcontent, hkey, hhas⟩ := h objectId receipt (hreceipts objectId receipt hreceipt)
  exact ⟨raw, hcontent, hkey, hhas.grows hgrows⟩

theorem confirmed {w : Workspace} (h : Grounded parser content start) (hparser : host.parser = parser)
    (hcontent : ∀ key raw, DownloadedFrom source events key raw →
      content (source.objectId host.blake3 key) = some raw)
    (hgrows : GrowsMail start.workspace w)
    (hconfirmed : Confirmed host source start events w objectId) :
    Imported parser content w objectId := by
  obtain ⟨contentKey, ⟨receipt, hreceipt, _⟩ | ⟨⟨key, raw, rfl, hdownloaded, rfl⟩, hhas⟩⟩ :=
    hconfirmed
  · obtain ⟨raw, hcontent, hhas⟩ := h.imported hreceipt
    exact ⟨raw, hcontent, hhas.grows hgrows⟩
  · rw [hparser] at hhas
    exact ⟨raw, hcontent key raw hdownloaded, hhas⟩

theorem tracks (h : Grounded parser content start) (hparser : host.parser = parser)
    (hcontent : ∀ key raw, DownloadedFrom source events key raw →
      content (source.objectId host.blake3 key) = some raw)
    (htracks : Tracks host source start start.workspace events site) :
    Grounded parser content site := by
  intro objectId receipt hreceipt
  rcases htracks.sourced objectId receipt hreceipt with ⟨before, hbefore, hsame⟩ |
    ⟨⟨key, raw, rfl, hdownloaded, hkey⟩, hhas⟩
  · obtain ⟨raw, hstands, hkey, hhas⟩ := h objectId before hbefore
    rw [hsame] at hkey hhas
    exact ⟨raw, hstands, hkey, hhas.grows htracks.grows⟩
  · rw [hparser] at hkey hhas
    exact ⟨raw, hcontent key raw hdownloaded, hkey, hhas⟩

end Grounded

theorem Grounded.takes {p : Pull α} {post : α → SiteFact}
    (h : Grounded parser content start) (hparser : host.parser = parser)
    (hcontent : ∀ key raw, DownloadedFrom source events key raw →
      content (source.objectId host.blake3 key) = some raw)
    (htidy : start.journal.Tidy) (hexec : Exec p start events outcome site)
    (hp : Tracked host source start start.workspace post p [] start) :
    ∀ event ∈ events, ∀ key, event.request.takes? = some key →
      Imported parser content event.state.workspace (source.objectId host.blake3 key) := by
  intro event hmem key htakes
  obtain ⟨before, after, rfl⟩ := List.append_of_mem hmem
  have hmore : before ++ [event] <+: before ++ event :: after :=
    ⟨after, by rw [List.append_assoc, List.singleton_append]⟩
  have htracks := Tracks.exec htidy hexec.cut hp
  have hgrounded := h.tracks hparser
    (fun key raw hdownloaded => hcontent key raw (hdownloaded.mono hmore.subset)) htracks
  obtain ⟨receipt, hreleases⟩ := htracks.taken before event List.prefix_rfl key htakes
  exact hgrounded.imported hreleases.durable

/-- Every part of a round that is no pull keeps its mail, given that other commands do. -/
theorem RoundStep.grows {entries : List RoundEntry} (h : Coherent history w)
    (hstep : RoundStep w entries w')
    (hkept : ∀ entry ∈ entries, entry.action = .altered →
      GrowsMail entry.before.workspace entry.site.workspace) :
    GrowsMail w.site.workspace w'.site.workspace := by
  have hdispatches {site : Site} (hend : Dispatches w.site site) :
      GrowsMail w.site.workspace site.workspace := by
    rw [hend.workspace]
    exact GrowsMail.refl _
  cases hstep with
  | pull hjournal hexec =>
    exact (Tracks.exec h.sound.tidy hexec
      (tracked_pullObjects hjournal (.refl h.sound.tidy))).grows
  | receive hjournal hexec =>
    exact (Tracks.exec h.sound.tidy hexec
      (tracked_receiveEvents hjournal (.refl h.sound.tidy))).grows
  | alter => exact hkept _ List.mem_cons_self rfl
  | give hphase hexec =>
    exact hdispatches (Dispatches.exec h.sound hexec (dispatched_beginDispatch h.sound)).1
  | begin hphase hexec =>
    exact hdispatches (Dispatches.exec h.sound hexec (dispatched_beginDispatch h.sound)).1
  | fail hphase hexec =>
    have hfits := h.phase
    rw [hphase] at hfits
    exact hdispatches (Dispatches.exec h.sound hexec (dispatched_recordFailure h.sound hfits.2)).1
  | stop => exact GrowsMail.refl _
  | mark hphase hexec =>
    cases hexec with
    | store hend =>
      obtain ⟨rfl, _⟩ := hend.of_ret
      exact GrowsMail.refl _
  | fold hphase hexec =>
    exact hdispatches (Dispatches.exec h.sound hexec (dispatched_foldCompleted h.sound)).1

/-- The invariant of rounds with keys that are not used again. -/
structure Acknowledges (parser : MailParser) (content : String → Option Bytes)
    (history : List RoundEntry) (w : Round) : Prop where
  coherent : Coherent history w
  grounded : (∀ entry ∈ history, Unreused parser content entry) → Grounded parser content w.site
  deletes : (∀ entry ∈ history, Unreused parser content entry) →
    DeletesImported parser content history

theorem Acknowledges.fresh (workspace : Workspace) :
    Acknowledges parser content [] (.fresh workspace) where
  coherent := coherent_fresh workspace
  grounded _ := by
    intro objectId receipt hreceipt
    have hempty : (∅ : Std.ExtTreeMap String Receipt)[objectId]? = none :=
      Std.ExtTreeMap.getElem?_empty
    cases hempty.symm.trans hreceipt
  deletes _ := fun _ hentry => nomatch hentry

theorem DeletesImported.concat (h : DeletesImported parser content history)
    (hentry : ∀ host source, entry.action = .pulled host source →
      ∀ event ∈ entry.events, ∀ key, event.request.takes? = some key →
        Imported parser content event.state.workspace (source.objectId host.blake3 key)) :
    DeletesImported parser content (history ++ [entry]) := by
  intro other hother
  rcases List.mem_append.mp hother with hearlier | hlast
  · exact h other hearlier
  · rw [List.mem_singleton.mp hlast]
    exact hentry

/-- A part of a pull keeps the invariant. -/
theorem Acknowledges.pull {p : Pull α}
    {post : α → SiteFact}
    (h : Acknowledges parser content history w) (hexec : Exec p w.site events outcome site)
    (hp : Tracked host source w.site w.site.workspace post p [] w.site) :
    Acknowledges parser content (history ++ [⟨.pulled host source, w.site, events, site⟩])
      { w with site } := by
  have htracks := Tracks.exec h.coherent.sound.tidy hexec hp
  have hsplit (hunreused : ∀ entry ∈ history ++ [⟨.pulled host source, w.site, events, site⟩],
      Unreused parser content entry) : (∀ entry ∈ history, Unreused parser content entry) ∧
        Unreused parser content ⟨.pulled host source, w.site, events, site⟩ :=
    ⟨fun entry hentry => hunreused entry (List.mem_append_left _ hentry),
      hunreused _ List.mem_concat_self⟩
  constructor
  · exact h.coherent.pull htracks
  · intro hunreused
    obtain ⟨hearlier, hlast⟩ := hsplit hunreused
    exact (h.grounded hearlier).tracks (hlast.parser host source rfl)
      (fun key raw => hlast.content host source key raw rfl) htracks
  · intro hunreused
    obtain ⟨hearlier, hlast⟩ := hsplit hunreused
    apply (h.deletes hearlier).concat
    intro host source haction
    cases haction
    exact (h.grounded hearlier).takes (hlast.parser host source rfl)
      (fun key raw => hlast.content host source key raw rfl) h.coherent.sound.tidy hexec hp

theorem Acknowledges.other (h : Acknowledges parser content history w)
    (hstep : RoundStep w [entry] w') (haction : ∀ host source, entry.action ≠ .pulled host source) :
    Acknowledges parser content (history ++ [entry]) w' := by
  obtain ⟨_, hentry, _, _, hdoes⟩ := hstep.does h.coherent
  obtain rfl := (List.cons.inj hentry).1
  constructor
  · exact h.coherent.step hstep
  · intro hunreused
    have hgrows := hstep.grows h.coherent fun other hother =>
      (hunreused other (List.mem_append_right _ hother)).kept
    apply (h.grounded fun other hother => hunreused other (List.mem_append_left _ hother)).keep _ hgrows
    intro objectId receipt hreceipt
    rcases hdoes with ⟨host, source, hpulled, _⟩ | ⟨_, hdispatches | hsame⟩
    · exact (haction host source hpulled).elim
    · exact hdispatches.receipts objectId receipt hreceipt
    · rw [← hsame]
      exact hreceipt
  · intro hunreused
    apply (h.deletes fun other hother => hunreused other (List.mem_append_left _ hother)).concat
    exact fun host source hpulled => (haction host source hpulled).elim

theorem Acknowledges.step {entries : List RoundEntry} (h : Acknowledges parser content history w)
    (hstep : RoundStep w entries w') : Acknowledges parser content (history ++ entries) w' := by
  cases hstep with
  | pull hjournal hexec =>
    exact h.pull hexec (tracked_pullObjects hjournal (.refl h.coherent.sound.tidy))
  | receive hjournal hexec =>
    exact h.pull hexec (tracked_receiveEvents hjournal (.refl h.coherent.sound.tidy))
  | alter hjournal hmarkers => exact h.other (.alter hjournal hmarkers) fun _ _ heq => nomatch heq
  | give hphase hexec => exact h.other (.give hphase hexec) fun _ _ heq => nomatch heq
  | begin hphase hexec => exact h.other (.begin hphase hexec) fun _ _ heq => nomatch heq
  | fail hphase hexec => exact h.other (.fail hphase hexec) fun _ _ heq => nomatch heq
  | stop => exact h.other .stop fun _ _ heq => nomatch heq
  | mark hphase hexec => exact h.other (.mark hphase hexec) fun _ _ heq => nomatch heq
  | fold hphase hexec => exact h.other (.fold hphase hexec) fun _ _ heq => nomatch heq

theorem Acknowledges.acks (h : Acknowledges parser content history w)
    (hunreused : ∀ entry ∈ history, Unreused parser content entry) :
    AcksImported parser content w.site := by
  intro host source pages reconcile events tally site hjournal hexec hlast leaseId hleaseId
  have hgrounded := h.grounded hunreused
  have htidy := h.coherent.sound.tidy
  obtain ⟨_, htracks, hleased⟩ := Program.wp_sound hexec (.refl htidy)
    (tracked_receiveEvents hjournal (.refl htidy))
  obtain ⟨messages, hpulled, message, hmessage, hid, event, hevent, hconfirmed⟩ :=
    hleased leaseId hleaseId
  refine ⟨messages, hpulled, message, hmessage, hid, event, hevent, ?_⟩
  exact hgrounded.confirmed (hlast.parser host source rfl)
    (fun key raw => hlast.content host source key raw rfl) htracks.grows hconfirmed

/-- In every run over a spool whose keys are not used again, what is taken out of the bucket was
imported, and so was the object of every event that is acknowledged. -/
theorem run_acknowledges_imported {workspace : Workspace}
    (h : Run RoundStep (.fresh workspace) history w)
    (hunreused : ∀ entry ∈ history, Unreused parser content entry) :
    DeletesImported parser content history ∧ AcksImported parser content w.site := by
  have hinv : Acknowledges parser content history w :=
    h.invariant (.fresh workspace) fun _ _ _ _ hacknowledges hstep => hacknowledges.step hstep
  exact ⟨hinv.deletes hunreused, hinv.acks hunreused⟩

def pulledOnce : List RoundEntry :=
  [⟨.pulled plainPullHost handledBucket, neverPulled, pullOneObject.events, pullOneObject.state⟩]

theorem run_pulledOnce :
    Run RoundStep (.fresh freshWorkspace) pulledOnce ⟨pullOneObject.state, .idle⟩ :=
  Run.next .start (.pull rfl (Program.trace_exec _ _ _ _))

/-- The bytes that a request answered with, if it downloads an object. -/
def downloadedBytes? : PullEvent → Option Bytes
  | ⟨.getObject _, _, some (.ok (some download))⟩ => some download.raw
  | _ => none

theorem unreused_pulledOnce : ∀ entry ∈ pulledOnce,
    Unreused headerlessParser (fun _ => some [1]) entry := by
  intro entry hentry
  obtain rfl := List.mem_singleton.mp hentry
  refine ⟨fun host source haction => ?_, fun host source key raw _ hdownloaded => ?_,
    fun haction => nomatch haction⟩
  · cases haction
    rfl
  · have hall : pullOneObject.events.all (fun event =>
        (downloadedBytes? event).all (· == [1])) = true := by
      decide +kernel
    obtain ⟨_, site, download, rfl, hmem⟩ := hdownloaded
    have hraw : (download.raw == [1]) = true := List.all_eq_true.mp hall _ hmem
    rw [beq_iff_eq.mp hraw]

theorem run_acknowledges_imported_pulledOnce :
    DeletesImported headerlessParser (fun _ => some [1]) pulledOnce ∧
      AcksImported headerlessParser (fun _ => some [1]) pullOneObject.state :=
  run_acknowledges_imported run_pulledOnce unreused_pulledOnce

def rewrittenEvent : QueueMessage where
  leaseId := "lease"
  event := .ok ⟨"", "PutObject", "mail", ⟨"inbox/a", 1⟩⟩

/-- Other bytes were written under the key of the object, and the queue tells of it. -/
def rewrittenObject (_ : Unit) (request : PullRequest) : Except AppError request.Reply × Unit :=
  match request with
  | .pullQueue => (.ok [rewrittenEvent], ())
  | .getObject _ => (.ok (some { raw := [2] }), ())
  | .deleteObject _ => (.ok (), ())
  | .renderRefresh => (.ok (), ())
  | .epochSeconds => (.ok (0 : Int), ())
  | _ => (.error { errorCode := "cloudflare_r2_failed", message := "no reply" }, ())

def receiveRewritten : Trace Site PullRequest PullRequest.Reply AppError ConsumeTally Unit :=
  (receiveEvents plainPullHost handledBucket 1 false).trace rewrittenObject pullOneObject.state ()

def acksOf : Outcome AppError ConsumeTally → List String
  | .returned tally => tally.acks
  | _ => []

theorem acksOf_eq {outcome : Outcome AppError ConsumeTally} {leaseId : String} {ids : List String}
    (h : acksOf outcome = leaseId :: ids) :
    ∃ tally, outcome = .returned tally ∧ tally.acks = leaseId :: ids := by
  cases outcome with
  | returned tally => exact ⟨tally, rfl, h⟩
  | failed error => cases h
  | crashed => cases h

/-- The event of an object is acknowledged whose bytes are not stored: its key was used before. -/
theorem rewrittenObject_acknowledged : ∃ history w events tally site,
    Run RoundStep (.fresh freshWorkspace) history w ∧
      Exec (receiveEvents plainPullHost handledBucket 1 false) w.site events (.returned tally) site ∧
      (∃ state, (⟨.pullQueue, state, some (.ok [rewrittenEvent])⟩ : PullEvent) ∈ events) ∧
      (rewrittenObject () (.getObject "inbox/a")).1 = .ok (some { raw := [2] }) ∧
      tally.acks = [rewrittenEvent.leaseId] ∧
      ∀ messageId, site.workspace.eml messageId ≠ some [2] := by
  have hacks : acksOf receiveRewritten.outcome = [rewrittenEvent.leaseId] := by decide +kernel
  obtain ⟨tally, htally, hacks⟩ := acksOf_eq hacks
  have hexec := Program.trace_exec rewrittenObject (receiveEvents plainPullHost handledBucket 1 false)
    pullOneObject.state ()
  refine ⟨pulledOnce, ⟨pullOneObject.state, .idle⟩, receiveRewritten.events, tally,
    receiveRewritten.state, run_pulledOnce, htally ▸ hexec, ⟨pullOneObject.state, ?_⟩, rfl, hacks, ?_⟩
  · exact List.mem_cons_self
  · intro messageId hstored
    have hnone : (receiveRewritten.state.workspace.emlPaths.all (·.2 != [2])) = true := by
      decide +kernel
    have hmem := Workspace.mem_emlPaths.mpr hstored
    exact bne_iff_ne.mp (List.all_eq_true.mp hnone _ hmem) rfl

end AgentFirstMail
