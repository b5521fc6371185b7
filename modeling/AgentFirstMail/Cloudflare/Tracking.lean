import AgentFirstMail.Cloudflare.Consumer
import AgentFirstMail.Pull.Knowledge

namespace AgentFirstMail
open Effect Indexing Ingest

namespace Journal

/-- No completed task is left in a journal that was saved. -/
def Tidy (journal : Journal) : Prop :=
  ∀ (key : String) (task : JournalTask), journal.tasks[key]? = some task → task.status ≠ .completed

/-- The receipt of an object is there, and the task of its content is pending. -/
structure Backs (journal : Journal) (objectId contentKey : String) : Prop where
  receipt : ∃ receipt : Receipt, journal.receipts[objectId]? = some receipt ∧
    receipt.contentKey = contentKey
  pending : journal.isPending contentKey = true

variable {journal : Journal} {key objectId contentKey : String} {receipt : Receipt} {now : Int}

theorem getElem?_tasks_prune (h : journal.Tidy) : (journal.prune now).tasks[key]? = journal.tasks[key]? := by
  unfold prune
  rw [Std.ExtTreeMap.getElem?_filter']
  cases htask : journal.tasks[key]? with
  | none => rfl
  | some task =>
    rw [Option.filter_some, if_pos]
    exact bne_iff_ne.mpr (h key task htask)

theorem receipts_of_prune (h : (journal.prune now).receipts[objectId]? = some receipt) :
    journal.receipts[objectId]? = some receipt := by
  unfold prune at h
  rw [Std.ExtTreeMap.getElem?_filter'] at h
  exact (Option.filter_eq_some_iff.mp h).1

theorem receipts_prune (h : journal.receipts[objectId]? = some receipt)
    (hcleanup : receipt.cleanupComplete = false) :
    (journal.prune now).receipts[objectId]? = some receipt := by
  unfold prune
  rw [Std.ExtTreeMap.getElem?_filter', h, Option.filter_some, if_pos]
  rw [hcleanup]
  rfl

theorem tidy_insert {task : JournalTask} (h : journal.Tidy) (hstatus : task.status ≠ .completed) :
    Tidy { journal with tasks := journal.tasks.insert key task } := by
  intro other found hfound
  by_cases hkey : other = key
  · rw [hkey, Std.ExtTreeMap.getElem?_insert_self] at hfound
    obtain rfl := Option.some.inj hfound
    exact hstatus
  · rw [getElem?_insert_ne hkey] at hfound
    exact h other found hfound

theorem getElem?_tasks_imported (journal : Journal) (objectId : String) (receipt : Receipt)
    (key : String) :
    (journal.imported objectId receipt).tasks[key]? = journal.tasks[key]? ∨
      key = receipt.contentKey ∧
        (∀ task : JournalTask, journal.tasks[key]? = some task → task.status = .preparing) ∧
        (journal.imported objectId receipt).tasks[key]? = some ⟨receipt.messageId, .pending⟩ := by
  unfold imported
  split
  · rename_i hpreparing
    obtain ⟨preparing, hfound, hstatus⟩ := (Option.any_eq_true _ _).mp hpreparing
    by_cases hkey : key = receipt.contentKey
    · right
      rw [hkey]
      refine ⟨rfl, fun task htask => ?_, Std.ExtTreeMap.getElem?_insert_self⟩
      rw [hfound] at htask
      obtain rfl := Option.some.inj htask
      exact beq_iff_eq.mp hstatus
    · exact .inl (getElem?_insert_ne hkey)
  · exact .inl rfl

theorem isPending_imported (h : journal.Tidy) (howed : receipt.contentKey ∈ journal.tasks) :
    (journal.imported objectId receipt).isPending receipt.contentKey = true := by
  obtain ⟨task, htask⟩ := Option.isSome_iff_exists.mp (Std.ExtTreeMap.mem_iff_isSome_getElem?.mp howed)
  rw [isPending_iff]
  unfold imported
  split
  · exact ⟨_, Std.ExtTreeMap.getElem?_insert_self, rfl⟩
  · rename_i hready
    refine ⟨task, htask, ?_⟩
    cases hstatus : task.status with
    | preparing =>
      exact (hready ((Option.any_eq_true _ _).mpr ⟨task, htask, beq_iff_eq.mpr hstatus⟩)).elim
    | pending => rfl
    | completed => exact (h _ task htask hstatus).elim

end Journal

/-- The object that a request takes out of the spool. -/
def PullRequest.takes? : PullRequest → Option String
  | deleteObject key => some key
  | acknowledgeSpool key _ => some key
  | _ => none

/-- An object was downloaded that has these bytes, and nothing was taken out of the spool since. -/
def InBucket (events : List PullEvent) (raw : Bytes) : Prop :=
  ∃ before key site after, ∃ download : R2Download, download.raw = raw ∧
    events = before ++ ⟨.getObject key, site, some (.ok (some download))⟩ :: after ∧
    ∀ event ∈ after, event.request.takes? = none

/-- An object of the spool was downloaded. -/
def DownloadedFrom (source : CloudflareSection) (events : List PullEvent) (key : String)
    (raw : Bytes) : Prop :=
  hasPrefix source.r2.bucketPrefix key = true ∧ ∃ site, ∃ download : R2Download,
    download.raw = raw ∧ (⟨.getObject key, site, some (.ok (some download))⟩ : PullEvent) ∈ events

/-- A receipt is that of an object that was downloaded, and its content is stored. -/
def Sourced (host : PullHost) (source : CloudflareSection) (events : List PullEvent) (w : Workspace)
    (objectId contentKey : String) : Prop :=
  (∃ key raw, objectId = source.objectId host.blake3 key ∧ DownloadedFrom source events key raw ∧
    host.parser.messageContentKey raw = contentKey) ∧ w.Has host.parser contentKey

/-- The receipt of an object is that of content that is stored; it may have been there from the
start. -/
def Confirmed (host : PullHost) (source : CloudflareSection) (start : Site)
    (history : List PullEvent) (w : Workspace) (objectId : String) : Prop :=
  ∃ contentKey, (∃ receipt : Receipt, start.journal.receipts[objectId]? = some receipt ∧
      receipt.contentKey = contentKey) ∨
    Sourced host source history w objectId contentKey

/-- The journal holds no task of some content although nothing was taken out of the spool since
an object with it was downloaded. -/
def Untasked (host : PullHost) (history : List PullEvent) (site : Site) (raw : Bytes) : Prop :=
  InBucket history raw ∧ host.parser.messageContentKey raw ∉ site.journal.tasks

/-- The view of a message did not render, and its intent was withdrawn while its object was still
in the bucket. -/
structure Withdrawn (host : PullHost) (source : CloudflareSection) (history : List PullEvent)
    (site : Site) (raw : Bytes) : Prop where
  triage : source.importAs = .triage
  unviewable : ∃ error, host.triageView raw = .error error
  inBucket : Untasked host history site raw ∨
    ∃ earlier event, earlier ++ [event] <+: history ∧ Untasked host earlier event.state raw

/-- An object is downloaded to be imported whose bytes are known already, and the journal holds no
task of them. -/
def Redelivers (host : PullHost) (source : CloudflareSection) (event : PullEvent)
    (contentKey : String) : Prop :=
  ∃ key site, ∃ download : R2Download,
    event = ⟨.getObject key, site, some (.ok (some download))⟩ ∧
    hasPrefix source.r2.bucketPrefix key = true ∧ download.raw.length ≤ site.budget.bytes ∧
    host.parser.messageContentKey download.raw = contentKey ∧
    contentKey ∈ site.index.contentIds ∧ contentKey ∉ site.journal.tasks

/-- The receipt of an object was durable before the section began, or at some point since with
the pending task of its content, or its bytes were known when it was downloaded. -/
def Backed (host : PullHost) (source : CloudflareSection) (start : Site)
    (history : List PullEvent) (site : Site) (objectId contentKey : String) : Prop :=
  (∃ receipt, start.journal.receipts[objectId]? = some receipt ∧ receipt.contentKey = contentKey) ∨
    site.journal.Backs objectId contentKey ∨
    (∃ event ∈ history, event.state.journal.Backs objectId contentKey) ∨
    ∃ event ∈ history, Redelivers host source event contentKey

/-- The time was asked for: a journal is to be saved. -/
def Timed (before : List PullEvent) (site : Site) (history : List PullEvent) : Prop :=
  ∃ reply, history = before ++ [⟨.epochSeconds, site, reply⟩]

/-- Nothing was taken out of the spool in between. -/
def QuietSpool (history history' : List PullEvent) : Prop :=
  ∃ more, history' = history ++ more ∧ ∀ event ∈ more, event.request.takes? = none

/-- An object may be taken out of the spool: its receipt is durable. -/
structure Releases (host : PullHost) (source : CloudflareSection) (start : Site)
    (history : List PullEvent) (site : Site) (key : String) (receipt : Receipt) : Prop where
  durable : site.journal.receipts[source.objectId host.blake3 key]? = some receipt
  backed : Backed host source start history site (source.objectId host.blake3 key)
    receipt.contentKey

/-- What a part of a pull that holds the workspace has done to the journal, wherever it is. -/
structure Tracks (host : PullHost) (source : CloudflareSection) (start : Site)
    (mark : Workspace) (history : List PullEvent) (site : Site) : Prop where
  active : site.journal.active = start.journal.active
  markers : site.completedMarkers = start.completedMarkers
  tidy : site.journal.Tidy
  owed : ∀ key, key ∈ start.journal.tasks → key ∈ site.journal.tasks
  pending : ∀ (key : String) (task : JournalTask), start.journal.tasks[key]? = some task →
    task.status = .pending → site.journal.tasks[key]? = some task
  intended : ∀ messageId raw, start.workspace.eml messageId = none →
    site.workspace.eml messageId = some raw →
    host.parser.messageContentKey raw ∈ site.journal.tasks ∨ Withdrawn host source history site raw
  receipted : ∀ objectId receipt, site.journal.receipts[objectId]? = some receipt →
    Backed host source start history site objectId receipt.contentKey
  grows : GrowsMail mark site.workspace
  sourced : ∀ (objectId : String) (receipt : Receipt),
    site.journal.receipts[objectId]? = some receipt →
    (∃ before : Receipt, start.journal.receipts[objectId]? = some before ∧
      before.contentKey = receipt.contentKey) ∨
    Sourced host source history site.workspace objectId receipt.contentKey
  taken : ∀ before event, before ++ [event] <+: history →
    ∀ key, event.request.takes? = some key → ∃ receipt,
      Releases host source start before event.state key receipt

variable {host : PullHost} {source : CloudflareSection} {start site site' : Site} {mark : Workspace}
  {history : List PullEvent} {raw : Bytes} {key objectId contentKey : String}

namespace QuietSpool

theorem refl (history : List PullEvent) : QuietSpool history history :=
  ⟨[], (List.append_nil history).symm, List.forall_mem_nil _⟩

theorem concat {event : PullEvent} (hquiet : event.request.takes? = none) :
    QuietSpool history (history ++ [event]) := ⟨[event], rfl, List.forall_mem_singleton.mpr hquiet⟩

theorem trans {history' history'' : List PullEvent} (hfirst : QuietSpool history history')
    (hsecond : QuietSpool history' history'') : QuietSpool history history'' := by
  obtain ⟨first, rfl, hnone⟩ := hfirst
  obtain ⟨second, rfl, hnone'⟩ := hsecond
  exact ⟨first ++ second, List.append_assoc .., List.forall_mem_append.mpr ⟨hnone, hnone'⟩⟩

theorem subset {history' : List PullEvent} (h : QuietSpool history history') : history ⊆ history' := by
  obtain ⟨more, rfl, _⟩ := h
  exact List.subset_append_left _ _

end QuietSpool

theorem Timed.quiet {before : List PullEvent} (h : Timed before site history) :
    QuietSpool before history := by
  obtain ⟨reply, rfl⟩ := h
  exact .concat rfl

theorem InBucket.quiet {history' : List PullEvent} (h : InBucket history raw)
    (hquiet : QuietSpool history history') : InBucket history' raw := by
  obtain ⟨before, key, site, after, download, hraw, rfl, hnone⟩ := h
  obtain ⟨more, rfl, hnone'⟩ := hquiet
  refine ⟨before, key, site, after ++ more, download, hraw, ?_,
    List.forall_mem_append.mpr ⟨hnone, hnone'⟩⟩
  rw [List.append_assoc, List.cons_append]

theorem InBucket.of_timed {before : List PullEvent} (h : InBucket history raw)
    (htimed : Timed before site history) : InBucket before raw := by
  obtain ⟨reply, rfl⟩ := htimed
  obtain ⟨first, key, asked, after, download, hraw, hsplit, hnone⟩ := h
  rcases List.eq_nil_or_concat' after with rfl | ⟨init, last, rfl⟩
  · obtain ⟨_, hlast⟩ := List.append_inj' hsplit rfl
    cases hlast
  · rw [← List.cons_append, ← List.append_assoc] at hsplit
    obtain ⟨rfl, _⟩ := List.append_inj' hsplit rfl
    exact ⟨first, key, asked, init, download, hraw, rfl,
      fun event hmem => hnone event (List.mem_append_left _ hmem)⟩

namespace Withdrawn

theorem congr (h : Withdrawn host source history site raw)
    (hjournal : site'.journal = site.journal) : Withdrawn host source history site' raw := by
  refine ⟨h.triage, h.unviewable, h.inBucket.imp_left fun huntasked => ⟨huntasked.1, ?_⟩⟩
  rw [hjournal]
  exact huntasked.2

/-- What was withdrawn before a request stays so, whatever becomes of the journal. -/
theorem asked {event : PullEvent} (h : Withdrawn host source history event.state raw) :
    Withdrawn host source (history ++ [event]) site raw := by
  refine ⟨h.triage, h.unviewable, .inr ?_⟩
  rcases h.inBucket with hnow | ⟨earlier, last, hpre, huntasked⟩
  · exact ⟨history, event, List.prefix_rfl, hnow⟩
  · exact ⟨earlier, last, hpre.trans (List.prefix_append _ _), huntasked⟩

theorem timed {before : List PullEvent} (h : Withdrawn host source before site raw)
    (htimed : Timed before site history) : Withdrawn host source history site' raw := by
  obtain ⟨reply, rfl⟩ := htimed
  exact h.asked

theorem saved {before : List PullEvent} (h : Withdrawn host source history site raw)
    (htimed : Timed before site history) : Withdrawn host source history site' raw := by
  refine ⟨h.triage, h.unviewable, .inr ?_⟩
  rcases h.inBucket with hnow | hearlier
  · obtain ⟨reply, rfl⟩ := htimed
    exact ⟨before, _, List.prefix_rfl, hnow.1.of_timed ⟨reply, rfl⟩, hnow.2⟩
  · exact hearlier

end Withdrawn

theorem DownloadedFrom.mono {events events' : List PullEvent}
    (h : DownloadedFrom source events key raw) (hmore : events ⊆ events') :
    DownloadedFrom source events' key raw := by
  obtain ⟨hspool, site, download, hraw, hmem⟩ := h
  exact ⟨hspool, site, download, hraw, hmore hmem⟩

theorem Sourced.mono {events events' : List PullEvent} {w w' : Workspace}
    (h : Sourced host source events w objectId contentKey) (hmore : events ⊆ events')
    (hgrows : GrowsMail w w') : Sourced host source events' w' objectId contentKey := by
  obtain ⟨⟨key, raw, hobject, hdownloaded, hkey⟩, hhas⟩ := h
  exact ⟨⟨key, raw, hobject, hdownloaded.mono hmore, hkey⟩, hhas.grows hgrows⟩

theorem Confirmed.mono {events events' : List PullEvent} {w w' : Workspace}
    (h : Confirmed host source start events w objectId) (hmore : events ⊆ events')
    (hgrows : GrowsMail w w') : Confirmed host source start events' w' objectId := by
  obtain ⟨contentKey, hstart | hsourced⟩ := h
  · exact ⟨contentKey, .inl hstart⟩
  · exact ⟨contentKey, .inr (hsourced.mono hmore hgrows)⟩

theorem Backed.mono {events events' : List PullEvent}
    (h : Backed host source start events site objectId contentKey) (hmore : events ⊆ events') :
    Backed host source start events' site objectId contentKey := by
  rcases h with hstart | hnow | ⟨event, hmem, hbacks⟩ | ⟨event, hmem, hknown⟩
  · exact .inl hstart
  · exact .inr (.inl hnow)
  · exact .inr (.inr (.inl ⟨event, hmore hmem, hbacks⟩))
  · exact .inr (.inr (.inr ⟨event, hmore hmem, hknown⟩))

theorem Backed.follow (h : Backed host source start history site objectId contentKey)
    (hbacks : site.journal.Backs objectId contentKey → site'.journal.Backs objectId contentKey) :
    Backed host source start history site' objectId contentKey := by
  rcases h with hstart | hnow | hearlier
  · exact .inl hstart
  · exact .inr (.inl (hbacks hnow))
  · exact .inr (.inr hearlier)

namespace Tracks

theorem refl (htidy : start.journal.Tidy) :
    Tracks host source start start.workspace [] start where
  active := rfl
  markers := rfl
  tidy := htidy
  owed _ := id
  pending _ _ htask _ := htask
  intended messageId raw hnone hsome := by
    rw [hnone] at hsome
    cases hsome
  receipted objectId receipt hreceipt := .inl ⟨receipt, hreceipt, rfl⟩
  grows := GrowsMail.refl _
  sourced objectId receipt hreceipt := .inl ⟨receipt, hreceipt, rfl⟩
  taken before event hprefix := by
    rw [List.prefix_nil, List.append_eq_nil_iff] at hprefix
    cases hprefix.2

theorem remark {mark' : Workspace} (h : Tracks host source start mark history site)
    (hgrows : GrowsMail mark' site.workspace) : Tracks host source start mark' history site :=
  { h with grows := hgrows }

theorem confirmed {receipt : Receipt} (h : Tracks host source start mark history site)
    (hreceipt : site.journal.receipts[objectId]? = some receipt) :
    Confirmed host source start history site.workspace objectId :=
  ⟨receipt.contentKey, h.sourced objectId receipt hreceipt⟩

theorem valid (h : Tracks host source start mark history site)
    (hvalid : ∀ batch, start.journal.active = some batch → start.journal.Holds batch) :
    ∀ batch, site.journal.active = some batch → site.journal.Holds batch := by
  intro batch hactive
  rw [h.active] at hactive
  have hholds := hvalid batch hactive
  refine ⟨hholds.safe, hholds.nonempty, hholds.nodup, fun key hkey => ?_⟩
  obtain ⟨task, htask, hpending⟩ := Journal.isPending_iff.mp (hholds.pending key hkey)
  exact Journal.isPending_iff.mpr ⟨task, h.pending key task htask hpending, hpending⟩

/-- A request is issued; one that takes an object out of the spool needs its receipt. -/
theorem asks (h : Tracks host source start mark history site) (request : PullRequest)
    (reply : Option (Except AppError request.Reply))
    (htakes : ∀ key, request.takes? = some key →
      ∃ receipt, site.journal.receipts[source.objectId host.blake3 key]? = some receipt) :
    Tracks host source start mark (history ++ [⟨request, site, reply⟩]) site := by
  have hmore : history ⊆ history ++ [⟨request, site, reply⟩] := List.subset_append_left _ _
  constructor
  · exact h.active
  · exact h.markers
  · exact h.tidy
  · exact h.owed
  · exact h.pending
  · exact fun messageId raw hnone hsome =>
      (h.intended messageId raw hnone hsome).imp_right fun hwithdrawn => hwithdrawn.asked
  · exact fun objectId receipt hreceipt => (h.receipted objectId receipt hreceipt).mono hmore
  · exact h.grows
  · exact fun objectId receipt hreceipt =>
      (h.sourced objectId receipt hreceipt).imp_right fun hsourced =>
        hsourced.mono hmore (GrowsMail.refl _)
  · intro before event hpre key hkey
    rcases List.prefix_concat_iff.mp hpre with hlast | hearlier
    · obtain ⟨rfl, hevent⟩ := List.append_inj' hlast rfl
      obtain rfl := List.singleton_inj.mp hevent
      obtain ⟨receipt, hreceipt⟩ := htakes key hkey
      exact ⟨receipt, hreceipt, h.receipted _ receipt hreceipt⟩
    · exact h.taken before event hearlier key hkey

/-- What leaves the journal, the markers and the evidence as they are. -/
theorem congr (h : Tracks host source start mark history site) (site' : Site)
    (hjournal : site'.journal = site.journal)
    (hmarkers : site'.completedMarkers = site.completedMarkers)
    (hmail : KeepsMail site.workspace site'.workspace) :
    Tracks host source start mark history site' := by
  constructor
  · rw [hjournal]
    exact h.active
  · rw [hmarkers]
    exact h.markers
  · rw [hjournal]
    exact h.tidy
  · rw [hjournal]
    exact h.owed
  · rw [hjournal]
    exact h.pending
  · intro messageId raw hnone hsome
    rw [hmail messageId] at hsome
    rw [hjournal]
    exact (h.intended messageId raw hnone hsome).imp_right fun hwithdrawn =>
      hwithdrawn.congr hjournal
  · intro objectId receipt hreceipt
    rw [hjournal] at hreceipt
    apply (h.receipted objectId receipt hreceipt).follow
    intro hbacks
    rw [hjournal]
    exact hbacks
  · exact h.grows.trans hmail.grows
  · intro objectId receipt hreceipt
    rw [hjournal] at hreceipt
    exact (h.sourced objectId receipt hreceipt).imp_right fun hsourced =>
      hsourced.mono (List.Subset.refl _) hmail.grows
  · exact h.taken

/-- A message is stored whose content is owed. -/
theorem stored {index : ExistingIndex} {w : Workspace} (h : Tracks host source start mark history site)
    (hadds : AddsMail raw site.workspace w)
    (howed : host.parser.messageContentKey raw ∈ site.journal.tasks) :
    Tracks host source start mark history { site with workspace := w, index } := by
  have hgrows := hadds.grows
  obtain ⟨added, _, hadded, hother⟩ := hadds
  constructor
  · exact h.active
  · exact h.markers
  · exact h.tidy
  · exact h.owed
  · exact h.pending
  · intro messageId found hnone hsome
    change w.eml messageId = some found at hsome
    by_cases heq : messageId = added
    · rw [heq, hadded] at hsome
      obtain rfl := Option.some.inj hsome
      exact .inl howed
    · rw [hother messageId heq] at hsome
      exact (h.intended messageId found hnone hsome).imp_right fun hwithdrawn => hwithdrawn.congr rfl
  · intro objectId receipt hreceipt
    exact (h.receipted objectId receipt hreceipt).follow id
  · exact h.grows.trans hgrows
  · exact fun objectId receipt hreceipt =>
      (h.sourced objectId receipt hreceipt).imp_right fun hsourced =>
        hsourced.mono (List.Subset.refl _) hgrows
  · exact h.taken

/-- A change of the journal is saved that keeps what is owed and what the receipts stand for. -/
theorem save {journal : Journal} {before : List PullEvent}
    (h : Tracks host source start mark history site) (htimed : Timed before site history)
    (hactive : journal.active = site.journal.active) (htidy : journal.Tidy)
    (howed : ∀ key ∈ site.journal.tasks, key ∈ journal.tasks ∨ (key ∉ start.journal.tasks ∧
      ∀ messageId raw, start.workspace.eml messageId = none →
        site.workspace.eml messageId = some raw → host.parser.messageContentKey raw = key →
        key ∉ journal.tasks → source.importAs = .triage ∧
          (∃ error, host.triageView raw = .error error) ∧
          (InBucket history raw ∨ Withdrawn host source history site raw)))
    (hpending : ∀ (key : String) (task : JournalTask), site.journal.tasks[key]? = some task →
      task.status = .pending → journal.tasks[key]? = some task)
    (hreceipts : ∀ (objectId : String) (receipt : Receipt),
      journal.receipts[objectId]? = some receipt →
      (∃ before : Receipt, site.journal.receipts[objectId]? = some before ∧
        before.contentKey = receipt.contentKey) ∨
      (journal.isPending receipt.contentKey = true ∨
        ∃ event ∈ history, Redelivers host source event receipt.contentKey) ∧
        Sourced host source history site.workspace objectId receipt.contentKey)
    (now : Int) :
    Tracks host source start mark history { site with journal := journal.prune now } := by
  have htasks : ∀ key : String, (journal.prune now).tasks[key]? = journal.tasks[key]? :=
    fun key => Journal.getElem?_tasks_prune htidy
  have hmem : ∀ key : String, key ∈ (journal.prune now).tasks ↔ key ∈ journal.tasks :=
    fun key => mem_congr (htasks key)
  constructor
  · exact hactive.trans h.active
  · exact h.markers
  · intro key task htask
    change (journal.prune now).tasks[key]? = some task at htask
    rw [htasks] at htask
    exact htidy key task htask
  · intro key hkey
    apply (hmem key).mpr
    rcases howed key (h.owed key hkey) with howed | ⟨hfresh, _⟩
    · exact howed
    · exact (hfresh hkey).elim
  · intro key task htask hstatus
    change (journal.prune now).tasks[key]? = some task
    rw [htasks]
    exact hpending key task (h.pending key task htask hstatus) hstatus
  · intro messageId raw hnone hsome
    rcases h.intended messageId raw hnone hsome with hintended | hwithdrawn
    · by_cases hkept : host.parser.messageContentKey raw ∈ journal.tasks
      · exact .inl ((hmem _).mpr hkept)
      · obtain ⟨_, hrefused⟩ := (howed _ hintended).resolve_left hkept
        obtain ⟨htriage, hview, hbucket | hwithdrawn⟩ := hrefused messageId raw hnone hsome rfl hkept
        · exact .inr ⟨htriage, hview, .inl ⟨hbucket, fun howed => hkept ((hmem _).mp howed)⟩⟩
        · exact .inr (hwithdrawn.saved htimed)
    · exact .inr (hwithdrawn.saved htimed)
  · intro objectId receipt hpruned
    have hreceipt := Journal.receipts_of_prune hpruned
    have hbacks : journal.isPending receipt.contentKey = true →
        (journal.prune now).Backs objectId receipt.contentKey := by
      intro hready
      refine ⟨⟨receipt, hpruned, rfl⟩, ?_⟩
      rw [Journal.isPending, htasks]
      exact hready
    rcases hreceipts objectId receipt hreceipt with ⟨before, hbefore, hkey⟩ | ⟨hnow | hknown, _⟩
    · have hbacked := h.receipted objectId before hbefore
      rw [hkey] at hbacked
      apply hbacked.follow
      intro hsite
      obtain ⟨task, htask, hstatus⟩ := Journal.isPending_iff.mp hsite.pending
      exact hbacks (Journal.isPending_iff.mpr ⟨task, hpending _ task htask hstatus, hstatus⟩)
    · exact .inr (.inl (hbacks hnow))
    · exact .inr (.inr (.inr hknown))
  · exact h.grows
  · intro objectId receipt hpruned
    rcases hreceipts objectId receipt (Journal.receipts_of_prune hpruned) with
      ⟨before, hbefore, hkey⟩ | ⟨_, hsourced⟩
    · rw [← hkey]
      exact h.sourced objectId before hbefore
    · exact .inr hsourced
  · exact h.taken

variable {journal : Journal} {now : Int}

theorem prepared {offset : Int} {index : ExistingIndex}
    (h : Tracks host source start mark history site) {before : List PullEvent}
    (htimed : Timed before site history)
    (hprepared : site.journal.prepared? host.parser offset index raw = some journal) :
    Tracks host source start mark history { site with journal := journal.prune now } := by
  unfold Journal.prepared? at hprepared
  dsimp only at hprepared
  split at hprepared
  · rename_i hnew
    obtain rfl := Option.some.inj hprepared
    apply h.save htimed
    · rfl
    · exact Journal.tidy_insert h.tidy fun heq => nomatch heq
    · exact fun key hkey => .inl (Std.ExtTreeMap.mem_insert.mpr (.inr hkey))
    · intro key task htask hstatus
      rw [getElem?_insert_ne]
      · exact htask
      · rintro rfl
        exact hnew.2 (mem_of_getElem? htask)
    · exact fun objectId receipt hreceipt => .inl ⟨receipt, hreceipt, rfl⟩
  · cases hprepared

/-- An intent of this part of the pull is withdrawn: what was stored of its content does not
render. -/
theorem withdrawn {before : List PullEvent} (h : Tracks host source start mark history site)
    (htimed : Timed before site history)
    (hfresh : key ∉ start.journal.tasks)
    (hrefused : ∀ messageId raw, start.workspace.eml messageId = none →
      site.workspace.eml messageId = some raw → host.parser.messageContentKey raw = key →
      source.importAs = .triage ∧ (∃ error, host.triageView raw = .error error) ∧
        (InBucket history raw ∨ Withdrawn host source history site raw))
    (hjournal : site.journal.withdrawn? key = some journal) :
    Tracks host source start mark history { site with journal := journal.prune now } := by
  unfold Journal.withdrawn? at hjournal
  split at hjournal
  · rename_i hpreparing
    obtain ⟨preparing, hpreparing, hstatus⟩ := (Option.any_eq_true _ _).mp hpreparing
    obtain rfl := Option.some.inj hjournal
    have hgone : (site.journal.tasks.erase key)[key]? = none :=
      Std.ExtTreeMap.getElem?_erase_self
    apply h.save htimed
    · rfl
    · intro other task htask
      by_cases hkey : other = key
      · rw [hkey, hgone] at htask
        cases htask
      · rw [getElem?_erase_ne hkey] at htask
        exact h.tidy other task htask
    · intro other hother
      by_cases hkey : other = key
      · rw [hkey]
        refine .inr ⟨hfresh, fun messageId raw hnone hsome heq _ => ?_⟩
        exact hrefused messageId raw hnone hsome heq
      · exact .inl ((mem_congr (getElem?_erase_ne hkey)).mpr hother)
    · intro other task htask hpending
      rw [getElem?_erase_ne]
      · exact htask
      · rintro rfl
        rw [hpreparing] at htask
        obtain rfl := Option.some.inj htask
        rw [hpending] at hstatus
        cases hstatus
    · exact fun objectId receipt hreceipt => .inl ⟨receipt, hreceipt, rfl⟩
  · cases hjournal

theorem cleaned {before : List PullEvent} (h : Tracks host source start mark history site)
    (htimed : Timed before site history)
    (hjournal : site.journal.cleaned? objectId = some journal) :
    Tracks host source start mark history { site with journal := journal.prune now } := by
  unfold Journal.cleaned? at hjournal
  obtain ⟨receipt, hreceipt, rfl⟩ := Option.map_eq_some_iff.mp hjournal
  apply h.save htimed
  · rfl
  · exact h.tidy
  · exact fun _ hkey => .inl hkey
  · exact fun _ _ htask _ => htask
  · intro other cleaned hcleaned
    left
    by_cases hobject : other = objectId
    · rw [hobject, Std.ExtTreeMap.getElem?_insert_self] at hcleaned
      obtain rfl := Option.some.inj hcleaned
      rw [hobject]
      exact ⟨receipt, hreceipt, rfl⟩
    · rw [getElem?_insert_ne hobject] at hcleaned
      exact ⟨cleaned, hcleaned, rfl⟩

/-- A receipt becomes durable together with the pending task of its content. -/
theorem imported {receipt : Receipt} {before : List PullEvent}
    (h : Tracks host source start mark history site) (htimed : Timed before site history)
    (howed : receipt.contentKey ∈ site.journal.tasks ∨
      ∃ event ∈ history, Redelivers host source event receipt.contentKey)
    (hsourced : Sourced host source history site.workspace objectId receipt.contentKey) :
    Tracks host source start mark history
      { site with journal := (site.journal.imported objectId receipt).prune now } := by
  have hready := site.journal.getElem?_tasks_imported objectId receipt
  apply h.save htimed
  · rfl
  · intro key task htask
    rcases hready key with hsame | ⟨_, _, hpending⟩
    · rw [hsame] at htask
      exact h.tidy key task htask
    · rw [hpending] at htask
      obtain rfl := Option.some.inj htask
      exact fun heq => nomatch heq
  · intro key hkey
    left
    rcases hready key with hsame | ⟨_, _, hpending⟩
    · exact (mem_congr hsame).mpr hkey
    · exact mem_of_getElem? hpending
  · intro key task htask hstatus
    rcases hready key with hsame | ⟨_, hpreparing, _⟩
    · rw [hsame]
      exact htask
    · rw [hpreparing task htask] at hstatus
      cases hstatus
  · intro other imported himported
    by_cases hobject : other = objectId
    · right
      have hself : (site.journal.imported objectId receipt).receipts[objectId]? = some receipt :=
        Std.ExtTreeMap.getElem?_insert_self
      rw [hobject, hself] at himported
      obtain rfl := Option.some.inj himported
      rw [hobject]
      exact ⟨howed.imp_left (Journal.isPending_imported h.tidy), hsourced⟩
    · left
      have hother : (site.journal.imported objectId receipt).receipts[other]? =
          site.journal.receipts[other]? := getElem?_insert_ne hobject
      rw [hother] at himported
      exact ⟨imported, himported, rfl⟩

end Tracks

end AgentFirstMail
