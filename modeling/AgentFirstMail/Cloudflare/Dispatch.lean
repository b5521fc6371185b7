import AgentFirstMail.Cloudflare.Tracking

namespace AgentFirstMail
open Effect Indexing

/-- Two batches of one id and of the same tasks; one may have been attempted more often. -/
def Batch.Same (batch other : Batch) : Prop :=
  batch.taskId = other.taskId ∧ batch.contentKeys = other.contentKeys

/-- The batch whose completion is to be folded into the journal. -/
def Site.Folds (site : Site) (batch : Batch) : Prop :=
  ∃ active, site.journal.active = some active ∧ active.Same batch ∧
    batch.taskId ∈ site.completedMarkers

/-- The message that a task is about can not be handed to the handler any more. -/
def Site.Gone (site : Site) (key : String) : Prop :=
  ∃ task : JournalTask, site.journal.tasks[key]? = some task ∧
    site.workspace.unavailable? task.messageId ≠ none

/-- A journal as the program leaves it. -/
structure Journal.Sound (journal : Journal) : Prop where
  valid : ∀ batch, journal.active = some batch → journal.Holds batch
  tidy : journal.Tidy

/-- What a part of a dispatch that holds the workspace has done, wherever it is. -/
structure Dispatches (start site : Site) : Prop where
  workspace : site.workspace = start.workspace
  sound : site.journal.Sound
  marked : ∀ batch, site.Folds batch → start.Folds batch
  folded : ∀ batch, start.Folds batch → ∀ key ∈ batch.contentKeys, key ∈ site.journal.tasks →
    site.Folds batch
  kept : ∀ (key : String) (task : JournalTask), site.journal.tasks[key]? = some task →
    start.journal.tasks[key]? = some task
  dropped : ∀ key, key ∈ start.journal.tasks → key ∈ site.journal.tasks ∨
    (∃ batch, start.Folds batch ∧ key ∈ batch.contentKeys) ∨ start.Gone key
  receipts : ∀ (objectId : String) (receipt : Receipt),
    site.journal.receipts[objectId]? = some receipt →
    start.journal.receipts[objectId]? = some receipt

/-- Tasks may be dropped from a journal whose messages are gone, and another batch may become
active. -/
structure Selects (w : Workspace) (journal selected : Journal) : Prop where
  valid : ∀ batch, selected.active = some batch → selected.Holds batch
  receipts : selected.receipts = journal.receipts
  tasks : ∀ key : String, selected.tasks[key]? = journal.tasks[key]? ∨
    selected.tasks[key]? = none ∧ ∃ task : JournalTask, journal.tasks[key]? = some task ∧
      w.unavailable? task.messageId ≠ none

variable {start site : Site} {batch : Batch} {journal selected : Journal} {w : Workspace}
  {key marker : String} {now : Int}

namespace Journal

theorem tidy_prune : (journal.prune now).Tidy := by
  intro key task htask
  unfold prune at htask
  rw [Std.ExtTreeMap.getElem?_filter'] at htask
  exact bne_iff_ne.mp (Option.filter_eq_some_iff.mp htask).2

theorem isPending_congr {other : Journal} (h : other.tasks[key]? = journal.tasks[key]?) :
    other.isPending key = journal.isPending key := by
  unfold isPending
  rw [h]

theorem holds_prune (h : journal.Holds batch) (htidy : journal.Tidy) :
    (journal.prune now).Holds batch where
  safe := h.safe
  nonempty := h.nonempty
  nodup := h.nodup
  pending key hkey := (isPending_congr (getElem?_tasks_prune htidy)).trans (h.pending key hkey)

theorem sound_prune (hvalid : ∀ batch, journal.active = some batch → journal.Holds batch)
    (htidy : journal.Tidy) : (journal.prune now).Sound where
  valid batch hactive := holds_prune (hvalid batch hactive) htidy
  tidy := tidy_prune

theorem getElem?_complete (keys : List String) (tasks : Std.ExtTreeMap String JournalTask) :
    (keys.foldl (fun tasks key =>
      tasks.alter key fun task => task.map ({ · with status := .completed })) tasks)[key]? =
      if key ∈ keys then
        tasks[key]?.map fun task : JournalTask => { task with status := .completed }
      else tasks[key]? := by
  induction keys generalizing tasks with
  | nil => rfl
  | cons first rest ih =>
    rw [List.foldl_cons, ih, Std.ExtTreeMap.getElem?_alter]
    by_cases hfirst : key = first
    · rw [if_pos (Std.LawfulEqCmp.compare_eq_iff_eq.mpr hfirst.symm),
        if_pos (List.mem_cons.mpr (.inl hfirst)), hfirst]
      split
      · cases tasks[first]? <;> rfl
      · rfl
    · rw [if_neg fun heq => hfirst (Std.LawfulEqCmp.compare_eq_iff_eq.mp heq).symm]
      by_cases hrest : key ∈ rest
      · rw [if_pos hrest, if_pos (List.mem_cons_of_mem _ hrest)]
      · rw [if_neg hrest, if_neg]
        exact fun hmem => (List.mem_cons.mp hmem).elim hfirst hrest

theorem getElem?_tasks_completed (hactive : journal.active = some batch) (htidy : journal.Tidy)
    (now : Int) (key : String) :
    (journal.completeActive.prune now).tasks[key]? =
      if key ∈ batch.contentKeys then none else journal.tasks[key]? := by
  unfold completeActive
  rw [hactive]
  unfold prune
  rw [Std.ExtTreeMap.getElem?_filter']
  dsimp only
  rw [getElem?_complete]
  split
  · cases journal.tasks[key]? with
    | none => rfl
    | some task => rfl
  · cases htask : journal.tasks[key]? with
    | none => rfl
    | some task =>
      rw [Option.filter_some, if_pos]
      exact bne_iff_ne.mpr (htidy key task htask)

end Journal

theorem Batch.Same.refl (batch : Batch) : batch.Same batch := ⟨rfl, rfl⟩

theorem Site.Folds.congr {other : Site} (hactive : other.journal.active = site.journal.active)
    (hmarkers : other.completedMarkers = site.completedMarkers) :
    other.Folds batch ↔ site.Folds batch := by
  unfold Folds
  rw [hactive, hmarkers]

namespace Dispatches

theorem refl (h : start.journal.Sound) : Dispatches start start where
  workspace := rfl
  sound := h
  marked _ := id
  folded _ hfolds _ _ _ := hfolds
  kept _ _ := id
  dropped _ := .inl
  receipts _ _ := id

/-- The completion of the active batch is saved. -/
theorem complete (h : start.journal.Sound) (hactive : start.journal.active = some batch)
    (hmarker : batch.taskId ∈ start.completedMarkers) :
    Dispatches start { start with journal := start.journal.completeActive.prune now } := by
  have htasks := Journal.getElem?_tasks_completed hactive h.tidy now
  have hnone : (start.journal.completeActive.prune now).active = none := by
    unfold Journal.completeActive
    rw [hactive]
    rfl
  have hsame : ∀ folded, start.Folds folded → folded.contentKeys = batch.contentKeys := by
    rintro folded ⟨active, hstart, ⟨_, hkeys⟩, _⟩
    obtain rfl := Option.some.inj (hactive.symm.trans hstart)
    exact hkeys.symm
  constructor
  · rfl
  · constructor
    · intro active hsome
      cases hnone.symm.trans hsome
    · exact Journal.tidy_prune
  · rintro folded ⟨active, hsome, _⟩
    cases hnone.symm.trans hsome
  · intro folded hfolds key hkey hmem
    rw [hsame folded hfolds] at hkey
    obtain ⟨task, htask⟩ := mem_iff_exists.mp hmem
    cases ((htasks key).trans (if_pos hkey)).symm.trans htask
  · intro key task htask
    have hfound := (htasks key).symm.trans htask
    split at hfound
    · cases hfound
    · exact hfound
  · intro key hkey
    by_cases hcompleted : key ∈ batch.contentKeys
    · exact .inr (.inl ⟨batch, ⟨batch, hactive, .refl batch, hmarker⟩, hcompleted⟩)
    · exact .inl ((mem_congr ((htasks key).trans (if_neg hcompleted))).mpr hkey)
  · intro objectId receipt hreceipt
    have hbefore := Journal.receipts_of_prune hreceipt
    unfold Journal.completeActive at hbefore
    rw [hactive] at hbefore
    exact hbefore

theorem retire (h : Dispatches start site) (marker : String)
    (hstale : ∀ active, site.journal.active = some active → active.taskId ≠ marker) :
    Dispatches start { site with completedMarkers := site.completedMarkers.erase marker } where
  workspace := h.workspace
  sound := h.sound
  marked folded := by
    rintro ⟨active, hactive, hsame, hmem⟩
    exact h.marked folded ⟨active, hactive, hsame, Std.ExtTreeSet.mem_of_mem_erase hmem⟩
  folded folded hfolds key hkey hmem := by
    obtain ⟨active, hactive, hsame, hmarker⟩ := h.folded folded hfolds key hkey hmem
    refine ⟨active, hactive, hsame, Std.ExtTreeSet.mem_erase.mpr ⟨?_, hmarker⟩⟩
    intro heq
    apply hstale active hactive
    rw [hsame.1, Std.LawfulEqCmp.compare_eq_iff_eq.mp heq]
  kept := h.kept
  dropped := h.dropped
  receipts := h.receipts

/-- Another batch is saved when no marker is left to be folded. -/
theorem save (h : Dispatches start site) (hmarkers : ∀ marker, marker ∉ site.completedMarkers)
    (hselects : Selects site.workspace site.journal selected) (now : Int) :
    Dispatches start { site with journal := selected.prune now } := by
  have hkept : ∀ (key : String) (task : JournalTask), selected.tasks[key]? = some task →
      site.journal.tasks[key]? = some task := by
    intro key task htask
    rcases hselects.tasks key with hsame | ⟨hnone, _⟩
    · exact hsame.symm.trans htask
    · cases hnone.symm.trans htask
  have htidy : selected.Tidy := fun key task htask => h.sound.tidy key task (hkept key task htask)
  have htasks (key : String) : (selected.prune now).tasks[key]? = selected.tasks[key]? :=
    Journal.getElem?_tasks_prune htidy
  constructor
  · exact h.workspace
  · exact Journal.sound_prune hselects.valid htidy
  · rintro folded ⟨_, _, _, hmarker⟩
    exact (hmarkers _ hmarker).elim
  · intro folded hfolds key hkey hmem
    have hsite : key ∈ site.journal.tasks := by
      obtain ⟨task, htask⟩ := mem_iff_exists.mp ((mem_congr (htasks key)).mp hmem)
      exact mem_of_getElem? (hkept key task htask)
    obtain ⟨_, _, _, hmarker⟩ := h.folded folded hfolds key hkey hsite
    exact (hmarkers _ hmarker).elim
  · intro key task htask
    exact h.kept key task (hkept key task ((htasks key).symm.trans htask))
  · intro key hkey
    rcases h.dropped key hkey with hsite | hfinished
    · rcases hselects.tasks key with hsame | ⟨_, task, htask, hgone⟩
      · exact .inl ((mem_congr ((htasks key).trans hsame)).mpr hsite)
      · right
        right
        refine ⟨task, h.kept key task htask, ?_⟩
        rw [← h.workspace]
        exact hgone
    · exact .inr hfinished
  · intro objectId receipt hreceipt
    have hbefore := Journal.receipts_of_prune hreceipt
    rw [hselects.receipts] at hbefore
    exact h.receipts objectId receipt hbefore

end Dispatches

/-! ## Selection of a batch -/

/-- A draft of a batch: its tasks are pending, and what was dropped is gone. -/
structure Drafts (w : Workspace) (journal : Journal) (draft : BatchDraft) : Prop where
  active : draft.journal.active = journal.active
  receipts : draft.journal.receipts = journal.receipts
  tasks : ∀ key : String, draft.journal.tasks[key]? = journal.tasks[key]? ∨
    draft.journal.tasks[key]? = none ∧ ∃ task : JournalTask, journal.tasks[key]? = some task ∧
      w.unavailable? task.messageId ≠ none
  pending : ∀ key ∈ draft.keys, draft.journal.isPending key = true

variable {draft : BatchDraft} {blake3 : Blake3} {size : Nat}

theorem Drafts.isPending (h : Drafts w journal draft) {task : JournalTask}
    (hpending : journal.isPending key = true) (htask : draft.journal.tasks[key]? = some task) :
    draft.journal.isPending key = true := by
  rcases h.tasks key with hsame | ⟨hnone, _⟩
  · rw [Journal.isPending_congr hsame]
    exact hpending
  · cases hnone.symm.trans htask

/-- One more task: it is taken or dropped, and only a task that is not taken yet can be. -/
theorem Drafts.take (h : Drafts w journal draft) (hpending : journal.isPending key = true)
    (hfresh : key ∉ draft.keys) : Drafts w journal (draft.take w key) := by
  unfold BatchDraft.take
  split
  · exact h
  · rename_i task htask
    split
    · constructor
      · exact h.active
      · exact h.receipts
      · exact h.tasks
      · intro other hother
        rcases List.mem_append.mp hother with hother | hother
        · exact h.pending other hother
        · rw [List.mem_singleton.mp hother]
          exact h.isPending hpending htask
    · rename_i problem hproblem
      constructor
      · exact h.active
      · exact h.receipts
      · intro other
        by_cases hkey : other = key
        · subst hkey
          right
          refine ⟨Std.ExtTreeMap.getElem?_erase_self, task, ?_, ?_⟩
          · rcases h.tasks other with hsame | ⟨hnone, _⟩
            · exact hsame.symm.trans htask
            · cases hnone.symm.trans htask
          · rw [hproblem]
            exact Option.some_ne_none problem
        · have hother : (draft.journal.tasks.erase key)[other]? = draft.journal.tasks[other]? :=
            getElem?_erase_ne hkey
          rw [hother]
          exact h.tasks other
      · intro other hother
        have hne : other ≠ key := fun heq => hfresh (heq ▸ hother)
        exact (Journal.isPending_congr (getElem?_erase_ne hne)).trans (h.pending other hother)

theorem BatchDraft.take_keys (w : Workspace) (draft : BatchDraft) (key : String) :
    (draft.take w key).keys <+: draft.keys ++ [key] := by
  unfold take
  split
  · exact List.prefix_append _ _
  · split
    · exact List.prefix_rfl
    · exact List.prefix_append _ _

/-- A pass over distinct pending tasks, each of which is taken, dropped or left. -/
theorem Drafts.foldl {step : BatchDraft → String → BatchDraft} {keys : List String}
    (hstep : ∀ draft key, step draft key = draft ∨ step draft key = draft.take w key)
    (h : Drafts w journal draft) (hpending : ∀ key ∈ keys, journal.isPending key = true)
    (hnodup : (draft.keys ++ keys).Nodup) :
    Drafts w journal (keys.foldl step draft) ∧ (keys.foldl step draft).keys.Nodup := by
  induction keys generalizing draft with
  | nil =>
    rw [List.append_nil] at hnodup
    exact ⟨h, hnodup⟩
  | cons key rest ih =>
    rw [List.foldl_cons]
    have hrest : ∀ key ∈ rest, journal.isPending key = true :=
      fun key hkey => hpending key (List.mem_cons_of_mem _ hkey)
    have hsplit : (draft.keys ++ [key] ++ rest).Nodup := by
      rw [List.append_assoc, List.singleton_append]
      exact hnodup
    rcases hstep draft key with hsame | htake
    · rw [hsame]
      apply ih h hrest
      exact hsplit.sublist ((List.prefix_append _ _).sublist.append_right _)
    · rw [htake]
      have hfresh : key ∉ draft.keys := by
        intro hmem
        exact List.disjoint_of_nodup_append hnodup hmem List.mem_cons_self
      apply ih (h.take (hpending key List.mem_cons_self) hfresh) hrest
      exact hsplit.sublist ((draft.take_keys w key).sublist.append_right _)

theorem Drafts.refl (w : Workspace) (journal : Journal) : Drafts w journal { journal } where
  active := rfl
  receipts := rfl
  tasks _ := .inl rfl
  pending _ hkey := nomatch hkey

theorem isSafeTaskId_batchTaskId (blake3 : Blake3) (keys : List String) :
    isSafeTaskId (batchTaskId blake3 keys) = true := by
  have hlength := Text.length_hex (blake3.ofJson (ToJson.toJson keys))
  rw [blake3.length_ofJson] at hlength
  unfold isSafeTaskId batchTaskId
  rw [String.toList_ofList, String.toList_ofList, Bool.and_eq_true, Bool.and_eq_true, decide_eq_true_eq,
    List.length_append, hlength, List.all_append, Bool.and_eq_true]
  refine ⟨⟨?_, by decide⟩, by decide, List.all_eq_true.mpr fun c hc => ?_⟩
  · exact List.isPrefixOf_iff_prefix.mpr (List.prefix_append _ _)
  · unfold isSafeTaskIdChar
    rw [Text.isAsciiAlphanumeric_of_mem_hex hc]
    rfl

/-- What is left of the active batch is still a valid one. -/
theorem selects_resumeBatch (h : journal.Sound) :
    Selects w journal (journal.resumeBatch w).journal := by
  unfold Journal.resumeBatch
  cases hactive : journal.active with
  | none =>
    constructor
    · intro batch hbatch
      cases hactive.symm.trans hbatch
    · rfl
    · exact fun _ => .inl rfl
  | some active =>
    have hholds := h.valid active hactive
    obtain ⟨hdrafts, hnodup⟩ := (Drafts.refl w journal).foldl (fun _ _ => .inr rfl)
      hholds.pending hholds.nodup
    constructor
    · intro batch hbatch
      dsimp only at hbatch
      split at hbatch
      · cases hbatch
      · rename_i hnonempty
        obtain rfl := Option.some.inj hbatch
        constructor
        · exact hholds.safe
        · exact fun hnil => hnonempty (List.isEmpty_iff.mpr hnil)
        · exact hnodup
        · exact hdrafts.pending
    · exact hdrafts.receipts
    · exact hdrafts.tasks

/-- A new batch is made of the pending tasks. -/
theorem selects_buildBatch (hnone : draft.journal.active = none) :
    Selects w draft.journal (draft.buildBatch w blake3 size).journal := by
  have hstart : Drafts w draft.journal { draft with keys := [], items := [] } :=
    ⟨rfl, rfl, fun _ => .inl rfl, fun _ hkey => nomatch hkey⟩
  have hstep (draft : BatchDraft) (key : String) :
      draft.takeWithin w size key = draft ∨ draft.takeWithin w size key = draft.take w key := by
    unfold BatchDraft.takeWithin
    split
    · exact .inl rfl
    · exact .inr rfl
  have hnodup : draft.journal.tasks.keys.Nodup := Std.ExtTreeMap.nodup_keys
  obtain ⟨hdrafts, hnodup⟩ := hstart.foldl hstep
    (fun key hkey => (List.mem_filter.mp hkey).2) (hnodup.filter draft.journal.isPending)
  unfold BatchDraft.buildBatch
  dsimp only
  split
  · constructor
    · intro batch hbatch
      cases (hdrafts.active.trans hnone).symm.trans hbatch
    · exact hdrafts.receipts
    · exact hdrafts.tasks
  · rename_i hnonempty
    constructor
    · intro batch hbatch
      obtain rfl := Option.some.inj hbatch
      constructor
      · exact isSafeTaskId_batchTaskId _ _
      · exact fun hnil => hnonempty (List.isEmpty_iff.mpr hnil)
      · exact hnodup
      · exact hdrafts.pending
    · exact hdrafts.receipts
    · exact hdrafts.tasks

theorem Selects.trans {middle : Journal} (h : Selects w journal middle)
    (h' : Selects w middle selected) : Selects w journal selected where
  valid := h'.valid
  receipts := h'.receipts.trans h.receipts
  tasks key := by
    rcases h'.tasks key with hsame | ⟨hnone, task, htask, hgone⟩
    · rw [hsame]
      exact h.tasks key
    · right
      rcases h.tasks key with hbefore | ⟨hbefore, _⟩
      · exact ⟨hnone, task, hbefore.symm.trans htask, hgone⟩
      · cases hbefore.symm.trans htask

theorem selects_selectBatch (h : journal.Sound) :
    Selects w journal (journal.selectBatch w blake3 size).journal := by
  have hresumed : Selects w journal (journal.resumeBatch w).journal := selects_resumeBatch h
  unfold Journal.selectBatch
  dsimp only
  split
  · rename_i hnone
    exact hresumed.trans (selects_buildBatch (Option.isNone_iff_eq_none.mp hnone))
  · exact hresumed

/-! ## Dispatches at work -/

variable {history : List PullEvent}

/-- A part of a dispatch, which changes the site only as dispatches do. -/
abbrev Dispatching (start : Site)
    (post : α → SiteFact) (p : Pull α) :
    List PullEvent → Site → Prop :=
  p.wp (fun _ => Dispatches start) post (fun _ _ => Dispatches start)

theorem Dispatches.exec {post : α → SiteFact}
    {p : Pull α} {events : List PullEvent} (h : start.journal.Sound)
    (hexec : Exec p start events outcome site) (hp : Dispatching start post p [] start) :
    Dispatches start site ∧ outcome.Meets post (fun _ _ => Dispatches start) events site :=
  Program.wp_sound hexec (.refl h) hp

theorem dispatched_epochSeconds (h : Dispatches start site)
    {post : Int → SiteFact}
    (hpost : ∀ history now, post now history site) :
    Dispatching start post Pull.epochSeconds history site := by
  apply wp_then
  apply Program.wp_ask
  · exact h
  · exact fun _ => h
  · exact fun reply => hpost _ _

theorem dispatched_save (h : Dispatches start site)
    {post : Journal → SiteFact}
    (hsave : ∀ now, Dispatches start { site with journal := journal.prune now })
    (hpost : ∀ history now,
      post (journal.prune now) history { site with journal := journal.prune now }) :
    Dispatching start post journal.save history site := by
  apply wp_then
  apply dispatched_epochSeconds h
  intro history now
  exact ⟨hsave now, hpost history now⟩

theorem dispatched_load (h : start.journal.Sound)
    {post : Journal → SiteFact}
    (hpost : post start.journal history start) :
    Dispatching start post Journal.load history start := by
  apply wp_then
  apply Program.wp_read.mpr
  apply wp_then
  rw [Journal.validateActive_eq_ok_iff.mpr h.valid]
  exact hpost

/-- Where a dispatch is once completions are folded: no marker is left. -/
structure FoldedAt (start : Site) (journal : Journal) (site : Site) : Prop where
  dispatches : Dispatches start site
  journal : site.journal = journal
  markers : ∀ marker, marker ∉ site.completedMarkers

/-- The retirement of markers: none is of the active batch, so none is left of them. -/
theorem dispatched_retire {taskId? : Option String} (h : Dispatches start site)
    (htaskId : ∀ active, site.journal.active = some active → taskId? = some active.taskId)
    (hunmarked : ∀ active, site.journal.active = some active →
      active.taskId ∉ site.completedMarkers)
    {post : Unit → SiteFact}
    (hpost : ∀ history site', FoldedAt start site.journal site' → post () history site') :
    Dispatching start post
      (Program.forEach (site.completedMarkers.toList.filter (site.journal.isStale taskId?))
        fun marker => Pull.write fun site =>
          { site with completedMarkers := site.completedMarkers.erase marker })
      history site := by
  apply Program.wp_mono (Program.wp_forEach_done
    (fun done _ site' => Dispatches start site' ∧ site'.journal = site.journal ∧
      ∀ marker ∈ site'.completedMarkers, marker ∈ site.completedMarkers ∧ marker ∉ done)
    [] ⟨h, rfl, fun _ hmarker => ⟨hmarker, List.not_mem_nil⟩⟩ _)
  · rintro _ history site' ⟨hdispatches, hjournal, hleft⟩
    apply hpost
    refine ⟨hdispatches, hjournal, fun marker hmarker => ?_⟩
    obtain ⟨hbefore, hkept⟩ := hleft marker hmarker
    rw [List.nil_append, List.mem_filter, Std.ExtTreeSet.mem_toList] at hkept
    cases hactive : site.journal.active with
    | none =>
      apply hkept
      unfold Journal.isStale
      rw [hactive]
      exact ⟨hbefore, rfl⟩
    | some active =>
      by_cases hsame : active.taskId = marker
      · rw [← hsame] at hbefore
        exact hunmarked active hactive hbefore
      · apply hkept
        refine ⟨hbefore, ?_⟩
        unfold Journal.isStale
        rw [hactive, htaskId active hactive, Bool.not_eq_true', Bool.and_eq_false_iff]
        exact .inr (beq_eq_false_iff_ne.mpr fun heq => hsame (Option.some.inj heq))
  · exact fun _ _ _ h => h
  · rintro marker hmarker done history site' ⟨hdispatches, hjournal, hleft⟩
    have hstale := (List.mem_filter.mp hmarker).2
    have hretired := hdispatches.retire marker fun active hactive heq => by
      rw [hjournal] at hactive
      unfold Journal.isStale at hstale
      rw [hactive, htaskId active hactive, heq, beq_self_eq_true] at hstale
      cases hstale
    refine ⟨hretired, hretired, hjournal, fun other hother => ?_⟩
    obtain ⟨hne, hmem⟩ := Std.ExtTreeSet.mem_erase.mp hother
    obtain ⟨hbefore, hdone⟩ := hleft other hmem
    refine ⟨hbefore, fun hcontained => ?_⟩
    rcases List.mem_append.mp hcontained with hearlier | hnow
    · exact hdone hearlier
    · rw [List.mem_singleton.mp hnow] at hne
      exact hne Std.ReflCmp.compare_self

/-- Completions are folded: the journal that is returned is the one on disk. -/
theorem dispatched_recordCompleted (h : start.journal.Sound)
    {post : Journal → SiteFact}
    (hpost : ∀ history journal site, FoldedAt start journal site → post journal history site) :
    Dispatching start post start.journal.recordCompleted history start := by
  have hkeep (history : List PullEvent)
      (hunmarked : ∀ active, start.journal.active = some active →
        active.taskId ∉ start.completedMarkers) :
      Dispatching start post (do
        let site ← Pull.read
        Program.forEach (site.completedMarkers.toList.filter
            (start.journal.isStale (start.journal.active.map (·.taskId)))) fun marker =>
          Pull.write fun site =>
            { site with completedMarkers := site.completedMarkers.erase marker }
        return start.journal) history start := by
    apply wp_then
    apply Program.wp_read.mpr
    apply wp_then
    apply dispatched_retire (.refl h)
    · intro active hactive
      rw [hactive]
      rfl
    · exact hunmarked
    · exact fun history site' hfolded => hpost history _ site' hfolded
  apply wp_then
  apply wp_then
  rw [Journal.validateActive_eq_ok_iff.mpr h.valid]
  apply wp_then
  apply Program.wp_read.mpr
  cases hactive : start.journal.active with
  | none =>
    have hunmarked := hkeep history fun active hsome => nomatch hactive.symm.trans hsome
    rw [hactive] at hunmarked
    exact hunmarked
  | some active =>
    dsimp only
    split
    · rename_i hmarker
      apply wp_then
      apply dispatched_save (.refl h) fun now => .complete h hactive hmarker
      intro history now
      apply wp_then
      apply Program.wp_read.mpr
      apply wp_then
      have hnone : (start.journal.completeActive.prune now).active = none := by
        unfold Journal.completeActive
        rw [hactive]
        rfl
      apply dispatched_retire (.complete h hactive hmarker)
      · intro active hsome
        cases hnone.symm.trans hsome
      · intro active hsome
        cases hnone.symm.trans hsome
      · exact fun history site' hfolded => hpost history _ site' hfolded
    · rename_i hmarker
      have hunmarked := hkeep history fun other hsome => by
        obtain rfl := Option.some.inj (hactive.symm.trans hsome)
        exact hmarker
      rw [hactive] at hunmarked
      exact hunmarked

/-- A dispatch that settled on a batch: it is the active one, and no marker is left. -/
structure GivenAt (start : Site) (batch : Batch) (site : Site) : Prop where
  dispatches : Dispatches start site
  active : ∃ active, site.journal.active = some active ∧ active.Same batch
  markers : ∀ marker, marker ∉ site.completedMarkers

theorem dispatched_saveDropped (h : Dispatches start site)
    (hsave : ∀ now, Dispatches start { site with journal := selected.prune now }) :
    Dispatching start (fun _ _ => Dispatches start) (journal.saveDropped selected)
      history site := by
  unfold Journal.saveDropped
  split
  · apply wp_then
    apply dispatched_save h hsave
    exact fun _ now => hsave now
  · exact h

theorem Dispatches.batchInputs (h : Dispatches start site)
    (inputs : Std.ExtTreeMap String (List String)) : Dispatches start { site with batchInputs := inputs } where
  workspace := h.workspace
  sound := h.sound
  marked := h.marked
  folded := h.folded
  kept := h.kept
  dropped := h.dropped
  receipts := h.receipts

theorem Selects.attempted (h : Selects w journal selected) (hactive : selected.active = some batch)
    (source : CloudflareSection) (now : String) (nowEpochS : Int) :
    Selects w journal { selected with active := some (batch.attempted source now nowEpochS) } where
  valid active hsome := by
    obtain rfl := Option.some.inj hsome
    have hholds := h.valid batch hactive
    exact ⟨hholds.safe, hholds.nonempty, hholds.nodup, hholds.pending⟩
  receipts := h.receipts
  tasks := h.tasks

/-- The batch that a dispatch settles on is the active one. -/
theorem dispatched_beginDispatch {host : PullHost} {source : CloudflareSection}
    (h : start.journal.Sound) :
    Dispatching start (fun batch? _ site => Dispatches start site ∧
        ∀ batch, batch? = some batch → GivenAt start batch site)
      (beginDispatch host source) history start := by
  unfold beginDispatch
  split
  · exact ⟨.refl h, fun _ heq => nomatch heq⟩
  · apply wp_then
    apply dispatched_load h
    apply wp_then
    apply dispatched_recordCompleted h
    rintro history _ site ⟨hdispatches, rfl, hmarkers⟩
    apply wp_then
    apply Program.wp_read.mpr
    have hselects : Selects site.workspace site.journal
        (site.journal.selectBatch site.workspace host.blake3 source.queue.batchSize).journal :=
      selects_selectBatch hdispatches.sound
    dsimp only
    generalize site.journal.selectBatch site.workspace host.blake3 source.queue.batchSize = draft
      at hselects ⊢
    have hsave := hdispatches.save hmarkers hselects
    have hdropped (history : List PullEvent) :
        Dispatching start (fun _ _ => Dispatches start) (site.journal.saveDropped draft.journal)
          history site :=
      dispatched_saveDropped hdispatches hsave
    cases hactive : draft.journal.active with
    | none =>
      apply Program.wp_seq (hdropped history)
      exact fun _ history site hdispatches => ⟨hdispatches, fun _ heq => nomatch heq⟩
    | some batch =>
      apply wp_then
      apply dispatched_epochSeconds hdispatches
      intro history now
      split
      · apply Program.wp_seq (hdropped history)
        exact fun _ history site hdispatches => ⟨hdispatches, fun _ heq => nomatch heq⟩
      · have hinputs := hdispatches.batchInputs (site.batchInputs.insert batch.taskId draft.items)
        apply wp_then
        refine ⟨hinputs, ?_⟩
        apply wp_then
        apply dispatched_epochSeconds hinputs
        intro history now
        have hsaved := hinputs.save hmarkers (hselects.attempted hactive source host.now now)
        apply wp_then
        apply dispatched_save hinputs hsaved
        intro history later
        refine ⟨hsaved later, fun given hgiven => ?_⟩
        obtain rfl := Option.some.inj hgiven
        exact ⟨hsaved later, ⟨_, rfl, rfl, rfl⟩, hmarkers⟩

/-- A failure is recorded of the batch that failed. -/
theorem dispatched_recordFailure {source : CloudflareSection} {failure : HandlerFailure}
    (h : start.journal.Sound) (hmarkers : ∀ marker, marker ∉ start.completedMarkers) :
    Dispatching start (fun _ _ => Dispatches start) (recordFailure source batch failure)
      history start := by
  apply wp_then
  apply dispatched_load h
  cases hactive : start.journal.active with
  | none => exact .refl h
  | some active =>
    dsimp only
    split
    · apply wp_then
      apply dispatched_epochSeconds (.refl h)
      intro history now
      have hselects : Selects start.workspace start.journal { start.journal with
          active := some { active with
            lastErrorCode := some failure.errorCode
            lastExitCode := failure.exitCode
            retryAfterEpochS := now + source.consumer.retryDelayS } } := by
        refine ⟨fun other hsome => ?_, rfl, fun _ => .inl rfl⟩
        obtain rfl := Option.some.inj hsome
        have hholds := h.valid active hactive
        exact ⟨hholds.safe, hholds.nonempty, hholds.nodup, hholds.pending⟩
      have hsaved := (Dispatches.refl h).save hmarkers hselects
      apply wp_then
      apply dispatched_save (.refl h) hsaved
      exact fun _ later => hsaved later
    · exact .refl h

theorem dispatched_foldCompleted (h : start.journal.Sound) :
    Dispatching start (fun _ _ => Dispatches start) foldCompleted history start := by
  apply wp_then
  apply dispatched_load h
  apply wp_then
  apply dispatched_recordCompleted h
  exact fun history journal site hfolded => hfolded.dispatches

end AgentFirstMail
