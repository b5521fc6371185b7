import AgentFirstMail.Cloudflare.SpoolQuota

namespace AgentFirstMail.Spool
open Effect Indexing

/-! ### What is known of one key -/

/-- Mail stands under the key. -/
def RealAt (key : String) (w : SpoolWorld) (object : StoredObject) : Prop :=
  w.service[key]? = some object ∧ object.isFence = false

/-- The operation stores mail under the key. -/
def SpoolOp.IsOriginal (key : String) (op : SpoolOp) : Prop :=
  ∃ object, op = .create key object ∧ object.isFence = false

def SpoolOp.creates (key : String) : SpoolOp → Bool
  | .create other _ => other = key
  | _ => false

/-- What was to be created under the key, in the order in which it was sent. -/
def creations (key : String) (w : SpoolWorld) : List SpoolOp :=
  w.requests.filter (SpoolOp.creates key)

def Issued (key : String) (w : SpoolWorld) : Prop := ∃ op ∈ creations key w, op.IsOriginal key

/-- The write of a message may still be carried out. -/
structure Landing (key : String) (object : StoredObject) (sent : Sent SpoolOp SpoolOp.Reply) :
    Prop where
  request : sent.request = .create key object
  real : object.isFence = false
  unanswered : sent.reply.isNone = true
  possible : sent.withdrawn = false

def SpoolQuota.Charges (quota : SpoolQuota) (key : String) (object : StoredObject) : Prop :=
  ∃ entry, quota.entry key = some entry ∧ object.size ≤ entry.sizeBytes

def SpoolQuota.Reserves (quota : SpoolQuota) (key : String) (size : Nat) : Prop :=
  ∃ entry, quota.entry key = some entry ∧ entry.state = .reserved ∧ size ≤ entry.sizeBytes

section Key
variable (worker : Worker) (key : String)

/-- No write of a message under the key is to come any more. -/
structure Settled (w : SpoolWorld) : Prop where
  known : Known worker key w
  landed : ∀ sent ∈ w.sent, ∀ object, ¬Landing key object sent
  issued : key ∈ w.state.writing → Issued key w

/-- There is no mail under the key, and there will be none. -/
structure Gone (w : SpoolWorld) : Prop extends Settled worker key w where
  absent : ∀ object, ¬RealAt key w object

def Covers (w : SpoolWorld) : Prop := ∀ object, RealAt key w object → w.state.Charges key object

/-- The acknowledgement of the key was asked for. -/
def Named (w : SpoolWorld) : Prop := ∃ event ∈ w.came, event.Names worker.env key

/-- Nothing that is still wanted stands under the key. -/
def Removable (w : SpoolWorld) : Prop := Gone worker key w ∨ Named worker key w

structure Inv (w : SpoolWorld) : Prop where
  charged : ∀ object, RealAt key w object → w.state.Charges key object ∨
    (w.state.entry key = none ∧ w.state.initialized = false ∧
      comesAfter worker.platform.after w.state.initialCursor key = true)
  real : ∀ object, RealAt key w object → Settled worker key w
  fenced : ∀ object, w.service[key]? = some object → object.isFence = true → Gone worker key w
  stored : ∀ entry, w.state.entry key = some entry → entry.state = .stored → Settled worker key w
  landing : ∀ sent ∈ w.sent, ∀ object, Landing key object sent →
    w.state.Reserves key object.size ∧ (sent.awaited = true → key ∈ w.state.writing)
  reserved : key ∈ w.state.writing → ¬Issued key w → w.state.Reserves key 0
  started : key ∈ w.state.writing ∨ Issued key w → w.state.initialized = true
  first : ∀ op ∈ (creations key w).tail, ¬op.IsOriginal key
  fencing : ∀ op ∈ creations key w, ¬op.IsOriginal key → key ∉ w.state.writing
  removed : SpoolOp.delete key ∈ w.requests → Removable worker key w

/-- The event that makes the key came. -/
def Drawn (w : SpoolWorld) : Prop := ∃ event ∈ w.came, event.Draws key

/-- The key is held by the event that made it. -/
structure Owned (size : Nat) (w : SpoolWorld) : Prop where
  writing : key ∈ w.state.writing
  unissued : ¬Issued key w
  reserves : w.state.Reserves key size

/-- What every step leaves in place. -/
structure Keeps (w w' : SpoolWorld) : Prop where
  initialized : w.state.initialized = true → w'.state.initialized = true
  came : w.came ⊆ w'.came
  requests : w.requests <+: w'.requests
  known : Known worker key w → Known worker key w'
  settled : Settled worker key w → Settled worker key w'
  real : Settled worker key w ∨ w'.state.initialized = false → ∀ object,
    RealAt key w' object → RealAt key w object
  writing : Known worker key w → key ∉ w.state.writing → key ∉ w'.state.writing
  covers : Covers key w → Covers key w'

/-- What the steps of those that did not make the key leave in place. -/
structure Spares (w w' : SpoolWorld) : Prop where
  unknown : Drawn key w → ¬Known worker key w → ¬Known worker key w'
  owned : Drawn key w → ∀ size, Owned key size w → Owned key size w'

/-- A step at most reveals the key, fences it, removes what stands under it, or ends a wait. -/
structure Beside (w w' : SpoolWorld) : Prop where
  entry : w'.state.entry key = w.state.entry key
  writing : key ∈ w'.state.writing ↔ key ∈ w.state.writing
  initialized : w'.state.initialized = w.state.initialized
  initialCursor : w'.state.initialCursor = w.state.initialCursor
  objects : ∀ object, w'.service[key]? = some object → w.service[key]? = some object
  came : w.came ⊆ w'.came
  requests : w.requests <+: w'.requests
  fences : ∃ fences, creations key w' = creations key w ++ fences ∧
    ∀ op ∈ fences, ¬op.IsOriginal key ∧ key ∉ w.state.writing
  removes : SpoolOp.delete key ∈ w'.requests →
    SpoolOp.delete key ∈ w.requests ∨ Removable worker key w
  known : Known worker key w → Known worker key w'
  landing : ∀ sent ∈ w'.sent, ∀ object, Landing key object sent → ∃ prior ∈ w.sent,
    Landing key object prior ∧ (sent.awaited = true → prior.awaited = true)

end Key

variable {worker : Worker} {key : String}
  {w w' w'' : SpoolWorld} {object : StoredObject}

theorem Named.mono (hcame : w.came ⊆ w'.came) (h : Named worker key w) : Named worker key w' := by
  obtain ⟨event, hevent, hnames⟩ := h
  exact ⟨event, hcame hevent, hnames⟩

namespace Keeps

theorem refl (w : SpoolWorld) : Keeps worker key w w :=
  ⟨id, List.Subset.refl _, List.prefix_refl _, id, id, fun _ _ h => h, fun _ h => h, id⟩

theorem trans (h : Keeps worker key w w') (h' : Keeps worker key w' w'') :
    Keeps worker key w w'' where
  initialized hw := h'.initialized (h.initialized hw)
  came := List.Subset.trans h.came h'.came
  requests := h.requests.trans h'.requests
  known hw := h'.known (h.known hw)
  settled hw := h'.settled (h.settled hw)
  real hw object hreal := by
    rcases hw with hsettled | hinit
    · exact h.real (.inl hsettled) object (h'.real (.inl (h.settled hsettled)) object hreal)
    · have hmid : w'.state.initialized = false := by
        cases heq : w'.state.initialized with
        | false => rfl
        | true => rw [h'.initialized heq] at hinit; cases hinit
      exact h.real (.inr hmid) object (h'.real (.inr hinit) object hreal)
  writing hknown hw := h'.writing (h.known hknown) (h.writing hknown hw)
  covers hw := h'.covers (h.covers hw)

theorem drawn (h : Keeps worker key w w') (hw : Drawn key w) : Drawn key w' := by
  obtain ⟨event, hevent, hdraws⟩ := hw
  exact ⟨event, h.came hevent, hdraws⟩

theorem gone (h : Keeps worker key w w') (hw : Gone worker key w) :
    Gone worker key w' :=
  ⟨h.settled hw.toSettled, fun object hreal => hw.absent object (h.real (.inl hw.toSettled) object hreal)⟩

theorem named (h : Keeps worker key w w') (hw : Named worker key w) : Named worker key w' :=
  hw.mono h.came

theorem removable (h : Keeps worker key w w') (hw : Removable worker key w) :
    Removable worker key w' :=
  hw.imp h.gone h.named

end Keeps

namespace Spares

theorem refl (w : SpoolWorld) : Spares worker key w w := ⟨fun _ h => h, fun _ _ h => h⟩

theorem trans (h : Spares worker key w w') (hkeeps : Keeps worker key w w')
    (h' : Spares worker key w' w'') : Spares worker key w w'' where
  unknown hdrawn hw := h'.unknown (hkeeps.drawn hdrawn) (h.unknown hdrawn hw)
  owned hdrawn size hw := h'.owned (hkeeps.drawn hdrawn) size (h.owned hdrawn size hw)

end Spares

namespace Beside

theorem issued_iff (h : Beside worker key w w') : Issued key w' ↔ Issued key w := by
  obtain ⟨fences, hcreations, hfences⟩ := h.fences
  unfold Issued
  rw [hcreations]
  constructor
  · rintro ⟨op, hop, horiginal⟩
    rcases List.mem_append.mp hop with hop | hop
    · exact ⟨op, hop, horiginal⟩
    · exact ((hfences op hop).1 horiginal).elim
  · rintro ⟨op, hop, horiginal⟩
    exact ⟨op, List.mem_append_left _ hop, horiginal⟩

theorem settled (h : Beside worker key w w') (hw : Settled worker key w) :
    Settled worker key w' where
  known := h.known hw.known
  landed sent hsent object hlanding := by
    obtain ⟨prior, hprior, hlanding, _⟩ := h.landing sent hsent object hlanding
    exact hw.landed prior hprior object hlanding
  issued hwriting := h.issued_iff.mpr (hw.issued (h.writing.mp hwriting))

theorem realAt (h : Beside worker key w w') (hreal : RealAt key w' object) :
    RealAt key w object :=
  ⟨h.objects object hreal.1, hreal.2⟩

theorem charges (h : Beside worker key w w') (hw : w.state.Charges key object) :
    w'.state.Charges key object := by
  unfold SpoolQuota.Charges
  rw [h.entry]
  exact hw

theorem reserves {size : Nat} (h : Beside worker key w w') (hw : w.state.Reserves key size) :
    w'.state.Reserves key size := by
  unfold SpoolQuota.Reserves
  rw [h.entry]
  exact hw

theorem keeps (h : Beside worker key w w') : Keeps worker key w w' where
  initialized hw := h.initialized.trans hw
  came := h.came
  requests := h.requests
  known := h.known
  settled := h.settled
  real _ _ hreal := h.realAt hreal
  writing _ hw hwriting := hw (h.writing.mp hwriting)
  covers hw object hreal := h.charges (hw object (h.realAt hreal))

theorem inv (h : Beside worker key w w') (hw : Inv worker key w) :
    Inv worker key w' where
  charged object hreal := by
    rcases hw.charged object (h.realAt hreal) with hcharged | hahead
    · exact .inl (h.charges hcharged)
    · rw [h.entry, h.initialized, h.initialCursor]
      exact .inr hahead
  real object hreal := h.settled (hw.real object (h.realAt hreal))
  fenced object hobject hfence := by
    have hgone := hw.fenced object (h.objects object hobject) hfence
    exact ⟨h.settled hgone.toSettled, fun other hreal => hgone.absent other (h.realAt hreal)⟩
  stored entry hentry hstored := by
    rw [h.entry] at hentry
    exact h.settled (hw.stored entry hentry hstored)
  landing sent hsent object hlanding := by
    obtain ⟨prior, hprior, hlanding, hawaited⟩ := h.landing sent hsent object hlanding
    obtain ⟨hreserves, hwriting⟩ := hw.landing prior hprior object hlanding
    exact ⟨h.reserves hreserves, fun hsent => h.writing.mpr (hwriting (hawaited hsent))⟩
  reserved hwriting hissued :=
    h.reserves (hw.reserved (h.writing.mp hwriting) fun hi => hissued (h.issued_iff.mpr hi))
  started hbegun := by
    rw [h.initialized]
    exact hw.started (hbegun.imp h.writing.mp h.issued_iff.mp)
  first := by
    obtain ⟨fences, hcreations, hfences⟩ := h.fences
    have hfirst := hw.first
    rw [hcreations]
    intro op hop
    cases heq : creations key w with
    | nil =>
      rw [heq, List.nil_append] at hop
      exact (hfences op (List.mem_of_mem_tail hop)).1
    | cons first rest =>
      rw [heq, List.cons_append, List.tail_cons, List.mem_append] at hop
      rw [heq] at hfirst
      exact hop.elim (hfirst op) fun hfence => (hfences op hfence).1
  fencing op hop hfence hwriting := by
    obtain ⟨fences, hcreations, hfences⟩ := h.fences
    rw [hcreations, List.mem_append] at hop
    rcases hop with hop | hop
    · exact hw.fencing op hop hfence (h.writing.mp hwriting)
    · exact (hfences op hop).2 (h.writing.mp hwriting)
  removed hmem := by
    rcases h.removes hmem with hmem | hremovable
    · exact h.keeps.removable (hw.removed hmem)
    · exact h.keeps.removable hremovable

theorem owned {size : Nat} (h : Beside worker key w w') (hw : Owned key size w) :
    Owned key size w' :=
  ⟨h.writing.mpr hw.writing, fun hi => hw.unissued (h.issued_iff.mp hi), h.reserves hw.reserves⟩

theorem spares (h : Beside worker key w w')
    (hknown : Drawn key w → Known worker key w' → Known worker key w) :
    Spares worker key w w' :=
  ⟨fun hdrawn hw hw' => hw (hknown hdrawn hw'), fun _ _ hw => h.owned hw⟩

end Beside

theorem prefix_of_eq (h : w'.requests = w.requests) : w.requests <+: w'.requests :=
  h ▸ List.prefix_refl w.requests

theorem same_creations (h : w'.requests = w.requests) : ∃ fences,
    creations key w' = creations key w ++ fences ∧
      ∀ op ∈ fences, ¬op.IsOriginal key ∧ key ∉ w.state.writing := by
  refine ⟨[], ?_, fun _ hmem => (by cases hmem)⟩
  unfold creations
  rw [h, List.append_nil]

/-! ### Steps that leave the key alone -/

/-- A change of the ledger that leaves the key alone. -/
structure SameAt (key : String) (quota quota' : SpoolQuota) : Prop where
  entry : quota'.entry key = quota.entry key
  writing : key ∈ quota'.writing ↔ key ∈ quota.writing
  initialized : quota'.initialized = quota.initialized
  initialCursor : quota'.initialCursor = quota.initialCursor

theorem mem_objects_iff {quota : SpoolQuota} : key ∈ quota.objects ↔ ∃ entry, quota.entry key = some entry :=
  mem_iff_exists

theorem known_change {f : SpoolQuota → SpoolQuota} (h : SameAt key w.state (f w.state)) :
    Known worker key (w.change f) ↔ Known worker key w := by
  have hrow : key ∈ (f w.state).objects ↔ key ∈ w.state.objects := by
    rw [mem_objects_iff, mem_objects_iff, h.entry]
  have hwriting := h.writing
  unfold Known
  rw [World.requests_change]
  change (key ∈ worker.initial ∨ key ∈ (f w.state).objects ∨ key ∈ (f w.state).writing ∨ _) ↔ _
  rw [hrow, hwriting]
  rfl

theorem beside_change {f : SpoolQuota → SpoolQuota} (h : SameAt key w.state (f w.state)) :
    Beside worker key w (w.change f) where
  entry := h.entry
  writing := h.writing
  initialized := h.initialized
  initialCursor := h.initialCursor
  objects _ hobject := hobject
  came := List.Subset.refl _
  requests := List.prefix_refl _
  fences := same_creations rfl
  removes := .inl
  known := (known_change h).mpr
  landing sent hsent _ hlanding := ⟨sent, hsent, hlanding, id⟩

theorem known_mono (hstate : w'.state = w.state) (hrequests : w.requests <+: w'.requests)
    (hcame : w.came ⊆ w'.came) (h : Known worker key w) : Known worker key w' := by
  unfold Known at h ⊢
  rw [hstate]
  rcases h with h | h | h | ⟨op, hop, hkey⟩ | ⟨event, hevent, hnames⟩
  · exact .inl h
  · exact .inr (.inl h)
  · exact .inr (.inr (.inl h))
  · exact .inr (.inr (.inr (.inl ⟨op, hrequests.subset hop, hkey⟩)))
  · exact .inr (.inr (.inr (.inr ⟨event, hcame hevent, hnames⟩)))

theorem landing_send {op : SpoolOp} {sent : Sent SpoolOp SpoolOp.Reply}
    (hop : ∀ object, op = .create key object → object.isFence = true)
    (hsent : sent ∈ (w.send op).sent) (h : Landing key object sent) : sent ∈ w.sent := by
  rcases List.mem_append.mp hsent with hmem | hmem
  · exact hmem
  · rw [List.mem_singleton] at hmem
    subst hmem
    have hfence := hop object h.request
    rw [h.real] at hfence
    cases hfence

/-- Anything but the write of a message is sent. -/
theorem beside_send {op : SpoolOp}
    (hop : op.creates key = true → ¬op.IsOriginal key ∧ key ∉ w.state.writing)
    (hremoves : op = .delete key → Removable worker key w) :
    Beside worker key w (w.send op) where
  entry := rfl
  writing := .rfl
  initialized := rfl
  initialCursor := rfl
  objects _ hobject := hobject
  came := List.Subset.refl _
  requests := by
    rw [World.requests_send]
    exact List.prefix_append _ _
  fences := by
    refine ⟨[op].filter (SpoolOp.creates key), ?_, ?_⟩
    · unfold creations
      rw [World.requests_send, List.filter_append]
    · intro other hother
      obtain ⟨hmem, hcreates⟩ := List.mem_filter.mp hother
      rw [List.mem_singleton] at hmem
      subst hmem
      exact hop hcreates
  removes hmem := by
    rw [World.requests_send, List.mem_append, List.mem_singleton] at hmem
    exact hmem.imp_right fun heq => hremoves heq.symm
  known := by
    refine known_mono rfl ?_ (List.Subset.refl w.came)
    rw [World.requests_send]
    exact List.prefix_append _ _
  landing sent hsent object hlanding := by
    refine ⟨sent, landing_send ?_ hsent hlanding, hlanding, id⟩
    rintro object rfl
    by_contra hreal
    exact (hop (decide_eq_true rfl)).1 ⟨object, rfl, by simpa using hreal⟩

theorem known_send {op : SpoolOp} (hop : op.key? ≠ some key)
    (h : Known worker key (w.send op)) : Known worker key w := by
  unfold Known at h ⊢
  rcases h with h | h | h | ⟨other, hother, hkey⟩ | h
  · exact .inl h
  · exact .inr (.inl h)
  · exact .inr (.inr (.inl h))
  · rw [World.requests_send, List.mem_append, List.mem_singleton] at hother
    rcases hother with hother | rfl
    · exact .inr (.inr (.inr (.inl ⟨other, hother, hkey⟩)))
    · exact (hop hkey).elim
  · exact .inr (.inr (.inr (.inr h)))

theorem mem_abandon {ticket : Nat} {sent : Sent SpoolOp SpoolOp.Reply}
    (h : sent ∈ (w.abandon ticket).sent) :
    ∃ prior ∈ w.sent, sent = prior ∨ sent = { prior with awaited := false } := by
  obtain ⟨index, hindex⟩ := List.mem_iff_getElem?.mp h
  rw [World.abandon, List.getElem?_modify] at hindex
  cases hprior : w.sent[index]? with
  | none =>
    rw [hprior] at hindex
    cases hindex
  | some prior =>
    rw [hprior] at hindex
    have hsent := Option.some.inj hindex
    refine ⟨prior, List.mem_of_getElem? hprior, ?_⟩
    by_cases heq : ticket = index
    · simp only [if_pos heq] at hsent
      exact .inr hsent.symm
    · simp only [if_neg heq] at hsent
      exact .inl hsent.symm

theorem beside_abandon {ticket : Nat} : Beside worker key w (w.abandon ticket) where
  entry := rfl
  writing := .rfl
  initialized := rfl
  initialCursor := rfl
  objects _ hobject := hobject
  came := List.Subset.refl _
  requests := prefix_of_eq (World.requests_abandon w ticket)
  fences := same_creations (World.requests_abandon w ticket)
  removes hmem := by
    rw [World.requests_abandon] at hmem
    exact .inl hmem
  known := known_mono rfl (prefix_of_eq (World.requests_abandon w ticket)) (List.Subset.refl w.came)
  landing sent hsent object hlanding := by
    obtain ⟨prior, hprior, rfl | rfl⟩ := mem_abandon hsent
    · exact ⟨sent, hprior, hlanding, id⟩
    · refine ⟨prior, hprior, ⟨hlanding.request, hlanding.real, hlanding.unanswered,
        hlanding.possible⟩, fun hawaited => (by cases hawaited)⟩

theorem known_abandon {ticket : Nat} (h : Known worker key (w.abandon ticket)) :
    Known worker key w := by
  unfold Known at h ⊢
  rw [World.requests_abandon] at h
  exact h

theorem beside_arrive {event : SpoolEvent} : Beside worker key w (w.arrive event) where
  entry := rfl
  writing := .rfl
  initialized := rfl
  initialCursor := rfl
  objects _ hobject := hobject
  came := List.subset_append_left _ _
  requests := List.prefix_refl _
  fences := same_creations rfl
  removes := .inl
  known := known_mono rfl (List.prefix_refl _) (List.subset_append_left _ _)
  landing sent hsent _ hlanding := ⟨sent, hsent, hlanding, id⟩

theorem getElem?_of_erase {bucket : Bucket} {other : String}
    (h : (bucket.erase other)[key]? = some object) : bucket[key]? = some object := by
  rw [Std.ExtTreeMap.getElem?_erase] at h
  split at h
  · cases h
  · exact h

theorem beside_drift {other : String} :
    Beside worker key w { w with service := w.service.erase other } where
  entry := rfl
  writing := .rfl
  initialized := rfl
  initialCursor := rfl
  objects _ hobject := getElem?_of_erase hobject
  came := List.Subset.refl _
  requests := List.prefix_refl _
  fences := same_creations rfl
  removes := .inl
  known := known_mono rfl (List.prefix_refl _) (List.Subset.refl _)
  landing sent hsent _ hlanding := ⟨sent, hsent, hlanding, id⟩

theorem answers_served {ticket : Nat} {op : SpoolOp} {value : op.Reply}
    (h : w.Served worker.platform.service ticket op value w') :
    answers worker.platform.after op w.service value w'.service :=
  worker.platform.consistent _ _ _ _ h.answers

theorem landing_served {ticket : Nat} {op : SpoolOp} {value : op.Reply}
    (h : w.Served worker.platform.service ticket op value w') {sent : Sent SpoolOp SpoolOp.Reply}
    (hsent : sent ∈ w'.sent) (hlanding : Landing key object sent) : ∃ prior ∈ w.sent,
      Landing key object prior ∧ (sent.awaited = true → prior.awaited = true) := by
  cases h with
  | @intro s t t' came before rest awaited op value hanswer =>
    rcases List.mem_append.mp hsent with hmem | hmem
    · obtain ⟨prior, hprior, rfl⟩ := List.mem_map.mp hmem
      have hpossible := hlanding.possible
      rw [Sent.ruleOut, Bool.or_eq_false_iff] at hpossible
      exact ⟨prior, List.mem_append_left _ hprior,
        ⟨hlanding.request, hlanding.real, hlanding.unanswered, hpossible.1⟩, id⟩
    · rcases List.mem_cons.mp hmem with rfl | hmem
      · have hunanswered := hlanding.unanswered
        cases hunanswered
      · exact ⟨sent, List.mem_append_right _ (List.mem_cons_of_mem _ hmem), hlanding, id⟩

theorem beside_served {ticket : Nat} {op : SpoolOp} {value : op.Reply}
    (h : w.Served worker.platform.service ticket op value w')
    (hobjects : ∀ object, w'.service[key]? = some object → w.service[key]? = some object) :
    Beside worker key w w' where
  entry := by rw [h.state_eq]
  writing := by rw [h.state_eq]
  initialized := by rw [h.state_eq]
  initialCursor := by rw [h.state_eq]
  objects := hobjects
  came := by
    rw [h.came_eq]
    exact List.Subset.refl _
  requests := prefix_of_eq h.requests_eq
  fences := same_creations h.requests_eq
  removes hmem := by
    rw [h.requests_eq] at hmem
    exact .inl hmem
  known := by
    apply known_mono h.state_eq (prefix_of_eq h.requests_eq)
    rw [h.came_eq]
    exact List.Subset.refl _
  landing _ hsent _ hlanding := landing_served h hsent hlanding

/-! ### Whatever is served -/

theorem SpoolOp.creates_of_isOriginal {op : SpoolOp} (h : op.IsOriginal key) :
    op.creates key = true := by
  obtain ⟨object, rfl, _⟩ := h
  exact decide_eq_true rfl

theorem known_of_request {op : SpoolOp} (hop : op ∈ w.requests) (hkey : op.key? = some key) :
    Known worker key w :=
  .inr (.inr (.inr (.inl ⟨op, hop, hkey⟩)))

theorem Landing.mem_creations {sent : Sent SpoolOp SpoolOp.Reply} (h : Landing key object sent)
    {all : List (Sent SpoolOp SpoolOp.Reply)} (hsent : sent ∈ all) :
    ∃ op ∈ (all.map (·.request)).filter (SpoolOp.creates key), op.IsOriginal key := by
  have horiginal : sent.request.IsOriginal key := ⟨object, h.request, h.real⟩
  exact ⟨sent.request, List.mem_filter.mpr ⟨List.mem_map_of_mem hsent,
    SpoolOp.creates_of_isOriginal horiginal⟩, horiginal⟩

/-- A fence that is created, and the write of a message whatever comes of it, is the last that
could store one under the key. -/
theorem settled_created {ticket : Nat} {written : Bool} (hw : Inv worker key w)
    (h : w.Served worker.platform.service ticket (.create key object) written w')
    (hlast : written = true ∨ object.isFence = false) : Settled worker key w' := by
  obtain ⟨before, awaited, rest, hsent, hsent'⟩ := h.split
  have hcreations : creations key w = (before.map (·.request)).filter (SpoolOp.creates key) ++
      .create key object :: (rest.map (·.request)).filter (SpoolOp.creates key) := by
    simp [creations, World.requests, SpoolOp.creates, hsent]
  have hmem : SpoolOp.create key object ∈ creations key w := by
    rw [hcreations]
    exact List.mem_append_right _ List.mem_cons_self
  have hfirst := hw.first
  rw [hcreations] at hfirst
  have hrest : ∀ op ∈ (rest.map (·.request)).filter (SpoolOp.creates key),
      ¬op.IsOriginal key := by
    intro op hop
    apply hfirst op
    cases hbefore : (before.map (·.request)).filter (SpoolOp.creates key) with
    | nil => exact hop
    | cons first others =>
      exact List.mem_append_right _ (List.mem_cons_of_mem _ hop)
  refine ⟨?_, ?_, ?_⟩
  · have hrequest : SpoolOp.create key object ∈ w'.requests := by
      rw [h.requests_eq]
      exact (List.mem_filter.mp hmem).1
    exact known_of_request hrequest rfl
  · intro sent hmem' other hlanding
    rw [hsent', List.mem_append, List.mem_cons] at hmem'
    rcases hmem' with hmem' | rfl | hmem'
    · obtain ⟨prior, hprior, rfl⟩ := List.mem_map.mp hmem'
      have hpossible := hlanding.possible
      rw [Sent.ruleOut, Bool.or_eq_false_iff] at hpossible
      have hbefore : Landing key other prior :=
        ⟨hlanding.request, hlanding.real, hlanding.unanswered, hpossible.1⟩
      obtain ⟨op, hop, horiginal⟩ := hbefore.mem_creations hprior
      cases hfence : object.isFence with
      | false =>
        -- The served create would be the second that stores a message.
        refine hfirst (.create key object) ?_ ⟨object, rfl, hfence⟩
        obtain ⟨start, others, hbefore⟩ := List.exists_cons_of_ne_nil (List.ne_nil_of_mem hop)
        rw [hbefore]
        exact List.mem_append_right _ List.mem_cons_self
      | true =>
        have hidle : key ∉ w.state.writing := by
          apply hw.fencing _ hmem
          rintro ⟨other, heq, hreal⟩
          cases heq
          rw [hfence] at hreal
          cases hreal
        have hunawaited : prior.awaited = false := by
          cases hawaited : prior.awaited with
          | false => rfl
          | true =>
            have hprior' : prior ∈ w.sent := by
              rw [hsent]
              exact List.mem_append_left _ hprior
            exact (hidle ((hw.landing prior hprior' other hbefore).2 hawaited)).elim
        have hwritten : written = true := by
          rcases hlast with hwritten | hreal
          · exact hwritten
          · rw [hfence] at hreal
            cases hreal
        have hruled := hpossible.2
        subst hwritten
        rw [hunawaited, hbefore.unanswered, hbefore.request,
          worker.platform.fenced key object other hfence] at hruled
        cases hruled
    · have hunanswered := hlanding.unanswered
      cases hunanswered
    · obtain ⟨op, hop, horiginal⟩ := hlanding.mem_creations hmem'
      exact hrest op hop horiginal
  · intro hwriting
    rw [h.state_eq] at hwriting
    refine ⟨.create key object, ?_, ?_⟩
    · unfold creations at hmem ⊢
      rw [h.requests_eq]
      exact hmem
    · by_contra hfence
      exact hw.fencing _ hmem hfence hwriting

theorem reserves_created {ticket : Nat} {written : Bool} (hw : Inv worker key w)
    (h : w.Served worker.platform.service ticket (.create key object) written w')
    (hreal : object.isFence = false) :
    w.state.Reserves key object.size ∧ ¬Settled worker key w ∧ Issued key w := by
  obtain ⟨before, awaited, rest, hsent, _⟩ := h.split
  have hmem : ⟨.create key object, none, awaited, false⟩ ∈ w.sent := by
    rw [hsent]
    exact List.mem_append_right _ List.mem_cons_self
  have hlanding : Landing key object ⟨.create key object, none, awaited, false⟩ :=
    ⟨rfl, hreal, rfl, rfl⟩
  exact ⟨(hw.landing _ hmem object hlanding).1, fun hsettled => hsettled.landed _ hmem object hlanding,
    hlanding.mem_creations hmem⟩

theorem known_served {ticket : Nat} {op : SpoolOp} {value : op.Reply}
    (h : w.Served worker.platform.service ticket op value w') :
    Known worker key w' ↔ Known worker key w := by
  unfold Known
  rw [h.state_eq, h.requests_eq, h.came_eq]

theorem issued_served {ticket : Nat} {op : SpoolOp} {value : op.Reply}
    (h : w.Served worker.platform.service ticket op value w') : Issued key w' ↔ Issued key w := by
  unfold Issued creations
  rw [h.requests_eq]

/-- What a step may do to the key. -/
structure Moves (worker : Worker) (key : String) (w w' : SpoolWorld) : Prop where
  inv : Inv worker key w'
  keeps : Keeps worker key w w'
  spares : Spares worker key w w'

theorem moves_created {ticket : Nat} (hw : Inv worker key w)
    (h : w.Served worker.platform.service ticket (.create key object) true w')
    (hservice : w'.service = w.service.insert key object) : Moves worker key w w' := by
  have hsettled := settled_created hw h (.inl rfl)
  have hknown := (known_served h).mp hsettled.known
  have hobject : w'.service[key]? = some object := by
    rw [hservice, Std.ExtTreeMap.getElem?_insert_self]
  have hreal : ∀ other, RealAt key w' other → other = object ∧ object.isFence = false := by
    rintro other ⟨hother, hreal⟩
    rw [hobject] at hother
    cases hother
    exact ⟨rfl, hreal⟩
  have hcovers : Covers key w' := by
    intro other hother
    obtain ⟨rfl, hfence⟩ := hreal other hother
    obtain ⟨entry, hentry, _, hsize⟩ := (reserves_created hw h hfence).1
    unfold SpoolQuota.Charges
    rw [h.state_eq]
    exact ⟨entry, hentry, hsize⟩
  refine ⟨?_, ?_, ?_⟩
  · refine ⟨fun other hother => .inl (hcovers other hother), fun _ _ => hsettled, ?_,
      fun _ _ _ => hsettled, fun sent hsent other hlanding =>
        (hsettled.landed sent hsent other hlanding).elim, ?_, ?_, ?_, ?_, ?_⟩
    · intro other hother hfence
      refine ⟨hsettled, fun found hfound => ?_⟩
      rw [hobject] at hother
      cases hother
      rw [(hreal found hfound).2] at hfence
      cases hfence
    · rw [h.state_eq, issued_served h]
      exact hw.reserved
    · rw [h.state_eq, issued_served h]
      exact hw.started
    · unfold creations
      rw [h.requests_eq]
      exact hw.first
    · unfold creations
      rw [h.requests_eq, h.state_eq]
      exact hw.fencing
    · intro hmem
      rw [h.requests_eq] at hmem
      rcases hw.removed hmem with hgone | hnamed
      · refine .inl ⟨hsettled, fun other hother => ?_⟩
        exact (reserves_created hw h (hreal other hother).2).2.1 hgone.toSettled
      · unfold Removable Named
        rw [h.came_eq]
        exact .inr hnamed
  · refine ⟨?_, ?_, ?_, (known_served h).mpr, fun _ => hsettled, ?_, ?_, fun _ => hcovers⟩
    · rw [h.state_eq]
      exact id
    · rw [h.came_eq]
      exact List.Subset.refl _
    · exact prefix_of_eq h.requests_eq
    · intro hbefore other hother
      obtain ⟨rfl, hfence⟩ := hreal other hother
      obtain ⟨_, hunsettled, hissued⟩ := reserves_created hw h hfence
      rcases hbefore with hsettled | hinit
      · exact (hunsettled hsettled).elim
      · rw [h.state_eq, hw.started (.inr hissued)] at hinit
        cases hinit
    · rw [h.state_eq]
      exact fun _ => id
  · refine ⟨fun _ hunknown => (hunknown hknown).elim, ?_⟩
    intro _ size howned
    have hissued := hsettled.issued (by
      rw [h.state_eq]
      exact howned.writing)
    exact (howned.unissued ((issued_served h).mp hissued)).elim

theorem Beside.moves (h : Beside worker key w w') (hw : Inv worker key w)
    (hknown : Drawn key w → Known worker key w' → Known worker key w) :
    Moves worker key w w' :=
  ⟨h.inv hw, h.keeps, h.spares hknown⟩

theorem moves_served {ticket : Nat} {op : SpoolOp} {value : op.Reply}
    (hw : Inv worker key w) (h : w.Served worker.platform.service ticket op value w') :
    Moves worker key w w' := by
  have hbeside : (∀ object, w'.service[key]? = some object → w.service[key]? = some object) →
      Moves worker key w w' :=
    fun hobjects => (beside_served h hobjects).moves hw fun _ => (known_served h).mp
  have hsame : w'.service = w.service → Moves worker key w w' := by
    intro heq
    apply hbeside
    rw [heq]
    exact fun _ => id
  have hanswers := answers_served h
  cases op with
  | turn => exact hsame hanswers
  | readStream body => exact hsame hanswers.2
  | getAlarm => exact hsame hanswers
  | setAlarm delayMs => exact hsame hanswers
  | list cursor limit => exact hsame hanswers.2
  | head other => exact hsame hanswers.2
  | get other => exact hsame hanswers.2
  | delete other =>
    apply hbeside
    intro object hobject
    rw [show w'.service = w.service.erase other from hanswers] at hobject
    exact getElem?_of_erase hobject
  | create other object =>
    change (if other ∈ w.service then value = false ∧ w'.service = w.service
      else value = true ∧ w'.service = w.service.insert other object) at hanswers
    by_cases hmem : other ∈ w.service
    · rw [if_pos hmem] at hanswers
      exact hsame hanswers.2
    · rw [if_neg hmem] at hanswers
      obtain ⟨rfl, hservice⟩ := hanswers
      by_cases heq : key = other
      · subst heq
        exact moves_created hw h hservice
      · apply hbeside
        intro found hfound
        rw [hservice, getElem?_insert_ne heq] at hfound
        exact hfound

/-- A restart ends all waits and forgets what is being written. -/
theorem inv_reboot (hw : Inv worker key w) :
    Inv worker key (w.reboot SpoolQuota.restarted) := by
  have hcreations : creations key (w.reboot SpoolQuota.restarted) = creations key w := by
    unfold creations
    rw [World.requests_reboot]
  have hlanding : ∀ sent ∈ (w.reboot SpoolQuota.restarted).sent, ∀ object,
      Landing key object sent → sent.awaited = false ∧ ∃ prior ∈ w.sent, Landing key object prior := by
    intro sent hsent object hlanding
    obtain ⟨prior, hprior, rfl⟩ := List.mem_map.mp hsent
    exact ⟨rfl, prior, hprior, hlanding.request, hlanding.real, hlanding.unanswered,
      hlanding.possible⟩
  have hknown : Known worker key w →
      Known worker key (w.reboot SpoolQuota.restarted) := by
    unfold Known
    rw [World.requests_reboot]
    rintro (h | h | hwriting | h | h)
    · exact .inl h
    · exact .inr (.inl h)
    · -- What was being written has its row, or was sent already.
      by_cases hissued : Issued key w
      · obtain ⟨op, hop, object, rfl, _⟩ := hissued
        exact .inr (.inr (.inr (.inl ⟨_, (List.mem_filter.mp hop).1, rfl⟩)))
      · obtain ⟨entry, hentry, _⟩ := hw.reserved hwriting hissued
        exact .inr (.inl (mem_of_getElem? hentry))
    · exact .inr (.inr (.inr (.inl h)))
    · exact .inr (.inr (.inr (.inr h)))
  have hsettled : Settled worker key w →
      Settled worker key (w.reboot SpoolQuota.restarted) := by
    intro hsettled
    refine ⟨hknown hsettled.known, ?_, fun hwriting => (by cases hwriting)⟩
    intro sent hsent object hfound
    obtain ⟨_, prior, hprior, hfound⟩ := hlanding sent hsent object hfound
    exact hsettled.landed prior hprior object hfound
  refine ⟨hw.charged, fun object hreal => hsettled (hw.real object hreal), ?_,
    fun entry hentry hstored => hsettled (hw.stored entry hentry hstored), ?_,
    fun hwriting => (by cases hwriting), ?_, ?_, fun _ _ _ hwriting => (by cases hwriting), ?_⟩
  · intro object hobject hfence
    have hgone := hw.fenced object hobject hfence
    exact ⟨hsettled hgone.toSettled, hgone.absent⟩
  · intro sent hsent object hfound
    obtain ⟨hunawaited, prior, hprior, hfound⟩ := hlanding sent hsent object hfound
    refine ⟨(hw.landing prior hprior object hfound).1, ?_⟩
    rw [hunawaited]
    exact fun heq => (by cases heq)
  · unfold Issued
    rw [hcreations]
    rintro (hwriting | hissued)
    · cases hwriting
    · exact hw.started (.inr hissued)
  · rw [hcreations]
    exact hw.first
  · intro hmem
    rw [World.requests_reboot] at hmem
    exact (hw.removed hmem).imp_left fun hgone => ⟨hsettled hgone.toSettled, hgone.absent⟩

/-! ### Steps at the key -/

/-- Something was asked about the key. -/
def Asked (key : String) (w : SpoolWorld) : Prop := ∃ op ∈ w.requests, op.key? = some key

theorem Asked.known (h : Asked key w) : Known worker key w := .inr (.inr (.inr (.inl h)))

theorem Named.known (h : Named worker key w) : Known worker key w := .inr (.inr (.inr (.inr h)))

/-- The row of a settled key may go up to the size of what stands there, and beyond. -/
theorem moves_row {f : SpoolQuota → SpoolQuota} (hw : Inv worker key w)
    (hsettled : Settled worker key w) (hasked : Asked key w)
    (hwriting : (f w.state).writing = w.state.writing)
    (hinitialized : (f w.state).initialized = w.state.initialized)
    (hcursor : (f w.state).initialCursor = w.state.initialCursor)
    (hnone : w.state.entry key = none → (f w.state).entry key = none)
    (hcharged : ∀ object, RealAt key w object → w.state.Charges key object →
      (f w.state).Charges key object) : Moves worker key w (w.change f) := by
  have hsettled' : Settled worker key (w.change f) := by
    refine ⟨Asked.known hasked, hsettled.landed, fun hmem => hsettled.issued ?_⟩
    rw [← hwriting]
    exact hmem
  refine ⟨⟨?_, fun _ _ => hsettled', ?_, fun _ _ _ => hsettled', ?_, ?_, ?_, hw.first, ?_, ?_⟩,
    ⟨?_, List.Subset.refl _, List.prefix_refl _, fun _ => hsettled'.known, fun _ => hsettled',
      fun _ _ => id, ?_, ?_⟩, ?_, ?_⟩
  · intro object hreal
    rcases hw.charged object hreal with hrow | ⟨hentry, hinit, hahead⟩
    · exact .inl (hcharged object hreal hrow)
    · refine .inr ⟨hnone hentry, ?_, ?_⟩
      · exact hinitialized.trans hinit
      · change comesAfter worker.platform.after (f w.state).initialCursor key = true
        rw [hcursor]
        exact hahead
  · exact fun object hobject hfence => ⟨hsettled', (hw.fenced object hobject hfence).absent⟩
  · exact fun sent hsent object hlanding => (hsettled.landed sent hsent object hlanding).elim
  · exact fun hmem hissued => (hissued (hsettled'.issued hmem)).elim
  · intro hbegun
    refine hinitialized.trans (hw.started (hbegun.imp_left fun hmem => ?_))
    rw [← hwriting]
    exact hmem
  · intro op hop hfence hmem
    apply hw.fencing op hop hfence
    rw [← hwriting]
    exact hmem
  · exact fun hmem => (hw.removed hmem).imp_left fun hgone => ⟨hsettled', hgone.absent⟩
  · exact fun hinit => hinitialized.trans hinit
  · intro _ hidle hmem
    apply hidle
    rw [← hwriting]
    exact hmem
  · exact fun hcovers object hreal => hcharged object hreal (hcovers object hreal)
  · exact fun _ hunknown => (hunknown hasked.known).elim
  · exact fun _ _ howned => (howned.unissued (hsettled.issued howned.writing)).elim

theorem moves_release (hw : Inv worker key w) (hgone : Gone worker key w)
    (hasked : Asked key w) :
    Moves worker key w (w.change (SpoolQuota.release key)) := by
  apply moves_row hw hgone.toSettled hasked rfl rfl rfl
  · exact fun _ => Std.ExtTreeMap.getElem?_erase_self
  · exact fun object hreal => (hgone.absent object hreal).elim

theorem entry_modify {quota : SpoolQuota} {f : Entry → Entry} :
    (quota.objects.modify key f)[key]? = (quota.entry key).map f :=
  Std.ExtTreeMap.getElem?_modify_self

theorem moves_observed {size : Nat} (hw : Inv worker key w)
    (hsettled : Settled worker key w) (hasked : Asked key w)
    (hsize : ∀ object, RealAt key w object → object.size ≤ size) :
    Moves worker key w (w.change (SpoolQuota.observed key size)) := by
  apply moves_row hw hsettled hasked rfl rfl rfl
  · intro hnone
    exact entry_modify.trans (by rw [hnone]; rfl)
  · rintro object hreal ⟨entry, hentry, _⟩
    exact ⟨{ entry with state := .stored, sizeBytes := size },
      entry_modify.trans (by rw [hentry]; rfl), hsize object hreal⟩

theorem moves_committed (hw : Inv worker key w) (hsettled : Settled worker key w)
    (hasked : Asked key w) :
    Moves worker key w (w.change (SpoolQuota.committed key)) := by
  apply moves_row hw hsettled hasked rfl rfl rfl
  · intro hnone
    exact entry_modify.trans (by rw [hnone]; rfl)
  · rintro object _ ⟨entry, hentry, hsize⟩
    exact ⟨{ entry with state := .stored }, entry_modify.trans (by rw [hentry]; rfl), hsize⟩

/-- The write of a message is over as far as this instance is concerned. -/
theorem moves_stopWriting (hw : Inv worker key w) (hissued : Issued key w)
    (hunawaited : ∀ sent ∈ w.sent, ∀ object, Landing key object sent → sent.awaited = false) :
    Moves worker key w (w.change (SpoolQuota.stopWriting key)) := by
  have hasked : Asked key w := by
    obtain ⟨op, hop, object, rfl, _⟩ := hissued
    exact ⟨_, (List.mem_filter.mp hop).1, rfl⟩
  have hidle : key ∉ (SpoolQuota.stopWriting key w.state).writing := by
    simp [SpoolQuota.stopWriting]
  have hsettled : Settled worker key w →
      Settled worker key (w.change (SpoolQuota.stopWriting key)) :=
    fun h => ⟨Asked.known hasked, h.landed, fun _ => hissued⟩
  refine ⟨⟨hw.charged, fun object hreal => hsettled (hw.real object hreal), ?_,
    fun entry hentry hstored => hsettled (hw.stored entry hentry hstored), ?_,
    fun hmem => (hidle hmem).elim, fun _ => hw.started (.inr hissued), hw.first,
    fun _ _ _ => hidle, fun hmem => (hw.removed hmem).imp_left fun hgone =>
      ⟨hsettled hgone.toSettled, hgone.absent⟩⟩,
    ⟨id, List.Subset.refl _, List.prefix_refl _, fun _ => Asked.known hasked, hsettled,
      fun _ _ => id, fun _ _ => hidle, id⟩, ?_, ?_⟩
  · intro object hobject hfence
    have hgone := hw.fenced object hobject hfence
    exact ⟨hsettled hgone.toSettled, hgone.absent⟩
  · intro sent hsent object hlanding
    refine ⟨(hw.landing sent hsent object hlanding).1, ?_⟩
    rw [hunawaited sent hsent object hlanding]
    exact fun heq => (by cases heq)
  · exact fun _ hunknown => (hunknown hasked.known).elim
  · exact fun _ _ howned => (howned.unissued hissued).elim

theorem unknown_iff : ¬Known worker key w ↔ key ∉ worker.initial ∧ w.state.entry key = none ∧
    key ∉ w.state.writing ∧ ¬Asked key w ∧ ¬∃ event ∈ w.came, event.Names worker.env key := by
  have hrow : key ∉ w.state.objects ↔ w.state.entry key = none := by
    rw [mem_objects_iff, not_exists]
    exact Option.eq_none_iff_forall_ne_some.symm
  unfold Known Asked
  rw [← hrow]
  simp only [not_or]

theorem creations_of_unasked (h : ¬Asked key w) : creations key w = [] := by
  apply List.filter_eq_nil_iff.mpr
  intro op hop hcreates
  apply h
  cases op with
  | create other object =>
    rw [SpoolOp.creates, decide_eq_true_eq] at hcreates
    subst hcreates
    exact ⟨_, hop, rfl⟩
  | _ => cases hcreates

theorem SpoolQuota.Reserves.le {quota : SpoolQuota} {size size' : Nat}
    (h : quota.Reserves key size) (hle : size' ≤ size) : quota.Reserves key size' := by
  obtain ⟨entry, hentry, hstate, hsize⟩ := h
  exact ⟨entry, hentry, hstate, Nat.le_trans hle hsize⟩

/-- The key of a new message is reserved and marked in one step. -/
theorem reserve_unknown {quota : SpoolQuota} {size : Nat} (hw : Inv worker key w)
    (hunknown : ¬Known worker key w) (hreserves : quota.Reserves key size)
    (hwriting : key ∈ quota.writing) (hinitialized : quota.initialized = true) :
    Inv worker key (w.change fun _ => quota) ∧
      Keeps worker key w (w.change fun _ => quota) ∧
      Owned key size (w.change fun _ => quota) := by
  have hcreations := creations_of_unasked (unknown_iff.mp hunknown).2.2.2.1
  have hunissued : ¬Issued key w := by
    rintro ⟨op, hop, _⟩
    rw [hcreations] at hop
    cases hop
  have habsent : ∀ object, ¬RealAt key w object := fun object hreal =>
    hunknown (hw.real object hreal).known
  have hknown : Known worker key (w.change fun _ => quota) := .inr (.inr (.inl hwriting))
  obtain ⟨entry, hentry, hstate, hsize⟩ := hreserves
  refine ⟨⟨fun object hreal => (habsent object hreal).elim,
    fun object hreal => (habsent object hreal).elim, ?_, ?_, ?_,
    fun _ _ => ⟨entry, hentry, hstate, Nat.zero_le _⟩, fun _ => hinitialized, hw.first, ?_,
    fun hmem => (hunknown (known_of_request hmem rfl)).elim⟩,
    ⟨fun _ => hinitialized, List.Subset.refl _, List.prefix_refl _, fun _ => hknown,
      fun hsettled => (hunknown hsettled.known).elim, fun _ _ => id,
      fun hbefore => (hunknown hbefore).elim,
      fun _ object hreal => (habsent object hreal).elim⟩,
    ⟨hwriting, hunissued, entry, hentry, hstate, hsize⟩⟩
  · exact fun object hobject hfence =>
      (hunknown (hw.fenced object hobject hfence).known).elim
  · intro other hother hstored
    rw [show quota.entry key = some other from hother] at hentry
    cases hentry
    rw [hstate] at hstored
    cases hstored
  · intro sent hsent object hlanding
    exact (hunissued (hlanding.mem_creations hsent)).elim
  · intro op hop
    change op ∈ creations key w at hop
    rw [hcreations] at hop
    cases hop

/-- The write of a message is sent, by the event that made its key. -/
theorem send_original {size : Nat} (hw : Inv worker key w) (howned : Owned key size w)
    (hreal : object.isFence = false) (hsize : object.size ≤ size) :
    Inv worker key (w.send (.create key object)) ∧
      Keeps worker key w (w.send (.create key object)) := by
  have hunsettled : ¬Settled worker key w := fun hsettled =>
    howned.unissued (hsettled.issued howned.writing)
  have hnone : creations key w = [] := by
    apply List.eq_nil_iff_forall_not_mem.mpr
    intro op hop
    by_cases horiginal : op.IsOriginal key
    · exact howned.unissued ⟨op, hop, horiginal⟩
    · exact hw.fencing op hop horiginal howned.writing
  have hcreations : creations key (w.send (.create key object)) = [.create key object] := by
    have happend : creations key (w.send (.create key object)) =
        creations key w ++ [.create key object] := by
      unfold creations
      rw [World.requests_send, List.filter_append]
      simp [SpoolOp.creates]
    rw [happend, hnone, List.nil_append]
  have hissued : Issued key (w.send (.create key object)) := by
    refine ⟨.create key object, ?_, object, rfl, hreal⟩
    rw [hcreations]
    exact List.mem_singleton_self _
  have hknown : Known worker key (w.send (.create key object)) :=
    .inr (.inr (.inl howned.writing))
  refine ⟨⟨fun other hother => (hunsettled (hw.real other hother)).elim,
    fun other hother => (hunsettled (hw.real other hother)).elim,
    fun other hother hfence => (hunsettled (hw.fenced other hother hfence).toSettled).elim,
    fun entry hentry hstored => (hunsettled (hw.stored entry hentry hstored)).elim, ?_,
    fun _ hnot => (hnot hissued).elim, fun _ => hw.started (.inl howned.writing), ?_, ?_, ?_⟩,
    ⟨id, List.Subset.refl _, ?_, fun _ => hknown, fun hsettled => (hunsettled hsettled).elim,
      fun _ _ => id, fun _ => id, id⟩⟩
  · intro sent hsent other hlanding
    rcases List.mem_append.mp hsent with hmem | hmem
    · exact hw.landing sent hmem other hlanding
    · rw [List.mem_singleton] at hmem
      subst hmem
      have hrequest := hlanding.request
      cases hrequest
      exact ⟨howned.reserves.le hsize, fun _ => howned.writing⟩
  · rw [hcreations]
    exact fun _ hop => (by cases hop)
  · rw [hcreations]
    intro op hop hnot
    rw [List.mem_singleton] at hop
    subst hop
    exact (hnot ⟨object, rfl, hreal⟩).elim
  · intro hmem
    rw [World.requests_send, List.mem_append, List.mem_singleton] at hmem
    rcases hmem with hmem | heq
    · exact (hw.removed hmem).imp_left fun hgone => (hunsettled hgone.toSettled).elim
    · cases heq
  · rw [World.requests_send]
    exact List.prefix_append _ _

/-! ### The adoption of a page -/

/-- The key is settled, and what stands under it is no larger than this. -/
structure Sized (worker : Worker) (key : String) (size : Nat) (w : SpoolWorld) : Prop extends Settled worker key w where
  bounded : ∀ object, RealAt key w object → object.size ≤ size

theorem Gone.sized {size : Nat} (h : Gone worker key w) : Sized worker key size w :=
  ⟨h.toSettled, fun object hreal => (h.absent object hreal).elim⟩

/-- What a page tells of the key. -/
structure Adopts (worker : Worker) (key : String) (page : Page) (w : SpoolWorld) : Prop where
  listed : ∀ size, (key, size) ∈ page.objects → Sized worker key size w
  complete : w.state.initialized = false → ∀ object, RealAt key w object → Covers key w ∨
    (key, object.size) ∈ page.objects ∨ ∃ cursor, page.cursor = some cursor ∧ worker.platform.after cursor key = true

section Adopt
variable {objects : List (String × Nat)} {rows : Std.ExtTreeMap String Entry} {entry : Entry}

/-- The rows of a page are added in one write. -/
def adoptRows (rows : Std.ExtTreeMap String Entry) (objects : List (String × Nat)) :
    Std.ExtTreeMap String Entry :=
  objects.foldl (fun rows object => rows.insertIfNew object.1 ⟨object.2, .stored, none⟩) rows

theorem adoptRows_kept (h : rows[key]? = some entry) : (adoptRows rows objects)[key]? = some entry := by
  induction objects generalizing rows with
  | nil => exact h
  | cons object rest ih =>
    apply ih
    rw [Std.ExtTreeMap.getElem?_insertIfNew, if_neg]
    · exact h
    · rintro ⟨heq, hnew⟩
      rw [Std.LawfulEqCmp.compare_eq_iff_eq] at heq
      subst heq
      exact hnew (mem_of_getElem? h)

theorem adoptRows_cases (h : (adoptRows rows objects)[key]? = some entry) :
    rows[key]? = some entry ∨
      (rows[key]? = none ∧ (key, entry.sizeBytes) ∈ objects ∧ entry.state = .stored) := by
  induction objects generalizing rows with
  | nil => exact .inl h
  | cons object rest ih =>
    rcases ih h with hfirst | ⟨hnone, hmem, hstored⟩
    · rw [Std.ExtTreeMap.getElem?_insertIfNew] at hfirst
      split at hfirst
      · rename_i hnew
        obtain ⟨heq, hnew⟩ := hnew
        rw [Std.LawfulEqCmp.compare_eq_iff_eq] at heq
        cases hfirst
        subst heq
        exact .inr ⟨Std.ExtTreeMap.getElem?_eq_none hnew, List.mem_cons_self, rfl⟩
      · exact .inl hfirst
    · refine .inr ⟨?_, List.mem_cons_of_mem _ hmem, hstored⟩
      rw [Std.ExtTreeMap.getElem?_insertIfNew] at hnone
      split at hnone
      · cases hnone
      · exact hnone

theorem adoptRows_listed {size : Nat} (h : (key, size) ∈ objects) :
    ∃ entry, (adoptRows rows objects)[key]? = some entry := by
  induction objects generalizing rows with
  | nil => cases h
  | cons object rest ih =>
    rcases List.mem_cons.mp h with rfl | h
    · have hrow : ∃ entry, (rows.insertIfNew key ⟨size, .stored, none⟩)[key]? = some entry :=
        mem_iff_exists.mp Std.ExtTreeMap.mem_insertIfNew_self
      obtain ⟨entry, hentry⟩ := hrow
      refine ⟨entry, ?_⟩
      change (adoptRows (rows.insertIfNew key ⟨size, .stored, none⟩) rest)[key]? = some entry
      exact adoptRows_kept hentry
    · exact ih h

end Adopt

theorem adopt_objects (page : Page) (quota : SpoolQuota) :
    (quota.adopt page).objects = adoptRows quota.objects page.objects := by
  unfold SpoolQuota.adopt
  cases page.cursor with
  | none => rfl
  | some cursor => rfl

theorem adopt_writing (page : Page) (quota : SpoolQuota) :
    (quota.adopt page).writing = quota.writing := by
  unfold SpoolQuota.adopt
  cases page.cursor with
  | none => rfl
  | some cursor => rfl

section Adopt
variable {page : Page} {entry : Entry}

theorem entry_adopt (hentry : w.state.entry key = some entry) :
    (w.state.adopt page).entry key = some entry := by
  unfold SpoolQuota.entry
  rw [adopt_objects]
  exact adoptRows_kept hentry

theorem mem_writing_adopt :
    key ∈ (w.change (SpoolQuota.adopt page)).state.writing ↔ key ∈ w.state.writing := by
  change key ∈ (w.state.adopt page).writing ↔ _
  rw [adopt_writing]

theorem Adopts.entry_cases (hadopts : Adopts worker key page w)
    (hentry : (w.state.adopt page).entry key = some entry) :
    w.state.entry key = some entry ∨ (w.state.entry key = none ∧
      Sized worker key entry.sizeBytes w ∧ entry.state = .stored) := by
  unfold SpoolQuota.entry at hentry
  rw [adopt_objects] at hentry
  exact (adoptRows_cases hentry).imp_right fun ⟨hnone, hmem, hstored⟩ =>
    ⟨hnone, hadopts.listed _ hmem, hstored⟩

theorem known_adopt (h : Known worker key w) :
    Known worker key (w.change (SpoolQuota.adopt page)) := by
  rcases h with h | h | h | h
  · exact .inl h
  · obtain ⟨entry, hentry⟩ := mem_objects_iff.mp h
    exact .inr (.inl (mem_of_getElem? (entry_adopt hentry)))
  · exact .inr (.inr (.inl (mem_writing_adopt.mpr h)))
  · exact .inr (.inr (.inr h))

theorem Adopts.known (hadopts : Adopts worker key page w)
    (h : Known worker key (w.change (SpoolQuota.adopt page))) : Known worker key w := by
  rcases h with h | h | h | h
  · exact .inl h
  · obtain ⟨entry, hentry⟩ := mem_objects_iff.mp h
    rcases hadopts.entry_cases hentry with hold | ⟨_, hsized, _⟩
    · exact .inr (.inl (mem_of_getElem? hold))
    · exact hsized.known
  · exact .inr (.inr (.inl (mem_writing_adopt.mp h)))
  · exact .inr (.inr (.inr h))

theorem settled_adopt (h : Settled worker key w) :
    Settled worker key (w.change (SpoolQuota.adopt page)) :=
  ⟨known_adopt h.known, h.landed, fun hmem => h.issued (mem_writing_adopt.mp hmem)⟩

theorem charges_adopt (h : w.state.Charges key object) : (w.state.adopt page).Charges key object := by
  obtain ⟨entry, hentry, hsize⟩ := h
  exact ⟨entry, entry_adopt hentry, hsize⟩

theorem reserves_adopt {size : Nat} (h : w.state.Reserves key size) :
    (w.state.adopt page).Reserves key size := by
  obtain ⟨entry, hentry, hstate⟩ := h
  exact ⟨entry, entry_adopt hentry, hstate⟩

theorem initialized_adopt (h : w.state.initialized = true) :
    (w.state.adopt page).initialized = true := by
  unfold SpoolQuota.adopt
  cases page.cursor with
  | none => rfl
  | some cursor => exact h

/-- A row that is there after the adoption is large enough, whether it is new or not; without one
nothing was adopted under the key, and it comes after the page. -/
theorem Adopts.charged (hadopts : Adopts worker key page w) (hw : Inv worker key w)
    (hreal : RealAt key w object) : (w.state.adopt page).Charges key object ∨
      ((w.state.adopt page).entry key = none ∧ (w.state.adopt page).initialized = false ∧
        comesAfter worker.platform.after (w.state.adopt page).initialCursor key = true) := by
  rcases hw.charged object hreal with hcharged | ⟨hnone, hinit, _⟩
  · exact .inl (charges_adopt hcharged)
  cases hentry : (w.state.adopt page).entry key with
  | some entry =>
    rcases hadopts.entry_cases hentry with hold | ⟨_, hsized, _⟩
    · rw [hnone] at hold
      cases hold
    · exact .inl ⟨entry, hentry, hsized.bounded object hreal⟩
  | none =>
    rcases hadopts.complete hinit object hreal with hcovers | hmem | ⟨cursor, hcursor, hahead⟩
    · exact .inl (charges_adopt (hcovers object hreal))
    · have hsome : ∃ entry, (adoptRows w.state.objects page.objects)[key]? = some entry :=
        adoptRows_listed hmem
      obtain ⟨entry, hsome⟩ := hsome
      unfold SpoolQuota.entry at hentry
      rw [adopt_objects, hsome] at hentry
      cases hentry
    · refine .inr ⟨rfl, ?_⟩
      simp only [SpoolQuota.adopt, hcursor]
      exact ⟨hinit, hahead⟩

/-- The rows of the objects of a page are added, and the listing goes on after it. -/
theorem moves_adopt (hw : Inv worker key w) (hadopts : Adopts worker key page w) :
    Moves worker key w (w.change (SpoolQuota.adopt page)) := by
  have hgone : Gone worker key w → Gone worker key (w.change (SpoolQuota.adopt page)) :=
    fun h => ⟨settled_adopt h.toSettled, h.absent⟩
  refine ⟨⟨fun object hreal => hadopts.charged hw hreal,
    fun object hreal => settled_adopt (hw.real object hreal),
    fun object hobject hfence => hgone (hw.fenced object hobject hfence), ?_, ?_, ?_, ?_, hw.first,
    ?_, fun hmem => (hw.removed hmem).imp_left hgone⟩,
    ⟨initialized_adopt, List.Subset.refl _, List.prefix_refl _, known_adopt, settled_adopt,
      fun _ _ => id, fun _ hidle hmem => hidle (mem_writing_adopt.mp hmem),
      fun hcovers object hreal => charges_adopt (hcovers object hreal)⟩,
    fun _ hunknown hknown => hunknown (hadopts.known hknown), ?_⟩
  · intro entry hentry hstored
    rcases hadopts.entry_cases hentry with hold | ⟨_, hsized, _⟩
    · exact settled_adopt (hw.stored entry hold hstored)
    · exact settled_adopt hsized.toSettled
  · intro sent hsent object hlanding
    obtain ⟨hrow, hwrites⟩ := hw.landing sent hsent object hlanding
    exact ⟨reserves_adopt hrow, fun hawaited => mem_writing_adopt.mpr (hwrites hawaited)⟩
  · exact fun hmem hissued => reserves_adopt (hw.reserved (mem_writing_adopt.mp hmem) hissued)
  · exact fun hbegun => initialized_adopt (hw.started (hbegun.imp_left mem_writing_adopt.mp))
  · exact fun op hop hfence hmem => hw.fencing op hop hfence (mem_writing_adopt.mp hmem)
  · exact fun _ size howned => ⟨mem_writing_adopt.mpr howned.writing, howned.unissued,
      reserves_adopt howned.reserves⟩

end Adopt

end AgentFirstMail.Spool
