import AgentFirstMail.Transport.MailServer

namespace AgentFirstMail
open Effect Wire

theorem toString_injective {m n : Nat} (h : toString m = toString n) : m = n := by
  have hdigits : Nat.toDigits 10 m = Nat.toDigits 10 n := by
    have hlist := congrArg String.toList h
    change (String.ofList _).toList = (String.ofList _).toList at hlist
    rwa [String.toList_ofList, String.toList_ofList] at hlist
  rw [← @Nat.ofDigitChars_toDigits 10 m (by decide) (by decide), hdigits,
    Nat.ofDigitChars_toDigits (by decide) (by decide)]

/-- What is read behind a quote is what was quoted. -/
theorem unquoteFrom_escaped {name other : List Char}
    (h : unquoteFrom ((name.flatMap fun c => if c = '\\' || c = '"' then ['\\', c] else [c]) ++
      ['"']) = some other) : other = name := by
  induction name generalizing other with
  | nil =>
    cases h
    rfl
  | cons c rest ih =>
    rw [List.flatMap_cons, List.append_assoc] at h
    by_cases hc : c = '\\' ∨ c = '"'
    · rw [if_pos (by simpa using hc)] at h
      change (if c = '\\' ∨ c = '"' then _ else none) = _ at h
      rw [if_pos hc] at h
      obtain ⟨others, hothers, rfl⟩ := Option.map_eq_some_iff.mp h
      rw [ih hothers]
    · rw [if_neg (by simpa using hc), List.singleton_append] at h
      rw [not_or] at hc
      generalize htail : (rest.flatMap fun c => if c = '\\' || c = '"' then ['\\', c] else [c]) ++
        ['"'] = tail at h ih
      unfold unquoteFrom at h
      split at h
      · rename_i heq
        cases heq
      · rename_i heq
        cases heq
        exact absurd rfl hc.1
      · rename_i heq
        cases heq
        rw [if_neg hc.2] at h
        split at h
        · cases h
        · obtain ⟨others, hothers, rfl⟩ := Option.map_eq_some_iff.mp h
          rw [ih hothers]

theorem unquote_quoteMailboxName {name other : String}
    (h : unquote (quoteMailboxName name) = some other) : other = name := by
  have hchars : (quoteMailboxName name).toList = '"' :: ((name.toList.flatMap fun c =>
      if c = '\\' || c = '"' then ['\\', c] else [c]) ++ ['"']) := by
    simp [quoteMailboxName, escapeQuoted, toString]
  rw [unquote, hchars] at h
  obtain ⟨chars, hread, rfl⟩ := Option.map_eq_some_iff.mp h
  rw [unquoteFrom_escaped hread, String.ofList_toList]

/-- A receipt is what the first code in the response comes to. -/
theorem parseCopyuidReceipt_eq (library : ImapLibrary) (response : Bytes) :
    parseCopyuidReceipt library response =
      (findCopyUid library response).bind CopyUidCode.receipt := by
  induction response using findCopyUid.induct library with
  | case1 response hempty =>
    rw [parseCopyuidReceipt, findCopyUid, if_pos hempty, if_pos hempty]
    rfl
  | case2 response hempty hparse =>
    rw [parseCopyuidReceipt, findCopyUid, if_neg hempty, if_neg hempty, hparse]
    rfl
  | case3 response hempty remaining parsed hparse code hcode =>
    rw [parseCopyuidReceipt, findCopyUid, if_neg hempty, if_neg hempty, hparse]
    simp only [hcode]
    rfl
  | case4 response hempty remaining parsed hparse hcode hshorter ih =>
    rw [parseCopyuidReceipt, findCopyUid, if_neg hempty, if_neg hempty, hparse]
    simp only [hcode, if_pos hshorter]
    exact ih
  | case5 response hempty remaining parsed hparse hcode hshorter =>
    rw [parseCopyuidReceipt, findCopyUid, if_neg hempty, if_neg hempty, hparse]
    simp only [hcode, if_neg hshorter]
    rfl

/-- A member is expanded to the UIDs in it, if these are not too many. -/
theorem expandUidSetFrom_cons {member : UidSetMember} {rest : List UidSetMember}
    {out expanded : List Nat} (h : expandUidSetFrom out (member :: rest) = some expanded) :
    (out ++ member.uids).length ≤ copyuidMaxExpandedUids ∧
      expandUidSetFrom (out ++ member.uids) rest = some expanded := by
  cases member with
  | uid value =>
    change (if _ then none else _) = _ at h
    split at h
    · cases h
    · rename_i hfits
      exact ⟨Nat.le_of_not_lt hfits, h⟩
  | uidRange first last =>
    unfold expandUidSetFrom at h
    dsimp only at h
    split at h
    · cases h
    · rename_i hrange
      rw [Bool.or_eq_true, decide_eq_true_iff, decide_eq_true_iff] at hrange
      have hle : first ≤ last := by omega
      rw [UidSetMember.uids, Nat.min_eq_left hle, Nat.max_eq_right hle]
      change (if _ then none else _) = _ at h
      split at h
      · cases h
      · rename_i hfits
        exact ⟨Nat.le_of_not_lt hfits, h⟩

theorem expandUidSetFrom_eq_some {members : List UidSetMember} {out expanded : List Nat}
    (h : expandUidSetFrom out members = some expanded)
    (hout : out.length ≤ copyuidMaxExpandedUids) :
    expanded = out ++ uidsOf members ∧ expanded.length ≤ copyuidMaxExpandedUids := by
  induction members generalizing out with
  | nil =>
    cases h
    rw [uidsOf, List.flatMap_nil, List.append_nil]
    exact ⟨rfl, hout⟩
  | cons member rest ih =>
    obtain ⟨hfits, h⟩ := expandUidSetFrom_cons h
    obtain ⟨heq, hlength⟩ := ih h hfits
    refine ⟨?_, hlength⟩
    rw [heq, uidsOf, uidsOf, List.flatMap_cons, List.append_assoc]

theorem expandUidSet_eq_some {members : List UidSetMember} {expanded : List Nat}
    (h : expandUidSet members = some expanded) :
    expanded = uidsOf members ∧ expanded.length ≤ copyuidMaxExpandedUids :=
  expandUidSetFrom_eq_some h (Nat.zero_le _)

/-- A receipt maps a source that it names exactly once, in sets of one length. -/
theorem CopyUidReceipt.targetFor_eq_some {receipt : CopyUidReceipt} {uid target : Nat}
    (h : receipt.targetFor uid = some target) :
    receipt.sourceUids.length = receipt.targetUids.length ∧ receipt.sourceUids.count uid = 1 ∧
      (uid, target) ∈ receipt.sourceUids.zip receipt.targetUids := by
  unfold targetFor at h
  split at h
  · cases h
  · rename_i hlength
    have hlength := of_not_not hlength
    split at h
    · rename_i source _ hfilter
      cases h
      have hmem : (source, target) ∈ (receipt.sourceUids.zip receipt.targetUids).filter
          (·.1 == uid) := by
        rw [hfilter]
        exact List.mem_singleton_self _
      obtain ⟨hzip, hsource⟩ := List.mem_filter.mp hmem
      cases eq_of_beq hsource
      refine ⟨hlength, ?_, hzip⟩
      have hsources : (receipt.sourceUids.zip receipt.targetUids).map Prod.fst =
          receipt.sourceUids := List.map_fst_zip (Nat.le_of_eq hlength)
      rw [← hsources, List.count_eq_countP, List.countP_map, List.countP_eq_length_filter]
      exact congrArg List.length hfilter
    · cases h

theorem TellsPlace.target {library : ImapLibrary} {response : Bytes} {uid target : Nat}
    {place : Option (Nat × Nat)} {receipt : CopyUidReceipt}
    (h : TellsPlace library response uid place)
    (hreceipt : parseCopyuidReceipt library response = some receipt)
    (htarget : receipt.targetFor uid = some target) :
    place = some (receipt.uidValidity, target) := by
  rw [parseCopyuidReceipt_eq] at hreceipt
  obtain ⟨code, hcode, hreceipt⟩ := Option.bind_eq_some_iff.mp hreceipt
  obtain ⟨sources, hsources, hreceipt⟩ := Option.bind_eq_some_iff.mp hreceipt
  obtain ⟨targets, htargets, hreceipt⟩ := Option.bind_eq_some_iff.mp hreceipt
  cases hreceipt
  obtain ⟨hlength, _, hmem⟩ := CopyUidReceipt.targetFor_eq_some htarget
  rw [(expandUidSet_eq_some hsources).1, (expandUidSet_eq_some htargets).1] at hlength hmem
  exact h code hcode hlength target hmem

/-- The response to a move, or to the copy in its place. -/
def WireEvent.moveResponse? : WireEvent → Option Bytes
  | ⟨.uidMove .., _, some (.ok ⟨.ok response, _⟩)⟩ => some response
  | ⟨.uidCopy .., _, some (.ok ⟨.ok response, _⟩)⟩ => some response
  | _ => none

def moveResponses (events : List WireEvent) : List Bytes := events.filterMap (·.moveResponse?)

theorem moveResponses_append (before after : List WireEvent) :
    moveResponses (before ++ after) = moveResponses before ++ moveResponses after :=
  List.filterMap_append

/-- What a move of a UID comes to in the target: the message is put there under a free UID, or
there is no message. -/
inductive MoveServed (library : ImapLibrary) (server : MailServer μ) (source : String) (uid : Nat)
    (target : String) (response : Bytes) : ServerMailbox μ → Prop
  | placed (message : μ) (fresh : Nat)
      (hexists : (server.mailboxes source).messages uid = some message)
      (hfresh : (server.mailboxes target).messages fresh = none)
      (htells : TellsPlace library response uid
        (some ((server.mailboxes target).uidValidity, fresh))) :
      MoveServed library server source uid target response
        ((server.mailboxes target).put fresh (some message))
  | nothing (hmissing : (server.mailboxes source).messages uid = none)
      (htells : TellsPlace library response uid none) :
      MoveServed library server source uid target response (server.mailboxes target)

section Runs
variable {μ : Type} {library : ImapLibrary} {satisfies : μ → String → Prop}
  {server server' : MailServer μ} {events : List WireEvent}

abbrev WireReturns (library : ImapLibrary) (satisfies : μ → String → Prop) (program : Wire α)
    (server : MailServer μ) (events : List WireEvent) (value : α) (server' : MailServer μ) : Prop :=
  ReturnsIn (RfcServer library satisfies) program () server events value () server'

theorem WireReturns.of_imap {code : String} {reply : Except ImapFailure α} {value : α}
    (h : WireReturns library satisfies (imap code reply) server events value server') :
    reply = .ok value ∧ server' = server ∧ events = [] := by
  cases reply with
  | error failure => exact (ReturnsIn.of_fail h).elim
  | ok other =>
    obtain ⟨rfl, _, hserver, hevents⟩ := ReturnsIn.of_ret h
    exact ⟨rfl, hserver, hevents⟩

theorem WireReturns.of_select {folder code : String} {next : Option Nat → Wire α} {value : α}
    (h : WireReturns library satisfies (call (.select folder) >>= fun status =>
      imap code status >>= next) server events value server') :
    ∃ rest, moveResponses events = moveResponses rest ∧
      WireReturns library satisfies (next (some (server.mailboxes folder).uidValidity))
        (server.select folder) rest value server' := by
  obtain ⟨status, before, after, _, between, rfl, hcall, hnext⟩ := ReturnsIn.of_bind h
  obtain ⟨hanswer, _, rfl⟩ := ReturnsIn.of_perform hcall
  obtain ⟨actual, before, after, _, _, rfl, himap, hrest⟩ := ReturnsIn.of_bind hnext
  obtain ⟨rfl, rfl, rfl⟩ := WireReturns.of_imap himap
  cases hanswer
  exact ⟨after, rfl, hrest⟩

theorem WireReturns.of_capabilityHas {capability : String} {supported : Bool}
    (h : WireReturns library satisfies (capabilityHas capability) server events supported server') :
    server' = server ∧ moveResponses events = [] := by
  obtain ⟨reply, before, after, _, between, rfl, hcall, hnext⟩ := ReturnsIn.of_bind h
  obtain ⟨hanswer, _, rfl⟩ := ReturnsIn.of_perform hcall
  obtain ⟨capabilities, before, after, _, _, rfl, himap, hrest⟩ := ReturnsIn.of_bind hnext
  obtain ⟨rfl, rfl, rfl⟩ := WireReturns.of_imap himap
  obtain ⟨_, _, rfl, rfl⟩ := ReturnsIn.of_ret hrest
  cases hanswer
  exact ⟨rfl, rfl⟩

theorem WireReturns.of_moveSupport {moved supported : Bool}
    (h : WireReturns library satisfies (moveSupport moved) server events supported server') :
    server' = server ∧ moveResponses events = [] := by
  unfold moveSupport at h
  cases moved with
  | false =>
    obtain ⟨_, _, rfl, rfl⟩ := ReturnsIn.of_ret h
    exact ⟨rfl, rfl⟩
  | true =>
    rw [if_pos rfl] at h
    obtain ⟨can, before, after, _, between, rfl, hcan, hnext⟩ := ReturnsIn.of_bind h
    obtain ⟨rfl, hbefore⟩ := WireReturns.of_capabilityHas hcan
    rw [moveResponses_append, hbefore]
    cases can with
    | true =>
      obtain ⟨_, _, rfl, rfl⟩ := ReturnsIn.of_ret hnext
      exact ⟨rfl, rfl⟩
    | false =>
      obtain ⟨_, before, after, _, _, rfl, hrequire, hrest⟩ := ReturnsIn.of_bind hnext
      obtain ⟨_, _, rfl, rfl⟩ := ReturnsIn.of_ret hrest
      obtain ⟨_, before, after, _, _, rfl, hcan, hlast⟩ := ReturnsIn.of_bind hrequire
      obtain ⟨rfl, hbefore⟩ := WireReturns.of_capabilityHas hcan
      obtain ⟨_, _, rfl, rfl⟩ := ReturnsIn.of_ofExcept hlast
      rw [List.append_nil, List.append_nil, hbefore]
      exact ⟨rfl, rfl⟩

theorem WireReturns.of_storeSeen {uid : Nat} {markSeen seen : Bool}
    (h : WireReturns library satisfies (storeSeen uid markSeen) server events seen server') :
    server' = server ∧ moveResponses events = [] := by
  unfold storeSeen at h
  cases markSeen with
  | false =>
    obtain ⟨_, _, rfl, rfl⟩ := ReturnsIn.of_ret h
    exact ⟨rfl, rfl⟩
  | true =>
    rw [if_pos rfl] at h
    obtain ⟨served, before, after, _, between, rfl, hcall, hnext⟩ := ReturnsIn.of_bind h
    obtain ⟨hanswer, _, rfl⟩ := ReturnsIn.of_perform hcall
    obtain ⟨_, before, after, _, _, rfl, himap, hrest⟩ := ReturnsIn.of_bind hnext
    obtain ⟨_, rfl, rfl⟩ := WireReturns.of_imap himap
    obtain ⟨_, _, rfl, rfl⟩ := ReturnsIn.of_ret hrest
    cases hanswer
    exact ⟨rfl, rfl⟩

theorem WireReturns.of_storeKeyword {uid : Nat} {keyword : Option String}
    {stored : Bool × Option String}
    (h : WireReturns library satisfies (storeKeyword uid keyword) server events stored server') :
    server' = server ∧ moveResponses events = [] := by
  cases keyword with
  | none =>
    obtain ⟨_, _, rfl, rfl⟩ := ReturnsIn.of_ret h
    exact ⟨rfl, rfl⟩
  | some keyword =>
    obtain ⟨served, before, after, _, between, rfl, hcall, hnext⟩ := ReturnsIn.of_bind h
    obtain ⟨hanswer, _, rfl⟩ := ReturnsIn.of_perform hcall
    cases hanswer
    split at hnext
    · obtain ⟨_, _, rfl, rfl⟩ := ReturnsIn.of_ret hnext
      exact ⟨rfl, rfl⟩
    · obtain ⟨_, _, rfl, rfl⟩ := ReturnsIn.of_ret hnext
      exact ⟨rfl, rfl⟩

theorem WireReturns.of_uidMove {uid : Nat} {source target : String}
    {receipt : Option CopyUidReceipt}
    (h : WireReturns library satisfies (uidMoveWithReceipt library uid target) server events receipt
      server') (hselected : server.selected = some source) (hne : target ≠ source) :
    ∃ response, moveResponses events = [response] ∧
      receipt = parseCopyuidReceipt library response ∧
      MoveServed library server source uid target response (server'.mailboxes target) := by
  obtain ⟨served, before, after, _, between, rfl, hcall, hnext⟩ := ReturnsIn.of_bind h
  obtain ⟨hanswer, _, rfl⟩ := ReturnsIn.of_perform hcall
  cases hanswer with
  | uidMove hsource htarget hexists hfresh htells applied =>
    obtain ⟨rfl, _, rfl, rfl⟩ := ReturnsIn.of_ret hnext
    cases hselected.symm.trans hsource
    cases unquote_quoteMailboxName htarget
    refine ⟨_, rfl, rfl, ?_⟩
    rw [MailServer.put_mailboxes_self, MailServer.put_mailboxes_of_ne _ _ _ hne]
    exact .placed _ _ hexists hfresh htells
  | uidMoveNothing hsource hmissing htells applied =>
    obtain ⟨rfl, _, rfl, rfl⟩ := ReturnsIn.of_ret hnext
    cases hselected.symm.trans hsource
    exact ⟨_, rfl, rfl, .nothing hmissing htells⟩
  | uidMoveRefused failure applied => exact (ReturnsIn.of_fail hnext).elim

theorem RfcServer.of_uidExpunge {text : String} {served : Served ImapFailure Unit}
    (h : RfcServer library satisfies (.uidExpunge text) server served server') :
    ∃ uid folder message, server.selected = some folder ∧
      server' = server.put folder uid message := by
  cases h with
  | uidExpunge uid hselected _ _ => exact ⟨uid, _, _, hselected, rfl⟩

theorem RfcServer.of_uidCopy {text target : String} {response : Bytes} {applied : Bool}
    {source : String}
    (h : RfcServer library satisfies (.uidCopy text (quoteMailboxName target)) server
      ⟨.ok response, applied⟩ server') (hselected : server.selected = some source) :
    ∃ uid, text = toString uid ∧ server'.selected = some source ∧
      MoveServed library server source uid target response (server'.mailboxes target) := by
  cases h with
  | uidCopy hsource htarget hexists hfresh htells applied =>
    cases hselected.symm.trans hsource
    cases unquote_quoteMailboxName htarget
    refine ⟨_, rfl, hselected, ?_⟩
    rw [MailServer.put_mailboxes_self]
    exact .placed _ _ hexists hfresh htells
  | uidCopyNothing hsource hmissing htells applied =>
    cases hselected.symm.trans hsource
    exact ⟨_, rfl, hselected, .nothing hmissing htells⟩

/-- A flag and an expunge in the source leave the target alone. -/
theorem WireReturns.of_expunge {uid : Nat} {receipt result : Option CopyUidReceipt}
    {source target : String}
    (h : WireReturns library satisfies (do
      let deleted ← call (.uidStore (toString uid) "+FLAGS.SILENT (\\Deleted)")
      imap "imap_store_failed" deleted.reply
      let expunged ← call (.uidExpunge (toString uid))
      imap "imap_expunge_failed" expunged.reply
      return receipt) server events result server')
    (hselected : server.selected = some source) (hne : target ≠ source) :
    result = receipt ∧ moveResponses events = [] ∧
      server'.mailboxes target = server.mailboxes target := by
  obtain ⟨deleted, before, after, _, between, rfl, hcall, hnext⟩ := ReturnsIn.of_bind h
  obtain ⟨hanswer, _, rfl⟩ := ReturnsIn.of_perform hcall
  cases hanswer
  obtain ⟨_, before, after, _, _, rfl, himap, hrest⟩ := ReturnsIn.of_bind hnext
  obtain ⟨_, rfl, rfl⟩ := WireReturns.of_imap himap
  obtain ⟨expunged, before, after, _, between, rfl, hcall, hlast⟩ := ReturnsIn.of_bind hrest
  obtain ⟨hanswer, _, rfl⟩ := ReturnsIn.of_perform hcall
  obtain ⟨_, before, after, _, _, rfl, himap, hend⟩ := ReturnsIn.of_bind hlast
  obtain ⟨_, rfl, rfl⟩ := WireReturns.of_imap himap
  obtain ⟨rfl, _, rfl, rfl⟩ := ReturnsIn.of_ret hend
  obtain ⟨_, folder, _, hfolder, rfl⟩ := RfcServer.of_uidExpunge hanswer
  cases hselected.symm.trans hfolder
  exact ⟨rfl, rfl, MailServer.put_mailboxes_of_ne _ _ _ hne⟩

theorem WireReturns.of_uidCopy {uid : Nat} {source target : String}
    {receipt : Option CopyUidReceipt}
    (h : WireReturns library satisfies (uidCopyDeleteExpunge library uid target) server events
      receipt server') (hselected : server.selected = some source) (hne : target ≠ source) :
    ∃ response, moveResponses events = [response] ∧
      receipt = parseCopyuidReceipt library response ∧
      MoveServed library server source uid target response (server'.mailboxes target) := by
  obtain ⟨served, before, after, _, between, rfl, hcall, hnext⟩ := ReturnsIn.of_bind h
  obtain ⟨hanswer, _, rfl⟩ := ReturnsIn.of_perform hcall
  obtain ⟨reply, applied⟩ := served
  cases reply with
  | error failure => exact (ReturnsIn.of_fail hnext).elim
  | ok response =>
    obtain ⟨other, htext, hstill, hserved⟩ := RfcServer.of_uidCopy hanswer hselected
    cases toString_injective htext
    obtain ⟨rfl, hafter, htarget⟩ := WireReturns.of_expunge hnext hstill hne
    rw [moveResponses_append, hafter, htarget]
    exact ⟨response, rfl, rfl, hserved⟩

theorem WireReturns.of_moveOrCopy {moveSupported : Bool} {uid : Nat} {source target : String}
    {receipt : Option CopyUidReceipt}
    (h : WireReturns library satisfies (moveOrCopy library moveSupported uid target) server events
      receipt server') (hselected : server.selected = some source) (hne : target ≠ source) :
    ∃ response, moveResponses events = [response] ∧
      receipt = parseCopyuidReceipt library response ∧
      MoveServed library server source uid target response (server'.mailboxes target) := by
  cases moveSupported with
  | true => exact WireReturns.of_uidMove h hselected hne
  | false => exact WireReturns.of_uidCopy h hselected hne

/-- A search that returns found the only message that it can find. -/
theorem WireReturns.of_findUidByMessageId {now folder rfc822MessageId : String}
    {location : RemoteLocation}
    (h : WireReturns library satisfies (findUidByMessageId now folder rfc822MessageId) server events
      location server') :
    ∃ uid, location = foundLocation now folder (server.mailboxes folder).uidValidity uid ∧
      (∀ other, (∃ message, (server.mailboxes folder).messages other = some message ∧
        satisfies message (messageIdQuery rfc822MessageId)) ↔ other = uid) ∧
      server'.mailboxes = server.mailboxes ∧ moveResponses events = [] := by
  obtain ⟨status, before, after, _, between, rfl, hcall, hnext⟩ := ReturnsIn.of_bind h
  obtain ⟨hanswer, _, rfl⟩ := ReturnsIn.of_perform hcall
  obtain ⟨uidValidity, before, after, _, _, rfl, himap, hrest⟩ := ReturnsIn.of_bind hnext
  obtain ⟨rfl, rfl, rfl⟩ := WireReturns.of_imap himap
  cases hanswer
  obtain ⟨found, before, after, _, between, rfl, hcall, hlast⟩ := ReturnsIn.of_bind hrest
  obtain ⟨hanswer, _, rfl⟩ := ReturnsIn.of_perform hcall
  obtain ⟨uids, before, after, _, _, rfl, himap, hend⟩ := ReturnsIn.of_bind hlast
  obtain ⟨rfl, rfl, rfl⟩ := WireReturns.of_imap himap
  cases hanswer with
  | uidSearch hselected hfound =>
    cases hselected
    split at hend
    · exact (ReturnsIn.of_fail hend).elim
    · rename_i uid hdups
      obtain ⟨rfl, _, rfl, rfl⟩ := ReturnsIn.of_ret hend
      refine ⟨uid, rfl, ?_, rfl, rfl⟩
      intro other
      rw [← List.mem_singleton, ← hdups, List.mem_eraseDups]
      exact (hfound other).symm
    · exact (ReturnsIn.of_fail hend).elim

/-- Where a moved message is said to be, and why. -/
inductive Located (satisfies : μ → String → Prop) (now : String) (receipt : Option CopyUidReceipt)
    (uid : Nat) (target : String) (mailbox : ServerMailbox μ) :
    Option String → Option RemoteLocation → Prop
  | told (sent : CopyUidReceipt) (placed : Nat) (hreceipt : receipt = some sent)
      (htarget : sent.targetFor uid = some placed) :
      Located satisfies now receipt uid target mailbox messageId
        (some (foundLocation now target sent.uidValidity placed))
  | unknown (hnone : ∀ sent, receipt = some sent → sent.targetFor uid = none) :
      Located satisfies now receipt uid target mailbox none none
  | searched (messageId : String) (found : Nat)
      (hnone : ∀ sent, receipt = some sent → sent.targetFor uid = none)
      (honly : ∀ other, (∃ message, mailbox.messages other = some message ∧
        satisfies message (messageIdQuery messageId)) ↔ other = found) :
      Located satisfies now receipt uid target mailbox (some messageId)
        (some (foundLocation now target mailbox.uidValidity found))

theorem WireReturns.of_locateMoved {now target : String} {moved : Bool} {uid : Nat}
    {receipt : Option CopyUidReceipt} {messageId : Option String} {location : Option RemoteLocation}
    (h : WireReturns library satisfies (locateMoved now moved receipt uid target messageId) server
      events location server') :
    Located satisfies now receipt uid target (server.mailboxes target) messageId location ∧
      server'.mailboxes = server.mailboxes ∧ moveResponses events = [] := by
  unfold locateMoved at h
  split at h
  · rename_i uidValidity placed hplaced
    obtain ⟨rfl, _, rfl, rfl⟩ := ReturnsIn.of_ret h
    obtain ⟨sent, hsent, hmap⟩ := Option.bind_eq_some_iff.mp hplaced
    obtain ⟨_, htarget, heq⟩ := Option.map_eq_some_iff.mp hmap
    cases heq
    exact ⟨.told sent _ hsent htarget, rfl, rfl⟩
  · rename_i messageId hnone
    have hfound := ReturnsIn.of_tryCatch (by
      intro error
      split
      · exact ⟨_, rfl⟩
      · exact ⟨_, rfl⟩) h
    obtain ⟨found, before, after, _, between, rfl, hfind, hnext⟩ := ReturnsIn.of_bind hfound
    obtain ⟨rfl, _, rfl, rfl⟩ := ReturnsIn.of_ret hnext
    obtain ⟨_, rfl, honly, hsame, hresponses⟩ := WireReturns.of_findUidByMessageId hfind
    refine ⟨.searched _ _ ?_ honly, hsame, ?_⟩
    · intro sent hsent
      rw [hsent] at hnone
      exact Option.map_eq_none_iff.mp hnone
    · rw [moveResponses_append, hresponses]
      rfl
  · rename_i hnone
    obtain ⟨rfl, _, rfl, rfl⟩ := ReturnsIn.of_ret h
    refine ⟨.unknown ?_, rfl, rfl⟩
    intro sent hsent
    rw [hsent] at hnone
    exact Option.map_eq_none_iff.mp hnone

/-- The message that was under the UID is at the location. -/
def MovedTo (before after : MailServer μ) (source : String) (uid : Nat)
    (location : RemoteLocation) : Prop :=
  ∃ message placed, (before.mailboxes source).messages uid = some message ∧
    location.uid = some placed ∧
    location.uidValidity = some (after.mailboxes location.mailboxName).uidValidity ∧
    (after.mailboxes location.mailboxName).messages placed = some message

/-- What a client owes that tells where it moved a message. -/
structure AttributesMove (before after : MailServer μ) (source : String) (uid : Nat)
    (target : String) (outcome : MoveOutcome) : Prop where
  attributed : outcome.moved = true → ∀ location, outcome.targetLocation = some location →
    location.mailboxName = target ∧ MovedTo before after source uid location
  mapped : ∀ (receipt : CopyUidReceipt) (uid placed : Nat), receipt.targetFor uid = some placed →
    receipt.sourceUids.length = receipt.targetUids.length ∧ receipt.sourceUids.count uid = 1 ∧
    (uid, placed) ∈ receipt.sourceUids.zip receipt.targetUids
  bounded : ∀ members expanded, expandUidSet members = some expanded →
    expanded = uidsOf members ∧ expanded.length ≤ copyuidMaxExpandedUids

/-- There is no move; or the response maps the UID; or nothing is searched for; or the search is for
the message that is under the UID. -/
inductive TargetKnown (library : ImapLibrary) (satisfies : μ → String → Prop)
    (server : MailServer μ) (source : String) (uid : Nat) (target : String)
    (events : List WireEvent) : Option String → Prop
  | unmoved (h : source = target) :
      TargetKnown library satisfies server source uid target events messageId
  | reported (response : Bytes) (receipt : CopyUidReceipt) (placed : Nat)
      (hresponse : response ∈ moveResponses events)
      (hreceipt : parseCopyuidReceipt library response = some receipt)
      (hplaced : receipt.targetFor uid = some placed) :
      TargetKnown library satisfies server source uid target events messageId
  | unsearched : TargetKnown library satisfies server source uid target events none
  | found (message : μ) (id : String)
      (hexists : (server.mailboxes source).messages uid = some message)
      (hfound : satisfies message (messageIdQuery id)) :
      TargetKnown library satisfies server source uid target events (some id)

theorem MoveServed.told {source target now : String} {uid placed : Nat} {response : Bytes}
    {mailbox : ServerMailbox μ} {receipt : CopyUidReceipt}
    (h : MoveServed library server source uid target response mailbox)
    (hmailbox : server'.mailboxes target = mailbox)
    (hreceipt : parseCopyuidReceipt library response = some receipt)
    (hplaced : receipt.targetFor uid = some placed) :
    MovedTo server server' source uid (foundLocation now target receipt.uidValidity placed) := by
  cases h with
  | placed message fresh hexists hfresh htells =>
    obtain ⟨hvalidity, rfl⟩ := Prod.mk.inj (Option.some.inj (htells.target hreceipt hplaced))
    refine ⟨message, fresh, hexists, rfl, ?_, ?_⟩
    · change some receipt.uidValidity = some (server'.mailboxes target).uidValidity
      rw [hmailbox, ← hvalidity]
      rfl
    · change (server'.mailboxes target).messages fresh = _
      rw [hmailbox]
      exact if_pos rfl
  | nothing hmissing htells => cases htells.target hreceipt hplaced

/-- What a search finds is the message that was moved exactly if the search is for it. -/
theorem MoveServed.searched {source target now id : String} {uid found : Nat} {response : Bytes}
    {mailbox : ServerMailbox μ}
    (h : MoveServed library server source uid target response mailbox)
    (hmailbox : server'.mailboxes target = mailbox)
    (honly : ∀ other, (∃ message, mailbox.messages other = some message ∧
      satisfies message (messageIdQuery id)) ↔ other = found) :
    MovedTo server server' source uid (foundLocation now target mailbox.uidValidity found) ↔
      ∃ message, (server.mailboxes source).messages uid = some message ∧
        satisfies message (messageIdQuery id) := by
  obtain ⟨match_, hmatch, hsatisfies⟩ := (honly found).mpr rfl
  constructor
  · intro ⟨message, target', hexists, huid, _, hmessage⟩
    cases huid
    change (server'.mailboxes target).messages found = _ at hmessage
    rw [hmailbox, hmatch] at hmessage
    cases hmessage
    exact ⟨match_, hexists, hsatisfies⟩
  · intro ⟨message, hexists, hmine⟩
    cases h with
    | placed other fresh hexists' hfresh htells =>
      cases hexists.symm.trans hexists'
      have hfound := (honly fresh).mp ⟨message, if_pos rfl, hmine⟩
      refine ⟨message, found, hexists, rfl, ?_, ?_⟩
      · change some _ = some (server'.mailboxes target).uidValidity
        rw [hmailbox]
      · change (server'.mailboxes target).messages found = _
        rw [hmailbox]
        exact if_pos hfound.symm
    | nothing hmissing htells =>
      rw [hmissing] at hexists
      cases hexists

end Runs

/-- Where a moved message is, is told right exactly where the target is known. -/
theorem uidMarkAndMove_attributes_iff {μ : Type} {library : ImapLibrary}
    {satisfies : μ → String → Prop} {server server' : MailServer μ} {events : List WireEvent}
    {now source target : String} {expected : Option Nat} {uid : Nat} {messageId : Option String}
    {updates : MoveFlagUpdates} {outcome : MoveOutcome}
    (h : WireReturns library satisfies
      (uidMarkAndMove library now source expected uid target messageId updates) server events
      outcome server') :
    AttributesMove server server' source uid target outcome ↔
      TargetKnown library satisfies server source uid target events messageId := by
  obtain ⟨rest, hevents, hselected⟩ := WireReturns.of_select h
  obtain ⟨_, before, after, _, _, rfl, hcheck, hchecked⟩ := ReturnsIn.of_bind hselected
  obtain ⟨_, _, rfl, rfl⟩ := ReturnsIn.of_ofExcept hcheck
  obtain ⟨supported, before, after, _, _, rfl, hsupport, hsupported⟩ := ReturnsIn.of_bind hchecked
  obtain ⟨rfl, hnone₁⟩ := WireReturns.of_moveSupport hsupport
  obtain ⟨seen, before, after, _, _, rfl, hmark, hmarked⟩ := ReturnsIn.of_bind hsupported
  obtain ⟨rfl, hnone₂⟩ := WireReturns.of_storeSeen hmark
  obtain ⟨stored, before, after, _, _, rfl, hname, hnamed⟩ := ReturnsIn.of_bind hmarked
  obtain ⟨rfl, hnone₃⟩ := WireReturns.of_storeKeyword hname
  obtain ⟨keywordSet, keywordError⟩ := stored
  have hmapped : ∀ (receipt : CopyUidReceipt) (uid placed : Nat),
      receipt.targetFor uid = some placed →
      receipt.sourceUids.length = receipt.targetUids.length ∧ receipt.sourceUids.count uid = 1 ∧
      (uid, placed) ∈ receipt.sourceUids.zip receipt.targetUids :=
    fun _ _ _ => CopyUidReceipt.targetFor_eq_some
  have hbounded := fun members expanded => @expandUidSet_eq_some members expanded
  dsimp only at hnamed
  by_cases hne : source = target
  · rw [if_neg (by simpa using hne)] at hnamed
    obtain ⟨_, before, after, _, _, rfl, _, hmoved⟩ := ReturnsIn.of_bind hnamed
    obtain ⟨location, before, after, _, _, rfl, _, hlocated⟩ := ReturnsIn.of_bind hmoved
    obtain ⟨rfl, _, _, _⟩ := ReturnsIn.of_ret hlocated
    refine ⟨fun _ => .unmoved hne, fun _ => ⟨?_, hmapped, hbounded⟩⟩
    intro hmoves
    exact absurd hne (bne_iff_ne.mp hmoves)
  · have hmoves : (source != target) = true := bne_iff_ne.mpr hne
    rw [if_pos hmoves] at hnamed
    obtain ⟨receipt, before, after, _, moved, rfl, hmove, hmoved⟩ := ReturnsIn.of_bind hnamed
    obtain ⟨location, before, after, _, _, rfl, hlocate, hlocated⟩ := ReturnsIn.of_bind hmoved
    obtain ⟨rfl, _, rfl, rfl⟩ := ReturnsIn.of_ret hlocated
    obtain ⟨hplace, hsame, hnone₄⟩ := WireReturns.of_locateMoved hlocate
    have hcurrent : { server with selected := some source }.selected = some source := rfl
    obtain ⟨response, hresponses, rfl, hserved⟩ :=
      WireReturns.of_moveOrCopy hmove hcurrent (Ne.symm hne)
    have hresponse : moveResponses events = [response] := by
      rw [hevents]
      simp only [moveResponses_append, hnone₁, hnone₂, hnone₃, hresponses, hnone₄]
      rfl
    have hmailbox := congrFun hsame target
    cases hplace with
    | told sent placed hreceipt htarget =>
      constructor
      · intro _
        have hmem : response ∈ moveResponses events := by
          rw [hresponse]
          exact List.mem_singleton_self _
        exact .reported response sent placed hmem hreceipt htarget
      · intro _
        refine ⟨fun _ location hlocation => ?_, hmapped, hbounded⟩
        cases hlocation
        exact ⟨rfl, hserved.told hmailbox hreceipt htarget⟩
    | unknown hnone =>
      refine ⟨fun _ => .unsearched, fun _ => ⟨fun _ location hlocation => ?_, hmapped, hbounded⟩⟩
      cases hlocation
    | searched messageId found hnone honly =>
      have hiff : MovedTo (server.select source) server' source uid
            (foundLocation now target (moved.mailboxes target).uidValidity found) ↔
          ∃ message, (server.mailboxes source).messages uid = some message ∧
            satisfies message (messageIdQuery messageId) :=
        hserved.searched hmailbox honly
      constructor
      · intro hattributes
        obtain ⟨message, hexists, hfound⟩ := hiff.mp (hattributes.attributed hmoves _ rfl).2
        exact .found message messageId hexists hfound
      · intro hknown
        refine ⟨fun _ location hlocation => ?_, hmapped, hbounded⟩
        cases hlocation
        refine ⟨rfl, hiff.mpr ?_⟩
        cases hknown with
        | unmoved h => exact absurd h hne
        | reported response' receipt placed hmem hreceipt hplaced =>
          rw [hresponse, List.mem_singleton] at hmem
          rw [hmem] at hreceipt
          rw [hnone receipt hreceipt] at hplaced
          cases hplaced
        | found message _ hexists hfound => exact ⟨message, hexists, hfound⟩

/-- A library that finds no code in any response. -/
def codelessLibrary : ImapLibrary where
  parse _ := none
  lineText _ := ""
  append _ _ := .ok ()

theorem tellsPlace_codeless (uid : Nat) (place : Option (Nat × Nat)) :
    TellsPlace codelessLibrary [] uid place := by
  intro code hcode
  rw [findCopyUid] at hcode
  cases hcode

/-- Messages that are known by their ids, which a search is for. -/
def SatisfiesId (message query : String) : Prop := query = messageIdQuery message

/-- The inbox with a message under the seventh UID, if there is one, and the archive. -/
def inboxAndArchive (seventh : Option String) (archived : Nat → Option String) :
    MailServer String where
  mailboxes name :=
    if name = "INBOX" then ⟨1, fun uid => if uid = 7 then seventh else none⟩
    else if name = "Archive" then ⟨2, archived⟩
    else ⟨0, fun _ => none⟩
  selected := none

def archiveSeventh : Wire MoveOutcome :=
  uidMarkAndMove codelessLibrary "2024-01-01T00:00:00Z" "INBOX" (some 1) 7 "Archive"
    (some "<a@b>") {}

/-- What is asked and answered when a move tells nothing and a search finds one message. -/
def movedThenFound (found : Nat) : List WireEvent :=
  [⟨.select "INBOX", (), some (.ok (.ok (some 1)))⟩,
    ⟨.capabilities, (), some (.ok (.ok ["MOVE"]))⟩,
    ⟨.uidMove 7 "\"Archive\"", (), some (.ok ⟨.ok [], true⟩)⟩,
    ⟨.examine "Archive", (), some (.ok (.ok (some 2)))⟩,
    ⟨.uidSearch (messageIdQuery "<a@b>"), (), some (.ok (.ok [found]))⟩]

def movedTo (found : Nat) : MoveOutcome :=
  { keywordSet := false, keywordError := none, seenSet := false, seenError := none, moved := true
    targetLocation := some (foundLocation "2024-01-01T00:00:00Z" "Archive" 2 found) }

theorem exec_archiveSeventh (found : Nat) :
    Exec archiveSeventh () (movedThenFound found) (.returned (movedTo found)) () := by
  have hparse : parseCopyuidReceipt codelessLibrary [] = none := by
    rw [parseCopyuidReceipt]
    rfl
  refine .call _ (.call _ (.call _ ?_))
  change Exec ((locateMoved _ _ (parseCopyuidReceipt codelessLibrary []) _ _ _).bind _) _ _ _ _
  rw [hparse]
  exact .call _ (.call _ .ret)

theorem mem_found_iff {messages : Nat → Option String} {found : Nat}
    (h : ∀ uid, messages uid = if uid = found then some "<a@b>" else none) (uid : Nat) :
    uid ∈ [found] ↔ ∃ message, messages uid = some message ∧
      SatisfiesId message (messageIdQuery "<a@b>") := by
  rw [List.mem_singleton, h]
  constructor
  · intro hfound
    exact ⟨"<a@b>", if_pos hfound, rfl⟩
  · intro ⟨message, hmessage, _⟩
    split at hmessage
    · assumption
    · cases hmessage

theorem unquote_archive : unquote "\"Archive\"" = some "Archive" := by decide

def inboxOnly : MailServer String := inboxAndArchive (some "<a@b>") fun _ => none

/-- The message was there, and the search finds it under its new UID. -/
theorem attributesMove_archived : ∃ server',
    WireReturns codelessLibrary SatisfiesId archiveSeventh inboxOnly (movedThenFound 1) (movedTo 1)
      server' ∧
    AttributesMove inboxOnly server' "INBOX" 7 "Archive" (movedTo 1) := by
  have hanswers : Answers (ε := AppError) (RfcServer codelessLibrary SatisfiesId) inboxOnly
      (movedThenFound 1) _ :=
    .answered (.select _ "INBOX") (.answered (.capabilities _) (.answered
      (.uidMove rfl unquote_archive rfl rfl (tellsPlace_codeless _ (some (2, 1))) true)
      (.answered (.examine _ "Archive") (.answered
        (.uidSearch rfl (mem_found_iff fun _ => rfl)) .done))))
  exact ⟨_, ⟨exec_archiveSeventh 1, hanswers⟩, (uidMarkAndMove_attributes_iff
    ⟨exec_archiveSeventh 1, hanswers⟩).mpr (.found "<a@b>" "<a@b>" rfl rfl)⟩

def inboxEmptied : MailServer String :=
  inboxAndArchive none fun uid => if uid = 3 then some "<a@b>" else none

/-- The message was gone, and the search finds another one of the same id. -/
theorem archiveSeventh_misattributes : ∃ server',
    WireReturns codelessLibrary SatisfiesId archiveSeventh inboxEmptied (movedThenFound 3)
      (movedTo 3) server' ∧
    ¬ AttributesMove inboxEmptied server' "INBOX" 7 "Archive" (movedTo 3) := by
  have hanswers : Answers (ε := AppError) (RfcServer codelessLibrary SatisfiesId) inboxEmptied
      (movedThenFound 3) _ :=
    .answered (.select _ "INBOX") (.answered (.capabilities _) (.answered
      (.uidMoveNothing rfl rfl (tellsPlace_codeless _ none) true)
      (.answered (.examine _ "Archive") (.answered
        (.uidSearch rfl (mem_found_iff fun _ => rfl)) .done))))
  refine ⟨_, ⟨exec_archiveSeventh 3, hanswers⟩, ?_⟩
  intro h
  obtain ⟨message, _, hexists, _⟩ := (h.attributed rfl _ rfl).2
  cases hexists

end AgentFirstMail
