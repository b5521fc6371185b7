import AgentFirstMail.Cases.Commands
import AgentFirstMail.Effect.Frame
import AgentFirstMail.Store.Keeping

namespace AgentFirstMail
open Effect Command

theorem Program.failing {σ κ : Type} {ρ : κ → Type} {ε α : Type}
    {inv : Assertion σ κ ρ ε} {abort : ε → Assertion σ κ ρ ε} {p : Program σ κ ρ ε α} {s : σ}
    (refusal : ε) (hinv : inv [] s) (hwp : p.wp inv (fun _ _ _ => False) abort [] s) :
    ∃ events error s', Exec p s events (.failed error) s' ∧ abort error events s' := by
  obtain ⟨events, hexec⟩ := p.run_exec (fun _ _ => (.error refusal, ())) s ()
  generalize hrun : p.run (fun _ _ => (.error refusal, ())) s () = result at hexec
  obtain ⟨result, s', _⟩ := result
  have hended := (Program.wp_sound hexec hinv hwp).2
  cases result with
  | ok value => exact hended.elim
  | error error => exact ⟨events, error, s', hexec, hended⟩

theorem Program.returning {σ κ : Type} {ρ : κ → Type} {ε α : Type} {inv : Assertion σ κ ρ ε}
    {post : α → Assertion σ κ ρ ε} {p : Program σ κ ρ ε α} {s : σ}
    (answer : (request : κ) → ρ request) (hinv : inv [] s)
    (hwp : p.wp inv post (fun _ h _ => ∃ event ∈ h, ¬ event.Answered) [] s) :
    ∃ events value s', Exec p s events (.returned value) s' ∧ post value events s' := by
  obtain ⟨events, hexec, hanswered⟩ :=
    p.run_exec_answered (fun _ request => (.ok (answer request), ())) s ()
  generalize hrun : p.run (fun _ request => (.ok (answer request), ())) s () = result at hexec
  obtain ⟨result, s', _⟩ := result
  have hended := (Program.wp_sound hexec hinv hwp).2
  cases result with
  | ok value => exact ⟨events, value, s', hexec, hended⟩
  | error error =>
    obtain ⟨event, hmem, hunanswered⟩ := hended
    obtain ⟨_, hreply⟩ := hanswered event hmem
    exact (hunanswered ⟨_, hreply⟩).elim

/-- An answer to whatever a command asks. -/
def anyReply : (request : Request) → request.Reply
  | .newEventId | .newDraftPushSuffix => ""
  | .listMailboxes => []
  | .findByMessageId .. | .moveMessage .. => none
  | .outputConfirmed _ => false
  | .sendCloudflareRawMessage .. => { messageId := "" }
  | .addFlags .. | .prepareCloudflareSend _ | .prepareSend .. | .publish .. | .sendRawMessage ..
  | .appendMessage .. => ()

/-- Nothing is said of where a command is cut off. -/
abbrev Anywhere : ProcessFact := fun _ _ => True

/-- What refreshing the views of messages comes to; it writes nothing that is read back. -/
def messagesRefreshed (host : Host) (w : Workspace) (messageIds : List String) : Result Unit :=
  messageIds.forM fun messageId => do
    validateId host "message_id" messageId
    let _ ← w.readMessageById messageId
    host.renderMessageViews w [messageId]

/-- What refreshing the views of a case comes to. -/
def caseRefreshed (host : Host) (w : Workspace) (caseUid : String) : Result Unit := do
  let case_ ← w.findCase caseUid
  case_.members.messageIds.forM fun messageId => do
    let _ ← w.readMessageById messageId
  host.renderCaseViews w caseUid

section Stores
variable {w : Workspace}

theorem Workspace.alterCase_get_ne {change : CaseRecord → CaseRecord} {caseUid third : String}
    (hne : third ≠ caseUid) : (w.alterCase caseUid change).cases[third]? = w.cases[third]? := by
  unfold alterCase
  rw [Std.ExtTreeMap.getElem?_alter, if_neg]
  rw [Std.LawfulEqCmp.compare_eq_iff_eq]
  exact hne.symm

theorem Workspace.resolveActiveCase_eq_ok {host : Host} {caseRef caseUid : String}
    {case_ : CaseRecord} (h : w.resolveActiveCase host caseRef = .ok (caseUid, case_)) :
    w.cases[caseUid]? = some case_ ∧ case_.archivedDir = false ∧ validUid 'c' caseUid = true := by
  obtain ⟨uid, hparsed, h⟩ := Result.bind_ok h
  split at h
  · rename_i found hfound
    cases h
    obtain ⟨hget, hactive⟩ := Option.filter_eq_some_iff.mp hfound
    obtain ⟨other, _, hparsed⟩ := Result.bind_ok hparsed
    obtain ⟨hvalid, hparsed⟩ := Result.seq_ok hparsed
    cases hparsed
    exact ⟨hget, (Bool.not_eq_true' _).mp hactive, ensure_eq_ok_iff.mp hvalid⟩
  · obtain ⟨_, h⟩ := Result.seq_ok h
    cases h

/-- Every queue record lies under its own id. -/
def Workspace.PushesKeyed (w : Workspace) : Prop :=
  ∀ (pushId : String) item, w.pushItems[pushId]? = some item → item.pushId = pushId

theorem Workspace.deleteItems_get (items : List PushItem) (pushId : String) :
    (items.foldl (fun w item => w.deleteItem item.pushId) w).pushItems[pushId]? =
      if pushId ∈ items.map (·.pushId) then none else w.pushItems[pushId]? := by
  induction items generalizing w with
  | nil => rfl
  | cons item rest ih =>
    rw [List.foldl_cons, ih]
    unfold Workspace.deleteItem
    rw [Std.ExtTreeMap.getElem?_erase]
    by_cases heq : item.pushId = pushId
    · simp [heq]
    · simp [heq, Ne.symm heq, Std.LawfulEqCmp.compare_eq_iff_eq]

end Stores

section Writes
variable {h : List RemoteEvent} {m : Process}
  {post : Unit → ProcessFact}
  {abort : AppError → ProcessFact}

theorem wp_forEach_write_iff (items : List γ) (change : γ → Workspace → Workspace) :
    Program.wp Anywhere post abort
        (Program.forEach items fun item => writeWorkspace (change item)) h m ↔
      post () h (m.onWorkspace fun w => items.foldl (fun w item => change item w) w) := by
  induction items generalizing m with
  | nil => exact .rfl
  | cons item rest ih =>
    refine Program.wp_bind.trans ?_
    exact (and_iff_right trivial).trans ih

theorem wp_forEach_write (items : List γ) (change : γ → Workspace → Workspace)
    (hpost : post () h (m.onWorkspace fun w => items.foldl (fun w item => change item w) w)) :
    Program.wp Anywhere post abort
      (Program.forEach items fun item => writeWorkspace (change item)) h m :=
  (wp_forEach_write_iff items change).mpr hpost

end Writes

section Refreshing
variable {host : Host}

theorem computes_workspace {q : Workspace → Command α} {f : Workspace → Result α}
    (hq : ∀ w, (q w).Computes fun _ => f w) :
    (Command.workspace.bind q).Computes fun m => f m.workspace :=
  fun inv post abort h m => hq m.workspace inv post abort h m

theorem computes_refreshMessagesAfterRefChange (messageIds : List String) :
    (refreshMessagesAfterRefChange host messageIds).Computes fun m =>
      messagesRefreshed host m.workspace messageIds := by
  apply Program.Computes.forEach
  intro messageId
  apply Program.Computes.bind (.ofExcept _)
  intro _
  apply computes_workspace (f := fun w => do
    let _ ← w.readMessageById messageId
    host.renderMessageViews w [messageId])
  intro w
  exact Program.Computes.bind (.ofExcept _) fun _ => .ofExcept _

theorem computes_refreshCaseMessageViews (caseUid : String) :
    (refreshCaseMessageViews host caseUid).Computes fun m =>
      caseRefreshed host m.workspace caseUid := by
  apply computes_workspace (f := fun w => caseRefreshed host w caseUid)
  intro w
  apply Program.Computes.bind (.ofExcept _)
  intro case_
  exact Program.Computes.bind (.ofExcept _) fun _ => .ofExcept _

end Refreshing

section Auditing
variable {host : Host} {h : List RemoteEvent} {m : Process}
  {post : Unit → ProcessFact}
  {abort : AppError → ProcessFact}

theorem wp_auditing {inv : ProcessFact} {kind : String}
    {targets : List (String × String)} {reason : Option String}
    (hinv : ∀ h' audit, inv h' (m.onWorkspace fun w => { w with audit }))
    (hpost : ∀ h' audit, post () h' (m.onWorkspace fun w => { w with audit }))
    (habort : ∀ error h', (∃ event ∈ h', ¬ event.Answered) → abort error h' m) :
    Program.wp inv post abort (appendAuditEvent host kind targets reason) h m := by
  apply wp_then
  apply Program.wp_perform
  · exact hinv _ m.workspace.audit
  · intro _
    exact hinv _ m.workspace.audit
  · intro _
    exact ⟨hinv _ _, hinv _ _, hpost _ _⟩
  · intro error
    apply habort
    refine ⟨_, List.mem_append_right _ (List.mem_singleton.mpr rfl), ?_⟩
    rintro ⟨_, hreply⟩
    cases hreply

end Auditing
end AgentFirstMail
