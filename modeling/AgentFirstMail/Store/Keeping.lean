import AgentFirstMail.Store.Process

namespace AgentFirstMail
open Effect Command

variable {h : List RemoteEvent} {m : Process}
  {abort : AppError → ProcessFact}

section Primitives

theorem wp_workspace {inv : ProcessFact}
    {post : Workspace → ProcessFact} :
    Program.wp inv post abort Command.workspace h m ↔ post m.workspace h m := .rfl

theorem wp_check {inv : ProcessFact}
    {post : α → ProcessFact} {result : Result α}
    (hpost : ∀ value, result = .ok value → post value h m)
    (habort : ∀ error, result = .error error → abort error h m) :
    Program.wp inv post abort (Program.ofExcept result) h m := by
  cases result with
  | ok value => exact hpost value rfl
  | error error => exact habort error rfl

/-! What comes after a read or a check. -/

theorem wp_workspace_bind {inv : ProcessFact}
    {post : α → ProcessFact} {next : Workspace → Command α} :
    Program.wp inv post abort (Command.workspace >>= next) h m ↔
      Program.wp inv post abort (next m.workspace) h m := .rfl

theorem wp_currentItem_bind {inv : ProcessFact}
    {post : α → ProcessFact} {next : PushItem → Command α} :
    Program.wp inv post abort (currentItem >>= next) h m ↔
      Program.wp inv post abort (next m.item) h m := .rfl

theorem wp_check_bind {inv : ProcessFact}
    {post : β → ProcessFact} {result : Result α}
    {next : α → Command β}
    (hpost : ∀ value, result = .ok value → Program.wp inv post abort (next value) h m)
    (habort : ∀ error, result = .error error → abort error h m) :
    Program.wp inv post abort (Program.ofExcept result >>= next) h m :=
  wp_then (wp_check hpost habort)

end Primitives
section Keeping
variable {P : Workspace → Prop}

/-- A property that holds of the workspace wherever a command comes. -/
abbrev Keeping (P : Workspace → Prop) : ProcessFact :=
  fun _ m => P m.workspace

theorem keeping_perform {request : Request}
    {post : request.Reply → ProcessFact}
    (hkept : P m.workspace) (hpost : ∀ value h', post value h' m)
    (habort : ∀ error h', abort error h' m) :
    Program.wp (Keeping P) post abort (Command.perform request) h m := by
  refine ⟨hkept, fun reply => ⟨hkept, ?_⟩⟩
  cases reply with
  | ok value => exact hpost value _
  | error error => exact habort error _

theorem keeping_writeWorkspace {change : Workspace → Workspace}
    {post : Unit → ProcessFact}
    (hchange : P (change m.workspace)) (hpost : post () h (m.onWorkspace change)) :
    Program.wp (Keeping P) post abort (writeWorkspace change) h m := ⟨hchange, hpost⟩

theorem keeping_appendAuditEvent {host : Host} {kind : String} {targets : List (String × String)}
    {reason : Option String} {post : Unit → ProcessFact}
    (hkept : ∀ audit, P { m.workspace with audit })
    (hpost : ∀ h' audit, post () h' (m.onWorkspace fun w => { w with audit }))
    (habort : ∀ error h', abort error h' m) :
    Program.wp (Keeping P) post abort (appendAuditEvent host kind targets reason) h m := by
  unfold appendAuditEvent
  apply wp_then
  apply keeping_perform (hkept m.workspace.audit)
  · intro eventId h'
    unfold appendAuditEventRecord
    apply wp_then
    apply keeping_writeWorkspace (hkept _)
    apply keeping_writeWorkspace (hkept _)
    exact hpost h' _
  · exact habort

end Keeping
end AgentFirstMail
