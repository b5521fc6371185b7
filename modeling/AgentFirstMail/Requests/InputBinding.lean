import AgentFirstMail.Requests.Dispatch
import AgentFirstMail.Requests.IdempotencyRules

namespace AgentFirstMail
open Effect
variable {γ γ₁ γ₂ δ τ α : Type} {arm a a₁ a₂ : Arm} {files files₁ files₂ : Files}

section Arms

/-- The name and the input of a command leave nothing open but the files. -/
def Determined (dispatch : γ → Dispatched) : Prop :=
  ∀ ⦃c₁ c₂ a₁ a₂⦄, dispatch c₁ = .idempotent a₁ → dispatch c₂ = .idempotent a₂ →
    a₁.command = a₂.command → a₁.input = a₂.input → a₁ = a₂

/-- The names of these commands have a common beginning. -/
def Stemmed (stem : String) (dispatch : γ → Dispatched) : Prop :=
  ∀ ⦃c a⦄, dispatch c = .idempotent a → stem.toList <+: a.command.toList

theorem withFirst_eq_idempotent {messageIds : List String} {arm : String → Arm} :
    withFirst messageIds arm = .idempotent a ↔
      ∃ messageId, messageIds.head? = some messageId ∧ arm messageId = a := by
  unfold withFirst
  cases messageIds.head? with
  | none => simp
  | some messageId => simp

theorem triage_determined : Determined TriageAction.dispatch := by
  intro c₁ c₂ a₁ a₂ h₁ h₂ hcommand hinput
  unfold TriageAction.dispatch at h₁ h₂
  split at h₁ <;> cases h₁ <;> split at h₂ <;> cases h₂ <;> simp_all

theorem message_determined : Determined MessageAction.dispatch := by
  intro c₁ c₂ a₁ a₂ h₁ h₂ hcommand hinput
  unfold MessageAction.dispatch at h₁ h₂
  split at h₁ <;> first | cases h₁ | obtain ⟨_, _, rfl⟩ := withFirst_eq_idempotent.mp h₁
  all_goals
    split at h₂ <;> first | cases h₂ | obtain ⟨_, _, rfl⟩ := withFirst_eq_idempotent.mp h₂
  all_goals simp_all

theorem case_determined : Determined CaseCommand.dispatch := by
  intro c₁ c₂ a₁ a₂ h₁ h₂ hcommand hinput
  unfold CaseCommand.dispatch at h₁ h₂
  split at h₁ <;> first | cases h₁ | obtain ⟨_, _, rfl⟩ := withFirst_eq_idempotent.mp h₁
  all_goals
    split at h₂ <;> first | cases h₂ | obtain ⟨_, _, rfl⟩ := withFirst_eq_idempotent.mp h₂
  all_goals simp_all

theorem contact_determined : Determined ContactCommand.dispatch := by
  intro c₁ c₂ a₁ a₂ h₁ h₂ hcommand hinput
  unfold ContactCommand.dispatch at h₁ h₂
  split at h₁ <;> cases h₁ <;> split at h₂ <;> cases h₂ <;> simp_all

theorem notification_determined : Determined NotificationCommand.dispatch := by
  intro c₁ c₂ a₁ a₂ h₁ h₂ hcommand hinput
  unfold NotificationCommand.dispatch at h₁ h₂
  split at h₁ <;> first | cases h₁ | obtain ⟨_, _, rfl⟩ := withFirst_eq_idempotent.mp h₁
  all_goals
    split at h₂ <;> first | cases h₂ | obtain ⟨_, _, rfl⟩ := withFirst_eq_idempotent.mp h₂
  all_goals simp_all

theorem triage_stemmed : Stemmed "triage_" TriageAction.dispatch := by
  intro c a h
  unfold TriageAction.dispatch at h
  split at h <;> cases h <;> simp

theorem message_stemmed : Stemmed "message_" MessageAction.dispatch := by
  intro c a h
  unfold MessageAction.dispatch at h
  split at h <;> first | cases h | obtain ⟨_, _, rfl⟩ := withFirst_eq_idempotent.mp h
  all_goals simp

theorem case_stemmed : Stemmed "case_" CaseCommand.dispatch := by
  intro c a h
  unfold CaseCommand.dispatch at h
  split at h <;> first | cases h | obtain ⟨_, _, rfl⟩ := withFirst_eq_idempotent.mp h
  all_goals simp

theorem contact_stemmed : Stemmed "contact_" ContactCommand.dispatch := by
  intro c a h
  unfold ContactCommand.dispatch at h
  split at h <;> cases h <;> simp

theorem notification_stemmed : Stemmed "notification_" NotificationCommand.dispatch := by
  intro c a h
  unfold NotificationCommand.dispatch at h
  split at h <;> first | cases h | obtain ⟨_, _, rfl⟩ := withFirst_eq_idempotent.mp h
  all_goals simp

/-- How the names of the commands for one kind of object begin. -/
def CliCommand.stem : CliCommand → String
  | .triage _ => "triage_"
  | .message _ => "message_"
  | .case_ _ => "case_"
  | .contact _ => "contact_"
  | .notification _ => "notification_"
  | _ => ""

theorem command_stemmed {c : CliCommand} (h : c.dispatch = .idempotent a) :
    c.stem.toList <+: a.command.toList := by
  cases c with
  | triage action => exact triage_stemmed h
  | message action => exact message_stemmed h
  | case_ action => exact case_stemmed h
  | contact action => exact contact_stemmed h
  | notification action => exact notification_stemmed h
  | _ => cases h

theorem command_determined : Determined CliCommand.dispatch := by
  intro c₁ c₂ a₁ a₂ h₁ h₂ hcommand hinput
  have hleft := command_stemmed h₁
  rw [hcommand] at hleft
  have hstem := List.prefix_or_prefix_of_prefix hleft (command_stemmed h₂)
  cases c₁ <;> try cases h₁
  all_goals
    cases c₂ <;> try cases h₂
    all_goals dsimp only [CliCommand.stem] at hstem
    all_goals try exact absurd hstem (by decide)
  · exact triage_determined h₁ h₂ hcommand hinput
  · exact message_determined h₁ h₂ hcommand hinput
  · exact case_determined h₁ h₂ hcommand hinput
  · exact contact_determined h₁ h₂ hcommand hinput
  · exact notification_determined h₁ h₂ hcommand hinput

/-- Every command that may have a request id is run under the guard. -/
theorem dispatch_of_supported {command : CliCommand} (h : requestIdSupported command = true) :
    ∃ arm, command.dispatch = .idempotent arm := by
  have hfirst : ∀ {messageIds : List String} (arm : String → Arm),
      (messageIds.length == 1) = true → ∃ a, withFirst messageIds arm = .idempotent a := by
    intro messageIds arm hlength
    cases messageIds with
    | nil => cases hlength
    | cons messageId rest => exact ⟨arm messageId, rfl⟩
  cases command with
  | triage action =>
    change ∃ arm, action.dispatch = .idempotent arm
    fun_cases TriageAction.dispatch action <;> first | exact ⟨_, rfl⟩ | cases h
  | message action =>
    change ∃ arm, action.dispatch = .idempotent arm
    fun_cases MessageAction.dispatch action <;> first | exact hfirst _ h | cases h
  | case_ action =>
    change ∃ arm, action.dispatch = .idempotent arm
    fun_cases CaseCommand.dispatch action <;> first | exact ⟨_, rfl⟩ | exact hfirst _ h | cases h
  | contact action =>
    change ∃ arm, action.dispatch = .idempotent arm
    fun_cases ContactCommand.dispatch action <;> first | exact ⟨_, rfl⟩ | cases h
  | notification action =>
    change ∃ arm, action.dispatch = .idempotent arm
    fun_cases NotificationCommand.dispatch action <;>
      first | exact ⟨_, rfl⟩ | exact hfirst _ h | cases h
  | _ => cases h

end Arms

section Files

/-- A file outside the workspace that a command reads. -/
inductive NamedFile
  | body (path : String)
  | attachment (path : String)

inductive FileContent
  | text (content : Result String)
  | source (source : AttachmentSource)

def NamedFile.content (files : Files) : NamedFile → FileContent
  | body path => .text (files.readToString path)
  | attachment path => .source (files.attachment path)

/-- A body file is read unless there is a body. -/
def bodyNamedFile (body bodyFile : Option String) : Option NamedFile :=
  match body with
  | some _ => none
  | none => bodyFile.map .body

/-- The file that a command reads. -/
def CaseCommand.namedFile : CaseCommand → Option NamedFile
  | .draft (.new _ _ _ _ _ _ body bodyFile) => bodyNamedFile body bodyFile
  | .draft (.reply _ _ _ _ body bodyFile _) => bodyNamedFile body bodyFile
  | .draft (.change _ _ _ _ _ _ _ _ _ body bodyFile) => bodyNamedFile body bodyFile
  | .draft (.attach _ _ path) => some (.attachment path)
  | _ => none

def CliCommand.namedFile : CliCommand → Option NamedFile
  | .case_ action => action.namedFile
  | _ => none

/-- The file that a command reads has the same content, or cannot be read for the same reason. -/
def SameFile (file : Option NamedFile) (files₁ files₂ : Files) : Prop :=
  ∀ named ∈ file, named.content files₁ = named.content files₂

/-- Whatever the operations of a workspace do, these two do the same to it. -/
def SameEffect (m₁ m₂ : Mutation) : Prop :=
  ∀ (Workspace Effect : Type) (effect : Mutation → Workspace → Effect) (w : Workspace),
    effect m₁ w = effect m₂ w

theorem sameEffect_iff {m₁ m₂ : Mutation} : SameEffect m₁ m₂ ↔ m₁ = m₂ := by
  constructor
  · intro h
    exact h Unit Mutation (fun m _ => m) ()
  · rintro rfl
    exact fun _ _ _ _ => rfl

theorem sameFile_none : SameFile none files₁ files₂ := fun _ hmem => nomatch hmem

theorem sameFile_some {named : NamedFile} :
    SameFile (some named) files₁ files₂ ↔ named.content files₁ = named.content files₂ := by
  constructor
  · exact fun h => h named rfl
  · intro h other hmem
    cases hmem
    exact h

theorem draftBodyOverride_eq_iff {body bodyFile : Option String} :
    draftBodyOverride files₁ body bodyFile = draftBodyOverride files₂ body bodyFile ↔
      SameFile (bodyNamedFile body bodyFile) files₁ files₂ := by
  cases body with
  | some text => cases bodyFile <;> exact iff_of_true rfl sameFile_none
  | none =>
    cases bodyFile with
    | none => exact iff_of_true rfl sameFile_none
    | some path =>
      have hsome : ∀ left right : Result String,
          left.map some = right.map some ↔ left = right := by
        intro left right
        cases left <;> cases right <;> simp [Except.map]
      have hfile : SameFile (some (.body path)) files₁ files₂ ↔
          files₁.readToString path = files₂.readToString path := by
        rw [sameFile_some, NamedFile.content, NamedFile.content, FileContent.text.injEq]
      exact (hsome _ _).trans hfile.symm

theorem case_operation_eq_iff {c : CaseCommand} (h : c.dispatch = .idempotent a) :
    a.operation files₁ = a.operation files₂ ↔ SameFile c.namedFile files₁ files₂ := by
  revert h
  fun_cases CaseCommand.dispatch c <;> intro h <;>
    first | cases h | obtain ⟨_, _, rfl⟩ := withFirst_eq_idempotent.mp h
  case case17 =>
    simp only [Mutation.createDraft.injEq, NewDraft.mk.injEq, true_and]
    exact draftBodyOverride_eq_iff
  case case18 =>
    simp only [Mutation.replyToMessageWithOptions.injEq, ReplyDraft.mk.injEq, true_and]
    exact draftBodyOverride_eq_iff
  case case19 =>
    simp only [Mutation.changeDraft.injEq, DraftChange.mk.injEq, true_and]
    exact draftBodyOverride_eq_iff
  case case23 =>
    simp only [Mutation.attachFileToDraft.injEq, true_and, CaseCommand.namedFile, sameFile_some,
      NamedFile.content, FileContent.source.injEq]
  all_goals exact iff_of_true rfl sameFile_none

theorem operation_eq_iff {c : CliCommand} (h : c.dispatch = .idempotent a) :
    a.operation files₁ = a.operation files₂ ↔ SameFile c.namedFile files₁ files₂ := by
  cases c with
  | case_ action => exact case_operation_eq_iff h
  | triage action =>
    change action.dispatch = _ at h
    unfold TriageAction.dispatch at h
    split at h <;> cases h <;> exact iff_of_true rfl sameFile_none
  | message action =>
    change action.dispatch = _ at h
    unfold MessageAction.dispatch at h
    split at h <;> first | cases h | obtain ⟨_, _, rfl⟩ := withFirst_eq_idempotent.mp h
    all_goals exact iff_of_true rfl sameFile_none
  | contact action =>
    change action.dispatch = _ at h
    unfold ContactCommand.dispatch at h
    split at h <;> cases h <;> exact iff_of_true rfl sameFile_none
  | notification action =>
    change action.dispatch = _ at h
    unfold NotificationCommand.dispatch at h
    split at h <;> first | cases h | obtain ⟨_, _, rfl⟩ := withFirst_eq_idempotent.mp h
    all_goals exact iff_of_true rfl sameFile_none
  | _ => cases h

end Files

end AgentFirstMail
