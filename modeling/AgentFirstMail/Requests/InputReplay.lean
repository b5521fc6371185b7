import AgentFirstMail.Requests.InputBinding

namespace AgentFirstMail
open Effect
variable {δ τ α : Type} {arm : Arm} {files files₁ files₂ : Files} {requestId : String}

/-- What the guard is given: the input that it hashes and the operation that it may run. -/
structure BoundInput where
  input : Json
  mutation : Mutation

def Arm.request (arm : Arm) (requestId : String) (files : Files) : IdempotentRequest BoundInput :=
  { requestId, command := arm.command
    input := { input := arm.input, mutation := arm.operation files } }

/-- The hash of a request is one of its name and input only. -/
def hashed (fingerprint : String → Json → δ) (command : String) (bound : BoundInput) : δ :=
  fingerprint command bound.input

def idempotentValue [DecidableEq δ] (host : Host) (fingerprint : String → Json → δ)
    (requestId : String) (arm : Arm) (files : Files) : Guarded BoundInput δ τ α α :=
  runIdempotentRequestWithPrecheck host (hashed fingerprint) (arm.request requestId files)

/-- A command with a request id is run, to its end or cut off. The clock may show anything and
the files outside the workspace may contain anything. -/
inductive CommandSession [DecidableEq δ] (host : Host) (fingerprint : String → Json → δ)
    (records : RequestRecords δ α) (events : List (GuardEvent BoundInput δ τ α))
    (records' : RequestRecords δ α) : Prop
  | run (now : String) (command : CliCommand) (requestId : String) (files : Files) (arm : Arm)
      (outcome : Outcome AppError α) :
      executeCommand command = .idempotent arm →
      Exec (idempotentValue (host.at now) fingerprint requestId arm files) records events outcome
        records' → CommandSession host fingerprint records events records'
  | refused (command : CliCommand) (error : AppError) :
      executeCommand command = .refused error → events = [] → records' = records →
      CommandSession host fingerprint records events records'

variable {host : Host} {fingerprint : String → Json → δ}
  {s s' : RequestRecords δ α} {events history : List (GuardEvent BoundInput δ τ α)}
  {outcome : Outcome AppError α}

theorem executeCommand_eq_idempotent {command : CliCommand} :
    executeCommand command = .idempotent arm ↔
      requestIdSupported command = true ∧ command.dispatch = .idempotent arm := by
  unfold executeCommand validateRequestId ensure
  cases hsupported : requestIdSupported command with
  | false => simp
  | true => simp

/-- Every recorded result was answered by the operation of a request of that name and input. -/
def ResultsAnswered (fingerprint : String → Json → δ) (s : RequestRecords δ α)
    (history : List (GuardEvent BoundInput δ τ α)) : Prop :=
  ∀ requestId record result, s[requestId]? = some record → record.result = some result →
    ∃ command arm files, executeCommand command = .idempotent arm ∧
      record.command = arm.command ∧ record.inputHash = fingerprint arm.command arm.input ∧
      ∃ event ∈ history, Answered (arm.request requestId files) result event

theorem ResultsAnswered.append (h : ResultsAnswered fingerprint s history)
    (later : List (GuardEvent BoundInput δ τ α)) :
    ResultsAnswered fingerprint s (history ++ later) := by
  intro requestId record result hget hresult
  obtain ⟨command, arm, files, hcommand, hname, hhash, event, hmem, hanswered⟩ :=
    h requestId record result hget hresult
  exact ⟨command, arm, files, hcommand, hname, hhash, event, List.mem_append_left _ hmem, hanswered⟩

variable [DecidableEq δ]

theorem ResultsAnswered.session (h : ResultsAnswered fingerprint s history)
    (hsession : CommandSession host fingerprint s events s') :
    ResultsAnswered fingerprint s' (history ++ events) := by
  cases hsession with
  | refused command error _ hevents hsame =>
    rw [hsame]
    exact h.append events
  | run now command id files arm outcome hcommand hexec =>
    intro requestId record result hget hresult
    cases hbefore : s[requestId]? with
    | some earlier =>
      cases (guard_keeps hbefore hexec).symm.trans hget
      exact h.append events requestId record result hbefore hresult
    | none =>
      by_cases hid : requestId = id
      · subst hid
        cases guard_new hbefore hexec with
        | unrecorded hsame =>
          rw [hsame] at hget
          cases hbefore.symm.trans hget
        | pending _ hrecorded =>
          cases hrecorded.written.symm.trans hget
          cases hresult
        | completed _ answer hrecorded _ hanswered =>
          cases hrecorded.written.symm.trans hget
          cases hresult
          obtain ⟨event, hmem, hanswered⟩ := hanswered
          exact ⟨command, arm, files, hcommand, rfl, rfl, event,
            List.mem_append_right _ hmem, hanswered⟩
      · rw [guard_unrelated hid hexec, hbefore] at hget
        cases hget

theorem resultsAnswered_of_run
    (hrun : Run (CommandSession host fingerprint) ∅ history s) :
    ResultsAnswered fingerprint s history := by
  induction hrun with
  | start =>
    intro requestId record result hget
    cases hget
  | next _ hsession ih => exact ih.session hsession

theorem answerFromRecord_eq_ok {ι : Type} {request : IdempotentRequest ι} {inputHash : δ}
    {record : IdempotencyRecord δ α} {result : α}
    (h : answerFromRecord request inputHash record = .ok result) :
    record.command = request.command ∧ record.inputHash = inputHash ∧
      record.result = some result := by
  unfold answerFromRecord at h
  split at h
  · cases h
  · split at h
    · cases h
    · rename_i hsame
      simp only [ne_eq, not_or, not_not] at hsame
      split at h
      · split at h
        · rename_i found hfound
          cases h
          exact ⟨hsame.1, hsame.2, hfound⟩
        · cases h
      · cases h

/-- A request that got a result without its operation got a recorded one. -/
theorem result_recorded {ι : Type} {fingerprint : String → ι → δ} {request : IdempotentRequest ι}
    {events : List (GuardEvent ι δ τ α)} {result : α}
    (hexec : Exec (runIdempotentRequestWithPrecheck host fingerprint request) s events
      (.returned result) s')
    (hnone : events.filter (operates request.requestId) = []) :
    ∃ record, s[request.requestId]? = some record ∧ record.command = request.command ∧
      record.inputHash = fingerprint request.command request.input ∧
      record.result = some result := by
  cases hget : s[request.requestId]? with
  | none =>
    cases guard_new hget hexec with
    | unrecorded _ _ hstopped => exact (hstopped result rfl).elim
    | pending _ _ _ hstopped => exact (hstopped result rfl).elim
    | completed _ _ _ honce =>
      rw [hnone] at honce
      cases honce
  | some record =>
    rcases exec_guard hexec with hrefused | ⟨rest, rfl, _, hlooked⟩
    · exact (hrefused.stopped result rfl).elim
    · cases hlooked with
      | found found hfound _ _ houtcome =>
        cases hget.symm.trans hfound
        rcases houtcome with hanswer | hcrashed
        · cases hanswered : answerFromRecord request (fingerprint request.command request.input)
            record with
          | error error =>
            rw [hanswered] at hanswer
            cases hanswer
          | ok answer =>
            rw [hanswered] at hanswer
            cases hanswer
            exact ⟨record, rfl, answerFromRecord_eq_ok hanswered⟩
        · cases hcrashed
      | missing hmissing => cases hget.symm.trans hmissing

/-- How a command that is given a request id is bound to its input: its operation is run under
the guard; commands that the guard takes for the same one do the same, exactly if the file that
they read is the same; and so does a request with the earlier one whose result it gets. -/
structure InputBound (host : Host) (fingerprint : String → Json → δ)
    (history : List (GuardEvent BoundInput δ τ α)) (s : RequestRecords δ α)
    (command : CliCommand) (arm : Arm) : Prop where
  guarded : executeCommand command = .idempotent arm
  bound : ∀ other otherArm, executeCommand other = .idempotent otherArm →
    otherArm.command = arm.command →
    fingerprint otherArm.command otherArm.input = fingerprint arm.command arm.input →
    ∀ files otherFiles, SameEffect (arm.operation files) (otherArm.operation otherFiles) ↔
      SameFile command.namedFile files otherFiles
  replayed : ∀ now requestId files (events : List (GuardEvent BoundInput δ τ α)) result s',
    Exec (idempotentValue (host.at now) fingerprint requestId arm files) s events
      (.returned result) s' →
    events.filter (operates requestId) = [] →
    ∃ earlier, (∃ event ∈ history, Answered (arm.request requestId earlier) result event) ∧
      (SameEffect (arm.operation files) (arm.operation earlier) ↔
        SameFile command.namedFile files earlier)

theorem inputBound_of_run (hfingerprint : ∀ command, Function.Injective (fingerprint command))
    (hrun : Run (CommandSession host fingerprint) ∅ history s) {command : CliCommand}
    (hsupported : requestIdSupported command = true) :
    ∃ arm, InputBound host fingerprint history s command arm := by
  obtain ⟨arm, harm⟩ := dispatch_of_supported hsupported
  have hsame : ∀ other otherArm, executeCommand other = .idempotent otherArm →
      otherArm.command = arm.command →
      fingerprint otherArm.command otherArm.input = fingerprint arm.command arm.input →
      otherArm = arm := by
    intro other otherArm hother hname hhash
    rw [hname] at hhash
    exact command_determined (executeCommand_eq_idempotent.mp hother).2 harm hname
      (hfingerprint _ hhash)
  have hiff : ∀ files otherFiles, SameEffect (arm.operation files) (arm.operation otherFiles) ↔
      SameFile command.namedFile files otherFiles := by
    intro files otherFiles
    exact sameEffect_iff.trans (operation_eq_iff harm)
  refine ⟨arm, executeCommand_eq_idempotent.mpr ⟨hsupported, harm⟩, ?_, ?_⟩
  · intro other otherArm hother hname hhash files otherFiles
    rw [hsame other otherArm hother hname hhash]
    exact hiff files otherFiles
  · intro now requestId files events result s' hexec hnone
    obtain ⟨record, hget, hname, hhash, hresult⟩ := result_recorded hexec hnone
    obtain ⟨other, otherArm, earlier, hother, hname', hhash', hanswered⟩ :=
      resultsAnswered_of_run hrun requestId record result hget hresult
    have heq := hsame other otherArm hother (hname'.symm.trans hname) (hhash'.symm.trans hhash)
    rw [heq] at hanswered
    exact ⟨earlier, hanswered, hiff files earlier⟩

/-- A draft whose text is in a file. -/
def draftFromFile : CliCommand :=
  .case_ (.draft (.new "c" ["a@example.com"] [] [] "Hello" none none (some "body.md")))

def bodyFiles (text : String) : Files where
  readToString _ := .ok text
  attachment _ := .notAFile

/-- An environment in which a workspace is there and every draft is created. -/
def createsDrafts (_ : Unit) : (call : GuardCall BoundInput Unit) →
    Except AppError (call.Reply String) × Unit
  | .requireWorkspace => (.ok (), ())
  | .precheck _ => (.ok (), ())
  | .operation .. => (.ok "draft", ())

def draftArm : Arm where
  command := "case_draft_new"
  input := .object [("case_ref", .string "c"), ("to", .array [.string "a@example.com"]),
    ("cc", .array []), ("bcc", .array []), ("subject", .string "Hello"), ("identity", .null),
    ("body", .null), ("body_file", .string "body.md")]
  operation files := .createDraft "c"
    { to_ := ["a@example.com"], cc := [], bcc := [], subject := "Hello", identity := none
      body := draftBodyOverride files none (some "body.md") }

def draftRequest (text : String) : Guarded BoundInput (String × Json) Unit String String :=
  idempotentValue (plainHost.at "") Prod.mk "r" draftArm (bodyFiles text)

/-- The records after the draft was created once. -/
def draftCreated : RequestRecords (String × Json) String :=
  ((draftRequest "old").run createsDrafts ∅ ()).2.1

theorem run_draftCreated : ∃ history,
    Run (@CommandSession _ Unit String _ plainHost Prod.mk) ∅ history draftCreated ∧
      ∃ event ∈ history, Answered (draftArm.request "r" (bodyFiles "old")) "draft" event := by
  obtain ⟨events, hexec⟩ := Program.run_exec createsDrafts (draftRequest "old") ∅ ()
  have hreturned : ((draftRequest "old").run createsDrafts ∅ ()).1 = .ok "draft" := by
    decide +kernel
  rw [hreturned] at hexec
  refine ⟨_, .next .start (.run "" draftFromFile "r" (bodyFiles "old") draftArm _ rfl hexec), ?_⟩
  cases guard_new rfl hexec with
  | unrecorded _ _ hstopped => exact (hstopped "draft" rfl).elim
  | pending _ _ _ hstopped => exact (hstopped "draft" rfl).elim
  | completed _ result _ _ hanswered houtcome =>
    rcases houtcome with heq | heq
    · cases heq
      exact hanswered
    · cases heq

theorem inputBound_draftFromFile : ∃ history arm,
    Run (@CommandSession _ Unit String _ plainHost Prod.mk) ∅ history draftCreated ∧
      InputBound plainHost Prod.mk history draftCreated draftFromFile arm := by
  obtain ⟨history, hrun, _⟩ := run_draftCreated
  obtain ⟨arm, hbound⟩ := inputBound_of_run (fun _ _ _ heq => (Prod.mk.inj heq).2) hrun
    (show requestIdSupported draftFromFile = true from rfl)
  exact ⟨history, arm, hrun, hbound⟩

/-- The body file has another text when the request comes again, and the draft with the old text
is what it gets. -/
theorem changedBody_replayed : ∃ history events,
    Run (@CommandSession _ Unit String _ plainHost Prod.mk) ∅ history draftCreated ∧
      (∃ event ∈ history, Answered (draftArm.request "r" (bodyFiles "old")) "draft" event) ∧
      executeCommand draftFromFile = .idempotent draftArm ∧
      Exec (draftRequest "new") draftCreated events (.returned "draft") draftCreated ∧
      events.filter (operates "r") = [] ∧
      ¬ SameEffect (draftArm.operation (bodyFiles "new")) (draftArm.operation (bodyFiles "old")) := by
  obtain ⟨history, hrun, hanswered⟩ := run_draftCreated
  obtain ⟨events, hexec⟩ := Program.run_exec createsDrafts (draftRequest "new") draftCreated ()
  have hreturned : ((draftRequest "new").run createsDrafts draftCreated ()).1 = .ok "draft" := by
    decide +kernel
  rw [hreturned] at hexec
  obtain ⟨record, hget⟩ : ∃ record, draftCreated["r"]? = some record :=
    Option.isSome_iff_exists.mp (by decide +kernel)
  have hrepeated := guard_recorded rfl hget hexec
  rw [hrepeated.unchanged] at hexec
  refine ⟨history, events, hrun, hanswered, rfl, hexec, filter_operates_eq_nil hrepeated.asked, ?_⟩
  rw [sameEffect_iff]
  simp [draftArm, bodyFiles, draftBodyOverride, Except.map]

end AgentFirstMail
